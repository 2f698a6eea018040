import LibFred.Order.Span
import LibFred.RegistrableObject.DataHistory
import Mathlib.Algebra.GroupWithZero.Nat
import Mathlib.Algebra.Order.Monoid.Unbundled.WithTop
import Mathlib.Data.List.Pairwise

/-! Data histories as segments of the version chain of an object. -/
namespace LibFred.RegistrableObject

open Sql

variable {T : Type} {tables : DataTables T} {type : ObjectType} {rule : ObjectIdRule}
  {range : HistoryInterval T} {o : ObjectRegistry T} {v : Version T} {vs rows : List (Version T)}
  {lowerLimit upperLimit : Option T} {history : DataHistory T}

theorem foldl_addRecord : rows.foldl addRecord history =
    ⟨history.objectUuid, history.timeline ++ rows.map Version.record,
      rows.getLast?.elim history.validTo (·.validTo)⟩ := by
  induction rows using List.reverseRecOn with
  | nil => simp
  | append_singleton rows h ih => simp [ih, addRecord]

theorem nodup_versionsOf : ((versionsOf tables o).map (·.uuid)).Nodup := by
  have hrows : (versionsOf tables o).Nodup := by
    refine List.nodup_flatMap.mpr ⟨fun oh _ => tables.history.nodup_rows.filter _, ?_⟩
    have hnodup : (tables.objectHistory.select (·.id = o.id)).Nodup :=
      tables.objectHistory.nodup_rows.filter _
    refine List.Pairwise.imp_of_mem ?_ hnodup
    intro oh oh' hoh hoh' hne
    refine List.disjoint_left.mpr fun h hh hh' => hne ?_
    obtain ⟨-, hid⟩ := Table.mem_select.mp hh
    obtain ⟨-, hid'⟩ := Table.mem_select.mp hh'
    exact Table.eq_of_key_eq (Table.mem_select.mp hoh).1 (Table.mem_select.mp hoh').1 (hid.symm.trans hid')
  refine hrows.map_on ?_
  intro h hh h' hh' huuid
  obtain ⟨oh, -, hh⟩ := List.mem_flatMap.mp hh
  obtain ⟨oh', -, hh'⟩ := List.mem_flatMap.mp hh'
  exact Table.eq_of_key_eq (Table.mem_select.mp hh).1 (Table.mem_select.mp hh').1 huuid

variable [LinearOrder T]

/-- Each version ends where the next one begins; the last one is open or ends with the object. -/
structure Chain (o : ObjectRegistry T) (vs : List (Version T)) : Prop where
  ordered : vs.Pairwise fun a b => a.validFrom ≤ b.validFrom
  linked : vs.IsChain fun a b => a.validTo = some b.validFrom
  last : ∀ v ∈ vs.getLast?, v.validTo = none ∨ v.validTo = o.erdate

/-- The version is valid at some instant of the interval. -/
def ValidWithin (lowerLimit upperLimit : Option T) (v : Version T) : Prop :=
  ∃ t, (∃ l ∈ lowerLimit, l ≤ t) ∧ (∃ u ∈ upperLimit, t ≤ u) ∧
    v.validFrom ≤ t ∧ ∀ u ∈ v.validTo, t < u

/-- The records are those of a segment of the versions with every one that is valid within the
interval, and end with its last one. -/
def TellsSegment (vs : List (Version T)) (lowerLimit upperLimit : Option T)
    (history : DataHistory T) : Prop :=
  ∃ segment, segment <:+: vs ∧ history.timeline = segment.map Version.record ∧
    (∃ last ∈ segment.getLast?, history.validTo = last.validTo) ∧
    ∀ v ∈ vs, ValidWithin lowerLimit upperLimit v → v ∈ segment

/-- A history tells of a segment, and without one no version is valid within the interval. -/
def Tells (vs : List (Version T)) (lowerLimit upperLimit : Option T) :
    Except HistoryException (DataHistory T) → Prop
  | .ok history => TellsSegment vs lowerLimit upperLimit history
  | .error e => e = .invalidHistoryIntervalSpecification ∧
      ∀ v ∈ vs, ¬ ValidWithin lowerLimit upperLimit v

theorem inRange_iff : InRange lowerLimit upperLimit v ↔
    (∀ u ∈ v.validTo, ∃ l ∈ lowerLimit, l ≤ u) ∧ ∃ u ∈ upperLimit, v.validFrom ≤ u := by
  cases hto : v.validTo <;> simp [InRange, hto]

theorem inRange_of_validWithin (h : ValidWithin lowerLimit upperLimit v) :
    InRange lowerLimit upperLimit v := by
  obtain ⟨t, ⟨l, hl, hlt⟩, ⟨u, hu, htu⟩, hfrom, hto⟩ := h
  refine inRange_iff.mpr ⟨fun w hw => ⟨l, hl, ?_⟩, u, hu, hfrom.trans htu⟩
  exact hlt.trans (hto w hw).le

/-- A version that is not the last one ends, and then the later ones have not yet begun. -/
theorem Chain.pairwise (h : Chain o vs) : vs.Pairwise fun a b =>
    ∃ u, a.validTo = some u ∧ a.validFrom ≤ u ∧ u ≤ b.validFrom := by
  have hordered := h.ordered
  have hlinked := h.linked
  clear h
  induction vs with
  | nil => exact .nil
  | cons a vs ih =>
    obtain ⟨ha, hordered⟩ := List.pairwise_cons.mp hordered
    refine List.pairwise_cons.mpr ⟨fun b hb => ?_, ih hordered hlinked.of_cons⟩
    cases vs with
    | nil => cases hb
    | cons c vs =>
      obtain ⟨hlink, -⟩ := List.isChain_cons_cons.mp hlinked
      refine ⟨c.validFrom, hlink, ha c List.mem_cons_self, ?_⟩
      rcases List.mem_cons.mp hb with rfl | hb
      · exact le_rfl
      · exact (List.pairwise_cons.mp hordered).1 b hb

/-- The versions in a range are a segment of the chain. -/
theorem Chain.filter_inRange (h : Chain o vs) :
    (vs.filter fun v => InRange lowerLimit upperLimit v) <:+: vs := by
  refine filter_isInfix fun a b c habc ha hc => ?_
  have hpairwise : ∀ {a b}, [a, b].Sublist vs →
      ∃ u, a.validTo = some u ∧ a.validFrom ≤ u ∧ u ≤ b.validFrom :=
    List.pairwise_iff_forall_sublist.mp h.pairwise
  have hab : [a, b].Sublist [a, b, c] := by simp
  have hbc : [b, c].Sublist [a, b, c] := by simp
  obtain ⟨u, hu, -, hub⟩ := hpairwise (hab.trans habc)
  obtain ⟨w, hw, hbw, hwc⟩ := hpairwise (hbc.trans habc)
  obtain ⟨hlower, -⟩ := inRange_iff.mp (of_decide_eq_true ha)
  obtain ⟨-, x, hx, hcx⟩ := inRange_iff.mp (of_decide_eq_true hc)
  obtain ⟨l, hl, hlu⟩ := hlower u hu
  refine decide_eq_true (inRange_iff.mpr ⟨fun w' hw' => ?_, x, hx, (hbw.trans hwc).trans hcx⟩)
  obtain rfl : w = w' := Option.some.inj (hw.symm.trans hw')
  exact ⟨l, hl, (hlu.trans hub).trans hbw⟩

variable [OrderTop T]

theorem getDataHistory_eq
    (sort : Sorting fun a b : Version T => decide (a.validFrom < b.validFrom))
    (hfind : findObject tables.stateTables type rule = .ok o) :
    getDataHistory sort tables type rule range =
      if dataRows tables o range = [] then .error .invalidHistoryIntervalSpecification
      else .ok ⟨o.uuid, (sort.sort (dataRows tables o range)).map Version.record,
        (sort.sort (dataRows tables o range)).getLast?.bind (·.validTo)⟩ := by
  have hempty : (sort.sort (dataRows tables o range)).isEmpty ↔ dataRows tables o range = [] := by
    rw [List.isEmpty_iff]
    exact ⟨fun h => (h ▸ sort.perm (dataRows tables o range)).nil_eq.symm,
      fun h => List.Perm.eq_nil (by simpa [h] using sort.perm (dataRows tables o range))⟩
  have helim : ∀ l : List (Version T), l.getLast?.elim none (·.validTo) =
      l.getLast?.bind (·.validTo) := fun l => by cases l.getLast? <;> rfl
  unfold getDataHistory
  rw [hfind]
  by_cases h : dataRows tables o range = []
  · rw [if_pos h]
    simp [Bind.bind, Except.bind, hempty.mpr h]
    rfl
  · rw [if_neg h]
    simp [Bind.bind, Except.bind, mt hempty.mp h, foldl_addRecord, helim]
    rfl

section Limits

variable (hfind : findObject tables.stateTables type rule = .ok o)
  (hlower : range.lowerLimit.lower tables.stateTables o = lowerLimit)
  (hupper : range.upperLimit.upper tables.stateTables = upperLimit)

include hfind hlower hupper

/-- Versions that begin together come in any order, so they must not both be in the range. -/
theorem ties_of_tells (hperm : (versionsOf tables o).Perm vs)
    (htells : ∀ sort, Tells vs lowerLimit upperLimit (getDataHistory sort tables type rule range)) :
    vs.Pairwise fun a b => a.validFrom = b.validFrom →
      ¬ (InRange lowerLimit upperLimit a ∧ InRange lowerLimit upperLimit b) := by
  subst hlower hupper
  refine List.pairwise_iff_forall_sublist.mpr fun {a b} hab heq ⟨ha, hb⟩ => ?_
  have hnodup : (vs.map Version.uuid).Nodup := (hperm.map _).nodup_iff.mp nodup_versionsOf
  have hsame := hperm.symm.filter fun v => InRange (range.lowerLimit.lower tables.stateTables o)
    (range.upperLimit.upper tables.stateTables) v
  have hrows := hab.filter fun v => InRange (range.lowerLimit.lower tables.stateTables o)
    (range.upperLimit.upper tables.stateTables) v
  simp only [List.filter_cons, ha, hb, decide_true, if_true, List.filter_nil] at hrows
  obtain ⟨sort, hba⟩ := Sorting.exists_swapped hrows hsame heq
  have hne : dataRows tables o range ≠ [] :=
    List.ne_nil_of_mem ((sort.perm _).mem_iff.mp (hba.subset List.mem_cons_self))
  have htold := htells sort
  rw [getDataHistory_eq sort hfind, if_neg hne] at htold
  obtain ⟨segment, hsegment, htimeline, -⟩ := htold
  have huuids : (sort.sort (dataRows tables o range)).map Version.uuid =
      segment.map Version.uuid := by
    have h := congrArg (List.map DataHistoryRecord.historyUuid) htimeline
    simpa [Function.comp_def, Version.record] using h
  have hba' : [b.uuid, a.uuid].Sublist (segment.map Version.uuid) := huuids ▸ hba.map Version.uuid
  exact not_sublist_swap hnodup (hab.map Version.uuid) (hba'.trans (hsegment.sublist.map _))

/-- Otherwise there is one order only, that of the chain. -/
theorem tells_of_ties (sort : Sorting fun a b : Version T => decide (a.validFrom < b.validFrom))
    (hchain : Chain o vs) (hperm : (versionsOf tables o).Perm vs)
    (hties : vs.Pairwise fun a b => a.validFrom = b.validFrom →
      ¬ (InRange lowerLimit upperLimit a ∧ InRange lowerLimit upperLimit b)) :
    Tells vs lowerLimit upperLimit (getDataHistory sort tables type rule range) := by
  set segment := vs.filter fun v => InRange lowerLimit upperLimit v
  have hrows : segment.Perm (dataRows tables o range) := by
    subst hlower hupper
    exact hperm.symm.filter _
  have hvalid : ∀ v ∈ vs, ValidWithin lowerLimit upperLimit v → v ∈ segment := by
    intro v hv hwithin
    exact List.mem_filter.mpr ⟨hv, decide_eq_true (inRange_of_validWithin hwithin)⟩
  have hdistinct : ∀ a ∈ dataRows tables o range, ∀ b ∈ dataRows tables o range,
      a.validFrom = b.validFrom → a = b := by
    intro a ha b hb heq
    obtain ⟨ha, hina⟩ := List.mem_filter.mp (hrows.mem_iff.mpr ha)
    obtain ⟨hb, hinb⟩ := List.mem_filter.mp (hrows.mem_iff.mpr hb)
    by_contra hne
    have hsymm : Std.Symm fun a b : Version T => a.validFrom = b.validFrom →
        ¬ (InRange lowerLimit upperLimit a ∧ InRange lowerLimit upperLimit b) :=
      ⟨fun a b h heq hin => h heq.symm hin.symm⟩
    exact hties.forall ha hb hne heq ⟨of_decide_eq_true hina, of_decide_eq_true hinb⟩
  have hsort := Sorting.sort_eq sort hrows (hchain.ordered.filter _) hdistinct
  rw [getDataHistory_eq sort hfind, hsort]
  by_cases hnil : dataRows tables o range = []
  · rw [if_pos hnil]
    refine ⟨rfl, fun v hv hwithin => ?_⟩
    have hmem := hrows.mem_iff.mp (hvalid v hv hwithin)
    rw [hnil] at hmem
    cases hmem
  · rw [if_neg hnil]
    have hne : segment ≠ [] := fun h => hnil (List.Perm.nil_eq (h ▸ hrows)).symm
    have hlast := List.getLast?_eq_some_getLast hne
    refine ⟨segment, hchain.filter_inRange, rfl, ⟨segment.getLast hne, hlast, ?_⟩, hvalid⟩
    rw [hlast]
    rfl

/-- Whatever the order of versions that begin together, a segment is told exactly when no two
versions in the range begin together. -/
theorem getDataHistory_segment (hchain : Chain o vs) (hperm : (versionsOf tables o).Perm vs) :
    (∀ sort, Tells vs lowerLimit upperLimit (getDataHistory sort tables type rule range)) ↔
      vs.Pairwise fun a b => a.validFrom = b.validFrom →
        ¬ (InRange lowerLimit upperLimit a ∧ InRange lowerLimit upperLimit b) := by
  constructor
  · exact ties_of_tells hfind hlower hupper hperm
  · intro hties sort
    exact tells_of_ties hfind hlower hupper sort hchain hperm hties

end Limits

/-- A keyset that was made and changed at 1; its current version is stored first. -/
def sameTimeTables : DataTables (WithTop Nat) where
  objectTypeId
    | .contact => 1
    | .nsset => 2
    | .domain => 3
    | .keyset => 4
  objectRegistry := ⟨[⟨12, 120, 4, "SAMETIME", 1, none⟩], by decide⟩
  objectState := ∅
  enumObjectStates := ∅
  history := ⟨[⟨32, 132, 1, none, some 7⟩, ⟨31, 131, 1, some 1, none⟩], by decide⟩
  objectHistory := ⟨[⟨32, 12⟩, ⟨31, 12⟩], by decide⟩

def sameTimeKeyset : ObjectRegistry (WithTop Nat) := ⟨12, 120, 4, "SAMETIME", 1, none⟩

def sameTimeVersions : List (Version (WithTop Nat)) :=
  [⟨31, 131, 1, some 1, none⟩, ⟨32, 132, 1, none, some 7⟩]

theorem chain_sameTime : Chain sameTimeKeyset sameTimeVersions where
  ordered := by decide
  linked := by decide
  last := by decide

theorem getDataHistory_segment_sameTime :
    (∀ sort, Tells sameTimeVersions (some 2) (some ⊤)
        (getDataHistory sort sameTimeTables .keyset (.byId 12) ⟨.timePoint 2, .noLimit⟩)) ↔
      sameTimeVersions.Pairwise fun a b => a.validFrom = b.validFrom →
        ¬ (InRange (some 2) (some ⊤) a ∧ InRange (some 2) (some ⊤) b) :=
  getDataHistory_segment rfl rfl rfl chain_sameTime (by decide)

/-- The older version is told last, and its end as that of the history. -/
theorem not_getDataHistory_segment :
    ¬ ∀ (tables : DataTables (WithTop Nat)) (type : ObjectType) (rule : ObjectIdRule)
      (range : HistoryInterval (WithTop Nat)) (o : ObjectRegistry (WithTop Nat))
      (vs : List (Version (WithTop Nat))) (sort : Sorting fun a b : Version (WithTop Nat) =>
        decide (a.validFrom < b.validFrom)),
      findObject tables.stateTables type rule = .ok o → Chain o vs →
        (versionsOf tables o).Perm vs →
          Tells vs (range.lowerLimit.lower tables.stateTables o)
            (range.upperLimit.upper tables.stateTables) (getDataHistory sort tables type rule range) := by
  intro htells
  have htold := htells sameTimeTables .keyset (.byId 12) ⟨.noLimit, .noLimit⟩ sameTimeKeyset
    sameTimeVersions (.byKey Version.validFrom) rfl chain_sameTime (by decide)
  have hok : getDataHistory (.byKey Version.validFrom) sameTimeTables .keyset (.byId 12)
      ⟨.noLimit, .noLimit⟩ = .ok ⟨120, [⟨132, 1, some 7⟩, ⟨131, 1, none⟩], some 1⟩ := by rfl
  rw [hok] at htold
  obtain ⟨segment, hsegment, htimeline, -⟩ := htold
  have hlength : segment.length = 2 := by simpa using (congrArg List.length htimeline).symm
  obtain rfl := hsegment.sublist.eq_of_length hlength
  exact absurd htimeline (by decide)

end LibFred.RegistrableObject
