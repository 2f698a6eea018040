import LibFred.RegistrableObject.StateTimeline

/-! Where the timelines of state histories begin. -/
namespace LibFred.RegistrableObject

open Sql Sweep

variable {T : Type} [LinearOrder T] {tables : StateTables T} {type : ObjectType} {w : Window T}
  {o : ObjectRegistry T} {flags : Finset String} {s e k t : T} {f : String} {rows : List (StateRow T)}
  {acc : Collected T} {records : List (Record T String)}

/-- The flags that rows set on begin. -/
def flagsOnBegin (tables : StateTables T) (type : ObjectType) (w : Window T) : Finset String :=
  type.flags.toFinset.filter fun f =>
    ∃ row ∈ stateRows tables w, row.presentsOnBegin = true ∧ row.name = some f

/-- The last of the rows that present on begin begins then. -/
def LatestBegin (tables : StateTables T) (w : Window T) (s : T) : Prop :=
  (∃ row ∈ stateRows tables w, row.presentsOnBegin = true ∧ row.validFrom = s) ∧
    ∀ row ∈ stateRows tables w, row.presentsOnBegin = true → row.validFrom ≤ s

/-- A row begins after the lower limit then, or ends not later than the looking end. -/
def ChangesAt (tables : StateTables T) (w : Window T) (k : T) : Prop :=
  (∃ row ∈ stateRows tables w, row.presentsOnBegin = false ∧ row.validFrom = k) ∨
    ∃ row ∈ stateRows tables w, row.validTo = some k ∧ k ≤ w.lookingEnd

/-- The flags of the rows that begin then, without those of the rows that end. -/
def flagsAt (tables : StateTables T) (type : ObjectType) (w : Window T) (k : T) : Finset String :=
  type.flags.toFinset.filter fun f =>
    (∃ row ∈ stateRows tables w, (row.presentsOnBegin = false ∧ row.validFrom = k) ∧ row.name = some f) ∧
      ¬ ∃ row ∈ stateRows tables w, (row.validTo = some k ∧ k ≤ w.lookingEnd) ∧ row.name = some f

/-- From `s` on and before `e` no row of another flag is valid, and where a row of one of the flags
ends another one goes on. -/
structure Steady (tables : StateTables T) (type : ObjectType) (o : ObjectRegistry T)
    (flags : Finset String) (s e : T) : Prop where
  others : ∀ f ∈ type.flags, f ∉ flags → ∀ os ∈ flagRows tables o f,
    max os.validFrom s < e → ∃ u ∈ os.validTo, u ≤ max os.validFrom s
  begun : s < e → ∀ f ∈ flags, ∃ os ∈ flagRows tables o f,
    os.validFrom ≤ s ∧ ∀ u ∈ os.validTo, s < u
  kept : ∀ f ∈ flags, ∀ os ∈ flagRows tables o f, ∀ u ∈ os.validTo, s ≤ u → u < e →
    ∃ os' ∈ flagRows tables o f, os'.validFrom ≤ u ∧ ∀ v ∈ os'.validTo, u < v

/-- With flags on begin, no row ends on the lower limit when one begins on it, and from the latest
begin on the flags stay until the looking start; without them they stay from the first change on. -/
structure BeginsWell (tables : StateTables T) (type : ObjectType) (w : Window T) : Prop where
  limit : flagsOnBegin tables type w ≠ ∅ → LatestBegin tables w w.lowerLimit →
    w.lowerLimit ≤ w.lookingEnd → ∀ row ∈ stateRows tables w, row.validTo ≠ some w.lowerLimit
  onBegin : flagsOnBegin tables type w ≠ ∅ → ∀ s, LatestBegin tables w s →
    Steady tables type w.object (flagsOnBegin tables type w) s w.lookingStart
  atChange : flagsOnBegin tables type w = ∅ → ∀ k, ChangesAt tables w k →
    (∀ k', ChangesAt tables w k' → k ≤ k') →
      Steady tables type w.object (flagsAt tables type w k) k w.lookingStart

/-- The records ascend, and the first one tells of the flags from its begin, which is not later than
the looking start, until the looking start. -/
def WellBegun (tables : StateTables T) (type : ObjectType) (w : Window T)
    (timeline : List (Record T String)) : Prop :=
  (timeline.Pairwise fun a b => a.validFrom < b.validFrom) ∧
    ∃ first ∈ timeline.head?, first.validFrom ≤ w.lookingStart ∧
      ∀ t, first.validFrom ≤ t → t < w.lookingStart →
        presentFlags tables type w.object t = first.state

/-- The flags stay as they are exactly when this can be told from where rows begin and end. -/
theorem steady_iff (hflags : flags ⊆ type.flags.toFinset) : Steady tables type o flags s e ↔
    ∀ t, s ≤ t → t < e → presentFlags tables type o t = flags := by
  have hpresent : ∀ t f, f ∈ presentFlags tables type o t ↔ f ∈ type.flags ∧
      ∃ os ∈ flagRows tables o f, os.validFrom ≤ t ∧ ∀ u ∈ os.validTo, t < u := by
    intro t f
    simp [presentFlags]
  have hcovered : ∀ f, (∀ t, s ≤ t → t < e → ∃ os ∈ flagRows tables o f,
        os.validFrom ≤ t ∧ ∀ u ∈ os.validTo, t < u) ↔
      (s < e → ∃ os ∈ flagRows tables o f, os.validFrom ≤ s ∧ ∀ u ∈ os.validTo, s < u) ∧
        ∀ os ∈ flagRows tables o f, ∀ u ∈ os.validTo, s ≤ u → u < e →
          ∃ os' ∈ flagRows tables o f, os'.validFrom ≤ u ∧ ∀ v ∈ os'.validTo, u < v := by
    intro f
    have h := @Spell.covered_throughout_iff T _
      ((flagRows tables o f).map fun os => ⟨os.validFrom, os.validTo⟩) s e
    simpa [Spell.Covers] using h
  constructor
  · intro h t hst hte
    ext f
    rw [hpresent]
    constructor
    · rintro ⟨hf, os, hos, hfrom, hto⟩
      by_contra hno
      obtain ⟨u, hu, hle⟩ := h.others f hf hno os hos ((max_le hfrom hst).trans_lt hte)
      exact absurd (hto u hu) (not_lt.mpr (hle.trans (max_le hfrom hst)))
    · intro hf
      exact ⟨by simpa using hflags hf,
        (hcovered f).mpr ⟨fun hse => h.begun hse f hf, h.kept f hf⟩ t hst hte⟩
  · intro h
    have hkept : ∀ f ∈ flags, ∀ t, s ≤ t → t < e → ∃ os ∈ flagRows tables o f,
        os.validFrom ≤ t ∧ ∀ u ∈ os.validTo, t < u := by
      intro f hf t hst hte
      rw [← h t hst hte, hpresent] at hf
      exact hf.2
    constructor
    · intro f hf hno os hos hlt
      by_contra hgoes
      have hto : ∀ u ∈ os.validTo, max os.validFrom s < u := by
        intro u hu
        by_contra hle
        exact hgoes ⟨u, hu, not_lt.mp hle⟩
      rw [← h _ (le_max_right _ _) hlt, hpresent] at hno
      exact hno ⟨hf, os, hos, le_max_left _ _, hto⟩
    · intro hse f hf
      exact ((hcovered f).mp (hkept f hf)).1 hse
    · intro f hf
      exact ((hcovered f).mp (hkept f hf)).2

theorem steady_of_le (h : e ≤ s) : Steady tables type o flags s e where
  others _ _ _ _ _ hlt := absurd (lt_of_le_of_lt (le_max_right _ _) hlt) (not_lt.mpr h)
  begun hse := absurd hse (not_lt.mpr h)
  kept _ _ _ _ _ _ hsu hue := absurd (hsu.trans_lt hue) (not_lt.mpr h)

/-- The record on begin begins with the last row that presents on begin. -/
theorem le_recordOnBegin {flags : List String} {lookingEnd : T}
    (hrows : rows.Pairwise fun a b => ¬ b.validFrom < a.validFrom) :
    ∀ r ∈ (collect flags lookingEnd rows).recordOnBegin, ∀ row ∈ rows, row.presentsOnBegin = true →
      row.validFrom ≤ r.validFrom := by
  induction rows using List.reverseRecOn with
  | nil =>
    intro r hr
    cases hr
  | append_singleton rows row ih =>
    obtain ⟨hrows, -, hlast⟩ := List.pairwise_append.mp hrows
    have hstep : (collect flags lookingEnd (rows ++ [row])).recordOnBegin =
        (collectBegin flags (collect flags lookingEnd rows) row).recordOnBegin := by
      rw [collect, List.foldl_append, List.foldl_cons, List.foldl_nil, ← collect, collectEnd]
      split
      · split <;> rfl
      · rfl
    rw [hstep, collectBegin]
    intro r hr row' hrow' hon
    split at hr
    · obtain rfl := Option.some.inj hr
      rcases List.mem_append.mp hrow' with hrow' | hrow'
      · exact not_lt.mp (hlast row' hrow' row (List.mem_singleton_self row))
      · rw [List.mem_singleton.mp hrow']
    · rename_i hoff
      rcases List.mem_append.mp hrow' with hrow' | hrow'
      · exact ih hrows r hr row' hrow' hon
      · rw [List.mem_singleton.mp hrow'] at hon
        exact absurd hon hoff

variable (h : Collects type.flags w.lookingEnd (stateRows tables w) (stateRows tables w) acc)

include h in
theorem state_onBegin : acc.recordOnBegin.elim ∅ (·.state) = flagsOnBegin tables type w := by
  ext f
  rw [h.onBegin f]
  simp only [mem_setFlag, flagsOnBegin, Finset.mem_filter, List.mem_toFinset]
  constructor
  · rintro ⟨row, hrow, hon, hf, hname⟩
    exact ⟨hf, row, hrow, hon, hname⟩
  · rintro ⟨hf, row, hrow, hon, hname⟩
    exact ⟨row, hrow, hon, hf, hname⟩

include h in
theorem apply_find : (find acc.stateChanges k).apply ∅ = flagsAt tables type w k := by
  ext f
  simp only [Change.mem_apply, h.gained k f, h.lost k f, mem_setFlag, flagsAt, Finset.mem_filter,
    List.mem_toFinset, Finset.notMem_empty, false_or]
  grind

include h in
theorem latestBegin_iff {r : Record T String} (hr : r ∈ acc.recordOnBegin)
    (hlast : ∀ row ∈ stateRows tables w, row.presentsOnBegin = true → row.validFrom ≤ r.validFrom) :
    LatestBegin tables w s ↔ s = r.validFrom := by
  obtain ⟨row, hrow, hon, hfrom⟩ := h.onBeginFrom r hr
  constructor
  · rintro ⟨⟨row', hrow', hon', rfl⟩, hle⟩
    exact le_antisymm (hlast row' hrow' hon') (hfrom ▸ hle row hrow hon)
  · rintro rfl
    exact ⟨⟨row, hrow, hon, hfrom⟩, hlast⟩

/-- The lower limit is the only instant at which a change can meet the begin of the first record. -/
theorem lt_changes_iff (hs : LatestBegin tables w s) : (∀ k, ChangesAt tables w k → s < k) ↔
    (s = w.lowerLimit → w.lowerLimit ≤ w.lookingEnd →
      ∀ row ∈ stateRows tables w, row.validTo ≠ some w.lowerLimit) := by
  obtain ⟨⟨first, hfirst, hon, rfl⟩, -⟩ := hs
  have hle : first.validFrom ≤ w.lowerLimit := (presentsOnBegin_iff hfirst).mp hon
  constructor
  · intro hlt hs hend row hrow hto
    exact absurd (hlt _ (.inr ⟨row, hrow, hto, hend⟩)) (by simp [hs])
  · rintro hno k (⟨row, hrow, hoff, rfl⟩ | ⟨row, hrow, hto, hend⟩)
    · refine hle.trans_lt (not_le.mp fun hlate => ?_)
      rw [(presentsOnBegin_iff hrow).mpr hlate] at hoff
      cases hoff
    · have hk : w.lowerLimit ≤ k := lowerLimit_le_validTo hrow hto
      refine lt_of_le_of_ne (hle.trans hk) fun hsk => ?_
      obtain rfl : w.lowerLimit = k := le_antisymm hk (hsk ▸ hle)
      exact hno hsk hend row hrow hto

include h in
/-- The records of a collection begin well under the condition on its rows. -/
theorem wellBegun_timeline_iff
    (hlast : ∀ r ∈ acc.recordOnBegin, ∀ row ∈ stateRows tables w, row.presentsOnBegin = true →
      row.validFrom ≤ r.validFrom)
    (hok : timeline w.lookingStart acc = .ok records) :
    WellBegun tables type w records ↔ BeginsWell tables type w := by
  have hbegun : flagsOnBegin tables type w ⊆ type.flags.toFinset := Finset.filter_subset _ _
  have hchanged : ∀ k, flagsAt tables type w k ⊆ type.flags.toFinset :=
    fun _ => Finset.filter_subset _ _
  have hkeys : ∀ k, k ∈ acc.stateChanges.map (·.1) ↔ ChangesAt tables w k := h.keys
  have hstate := state_onBegin h
  unfold timeline at hok
  cases hb : acc.recordOnBegin.filter (·.state ≠ ∅) with
  | some record =>
    rw [hb] at hok
    obtain ⟨hr, hne⟩ := Option.filter_eq_some_iff.mp hb
    obtain rfl : record :: run record.state acc.stateChanges = records := by simpa using hok
    rw [hr, Option.elim_some] at hstate
    have hne : flagsOnBegin tables type w ≠ ∅ := by simpa [hstate] using hne
    have hlatest : ∀ s, LatestBegin tables w s ↔ s = record.validFrom :=
      fun s => latestBegin_iff h hr (hlast record hr)
    have hrecord := (hlatest record.validFrom).mpr rfl
    have hpairwise : ((record :: run record.state acc.stateChanges).Pairwise fun a b =>
        a.validFrom < b.validFrom) ↔ ∀ k, ChangesAt tables w k → record.validFrom < k := by
      rw [List.pairwise_cons, and_iff_left (pairwise_run h.ascending), forall_mem_run]
      simp only [← hkeys, List.forall_mem_map]
    have hle : record.validFrom ≤ w.lookingStart := by
      obtain ⟨row, hrow, hon, hfrom⟩ := h.onBeginFrom record hr
      exact hfrom ▸ ((presentsOnBegin_iff hrow).mp hon).trans lowerLimit_le_lookingStart
    rw [WellBegun, hpairwise, lt_changes_iff hrecord]
    constructor
    · rintro ⟨hlimit, first, hfirst, -, hholds⟩
      obtain rfl := Option.some.inj hfirst
      refine ⟨fun _ hs => hlimit ((hlatest _).mp hs).symm, fun _ s hs => ?_, fun hempty => absurd hempty hne⟩
      obtain rfl := (hlatest s).mp hs
      rw [steady_iff hbegun, ← hstate]
      exact hholds
    · intro hwell
      refine ⟨fun hs => hwell.limit hne (hs ▸ hrecord), record, rfl, hle, ?_⟩
      rw [hstate]
      exact (steady_iff hbegun).mp (hwell.onBegin hne _ hrecord)
  | none =>
    rw [hb] at hok
    have hempty : flagsOnBegin tables type w = ∅ := hstate ▸ state_eq_empty_of_filter hb
    have hasc := h.ascending
    cases hl : acc.stateChanges with
    | nil => simp [hl] at hok
    | cons p l =>
      obtain ⟨k, c⟩ := p
      have hfind : find acc.stateChanges k = c := by rw [hl, find, if_pos rfl]
      have hchange : c.apply ∅ = flagsAt tables type w k := by rw [← apply_find h, hfind]
      rw [hl] at hasc hkeys
      obtain ⟨hlt, -⟩ := List.pairwise_cons.mp hasc
      have hk : ChangesAt tables w k := (hkeys k).mp List.mem_cons_self
      have hleast : ∀ k', ChangesAt tables w k' → k ≤ k' := by
        intro k' hk'
        rcases List.mem_cons.mp ((hkeys k').mpr hk') with rfl | hk'
        · exact le_rfl
        · obtain ⟨p, hp, rfl⟩ := List.mem_map.mp hk'
          exact (hlt p hp).le
      have hwell : BeginsWell tables type w ↔
          Steady tables type w.object (flagsAt tables type w k) k w.lookingStart := by
        constructor
        · intro hwell
          exact hwell.atChange hempty k hk hleast
        · intro hsteady
          refine ⟨fun hne => absurd hempty hne, fun hne => absurd hempty hne, fun _ k' hk' hleast' => ?_⟩
          obtain rfl := le_antisymm (hleast k' hk') (hleast' k hk)
          exact hsteady
      rw [hwell]
      by_cases hstart : w.lookingStart < k
      · obtain rfl : ⟨w.lookingStart, ∅⟩ :: run ∅ ((k, c) :: l) = records := by
          simpa [hl, hstart] using hok
        refine iff_of_true ⟨List.pairwise_cons.mpr ⟨?_, pairwise_run hasc⟩, _, rfl, le_rfl, ?_⟩
          (steady_of_le hstart.le)
        · refine forall_mem_run.mpr fun p hp => ?_
          rcases List.mem_cons.mp hp with rfl | hp
          · exact hstart
          · exact hstart.trans (hlt p hp)
        · intro t hst hte
          exact absurd (hst.trans_lt hte) (lt_irrefl _)
      · obtain rfl : run ∅ ((k, c) :: l) = records := by simpa [hl, hstart] using hok
        rw [steady_iff (hchanged k), WellBegun]
        constructor
        · rintro ⟨-, first, hfirst, -, hholds⟩
          obtain rfl := Option.some.inj hfirst
          exact hchange ▸ hholds
        · intro hholds
          exact ⟨pairwise_run hasc, _, rfl, not_lt.mp hstart, hchange ▸ hholds⟩

variable [OrderTop T] {rule : ObjectIdRule} {range : HistoryInterval T} {history : StateHistory T}

/-- A history that is returned begins well exactly under the condition on the rows, unless there is
nothing to tell. -/
theorem getStateHistory_wellBegun
    (sort : Sorting fun a b : StateRow T => decide (a.validFrom < b.validFrom))
    (hw : window tables type rule range = .ok w)
    (hok : getStateHistory sort tables type rule range = .ok history) :
    WellBegun tables type w history.timeline ↔
      (objectHasStateFlags (stateRows tables w) = true → BeginsWell tables type w) := by
  rw [getStateHistory_eq sort hw] at hok
  cases hflags : objectHasStateFlags (stateRows tables w) with
  | false =>
    rw [hflags] at hok
    obtain rfl : ⟨[⟨w.lookingStart, ∅⟩], w.lookingEnd⟩ = history := by simpa using hok
    refine iff_of_true ⟨List.pairwise_singleton _ _, _, rfl, le_rfl, ?_⟩ (fun hfalse => by cases hfalse)
    intro t hst hte
    exact absurd (hst.trans_lt hte) (lt_irrefl _)
  | true =>
    rw [hflags, if_pos rfl] at hok
    have hordered : (sort.sort (stateRows tables w)).Pairwise fun a b =>
        ¬ b.validFrom < a.validFrom := (sort.ordered _).imp fun hlt => by simpa using hlt
    have hlast : ∀ r ∈ (collect type.flags w.lookingEnd (sort.sort (stateRows tables w))).recordOnBegin,
        ∀ row ∈ sort.sort (stateRows tables w), row.presentsOnBegin = true →
          row.validFrom ≤ r.validFrom := le_recordOnBegin hordered
    cases hrec : timeline w.lookingStart (collect type.flags w.lookingEnd
        (sort.sort (stateRows tables w))) with
    | error e => simp [hrec, Except.map] at hok
    | ok records =>
      obtain rfl : ⟨records, w.lookingEnd⟩ = history := by simpa [hrec, Except.map] using hok
      rw [wellBegun_timeline_iff (collects_stateRows sort) (fun r hr row hrow =>
        hlast r hr row ((sort.perm _).mem_iff.mpr hrow)) hrec]
      exact ⟨fun hwell _ => hwell, fun hwell => hwell rfl⟩

/-- A domain that is in the zone by hand from 1 on, and was out of it by hand from 2 to 4. -/
def overlappingTables : StateTables (WithTop Nat) where
  objectTypeId
    | .contact => 1
    | .nsset => 2
    | .domain => 3
    | .keyset => 4
  objectRegistry := ⟨[⟨8, 80, 3, "overlapping.cz", 0, none⟩], by decide⟩
  objectState := ⟨[⟨1, 8, 6, 1, none⟩, ⟨2, 8, 5, 2, some 4⟩], by decide⟩
  enumObjectStates :=
    ⟨[⟨5, "serverOutzoneManual", [3], true⟩, ⟨6, "serverInzoneManual", [3], true⟩], by decide⟩
  history := ∅

def overlappingWindow (lowerLimit : WithTop Nat) : Window (WithTop Nat) :=
  ⟨⟨8, 80, 3, "overlapping.cz", 0, none⟩, lowerLimit, ⊤⟩

theorem getStateHistory_wellBegun_overlapping :
    WellBegun overlappingTables .domain (overlappingWindow 3) [⟨2, {"serverInzoneManual",
        "serverOutzoneManual"}⟩, ⟨4, {"serverInzoneManual"}⟩] ↔
      (objectHasStateFlags (stateRows overlappingTables (overlappingWindow 3)) = true →
        BeginsWell overlappingTables .domain (overlappingWindow 3)) := by
  have hw : window overlappingTables .domain (.byId 8) ⟨.timePoint 3, .noLimit⟩ =
    .ok (overlappingWindow 3) := by rfl
  have hok : getStateHistory (.byKey StateRow.validFrom) overlappingTables .domain (.byId 8)
      ⟨.timePoint 3, .noLimit⟩ = .ok ⟨[⟨2, {"serverInzoneManual", "serverOutzoneManual"}⟩,
        ⟨4, {"serverInzoneManual"}⟩], ⊤⟩ := by rfl
  exact getStateHistory_wellBegun (.byKey StateRow.validFrom) hw hok

/-- The state that was over before the lower limit is missing in the first record. -/
theorem not_getStateHistory_wellBegun :
    ¬ ∀ (tables : StateTables (WithTop Nat)) (type : ObjectType) (rule : ObjectIdRule)
      (range : HistoryInterval (WithTop Nat)) (w : Window (WithTop Nat))
      (history : StateHistory (WithTop Nat)), window tables type rule range = .ok w →
        getStateHistory (.byKey StateRow.validFrom) tables type rule range = .ok history →
          WellBegun tables type w history.timeline := by
  intro hwell
  have hw : window overlappingTables .domain (.byId 8) ⟨.timePoint 5, .noLimit⟩ =
    .ok (overlappingWindow 5) := by rfl
  have hok : getStateHistory (.byKey StateRow.validFrom) overlappingTables .domain (.byId 8)
      ⟨.timePoint 5, .noLimit⟩ = .ok ⟨[⟨1, {"serverInzoneManual"}⟩], ⊤⟩ := by rfl
  obtain ⟨-, first, hfirst, -, hholds⟩ := hwell _ _ _ _ _ _ hw hok
  obtain rfl := Option.some.inj hfirst
  exact absurd (hholds 2 (by decide) (by decide)) (by decide)

/-- An earliest change is there whenever it is asked for, exactly when the rows are answerable. -/
theorem getStateHistory_defined_iff
    (sort : Sorting fun a b : StateRow T => decide (a.validFrom < b.validFrom))
    (hw : window tables type rule range = .ok w) :
    getStateHistory sort tables type rule range ≠ .error .undefinedBehaviour ↔
      Answerable tables type w := by
  rw [getStateHistory_eq sort hw]
  cases hflags : objectHasStateFlags (stateRows tables w) with
  | false => simp [Answerable, hflags]
  | true =>
    rw [if_pos rfl, ← timeline_answerable (collects_stateRows sort) hflags]
    cases hrec : timeline w.lookingStart (collect type.flags w.lookingEnd
        (sort.sort (stateRows tables w))) with
    | error e =>
      have he : e = .undefinedBehaviour := by
        unfold timeline at hrec
        split at hrec
        · cases hrec
        · split at hrec
          · cases hrec
            rfl
          · split at hrec <;> cases hrec
      simp [he, Except.map]
    | ok records => simp [Except.map]

/-- A domain whose state is none of the flags of domains. -/
def unknownFlagTables : StateTables (WithTop Nat) where
  objectTypeId
    | .contact => 1
    | .nsset => 2
    | .domain => 3
    | .keyset => 4
  objectRegistry := ⟨[⟨9, 90, 3, "unknown.cz", 0, none⟩], by decide⟩
  objectState := ⟨[⟨1, 9, 6, 1, none⟩], by decide⟩
  enumObjectStates := ⟨[⟨6, "serverNewState", [3], true⟩], by decide⟩
  history := ∅

def unknownFlagWindow (lowerLimit : WithTop Nat) : Window (WithTop Nat) :=
  ⟨⟨9, 90, 3, "unknown.cz", 0, none⟩, lowerLimit, ⊤⟩

theorem getStateHistory_defined_iff_unknownFlag :
    getStateHistory (.byKey StateRow.validFrom) unknownFlagTables .domain (.byId 9)
        ⟨.noLimit, .noLimit⟩ ≠ .error .undefinedBehaviour ↔
      Answerable unknownFlagTables .domain (unknownFlagWindow 0) := by
  have hw : window unknownFlagTables .domain (.byId 9) ⟨.noLimit, .noLimit⟩ =
    .ok (unknownFlagWindow 0) := by rfl
  exact getStateHistory_defined_iff (.byKey StateRow.validFrom) hw

/-- From 5 on there is neither a flag nor a change. -/
theorem not_getStateHistory_defined :
    ¬ ∀ (tables : StateTables (WithTop Nat)) (type : ObjectType) (rule : ObjectIdRule)
      (range : HistoryInterval (WithTop Nat)) (w : Window (WithTop Nat)),
      window tables type rule range = .ok w →
        getStateHistory (.byKey StateRow.validFrom) tables type rule range ≠
          .error .undefinedBehaviour := by
  intro hdefined
  have hw : window unknownFlagTables .domain (.byId 9) ⟨.timePoint 5, .noLimit⟩ =
    .ok (unknownFlagWindow 5) := by rfl
  exact hdefined _ _ _ _ _ hw (by rfl)

end LibFred.RegistrableObject
