import LibFred.RegistrableObject.StateTimeline
import LibFred.RegistrableObject.VersionChain

/-! Which intervals the state history and the data history of an object refuse. -/
namespace LibFred.RegistrableObject

open Sql

variable {T : Type} [LinearOrder T] {tables : DataTables T} {type : ObjectType}
  {rule : ObjectIdRule} {range : HistoryInterval T} {o : ObjectRegistry T} {v : Version T}
  {vs : List (Version T)} {lowerLimit upperLimit : Option T} {t : T}

/-- The upper limit is before the lower limit, or a limit is of no version. -/
def InvalidLimits (lowerLimit upperLimit : Option T) : Prop :=
  ∀ l ∈ lowerLimit, ∀ u ∈ upperLimit, u < l

/-- The object exists at some instant of the interval. -/
def MeetsLife (o : ObjectRegistry T) (lowerLimit upperLimit : Option T) : Prop :=
  ∃ t, (∃ l ∈ lowerLimit, l ≤ t) ∧ (∃ u ∈ upperLimit, t ≤ u) ∧
    o.crdate ≤ t ∧ ∀ e ∈ o.erdate, t < e

theorem MeetsLife.not_invalidLimits (h : MeetsLife o lowerLimit upperLimit) :
    ¬ InvalidLimits lowerLimit upperLimit := by
  intro hinvalid
  obtain ⟨t, ⟨l, hl, hlt⟩, ⟨u, hu, htu⟩, -⟩ := h
  exact absurd (hinvalid l hl u hu) (not_lt.mpr (hlt.trans htu))

/-- A chain that begins with the object has a version at every instant of its life. -/
theorem Chain.exists_valid (h : Chain o vs) (hfirst : ∃ v ∈ vs.head?, v.validFrom ≤ t)
    (ht : ∀ e ∈ o.erdate, t < e) : ∃ v ∈ vs, v.validFrom ≤ t ∧ ∀ u ∈ v.validTo, t < u := by
  have hlinked := h.linked
  have hlast := h.last
  clear h
  induction vs with
  | nil =>
    obtain ⟨v, hv, -⟩ := hfirst
    cases hv
  | cons a vs ih =>
    obtain ⟨_, ha, hat⟩ := hfirst
    obtain rfl := Option.some.inj ha
    by_cases hto : ∀ u ∈ a.validTo, t < u
    · exact ⟨a, List.mem_cons_self, hat, hto⟩
    · push Not at hto
      obtain ⟨u, hu, hut⟩ := hto
      cases vs with
      | nil =>
        rcases hlast a rfl with hopen | hend
        · rw [hopen] at hu
          cases hu
        · exact absurd (ht u (hend ▸ hu)) (not_lt.mpr hut)
      | cons c vs =>
        obtain ⟨hlink, hlinked⟩ := List.isChain_cons_cons.mp hlinked
        obtain rfl : c.validFrom = u := Option.some.inj (hlink.symm.trans hu)
        obtain ⟨v, hv, hvalid⟩ := ih ⟨c, rfl, hut⟩ hlinked (by simpa using hlast)
        exact ⟨v, List.mem_cons_of_mem _ hv, hvalid⟩

theorem not_inRange_iff : ¬ InRange lowerLimit upperLimit v ↔
    ((∃ u ∈ upperLimit, v.validFrom ≤ u) → ∃ w ∈ v.validTo, ∀ l ∈ lowerLimit, w < l) := by
  rw [inRange_iff, not_and', not_forall]
  simp only [not_exists, not_and, not_le, Classical.not_imp]

/-- Without a change to begin with the state history fails in another way. -/
theorem timeline_ne_invalid {lookingStart : T} {acc : Collected T} :
    timeline lookingStart acc ≠ .error .invalidHistoryIntervalSpecification := by
  unfold timeline
  intro h
  split at h
  · cases h
  · split at h
    · cases h
    · split at h <;> cases h

variable [OrderTop T]

theorem window_of_findObject (hfind : findObject tables.stateTables type rule = .ok o) :
    window tables.stateTables type rule range =
      match range.lowerLimit.lower tables.stateTables o,
        range.upperLimit.upper tables.stateTables with
      | some l, some u =>
        if u < l then .error .invalidHistoryIntervalSpecification else .ok ⟨o, l, u⟩
      | _, _ => .error .invalidHistoryIntervalSpecification := by
  unfold findObject at hfind
  unfold window
  rcases hids : rule.ids tables.stateTables type with _ | ⟨id, _ | ⟨id', ids⟩⟩
  · rw [hids] at hfind
    cases hfind
  · rw [hids] at hfind
    dsimp only at hfind ⊢
    cases hlookup : (tables.stateTables.objectRegistry.lookup id).filter
        (·.type = tables.stateTables.objectTypeId type) with
    | none =>
      rw [hlookup] at hfind
      cases hfind
    | some found =>
      rw [hlookup] at hfind
      obtain rfl := Except.ok.inj hfind
      rfl
  · rw [hids] at hfind
    cases hfind

section Limits

variable (hfind : findObject tables.stateTables type rule = .ok o)
  (hlower : range.lowerLimit.lower tables.stateTables o = lowerLimit)
  (hupper : range.upperLimit.upper tables.stateTables = upperLimit)

include hfind hlower hupper

theorem window_of_invalidLimits (h : InvalidLimits lowerLimit upperLimit) :
    window tables.stateTables type rule range = .error .invalidHistoryIntervalSpecification := by
  rw [window_of_findObject hfind, hlower, hupper]
  cases lowerLimit with
  | none => rfl
  | some l =>
    cases upperLimit with
    | none => rfl
    | some u => exact if_pos (h l rfl u rfl)

theorem window_of_not_invalidLimits (h : ¬ InvalidLimits lowerLimit upperLimit) :
    ∃ w, window tables.stateTables type rule range = .ok w := by
  rw [window_of_findObject hfind, hlower, hupper]
  unfold InvalidLimits at h
  push Not at h
  obtain ⟨l, rfl, u, rfl, hlu⟩ := h
  exact ⟨⟨o, l, u⟩, if_neg (not_lt.mpr hlu)⟩

/-- The state history compares the limits. -/
theorem getStateHistory_invalid_iff
    (sort : Sorting fun a b : StateRow T => decide (a.validFrom < b.validFrom)) :
    getStateHistory sort tables.stateTables type rule range =
        .error .invalidHistoryIntervalSpecification ↔ InvalidLimits lowerLimit upperLimit := by
  by_cases h : InvalidLimits lowerLimit upperLimit
  · refine iff_of_true ?_ h
    rw [getStateHistory, window_of_invalidLimits hfind hlower hupper h]
    rfl
  · refine iff_of_false ?_ h
    obtain ⟨w, hw⟩ := window_of_not_invalidLimits hfind hlower hupper h
    rw [getStateHistory_eq sort hw]
    split
    · cases ht : timeline w.lookingStart (collect type.flags w.lookingEnd
        (sort.sort (stateRows tables.stateTables w))) with
      | error e =>
        intro herror
        obtain rfl : e = .invalidHistoryIntervalSpecification := by simpa [Except.map] using herror
        exact timeline_ne_invalid ht
      | ok records => simp [Except.map]
    · simp

/-- The data history only finds no version. -/
theorem getDataHistory_invalid_iff
    (sort : Sorting fun a b : Version T => decide (a.validFrom < b.validFrom))
    (hperm : (versionsOf tables o).Perm vs) :
    getDataHistory sort tables type rule range = .error .invalidHistoryIntervalSpecification ↔
      ∀ v ∈ vs, ¬ InRange lowerLimit upperLimit v := by
  subst hlower hupper
  rw [getDataHistory_eq sort hfind]
  have hnil : dataRows tables o range = [] ↔ ∀ v ∈ vs, ¬ InRange
      (range.lowerLimit.lower tables.stateTables o) (range.upperLimit.upper tables.stateTables) v := by
    simp [dataRows, List.filter_eq_nil_iff, hperm.mem_iff]
  rw [← hnil]
  split
  · rename_i h
    exact iff_of_true rfl h
  · rename_i h
    exact iff_of_false (by simp) h

/-- The two agree on which intervals are invalid exactly when for invalid limits every version that
begins by the upper limit has ended, and before the lower limit. -/
theorem histories_agree_iff
    (sortStates : Sorting fun a b : StateRow T => decide (a.validFrom < b.validFrom))
    (sortVersions : Sorting fun a b : Version T => decide (a.validFrom < b.validFrom))
    (hchain : Chain o vs) (hfirst : ∃ v ∈ vs.head?, v.validFrom = o.crdate)
    (hperm : (versionsOf tables o).Perm vs) :
    ((InvalidLimits lowerLimit upperLimit →
        getStateHistory sortStates tables.stateTables type rule range =
            .error .invalidHistoryIntervalSpecification ∧
          getDataHistory sortVersions tables type rule range =
            .error .invalidHistoryIntervalSpecification) ∧
      (MeetsLife o lowerLimit upperLimit →
        getStateHistory sortStates tables.stateTables type rule range ≠
            .error .invalidHistoryIntervalSpecification ∧
          getDataHistory sortVersions tables type rule range ≠
            .error .invalidHistoryIntervalSpecification)) ↔
      (InvalidLimits lowerLimit upperLimit → ∀ v ∈ vs, (∃ u ∈ upperLimit, v.validFrom ≤ u) →
        ∃ w ∈ v.validTo, ∀ l ∈ lowerLimit, w < l) := by
  have hstate := getStateHistory_invalid_iff hfind hlower hupper sortStates
  have hdata := getDataHistory_invalid_iff hfind hlower hupper sortVersions hperm
  have hmeets : MeetsLife o lowerLimit upperLimit →
      ¬ ∀ v ∈ vs, ¬ InRange lowerLimit upperLimit v := by
    rintro ⟨t, hl, hu, hcr, her⟩ hnone
    obtain ⟨first, hhead, hfrom⟩ := hfirst
    obtain ⟨v, hv, hvt, hto⟩ := hchain.exists_valid ⟨first, hhead, hfrom.trans_le hcr⟩ her
    exact hnone v hv (inRange_of_validWithin ⟨t, hl, hu, hvt, hto⟩)
  simp only [ne_eq, hstate, hdata, not_inRange_iff]
  constructor
  · rintro ⟨hinvalid, -⟩ h
    exact (hinvalid h).2
  · intro hended
    refine ⟨fun h => ⟨h, hended h⟩, fun h => ⟨h.not_invalidLimits, ?_⟩⟩
    simpa only [not_inRange_iff] using hmeets h

end Limits

/-- A contact that was made at 21 and changed at 27. -/
def changedTables : DataTables (WithTop Nat) where
  objectTypeId
    | .contact => 1
    | .nsset => 2
    | .domain => 3
    | .keyset => 4
  objectRegistry := ⟨[⟨14, 140, 1, "CHANGED", 21, none⟩], by decide⟩
  objectState := ∅
  enumObjectStates := ∅
  history := ⟨[⟨41, 141, 21, some 27, none⟩, ⟨42, 142, 27, none, some 9⟩], by decide⟩
  objectHistory := ⟨[⟨41, 14⟩, ⟨42, 14⟩], by decide⟩

/-- From 29 back to the second version. -/
def changedRange : HistoryInterval (WithTop Nat) := ⟨.timePoint 29, .objectHistoryUuid 142⟩

def changedContact : ObjectRegistry (WithTop Nat) := ⟨14, 140, 1, "CHANGED", 21, none⟩

def changedVersions : List (Version (WithTop Nat)) :=
  [⟨41, 141, 21, some 27, none⟩, ⟨42, 142, 27, none, some 9⟩]

theorem chain_changed : Chain changedContact changedVersions where
  ordered := by decide
  linked := by decide
  last := by decide

theorem histories_agree_iff_changed :
    ((InvalidLimits (some (29 : WithTop Nat)) (some 27) →
        getStateHistory (.byKey StateRow.validFrom) changedTables.stateTables .contact (.byId 14)
            changedRange = .error .invalidHistoryIntervalSpecification ∧
          getDataHistory (.byKey Version.validFrom) changedTables .contact (.byId 14)
            changedRange = .error .invalidHistoryIntervalSpecification) ∧
      (MeetsLife changedContact (some (29 : WithTop Nat)) (some 27) →
        getStateHistory (.byKey StateRow.validFrom) changedTables.stateTables .contact (.byId 14)
            changedRange ≠ .error .invalidHistoryIntervalSpecification ∧
          getDataHistory (.byKey Version.validFrom) changedTables .contact (.byId 14)
            changedRange ≠ .error .invalidHistoryIntervalSpecification)) ↔
      (InvalidLimits (some (29 : WithTop Nat)) (some 27) → ∀ v ∈ changedVersions,
        (∃ u ∈ some (27 : WithTop Nat), v.validFrom ≤ u) →
          ∃ w ∈ v.validTo, ∀ l ∈ some (29 : WithTop Nat), w < l) := by
  have hfind : findObject changedTables.stateTables .contact (.byId 14) = .ok changedContact := rfl
  have hlower : changedRange.lowerLimit.lower changedTables.stateTables changedContact = some 29 := rfl
  have hupper : changedRange.upperLimit.upper changedTables.stateTables = some 27 := by rfl
  exact histories_agree_iff hfind hlower hupper (.byKey StateRow.validFrom) (.byKey Version.validFrom)
    chain_changed ⟨_, rfl, rfl⟩ (by decide)

/-- The limits 25 and 23 lie in one version, whose data are told nevertheless. -/
theorem not_histories_agree :
    ¬ ∀ (tables : DataTables (WithTop Nat)) (type : ObjectType) (rule : ObjectIdRule)
      (range : HistoryInterval (WithTop Nat)) (o : ObjectRegistry (WithTop Nat))
      (vs : List (Version (WithTop Nat))),
      findObject tables.stateTables type rule = .ok o → Chain o vs →
        (∃ v ∈ vs.head?, v.validFrom = o.crdate) → (versionsOf tables o).Perm vs →
          InvalidLimits (range.lowerLimit.lower tables.stateTables o)
            (range.upperLimit.upper tables.stateTables) →
              getDataHistory (.byKey Version.validFrom) tables type rule range =
                .error .invalidHistoryIntervalSpecification := by
  intro hagree
  have hinvalid : InvalidLimits (some (25 : WithTop Nat)) (some 23) := by
    intro l hl u hu
    obtain rfl := Option.some.inj hl
    obtain rfl := Option.some.inj hu
    decide
  have hthrows := hagree changedTables .contact (.byId 14) ⟨.timePoint 25, .timePoint 23⟩
    changedContact changedVersions rfl chain_changed ⟨_, rfl, rfl⟩ (by decide) hinvalid
  have hok : getDataHistory (.byKey Version.validFrom) changedTables .contact (.byId 14)
      ⟨.timePoint 25, .timePoint 23⟩ = .ok ⟨140, [⟨141, 21, none⟩], some 27⟩ := by rfl
  rw [hok] at hthrows
  cases hthrows

end LibFred.RegistrableObject
