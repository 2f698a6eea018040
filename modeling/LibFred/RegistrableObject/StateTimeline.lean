import LibFred.Order.Spell
import LibFred.RegistrableObject.StateHistory
import Mathlib.Algebra.GroupWithZero.Nat
import Mathlib.Algebra.Order.Monoid.Unbundled.WithTop

/-! State histories are exact unless the end of a row hides another row, or a row ends before it
begins. -/
namespace LibFred.RegistrableObject

open Sql Sweep
open LibFred.ObjectState (EnumObjectState)

variable {T : Type} [LinearOrder T] {tables : StateTables T} {type : ObjectType} {w : Window T}
  {t : T} {f : String} {row : StateRow T}

/-- The rows that set a flag of the object. -/
def flagRows (tables : StateTables T) (o : ObjectRegistry T) (f : String) : List (ObjectState T) :=
  tables.objectState.select fun os => os.objectId = o.id ∧ stateName tables o os = some f

/-- The flags that an object of the type has at an instant. -/
def presentFlags (tables : StateTables T) (type : ObjectType) (o : ObjectRegistry T) (t : T) :
    Finset String :=
  type.flags.toFinset.filter fun f =>
    ∃ os ∈ flagRows tables o f, os.validFrom ≤ t ∧ ∀ u ∈ os.validTo, t < u

/-- In the whole interval the last valid record tells the flags of the object. -/
def Exact (tables : StateTables T) (type : ObjectType) (w : Window T) (h : StateHistory T) :
    Prop :=
  ∀ t, w.lookingStart ≤ t → t < w.lookingEnd →
    presence h.timeline t = some (presentFlags tables type w.object t)

/-- The spells of a flag from the lower limit on, of rows that reach into the interval. -/
def spells (tables : StateTables T) (w : Window T) (f : String) : List (Spell T) :=
  ((flagRows tables w.object f).filter fun os =>
    (∀ u ∈ os.validTo, w.lowerLimit ≤ u) ∧ os.validFrom ≤ w.upperLimit).map
      fun os => ⟨max os.validFrom w.lowerLimit, os.validTo⟩

/-- Some row sets a flag on begin, or begins or ends in the interval; or there is nothing to
tell. -/
def Answerable (tables : StateTables T) (type : ObjectType) (w : Window T) : Prop :=
  objectHasStateFlags (stateRows tables w) = true → ∃ row ∈ stateRows tables w,
    row.presentsOnBegin = false ∨ setFlag type.flags row.name ≠ ∅ ∨
      ∃ u ∈ row.validTo, u ≤ w.lookingEnd

theorem mem_stateRows : row ∈ stateRows tables w ↔
    ∃ os ∈ tables.objectState, os.objectId = w.object.id ∧
      (∀ u ∈ os.validTo, w.lowerLimit ≤ u) ∧ os.validFrom ≤ w.upperLimit ∧
      stateRow tables w os = row := by
  simp only [stateRows, List.mem_map, Table.mem_select]
  constructor
  · rintro ⟨os, ⟨hos, hid, hto, hup⟩, rfl⟩
    refine ⟨os, hos, hid, ?_, hup, rfl⟩
    intro u hu
    rw [Option.mem_def.mp hu] at hto
    simpa using hto
  · rintro ⟨os, hos, hid, hto, hup, rfl⟩
    refine ⟨os, ⟨hos, hid, ?_, hup⟩, rfl⟩
    cases hv : os.validTo with
    | none => simp
    | some u => simpa using hto u hv

theorem mem_spells {p : Spell T} : p ∈ spells tables w f ↔
    ∃ row ∈ stateRows tables w, row.name = some f ∧
      p = ⟨max row.validFrom w.lowerLimit, row.validTo⟩ := by
  simp only [spells, flagRows, List.mem_map, List.mem_filter, Table.mem_select, mem_stateRows,
    decide_eq_true_eq]
  constructor
  · rintro ⟨os, ⟨⟨hos, hid, hname⟩, hto, hup⟩, rfl⟩
    exact ⟨stateRow tables w os, ⟨os, hos, hid, hto, hup, rfl⟩, hname, rfl⟩
  · rintro ⟨_, ⟨os, hos, hid, hto, hup, rfl⟩, hname, rfl⟩
    exact ⟨os, ⟨⟨hos, hid, hname⟩, hto, hup⟩, rfl⟩

theorem empty_not_mem_flags : "" ∉ type.flags := by cases type <;> decide

theorem mem_setFlag {name : Option String} :
    f ∈ setFlag type.flags name ↔ f ∈ type.flags ∧ name = some f := by
  rw [setFlag]
  cases name with
  | none =>
    have hempty : "" ∉ type.flags := empty_not_mem_flags
    simp [hempty]
  | some n =>
    by_cases h : n ∈ type.flags
    · simp only [Option.getD_some, if_pos h, Finset.mem_singleton, Option.some.injEq]
      constructor
      · rintro rfl
        exact ⟨h, rfl⟩
      · exact fun hf => hf.2.symm
    · simp only [Option.getD_some, if_neg h, Finset.notMem_empty, Option.some.injEq, false_iff]
      rintro ⟨hf, rfl⟩
      exact h hf

theorem lowerLimit_le_lookingStart : w.lowerLimit ≤ w.lookingStart := by
  unfold Window.lookingStart
  split
  · exact le_of_lt ‹_›
  · exact le_rfl

theorem lookingEnd_le_upperLimit : w.lookingEnd ≤ w.upperLimit := by
  unfold Window.lookingEnd
  cases w.object.erdate with
  | none => exact le_rfl
  | some erdate =>
    dsimp only
    split
    · exact le_of_lt ‹_›
    · exact le_rfl

/-- What has been collected from the rows; their begins are collected before their ends. -/
structure Collects (flags : List String) (lookingEnd : T) (begun ended : List (StateRow T))
    (acc : Collected T) : Prop where
  ascending : Ascending acc.stateChanges
  onBegin : ∀ f, f ∈ acc.recordOnBegin.elim ∅ (·.state) ↔
    ∃ row ∈ begun, row.presentsOnBegin = true ∧ f ∈ setFlag flags row.name
  onBeginFrom : ∀ r ∈ acc.recordOnBegin, ∃ row ∈ begun,
    row.presentsOnBegin = true ∧ row.validFrom = r.validFrom
  gained : ∀ k f, f ∈ (find acc.stateChanges k).gained ↔
    ∃ row ∈ begun, row.presentsOnBegin = false ∧ row.validFrom = k ∧ f ∈ setFlag flags row.name
  lost : ∀ k f, f ∈ (find acc.stateChanges k).lost ↔
    ∃ row ∈ ended, row.validTo = some k ∧ k ≤ lookingEnd ∧ f ∈ setFlag flags row.name
  keys : ∀ k, k ∈ acc.stateChanges.map (·.1) ↔
    (∃ row ∈ begun, row.presentsOnBegin = false ∧ row.validFrom = k) ∨
      ∃ row ∈ ended, row.validTo = some k ∧ k ≤ lookingEnd

variable {flags : List String} {lookingEnd : T} {begun ended rows : List (StateRow T)}
  {acc : Collected T}

theorem Collects.changed (h : Collects flags lookingEnd begun ended acc) :
    acc.stateChanges ≠ [] ↔ (∃ row ∈ begun, row.presentsOnBegin = false) ∨
      ∃ row ∈ ended, ∃ u ∈ row.validTo, u ≤ lookingEnd := by
  have hkey : acc.stateChanges ≠ [] ↔ ∃ k, k ∈ acc.stateChanges.map (·.1) := by
    rw [← not_iff_not, not_not, ← List.map_eq_nil_iff (f := Prod.fst), List.eq_nil_iff_forall_not_mem,
      not_exists]
  rw [hkey]
  simp only [h.keys]
  constructor
  · rintro ⟨k, ⟨row, hrow, hon, -⟩ | ⟨row, hrow, hto, hk⟩⟩
    · exact .inl ⟨row, hrow, hon⟩
    · exact .inr ⟨row, hrow, k, hto, hk⟩
  · rintro (⟨row, hrow, hon⟩ | ⟨row, hrow, k, hto, hk⟩)
    · exact ⟨_, .inl ⟨row, hrow, hon, rfl⟩⟩
    · exact ⟨k, .inr ⟨row, hrow, hto, hk⟩⟩

theorem collects_nil : Collects flags lookingEnd [] [] (⟨none, []⟩ : Collected T) := by
  constructor <;> simp [Ascending, find, Change.none]

theorem collects_collectBegin (h : Collects flags lookingEnd begun ended acc) :
    Collects flags lookingEnd (row :: begun) ended (collectBegin flags acc row) := by
  unfold collectBegin
  by_cases hb : row.presentsOnBegin
  · simp only [hb, if_true]
    constructor
    · exact h.ascending
    · intro f
      simp [h.onBegin, hb, or_comm]
    · intro r hr
      obtain rfl := Option.some.inj hr
      exact ⟨row, by simp, hb, rfl⟩
    · intro k f
      simp [h.gained, hb]
    · exact h.lost
    · simp [h.keys, hb]
  · have hb : row.presentsOnBegin = false := by simpa using hb
    simp only [hb, Bool.false_eq_true, if_false]
    constructor
    · exact ascending_gain h.ascending
    · intro f
      simp [h.onBegin, hb]
    · intro r hr
      obtain ⟨row', hrow', hr'⟩ := h.onBeginFrom r hr
      exact ⟨row', by simp [hrow'], hr'⟩
    · intro k f
      simp [mem_gained_gain h.ascending, h.gained, hb, or_comm]
    · intro k f
      rw [lost_gain h.ascending, h.lost]
    · intro k
      rw [gain, mem_keys_alter, h.keys, ← or_assoc]
      refine or_congr_left ?_
      simp only [List.mem_cons, exists_eq_or_imp, hb, true_and]
      exact or_congr_left eq_comm

theorem collects_collectEnd (h : Collects flags lookingEnd begun ended acc) :
    Collects flags lookingEnd begun (row :: ended) (collectEnd flags lookingEnd acc row) := by
  unfold collectEnd
  cases hto : row.validTo with
  | none =>
    constructor
    · exact h.ascending
    · exact h.onBegin
    · exact h.onBeginFrom
    · exact h.gained
    · intro k f
      simp [h.lost, hto]
    · simp [h.keys, hto]
  | some validTo =>
    by_cases hle : validTo ≤ lookingEnd
    · simp only [hle, if_true]
      constructor
      · exact ascending_lose h.ascending
      · exact h.onBegin
      · exact h.onBeginFrom
      · intro k f
        rw [gained_lose h.ascending, h.gained]
      · intro k f
        rw [mem_lost_lose h.ascending, h.lost]
        simp only [List.mem_cons, exists_eq_or_imp, hto, Option.some.injEq]
        constructor
        · rintro (hf | ⟨rfl, hf⟩)
          · exact .inr hf
          · exact .inl ⟨rfl, hle, hf⟩
        · rintro (⟨rfl, -, hf⟩ | hf)
          · exact .inr ⟨rfl, hf⟩
          · exact .inl hf
      · intro k
        rw [lose, mem_keys_alter, h.keys]
        simp only [List.mem_cons, exists_eq_or_imp, hto, Option.some.injEq]
        constructor
        · rintro (rfl | hbegun | hended)
          · exact .inr (.inl ⟨rfl, hle⟩)
          · exact .inl hbegun
          · exact .inr (.inr hended)
        · rintro (hbegun | ⟨rfl, -⟩ | hended)
          · exact .inr (.inl hbegun)
          · exact .inl rfl
          · exact .inr (.inr hended)
    · simp only [hle, if_false]
      constructor
      · exact h.ascending
      · exact h.onBegin
      · exact h.onBeginFrom
      · exact h.gained
      · intro k f
        rw [h.lost]
        simp only [List.mem_cons, exists_eq_or_imp, hto, Option.some.injEq]
        refine (or_iff_right ?_).symm
        rintro ⟨rfl, hk, -⟩
        exact hle hk
      · intro k
        rw [h.keys]
        simp only [List.mem_cons, exists_eq_or_imp, hto, Option.some.injEq]
        refine or_congr_right (or_iff_right ?_).symm
        rintro ⟨rfl, hk⟩
        exact hle hk

theorem collects_foldl (h : Collects flags lookingEnd begun ended acc) :
    Collects flags lookingEnd (rows.reverse ++ begun) (rows.reverse ++ ended)
      (rows.foldl (fun acc row => collectEnd flags lookingEnd (collectBegin flags acc row) row)
        acc) := by
  induction rows generalizing begun ended acc with
  | nil => exact h
  | cons row rows ih =>
    have hstep : Collects flags lookingEnd (row :: begun) (row :: ended)
        (collectEnd flags lookingEnd (collectBegin flags acc row) row) :=
      collects_collectEnd (collects_collectBegin h)
    have hrow := ih hstep
    simpa using hrow

theorem collects_collect :
    Collects flags lookingEnd rows.reverse rows.reverse (collect flags lookingEnd rows) := by
  have h : Collects flags lookingEnd (rows.reverse ++ []) (rows.reverse ++ [])
      (rows.foldl (fun acc row => collectEnd flags lookingEnd (collectBegin flags acc row) row)
        ⟨none, []⟩) := collects_foldl collects_nil
  simpa [collect] using h

theorem state_eq_empty_of_filter {S : Type} {r : Option (Record S String)}
    (h : r.filter (·.state ≠ ∅) = none) : r.elim ∅ (·.state) = ∅ := by
  cases r with
  | none => rfl
  | some r => simpa using h

theorem timeline_ok_iff {s : T} : (∃ records, timeline s acc = .ok records) ↔
    acc.recordOnBegin.elim ∅ (·.state) ≠ ∅ ∨ acc.stateChanges ≠ [] := by
  unfold timeline
  cases hb : acc.recordOnBegin.filter (·.state ≠ ∅) with
  | some record =>
    obtain ⟨hr, hne⟩ := Option.filter_eq_some_iff.mp hb
    have hne : record.state ≠ ∅ := by simpa using hne
    simp [hr, hne]
  | none =>
    have hempty := state_eq_empty_of_filter hb
    cases hl : acc.stateChanges with
    | nil => simp [hempty]
    | cons p l =>
      simp only [ne_eq, reduceCtorEq, not_false_eq_true, or_true, iff_true]
      split <;> simp

/-- The records tell the state after the changes from the looking start on. -/
theorem presence_timeline {s : T} {records : List (Record T String)}
    (h : Collects flags lookingEnd begun ended acc)
    (hbegin : ∀ row ∈ begun, row.presentsOnBegin = true → row.validFrom ≤ s)
    (hok : timeline s acc = .ok records) (ht : s ≤ t) :
    presence records t =
      some (stateAt (acc.recordOnBegin.elim ∅ (·.state)) acc.stateChanges t) := by
  unfold timeline at hok
  cases hb : acc.recordOnBegin.filter (·.state ≠ ∅) with
  | some record =>
    rw [hb] at hok
    obtain ⟨hr, -⟩ := Option.filter_eq_some_iff.mp hb
    obtain ⟨row, hrow, hon, hfrom⟩ := h.onBeginFrom record hr
    obtain rfl : record :: run record.state acc.stateChanges = records := by simpa using hok
    have hle : record.validFrom ≤ t := hfrom ▸ (hbegin row hrow hon).trans ht
    rw [hr]
    exact presence_run h.ascending hle
  | none =>
    have hasc := h.ascending
    rw [hb] at hok
    rw [state_eq_empty_of_filter hb]
    cases hl : acc.stateChanges with
    | nil => simp [hl] at hok
    | cons p l =>
      obtain ⟨k, c⟩ := p
      rw [hl] at hasc
      by_cases hlt : s < k
      · obtain rfl : ⟨s, ∅⟩ :: run ∅ ((k, c) :: l) = records := by simpa [hl, hlt] using hok
        exact presence_run hasc ht
      · obtain rfl : run ∅ ((k, c) :: l) = records := by simpa [hl, hlt] using hok
        exact presence_run_of_le hasc ((not_lt.mp hlt).trans ht)

theorem presentsOnBegin_iff (h : row ∈ stateRows tables w) :
    row.presentsOnBegin = true ↔ row.validFrom ≤ w.lowerLimit := by
  obtain ⟨os, -, -, -, -, rfl⟩ := mem_stateRows.mp h
  simp [stateRow]

theorem lowerLimit_le_validTo (h : row ∈ stateRows tables w) {u : T} (hu : u ∈ row.validTo) :
    w.lowerLimit ≤ u := by
  obtain ⟨os, -, -, hto, -, rfl⟩ := mem_stateRows.mp h
  exact hto u hu

theorem collects_stateRows
    (sort : Sorting fun a b : StateRow T => decide (a.validFrom < b.validFrom)) :
    Collects flags lookingEnd (stateRows tables w) (stateRows tables w)
      (collect flags lookingEnd (sort.sort (stateRows tables w))) := by
  have h : Collects flags lookingEnd (sort.sort (stateRows tables w)).reverse
      (sort.sort (stateRows tables w)).reverse
      (collect flags lookingEnd (sort.sort (stateRows tables w))) := collects_collect
  have hmem : ∀ row, row ∈ (sort.sort (stateRows tables w)).reverse ↔ row ∈ stateRows tables w :=
    fun row => List.mem_reverse.trans (sort.perm _).mem_iff
  constructor
  · exact h.ascending
  · simpa only [hmem] using h.onBegin
  · simpa only [hmem] using h.onBeginFrom
  · simpa only [hmem] using h.gained
  · simpa only [hmem] using h.lost
  · simpa only [hmem] using h.keys

/-- The state after the changes is what spells with winning ends tell. -/
theorem mem_stateAt_collected
    (h : Collects type.flags w.lookingEnd (stateRows tables w) (stateRows tables w) acc)
    (hs : w.lookingStart ≤ t) (he : t < w.lookingEnd) :
    f ∈ stateAt (acc.recordOnBegin.elim ∅ (·.state)) acc.stateChanges t ↔
      f ∈ type.flags ∧ Spell.Told (spells tables w f) t := by
  have hlow : w.lowerLimit ≤ t := lowerLimit_le_lookingStart.trans hs
  have hlost : ∀ k ≤ t, f ∈ (find acc.stateChanges k).lost ↔
      f ∈ type.flags ∧ ∃ q ∈ spells tables w f, k ∈ q.stop := by
    intro k hk
    simp only [h.lost, mem_setFlag, mem_spells]
    constructor
    · rintro ⟨row, hrow, hto, -, hf, hname⟩
      exact ⟨hf, _, ⟨row, hrow, hname, rfl⟩, hto⟩
    · rintro ⟨hf, _, ⟨row, hrow, hname, rfl⟩, hto⟩
      exact ⟨row, hrow, hto, hk.trans he.le, hf, hname⟩
  rw [mem_stateAt h.ascending]
  constructor
  · rintro (⟨k, hkt, hf, hno⟩ | ⟨hf, hno⟩)
    · obtain ⟨row, hrow, hlate, rfl, hset⟩ := (h.gained k f).mp hf
      obtain ⟨hflag, hname⟩ := mem_setFlag.mp hset
      have hlate : ¬ row.validFrom ≤ w.lowerLimit := by
        rw [← presentsOnBegin_iff hrow, hlate]
        exact Bool.false_ne_true
      have hmax : max row.validFrom w.lowerLimit = row.validFrom :=
        max_eq_left (not_le.mp hlate).le
      refine ⟨hflag, _, mem_spells.mpr ⟨row, hrow, hname, rfl⟩, hmax.trans_le hkt, ?_⟩
      intro q hq u hu hle hut
      exact hno u (hmax ▸ hle) hut ((hlost u hut).mpr ⟨hflag, q, hq, hu⟩)
    · obtain ⟨row, hrow, hon, hset⟩ := (h.onBegin f).mp hf
      obtain ⟨hflag, hname⟩ := mem_setFlag.mp hset
      refine ⟨hflag, _, mem_spells.mpr ⟨row, hrow, hname, rfl⟩, ?_, ?_⟩
      · exact max_le (((presentsOnBegin_iff hrow).mp hon).trans hlow) hlow
      · intro q hq u hu _ hut
        exact hno u hut ((hlost u hut).mpr ⟨hflag, q, hq, hu⟩)
  · rintro ⟨hflag, _, hp, hpt, hno⟩
    obtain ⟨row, hrow, hname, rfl⟩ := mem_spells.mp hp
    have hset : f ∈ setFlag type.flags row.name := mem_setFlag.mpr ⟨hflag, hname⟩
    by_cases hon : row.presentsOnBegin = true
    · have hmax : max row.validFrom w.lowerLimit = w.lowerLimit :=
        max_eq_right ((presentsOnBegin_iff hrow).mp hon)
      refine .inr ⟨(h.onBegin f).mpr ⟨row, hrow, hon, hset⟩, ?_⟩
      intro k hkt hl
      obtain ⟨-, q, hq, hk⟩ := (hlost k hkt).mp hl
      obtain ⟨row', hrow', -, rfl⟩ := mem_spells.mp hq
      exact hno _ hq k hk (hmax.trans_le (lowerLimit_le_validTo hrow' hk)) hkt
    · have hlate : ¬ row.validFrom ≤ w.lowerLimit := by rwa [← presentsOnBegin_iff hrow]
      have hmax : max row.validFrom w.lowerLimit = row.validFrom :=
        max_eq_left (not_le.mp hlate).le
      have hoff : row.presentsOnBegin = false := by simpa using hon
      refine .inl ⟨row.validFrom, hmax ▸ hpt,
        (h.gained _ f).mpr ⟨row, hrow, hoff, rfl, hset⟩, ?_⟩
      intro k hle hkt hl
      obtain ⟨-, q, hq, hk⟩ := (hlost k hkt).mp hl
      exact hno q hq k hk (hmax.trans_le hle) hkt

/-- Spells and rows cover the same instants of the interval. -/
theorem mem_presentFlags (hs : w.lookingStart ≤ t) (he : t < w.lookingEnd) :
    f ∈ presentFlags tables type w.object t ↔
      f ∈ type.flags ∧ ∃ p ∈ spells tables w f, p.Covers t := by
  have hlow : w.lowerLimit ≤ t := lowerLimit_le_lookingStart.trans hs
  have hup : t ≤ w.upperLimit := he.le.trans lookingEnd_le_upperLimit
  simp only [presentFlags, Finset.mem_filter, List.mem_toFinset, spells, List.mem_map,
    List.mem_filter, decide_eq_true_eq]
  refine and_congr_right fun _ => ?_
  constructor
  · rintro ⟨os, hos, hfrom, hto⟩
    refine ⟨_, ⟨os, ⟨hos, ?_, hfrom.trans hup⟩, rfl⟩, max_le hfrom hlow, hto⟩
    intro u hu
    exact hlow.trans (hto u hu).le
  · rintro ⟨_, ⟨os, ⟨hos, -⟩, rfl⟩, hmax, hto⟩
    exact ⟨os, hos, (le_max_left _ _).trans hmax, hto⟩

theorem spells_eq_nil (hnone : objectHasStateFlags (stateRows tables w) = false) :
    spells tables w f = [] := by
  refine List.eq_nil_iff_forall_not_mem.mpr fun p hp => ?_
  obtain ⟨row, hrow, hname, -⟩ := mem_spells.mp hp
  have hany : (stateRows tables w).any (·.name.isSome) = true :=
    List.any_eq_true.mpr ⟨row, hrow, by simp [hname]⟩
  simp [objectHasStateFlags, hany] at hnone

/-- Without flags in the rows the only record tells of none. -/
theorem exact_no_flags (hnone : objectHasStateFlags (stateRows tables w) = false) :
    Exact tables type w ⟨[⟨w.lookingStart, ∅⟩], w.lookingEnd⟩ := by
  intro t hs he
  have hempty : presentFlags tables type w.object t = ∅ := by
    refine Finset.eq_empty_of_forall_notMem fun f hf => ?_
    obtain ⟨-, p, hp, -⟩ := (mem_presentFlags hs he).mp hf
    simp [spells_eq_nil hnone] at hp
  simp [presence, hs, hempty]

/-- The collected records are exact when every flag is told where its spells are. -/
theorem exact_iff_told {records : List (Record T String)}
    (h : Collects type.flags w.lookingEnd (stateRows tables w) (stateRows tables w) acc)
    (hok : timeline w.lookingStart acc = .ok records) :
    Exact tables type w ⟨records, w.lookingEnd⟩ ↔ ∀ f ∈ type.flags, ∀ t, w.lookingStart ≤ t →
      t < w.lookingEnd → (Spell.Told (spells tables w f) t ↔
        ∃ p ∈ spells tables w f, p.Covers t) := by
  have hbegin : ∀ row ∈ stateRows tables w, row.presentsOnBegin = true →
      row.validFrom ≤ w.lookingStart := fun row hrow hon =>
    ((presentsOnBegin_iff hrow).mp hon).trans lowerLimit_le_lookingStart
  constructor
  · intro hexact f hf t hs he
    have hstate := (presence_timeline h hbegin hok hs).symm.trans (hexact t hs he)
    have hmem := mem_stateAt_collected (f := f) h hs he
    rw [Option.some.inj hstate, mem_presentFlags hs he] at hmem
    simpa [hf] using hmem.symm
  · intro htold t hs he
    rw [presence_timeline h hbegin hok hs]
    refine congrArg some (Finset.ext fun f => ?_)
    rw [mem_stateAt_collected h hs he, mem_presentFlags hs he]
    exact and_congr_right fun hf => htold f hf t hs he

theorem timeline_answerable
    (h : Collects type.flags w.lookingEnd (stateRows tables w) (stateRows tables w) acc)
    (hflags : objectHasStateFlags (stateRows tables w) = true) :
    (∃ records, timeline w.lookingStart acc = .ok records) ↔ Answerable tables type w := by
  rw [timeline_ok_iff, h.changed, Answerable]
  have hset : acc.recordOnBegin.elim ∅ (·.state) ≠ ∅ ↔
      ∃ row ∈ stateRows tables w, row.presentsOnBegin = true ∧
        setFlag type.flags row.name ≠ ∅ := by
    simp only [← Finset.nonempty_iff_ne_empty, Finset.Nonempty, h.onBegin]
    grind
  rw [hset]
  constructor
  · rintro (⟨row, hrow, -, hf⟩ | ⟨row, hrow, hon⟩ | ⟨row, hrow, hto⟩) -
    · exact ⟨row, hrow, .inr (.inl hf)⟩
    · exact ⟨row, hrow, .inl hon⟩
    · exact ⟨row, hrow, .inr (.inr hto)⟩
  · intro hans
    obtain ⟨row, hrow, hon | hf | hto⟩ := hans hflags
    · exact .inr (.inl ⟨row, hrow, hon⟩)
    · cases hon : row.presentsOnBegin with
      | true => exact .inl ⟨row, hrow, hon, hf⟩
      | false => exact .inr (.inl ⟨row, hrow, hon⟩)
    · exact .inr (.inr ⟨row, hrow, hto⟩)

variable [OrderTop T] {rule : ObjectIdRule} {range : HistoryInterval T}

theorem getStateHistory_eq
    (sort : Sorting fun a b : StateRow T => decide (a.validFrom < b.validFrom))
    (hw : window tables type rule range = .ok w) :
    getStateHistory sort tables type rule range =
      if objectHasStateFlags (stateRows tables w) then
        (timeline w.lookingStart (collect type.flags w.lookingEnd
          (sort.sort (stateRows tables w)))).map (⟨·, w.lookingEnd⟩)
      else .ok ⟨[⟨w.lookingStart, ∅⟩], w.lookingEnd⟩ := by
  have hsame : objectHasStateFlags (sort.sort (stateRows tables w)) =
      objectHasStateFlags (stateRows tables w) := by
    have hperm := sort.perm (stateRows tables w)
    rw [objectHasStateFlags, objectHasStateFlags, hperm.length_eq, hperm.any_eq]
  rw [getStateHistory, hw]
  simp only [bind, Except.bind, hsame]
  split
  · cases timeline w.lookingStart _ <;> rfl
  · rfl

/-- Of an object and a valid interval an exact history is returned exactly when there is something
to tell and, for every flag, no row's end hides another row and no row is told of that ended
before it began. -/
theorem getStateHistory_exact
    (sort : Sorting fun a b : StateRow T => decide (a.validFrom < b.validFrom))
    (hw : window tables type rule range = .ok w) :
    (∃ h, getStateHistory sort tables type rule range = .ok h ∧ Exact tables type w h) ↔
      Answerable tables type w ∧ ∀ f ∈ type.flags,
        ¬ Spell.Hidden (spells tables w f) w.lookingStart w.lookingEnd ∧
        ¬ Spell.Stale (spells tables w f) w.lookingStart w.lookingEnd := by
  have hc : Collects type.flags w.lookingEnd (stateRows tables w) (stateRows tables w)
      (collect type.flags w.lookingEnd (sort.sort (stateRows tables w))) := collects_stateRows sort
  rw [getStateHistory_eq sort hw]
  cases hflags : objectHasStateFlags (stateRows tables w) with
  | false =>
    simp only [Bool.false_eq_true, if_false]
    constructor
    · intro _
      refine ⟨fun htrue => absurd htrue (by simp [hflags]), fun f _ => ?_⟩
      simp [spells_eq_nil hflags]
    · intro _
      exact ⟨_, rfl, exact_no_flags hflags⟩
  | true =>
    simp only [if_true]
    rw [← timeline_answerable hc hflags]
    simp only [← Spell.told_iff_covered]
    constructor
    · rintro ⟨h, hok, hexact⟩
      cases hrec : timeline w.lookingStart (collect type.flags w.lookingEnd
          (sort.sort (stateRows tables w))) with
      | error e => simp [hrec, Except.map] at hok
      | ok records =>
        obtain rfl : ⟨records, w.lookingEnd⟩ = h := by simpa [hrec, Except.map] using hok
        exact ⟨⟨records, rfl⟩, (exact_iff_told hc hrec).mp hexact⟩
    · rintro ⟨⟨records, hrec⟩, htold⟩
      exact ⟨_, by rw [hrec]; rfl, (exact_iff_told hc hrec).mpr htold⟩

/-- Of one domain the flag serverInzoneManual, from 1 to 5 and from 5 to 9. -/
def touchingTables : StateTables (WithTop Nat) where
  objectTypeId
    | .contact => 1
    | .nsset => 2
    | .domain => 3
    | .keyset => 4
  objectRegistry := ⟨[⟨7, 70, 3, "fred.cz", 0, none⟩], by decide⟩
  objectState := ⟨[⟨1, 7, 6, 1, some 5⟩, ⟨2, 7, 6, 5, some 9⟩], by decide⟩
  enumObjectStates := ⟨[⟨6, "serverInzoneManual", [3], true⟩], by decide⟩
  history := ∅

def touchingWindow : Window (WithTop Nat) := ⟨⟨7, 70, 3, "fred.cz", 0, none⟩, 0, ⊤⟩

theorem getStateHistory_exact_touching :
    (∃ h, getStateHistory (.byKey StateRow.validFrom) touchingTables .domain (.byId 7)
        ⟨.noLimit, .noLimit⟩ = .ok h ∧ Exact touchingTables .domain touchingWindow h) ↔
      Answerable touchingTables .domain touchingWindow ∧ ∀ f ∈ ObjectType.domain.flags,
        ¬ Spell.Hidden (spells touchingTables touchingWindow f) 0 ⊤ ∧
        ¬ Spell.Stale (spells touchingTables touchingWindow f) 0 ⊤ :=
  getStateHistory_exact _ rfl

/-- A flag whose rows touch is lost where the second row begins. -/
theorem not_getStateHistory_exact :
    ¬ ∀ (tables : StateTables (WithTop Nat)) (type : ObjectType) (rule : ObjectIdRule)
      (range : HistoryInterval (WithTop Nat)) (w : Window (WithTop Nat))
      (h : StateHistory (WithTop Nat)), window tables type rule range = .ok w →
        getStateHistory (.byKey StateRow.validFrom) tables type rule range = .ok h →
          Exact tables type w h := by
  intro hexact
  have h := hexact touchingTables .domain (.byId 7) ⟨.noLimit, .noLimit⟩ touchingWindow
    ⟨[⟨0, ∅⟩, ⟨1, {"serverInzoneManual"}⟩, ⟨5, ∅⟩, ⟨9, ∅⟩], ⊤⟩ rfl rfl 5 (by decide) (by decide)
  exact absurd h (by decide)

end LibFred.RegistrableObject
