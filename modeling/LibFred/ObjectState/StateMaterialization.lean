import LibFred.ObjectState.AdminObjectBlock

/-! What the materialisation of requests makes of the rows of a manual state. -/
namespace LibFred.ObjectState

open Sql
open LibFred.RegistrableObject (ObjectState)

/-- A row of a state of the object. -/
def OfState {T : Type} (objectId x : Nat) (s : Tables T) (os : ObjectState T) : Prop :=
  os ∈ s.objectState ∧ os.objectId = objectId ∧ os.stateId = x

/-- A row that is still open ends. -/
def close {T : Type} (now : T) (os : ObjectState T) : ObjectState T :=
  if os.validTo = none then { os with validTo := some now } else os

section

variable {T : Type} {now : T} {os : ObjectState T} {s s' : Tables T} {objectId x : Nat}

theorem OfState.congr (h : s'.objectState = s.objectState) :
    OfState objectId x s' os ↔ OfState objectId x s os := by
  rw [OfState, h, OfState]

@[simp] theorem close_validFrom : (close now os).validFrom = os.validFrom := by
  unfold close
  split <;> rfl

theorem close_of_ended (h : os.validTo ≠ none) : close now os = os := if_neg h

theorem close_validTo (h : os.validTo = none) : (close now os).validTo = some now := by
  simp [close, h]

theorem close_ended : (close now os).validTo ≠ none := by
  by_cases h : os.validTo = none
  · simp [close_validTo h]
  · rwa [close_of_ended h]

end

variable {T : Type} [LinearOrder T] {cat : Catalog} {s s' : Tables T} {now last m v : T}
  {objectId x : Nat} {eos : EnumObjectState} {os : ObjectState T} {procedure : UpdateObjectStates T}

theorem stateCurrent_iff :
    stateCurrent now os ↔ os.validFrom ≤ now ∧ ∀ v, os.validTo = some v → now < v := by
  cases h : os.validTo <;> simp [stateCurrent, h]

theorem hasState_iff :
    hasState now objectId x s ↔ ∃ os, OfState objectId x s os ∧ stateCurrent now os := by
  constructor
  · intro h
    obtain ⟨os, hos⟩ := List.exists_mem_of_ne_nil _ h
    obtain ⟨hos, hobject, hstate, hcurrent⟩ := Table.mem_select.mp hos
    exact ⟨os, ⟨hos, hobject, hstate⟩, hcurrent⟩
  · rintro ⟨os, ⟨hos, hobject, hstate⟩, hcurrent⟩
    exact List.ne_nil_of_mem (Table.mem_select.mpr ⟨hos, hobject, hstate, hcurrent⟩)

/-- The state goes on, it begins or it ends. -/
theorem perform_cases (procedure : UpdateObjectStates T) (now : T) (objectId : Nat) (s : Tables T)
    (heos : eos ∈ cat.enumObjectStates) (hm : eos.manual) :
    (Requested now objectId eos.id s ∧ (∃ os, OfState objectId eos.id s os ∧ os.validTo = none) ∧
      ∀ os, OfState objectId eos.id (procedure.perform cat now objectId s) os ↔
        OfState objectId eos.id s os) ∨
    (Requested now objectId eos.id s ∧ (∀ os, OfState objectId eos.id s os → os.validTo ≠ none) ∧
      ∃ new : ObjectState T, new.validFrom = now ∧ new.validTo = none ∧
        ∀ os, OfState objectId eos.id (procedure.perform cat now objectId s) os ↔
          os = new ∨ OfState objectId eos.id s os) ∨
    (¬ Requested now objectId eos.id s ∧
      ∀ os, OfState objectId eos.id (procedure.perform cat now objectId s) os ↔
        ∃ os₀, OfState objectId eos.id s os₀ ∧ close now os₀ = os) := by
  obtain ⟨id, requested, hrequested, hperm⟩ := procedure.rows cat now objectId s eos heos hm
  have hmem : ∀ os, OfState objectId eos.id (procedure.perform cat now objectId s) os ↔
      os ∈ materialized requested now ⟨id, objectId, eos.id, now, none⟩
        (s.objectState.select fun os => os.objectId = objectId ∧ os.stateId = eos.id) := by
    intro os
    rw [← hperm.mem_iff, Table.mem_select]
    rfl
  have hselect : ∀ os, os ∈ (s.objectState.select fun os =>
      os.objectId = objectId ∧ os.stateId = eos.id) ↔ OfState objectId eos.id s os :=
    fun os => Table.mem_select
  cases requested with
  | false =>
    refine .inr (.inr ⟨fun hr => Bool.false_ne_true (hrequested.mpr hr), fun os => ?_⟩)
    rw [hmem, materialized, if_neg Bool.false_ne_true, List.mem_map]
    exact exists_congr fun os₀ => and_congr_left fun _ => hselect os₀
  | true =>
    have hr := hrequested.mp rfl
    by_cases hopen : ∃ os, OfState objectId eos.id s os ∧ os.validTo = none
    · refine .inl ⟨hr, hopen, fun os => ?_⟩
      obtain ⟨os₀, hos₀, hnone⟩ := hopen
      rw [hmem, materialized, if_pos rfl, if_pos ⟨os₀, (hselect os₀).mpr hos₀, hnone⟩, hselect]
    · have hnone : ¬ ∃ os ∈ (s.objectState.select fun os =>
          os.objectId = objectId ∧ os.stateId = eos.id), os.validTo = none :=
        fun ⟨os, hos, hto⟩ => hopen ⟨os, (hselect os).mp hos, hto⟩
      refine .inr (.inl ⟨hr, fun os hos hto => hopen ⟨os, hos, hto⟩,
        ⟨id, objectId, eos.id, now, none⟩, rfl, rfl, fun os => ?_⟩)
      rw [hmem, materialized, if_pos rfl, if_neg hnone, List.mem_cons, hselect]

/-- A row was there before, it was closed just now or it begins just now. -/
theorem perform_row (heos : eos ∈ cat.enumObjectStates) (hm : eos.manual)
    (h : OfState objectId eos.id (procedure.perform cat now objectId s) os) :
    OfState objectId eos.id s os ∨
    (∃ os₀, OfState objectId eos.id s os₀ ∧ os₀.validTo = none ∧ os.validFrom = os₀.validFrom ∧
      os.validTo = some now) ∨
    (Requested now objectId eos.id s ∧ os.validFrom = now ∧ os.validTo = none) := by
  rcases perform_cases procedure now objectId s heos hm with
    ⟨-, -, hrows⟩ | ⟨hr, -, new, hfrom, hto, hrows⟩ | ⟨-, hrows⟩
  · exact .inl ((hrows os).mp h)
  · rcases (hrows os).mp h with rfl | h
    · exact .inr (.inr ⟨hr, hfrom, hto⟩)
    · exact .inl h
  · obtain ⟨os₀, hos₀, rfl⟩ := (hrows os).mp h
    by_cases hopen : os₀.validTo = none
    · exact .inr (.inl ⟨os₀, hos₀, hopen, close_validFrom, close_validTo hopen⟩)
    · rw [close_of_ended hopen]
      exact .inl hos₀

/-- No row of a manual state begins or ends after `last`. -/
def Past (cat : Catalog) (objectId : Nat) (last : T) (s : Tables T) : Prop :=
  ∀ eos ∈ cat.enumObjectStates, eos.manual → ∀ os, OfState objectId eos.id s os →
    os.validFrom ≤ last ∧ ∀ v, os.validTo = some v → v ≤ last

theorem Past.mono (h : Past cat objectId last s) (hle : last ≤ now) : Past cat objectId now s :=
  fun eos heos hm os hos => (h eos heos hm os hos).imp (·.trans hle) fun hto v hv =>
    (hto v hv).trans hle

theorem Past.perform (h : Past cat objectId last s) (hle : last ≤ now) :
    Past cat objectId now (procedure.perform cat now objectId s) := by
  intro eos heos hm os hos
  rcases perform_row heos hm hos with hos | ⟨os₀, hos₀, -, hfrom, hto⟩ | ⟨-, hfrom, hto⟩
  · exact h.mono hle eos heos hm os hos
  · rw [hfrom, hto]
    exact ⟨(h.mono hle eos heos hm os₀ hos₀).1, fun v hv => (Option.some.inj hv).ge⟩
  · rw [hfrom, hto]
    exact ⟨le_rfl, nofun⟩

/-- Once its requests are materialised the object has the manual states that are requested. -/
theorem hasState_perform_iff (hpast : Past cat objectId last s) (hle : last ≤ now)
    (heos : eos ∈ cat.enumObjectStates) (hm : eos.manual) :
    hasState now objectId eos.id (procedure.perform cat now objectId s) ↔
      Requested now objectId eos.id s := by
  rw [hasState_iff]
  have hended : ∀ os, OfState objectId eos.id (procedure.perform cat now objectId s) os →
      os.validTo ≠ none → ¬ stateCurrent now os := by
    intro os hos hto hcurrent
    obtain ⟨v, hv⟩ := Option.ne_none_iff_exists'.mp hto
    have hlt : now < v := (stateCurrent_iff.mp hcurrent).2 v hv
    exact absurd hlt (((hpast.perform hle) eos heos hm os hos).2 v hv).not_gt
  have hopen : ∀ os, OfState objectId eos.id (procedure.perform cat now objectId s) os →
      os.validTo = none → stateCurrent now os := by
    intro os hos hto
    refine stateCurrent_iff.mpr ⟨((hpast.perform hle) eos heos hm os hos).1, ?_⟩
    simp [hto]
  rcases perform_cases procedure now objectId s heos hm with
    ⟨hr, ⟨os, hos, hto⟩, hrows⟩ | ⟨hr, -, new, -, hto, hrows⟩ | ⟨hr, hrows⟩
  · exact iff_of_true ⟨os, (hrows os).mpr hos, hopen os ((hrows os).mpr hos) hto⟩ hr
  · have hnew := (hrows new).mpr (.inl rfl)
    exact iff_of_true ⟨new, hnew, hopen new hnew hto⟩ hr
  · refine iff_of_false ?_ hr
    rintro ⟨os, hos, hcurrent⟩
    obtain ⟨os₀, -, rfl⟩ := (hrows os).mp hos
    exact hended _ hos close_ended hcurrent

/-- The row began before `m` and had not ended before it. -/
def Reaches (m : T) (os : ObjectState T) : Prop :=
  os.validFrom < m ∧ ((isNull os.validTo).or (le (some m) os.validTo)).holds

instance (m : T) : DecidablePred (Reaches m) := fun os => by
  unfold Reaches
  infer_instance

theorem reaches_iff : Reaches m os ↔ os.validFrom < m ∧ ∀ v, os.validTo = some v → m ≤ v := by
  cases h : os.validTo <;> simp [Reaches, h]

/-- What is materialised at `m` or later does not change which rows reach `m`. -/
theorem exists_reaches_perform_iff (hle : m ≤ now) (heos : eos ∈ cat.enumObjectStates)
    (hm : eos.manual) :
    (∃ os, OfState objectId eos.id (procedure.perform cat now objectId s) os ∧ Reaches m os) ↔
      ∃ os, OfState objectId eos.id s os ∧ Reaches m os := by
  constructor
  · rintro ⟨os, hos, hreaches⟩
    obtain ⟨hlt, hto⟩ := reaches_iff.mp hreaches
    rcases perform_row heos hm hos with hos | ⟨os₀, hos₀, hopen, hfrom, -⟩ | ⟨-, hfrom, -⟩
    · exact ⟨os, hos, hreaches⟩
    · exact ⟨os₀, hos₀, reaches_iff.mpr ⟨hfrom ▸ hlt, by simp [hopen]⟩⟩
    · exact absurd hlt (hfrom ▸ hle).not_gt
  · rintro ⟨os, hos, hreaches⟩
    obtain ⟨hlt, hto⟩ := reaches_iff.mp hreaches
    rcases perform_cases procedure now objectId s heos hm with
      ⟨-, -, hrows⟩ | ⟨-, -, new, -, -, hrows⟩ | ⟨-, hrows⟩
    · exact ⟨os, (hrows os).mpr hos, hreaches⟩
    · exact ⟨os, (hrows os).mpr (.inr hos), hreaches⟩
    · refine ⟨close now os, (hrows _).mpr ⟨os, hos, rfl⟩, reaches_iff.mpr ?_⟩
      by_cases hopen : os.validTo = none
      · rw [close_validFrom, close_validTo hopen]
        exact ⟨hlt, fun v hv => hle.trans (Option.some.inj hv).le⟩
      · rw [close_of_ended hopen]
        exact ⟨hlt, hto⟩

end LibFred.ObjectState
