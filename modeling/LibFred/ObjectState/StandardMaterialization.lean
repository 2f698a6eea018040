import LibFred.ObjectState.StateMaterialization

/-! An update_object_states that closes and opens rows and does nothing else. -/
namespace LibFred.ObjectState

open Sql
open LibFred.RegistrableObject (ObjectState)

variable {T : Type} {s : Tables T}

/-- The sequence of the ids. -/
def UpdateObjectStates.Standard.nextId (s : Tables T) : Nat := ((s.objectState.rows.map (·.id)).max?.getD 0) + 1

theorem UpdateObjectStates.Standard.id_lt_nextId {os : ObjectState T} (h : os ∈ s.objectState) : os.id < nextId s :=
  Nat.lt_succ_of_le (List.le_max?_getD_of_mem (List.mem_map.mpr ⟨os, h, rfl⟩))

variable [LinearOrder T] {cat : Catalog} {now : T} {objectId : Nat} {eos : EnumObjectState}

instance (now : T) (objectId x : Nat) (s : Tables T) : Decidable (Requested now objectId x s) :=
  inferInstanceAs (Decidable (∃ osr ∈ s.requests.objectStateRequest.rows, osr.objectId = objectId ∧
    osr.stateId = x ∧ (osr.current now).holds))

namespace UpdateObjectStates.Standard

/-- Rows of manual states of the object that are not requested. -/
def Lapsed (cat : Catalog) (now : T) (objectId : Nat) (s : Tables T) (os : ObjectState T) : Prop :=
  os.objectId = objectId ∧ (∃ eos ∈ cat.enumObjectStates.rows, eos.id = os.stateId ∧ eos.manual) ∧
    ¬ Requested now objectId os.stateId s

instance : DecidablePred (Lapsed cat now objectId s) := fun os => by
  unfold Lapsed
  infer_instance

def ended (cat : Catalog) (now : T) (objectId : Nat) (s : Tables T) : Table (ObjectState T) :=
  s.objectState.update (Lapsed cat now objectId s) (close now) fun os => by
    unfold close
    split <;> rfl

/-- The manual states that are requested and have no open row. -/
def beginning (cat : Catalog) (now : T) (objectId : Nat) (s : Tables T) : List EnumObjectState :=
  cat.enumObjectStates.select fun eos => eos.manual ∧ Requested now objectId eos.id s ∧
    ¬ ∃ os ∈ (s.objectState.select fun os => os.objectId = objectId ∧ os.stateId = eos.id),
      os.validTo = none

def begun (cat : Catalog) (now : T) (objectId : Nat) (s : Tables T) : List (ObjectState T) :=
  (beginning cat now objectId s).mapIdx fun i eos => ⟨nextId s + i, objectId, eos.id, now, none⟩

theorem mem_begun {os : ObjectState T} :
    os ∈ begun cat now objectId s ↔ ∃ i, ∃ h : i < (beginning cat now objectId s).length,
      ⟨nextId s + i, objectId, (beginning cat now objectId s)[i].id, now, none⟩ = os :=
  List.mem_mapIdx

theorem begun_nodup : ((begun cat now objectId s).map (·.id)).Nodup := by
  have hrange : (begun cat now objectId s).map (·.id) =
      List.range' (nextId s) (beginning cat now objectId s).length := by
    refine List.ext_getElem (by simp [begun]) fun i _ _ => ?_
    simp [begun]
  exact hrange ▸ List.nodup_range'

theorem exists_insertAll_begun (cat : Catalog) (now : T) (objectId : Nat) (s : Tables T) :
    ∃ t, (ended cat now objectId s).insertAll? (begun cat now objectId s) = some t := by
  refine Table.exists_insertAll? (fun os hos os' hos' => ?_) begun_nodup
  obtain ⟨i, -, rfl⟩ := mem_begun.mp hos'
  obtain ⟨os₀, hos₀, rfl⟩ := (Table.mem_update _).mp hos
  have hkey : Keyed.key (if Lapsed cat now objectId s os₀ then close now os₀ else os₀) = os₀.id := by
    unfold close
    split
    · split <;> rfl
    · rfl
  rw [hkey]
  exact ((id_lt_nextId hos₀).trans_le (Nat.le_add_right _ _)).ne

def run (cat : Catalog) (now : T) (objectId : Nat) (s : Tables T) : Table (ObjectState T) :=
  ((ended cat now objectId s).insertAll? (begun cat now objectId s)).getD s.objectState

theorem rows_run : (run cat now objectId s).rows =
    (ended cat now objectId s).rows ++ begun cat now objectId s := by
  obtain ⟨t, ht⟩ := exists_insertAll_begun cat now objectId s
  rw [run, ht, Option.getD_some, Table.rows_of_insertAll? ht]

/-- Of one state there is one new row at most. -/
theorem filter_begun (now : T) (objectId : Nat) (s : Tables T) (heos : eos ∈ cat.enumObjectStates) :
    (∃ id, eos ∈ beginning cat now objectId s ∧
      ((begun cat now objectId s).filter fun os => os.objectId = objectId ∧ os.stateId = eos.id) =
        [⟨id, objectId, eos.id, now, none⟩]) ∨
    (eos ∉ beginning cat now objectId s ∧
      ((begun cat now objectId s).filter fun os => os.objectId = objectId ∧ os.stateId = eos.id) = []) := by
  have hcat : ∀ eos' ∈ beginning cat now objectId s, eos' ∈ cat.enumObjectStates :=
    fun eos' h => (Table.mem_select.mp h).1
  have hnodup : (beginning cat now objectId s).Nodup := cat.enumObjectStates.nodup_rows.filter _
  by_cases hmem : eos ∈ beginning cat now objectId s
  · obtain ⟨i, hi, hget⟩ := List.getElem_of_mem hmem
    refine .inl ⟨nextId s + i, hmem, ?_⟩
    rw [← List.filterMap_eq_filter, filterMap_eq_singleton (List.Nodup.of_map _ begun_nodup)]
    refine ⟨_, mem_begun.mpr ⟨i, hi, rfl⟩, by simp [hget, Option.guard], fun os hos hsome => ?_⟩
    obtain ⟨j, hj, rfl⟩ := mem_begun.mp hos
    have hid : (beginning cat now objectId s)[j].id = eos.id := by
      by_contra hne
      simp [Option.guard, hne] at hsome
    have heq := Table.eq_of_key_eq (hcat _ (List.getElem_mem hj)) heos hid
    obtain rfl : j = i := (List.Nodup.getElem_inj_iff hnodup).mp (heq.trans hget.symm)
    rfl
  · refine .inr ⟨hmem, List.filter_eq_nil_iff.mpr fun os hos hp => hmem ?_⟩
    obtain ⟨j, hj, rfl⟩ := mem_begun.mp hos
    have hid : (beginning cat now objectId s)[j].id = eos.id := by simpa using hp
    rw [← Table.eq_of_key_eq (hcat _ (List.getElem_mem hj)) heos hid]
    exact List.getElem_mem hj

theorem filter_ended (heos : eos ∈ cat.enumObjectStates) (hm : eos.manual) :
    ((ended cat now objectId s).rows.filter fun os => os.objectId = objectId ∧ os.stateId = eos.id) =
      if Requested now objectId eos.id s then
        s.objectState.select fun os => os.objectId = objectId ∧ os.stateId = eos.id
      else (s.objectState.select fun os => os.objectId = objectId ∧ os.stateId = eos.id).map
        fun os => if os.validTo = none then { os with validTo := some now } else os := by
  have hlapsed : ∀ os : ObjectState T, os.objectId = objectId ∧ os.stateId = eos.id →
      (Lapsed cat now objectId s os ↔ ¬ Requested now objectId eos.id s) := by
    rintro os ⟨hobject, hstate⟩
    rw [Lapsed, hstate]
    exact ⟨fun h => h.2.2, fun h => ⟨hobject, ⟨eos, heos, rfl, hm⟩, h⟩⟩
  have hstays : ∀ os : ObjectState T,
      (decide ((if Lapsed cat now objectId s os then close now os else os).objectId = objectId ∧
        (if Lapsed cat now objectId s os then close now os else os).stateId = eos.id)) =
        decide (os.objectId = objectId ∧ os.stateId = eos.id) := by
    intro os
    unfold close
    split
    · split <;> rfl
    · rfl
  rw [ended, Table.update, List.filter_map]
  have hcomp : ((fun os : ObjectState T => decide (os.objectId = objectId ∧ os.stateId = eos.id)) ∘
      fun os => if Lapsed cat now objectId s os then close now os else os) =
        fun os => decide (os.objectId = objectId ∧ os.stateId = eos.id) := funext hstays
  rw [hcomp]
  split
  · rename_i hr
    refine (List.map_congr_left fun os hos => ?_).trans (List.map_id _)
    rw [if_neg fun h => (hlapsed os (by simpa using (List.mem_filter.mp hos).2)).mp h hr]
    rfl
  · rename_i hr
    refine List.map_congr_left fun os hos => ?_
    rw [if_pos ((hlapsed os (by simpa using (List.mem_filter.mp hos).2)).mpr hr), close]

end UpdateObjectStates.Standard

open UpdateObjectStates.Standard in
def UpdateObjectStates.standard : UpdateObjectStates T where
  run := Standard.run
  rows cat now objectId s eos heos hm := by
    have hrows : ((Standard.run cat now objectId s).select fun os =>
        os.objectId = objectId ∧ os.stateId = eos.id) =
        ((ended cat now objectId s).rows.filter fun os =>
          os.objectId = objectId ∧ os.stateId = eos.id) ++
        ((begun cat now objectId s).filter fun os =>
          os.objectId = objectId ∧ os.stateId = eos.id) := by
      rw [Table.select, rows_run, List.filter_append]
    rw [hrows, filter_ended heos hm]
    rcases filter_begun now objectId s heos with
      ⟨id, hmem, hbegun⟩ | ⟨hmem, hbegun⟩
    · obtain ⟨-, -, hr, hopen⟩ := Table.mem_select.mp hmem
      refine ⟨id, true, by simpa using hr, ?_⟩
      rw [hbegun, if_pos hr, materialized, if_pos rfl, if_neg hopen]
      exact List.perm_append_comm
    · by_cases hr : Requested now objectId eos.id s
      · have hopen : ∃ os ∈ (s.objectState.select fun os =>
            os.objectId = objectId ∧ os.stateId = eos.id), os.validTo = none := by
          by_contra hnone
          exact hmem (Table.mem_select.mpr ⟨heos, hm, hr, hnone⟩)
        refine ⟨0, true, by simpa using hr, ?_⟩
        rw [hbegun, if_pos hr, materialized, if_pos rfl, if_pos hopen, List.append_nil]
      · refine ⟨0, false, by simpa using hr, ?_⟩
        rw [hbegun, if_neg hr, materialized, if_neg Bool.false_ne_true, List.append_nil]

end LibFred.ObjectState
