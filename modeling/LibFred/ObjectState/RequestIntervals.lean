import LibFred.ObjectState.ObjectStateRequest

/-! The intervals in which the requests of one object for one state are effective. -/
namespace LibFred.ObjectState

open Sql

variable {T : Type} {reg : Registry} {now : T} {s s' : Requests T}

theorem readOnly_checkValidStatus {objectType : Int} {statusList : StatusList} :
    ReadOnly (checkValidStatus reg objectType statusList : Exec T Unit) := readOnly_raiseIf

theorem readOnly_getObjectStateIdMap {objectType : Int} {statusList : StatusList} :
    ReadOnly (getObjectStateIdMap reg statusList objectType : Exec T _) :=
  readOnly_bind readOnly_raiseIf fun _ => readOnly_pure

theorem getObjectStateIdMap_ok {objectType : Int} {statusList : StatusList}
    {found : List (String × Nat)}
    (h : (getObjectStateIdMap reg statusList objectType).run s = .ok found s') :
    found = stateIdMap reg statusList objectType ∧ s = s' := by
  refine ⟨?_, readOnly_getObjectStateIdMap.ok h⟩
  obtain ⟨_, _, -, h⟩ := run_bind_eq_ok.mp h
  exact (run_pure_eq_ok.mp h).1.symm

/-- Different names have different ids, since a row of enum_object_states has one name. -/
theorem stateIdMap_nodup (reg : Registry) (statusList : StatusList) (objectType : Int) :
    ((stateIdMap reg statusList objectType).map Prod.snd).Nodup := by
  rw [stateIdMap, List.Nodup, List.pairwise_map, List.pairwise_filterMap]
  refine statusList.sorted.imp fun {name name'} hlt p hp q hq hid => ?_
  obtain ⟨eos, heos, rfl⟩ := Option.map_eq_some_iff.mp hp
  obtain ⟨eos', heos', rfl⟩ := Option.map_eq_some_iff.mp hq
  obtain ⟨hmem, -, rfl⟩ := Table.mem_select.mp (List.mem_of_getLast? heos)
  obtain ⟨hmem', -, rfl⟩ := Table.mem_select.mp (List.mem_of_getLast? heos')
  rw [Table.eq_of_key_eq hmem hmem' hid] at hlt
  exact String.lt_irrefl _ hlt

theorem CreateObjectStateRequestId.insert_ok {op : CreateObjectStateRequestId T} {ids : List Nat}
    {id : Nat} (h : (op.insert now ids).run s = .ok id s') :
    s.objectStateRequest.insertAll? (op.newRequests now s.idSeq ids) =
      some s'.objectStateRequest := by
  simp only [CreateObjectStateRequestId.insert, EStateM.run] at h
  split at h
  · cases h
    assumption
  · cases h

theorem CreateObjectStateRequestId.atomic_insert {op : CreateObjectStateRequestId T}
    {ids : List Nat} : Atomic (op.insert now ids) := by
  intro s e s' h
  simp only [CreateObjectStateRequestId.insert, EStateM.run] at h
  split at h
  · cases h
  · cases h
    rfl

/-- The ids of the states that the call requests. -/
def CreateObjectStateRequestId.stateIds (reg : Registry) (op : CreateObjectStateRequestId T) : List Nat :=
  match reg.objectRegistry.lookup op.objectId with
  | none => []
  | some object => (stateIdMap reg op.statusList object.type).map Prod.snd

theorem CreateObjectStateRequestId.stateIds_nodup {op : CreateObjectStateRequestId T} : (op.stateIds reg).Nodup := by
  unfold stateIds
  split
  · exact List.nodup_nil
  · exact stateIdMap_nodup _ _ _

variable [LinearOrder T]

/-- The instants at which the request is effective. -/
def ObjectStateRequest.effective (r : ObjectStateRequest T) : Set T :=
  Span.ico r.validFrom r.objValidTo

/-- Requests for one state of one object are never effective together. -/
def Apart (a b : ObjectStateRequest T) : Prop :=
  a.objectId = b.objectId → a.stateId = b.stateId → Disjoint a.effective b.effective

def Disjunct (s : Requests T) : Prop := s.objectStateRequest.Pairwise Apart

theorem Apart.symm {a b : ObjectStateRequest T} (h : Apart a b) : Apart b a :=
  fun hobject hstate => (h hobject.symm hstate.symm).symm

/-- The new interval begins before the old one and ends after it. -/
def Encloses (newValidFrom : T) (newValidTo : Option T) (objValidFrom : T)
    (objValidTo : Option T) : Prop :=
  newValidFrom < objValidFrom ∧ ∃ u ∈ objValidTo, objValidFrom < u ∧ ∀ v ∈ newValidTo, u < v

/-- The query for invalid states misses the enclosed intervals and no other. -/
theorem disjoint_iff_of_not_invalidState {objValidFrom newValidFrom : T}
    {objValidTo newValidTo : Option T}
    (h : ¬ (invalidState objValidFrom objValidTo newValidFrom newValidTo).holds) :
    Disjoint (Span.ico objValidFrom objValidTo) (Span.ico newValidFrom newValidTo) ↔
      ¬ Encloses newValidFrom newValidTo objValidFrom objValidTo := by
  rw [← not_iff_not, not_not, Span.not_disjoint_ico_iff]
  cases objValidTo <;> cases newValidTo <;> simp_all [invalidState, Encloses] <;> grind

namespace CreateObjectStateRequestId

variable {op : CreateObjectStateRequestId T} {ids : List Nat} {id : Nat} {handle : String}

theorem readOnly_checkTime : ReadOnly (op.checkTime now) := by
  unfold checkTime
  split
  · exact readOnly_raiseIf
  · exact readOnly_raiseIf
  · exact readOnly_pure

theorem readOnly_checkOverlay : ReadOnly (op.checkOverlay now ids) := by
  refine readOnly_bind readOnly_raiseIf fun _ => readOnly_bind readOnly_get fun s => ?_
  split
  · exact readOnly_pure
  · split <;> exact readOnly_throw

theorem checkOverlay_ok {u : Unit} (h : (op.checkOverlay now ids).run s = .ok u s') :
    ∀ r ∈ s.objectStateRequest, r.objectId = op.objectId → r.stateId ∈ ids →
      ¬ (invalidState r.validFrom r.objValidTo (op.newValidFrom now) op.validTo).holds := by
  obtain ⟨_, _, hraise, h⟩ := run_bind_eq_ok.mp h
  obtain ⟨-, rfl⟩ := run_raiseIf_eq_ok.mp hraise
  obtain ⟨_, _, hget, h⟩ := run_bind_eq_ok.mp h
  obtain ⟨rfl, rfl⟩ := run_get_eq_ok.mp hget
  split at h
  · rename_i hempty
    intro r hr hobject hstate hinvalid
    refine List.not_mem_nil (a := r) ?_
    rw [← hempty]
    exact Table.mem_select.mpr ⟨hr, hobject, hstate, hinvalid⟩
  · split at h <;> cases h

theorem atomic_exec : Atomic (op.exec reg now) := by
  refine atomic_bind readOnly_checkTime fun _ => ?_
  split
  · exact readOnly_throw.atomic
  · refine atomic_bind readOnly_checkValidStatus fun _ => ?_
    refine atomic_bind readOnly_getObjectStateIdMap fun _ => ?_
    exact atomic_bind readOnly_checkOverlay fun _ => atomic_insert.map

/-- The statements of a call that succeeded; only the last one writes. -/
theorem exec_statements {a : String × Nat} (h : (op.exec reg now).run s = .ok a s') :
    ∃ object id, reg.objectRegistry.lookup op.objectId = some object ∧
      op.stateIds reg = (stateIdMap reg op.statusList object.type).map Prod.snd ∧
      (op.checkTime now).run s = .ok () s ∧
      (checkValidStatus reg object.type op.statusList).run s = .ok () s ∧
      (op.checkOverlay now (op.stateIds reg)).run s = .ok () s ∧
      (op.insert now (op.stateIds reg)).run s = .ok id s' := by
  obtain ⟨_, _, htime, h⟩ := run_bind_eq_ok.mp h
  obtain rfl := readOnly_checkTime.ok htime
  split at h
  · cases h
  · rename_i object hlookup
    have hids : op.stateIds reg = (stateIdMap reg op.statusList object.type).map Prod.snd := by
      rw [stateIds, hlookup]
    obtain ⟨_, _, hstatus, h⟩ := run_bind_eq_ok.mp h
    obtain rfl := readOnly_checkValidStatus.ok hstatus
    obtain ⟨_, _, hmap, h⟩ := run_bind_eq_ok.mp h
    obtain ⟨rfl, rfl⟩ := getObjectStateIdMap_ok hmap
    rw [← hids] at h
    obtain ⟨_, _, hoverlay, h⟩ := run_bind_eq_ok.mp h
    obtain rfl := readOnly_checkOverlay.ok hoverlay
    obtain ⟨id, _, hinsert, h⟩ := run_bind_eq_ok.mp h
    obtain ⟨-, rfl⟩ := run_pure_eq_ok.mp h
    exact ⟨object, id, hlookup, hids, htime, hstatus, hoverlay, hinsert⟩

theorem exec_ok (h : (op.exec reg now).run s = .ok (handle, id) s') :
    (∀ r ∈ s.objectStateRequest, r.objectId = op.objectId → r.stateId ∈ op.stateIds reg →
      ¬ (invalidState r.validFrom r.objValidTo (op.newValidFrom now) op.validTo).holds) ∧
    s.objectStateRequest.insertAll? (op.newRequests now s.idSeq (op.stateIds reg)) =
      some s'.objectStateRequest := by
  obtain ⟨_, _, -, -, -, -, hoverlay, hinsert⟩ := exec_statements h
  exact ⟨checkOverlay_ok hoverlay, insert_ok hinsert⟩

/-- The rows of the INSERT concern different states. -/
theorem apart_newRequests {idSeq : Nat} (hids : ids.Nodup) :
    ∀ a ∈ op.newRequests now idSeq ids, ∀ b ∈ op.newRequests now idSeq ids,
      a.id ≠ b.id → Apart a b := by
  intro a ha b hb hne _ hstate
  obtain ⟨i, hi, rfl⟩ := List.mem_mapIdx.mp ha
  obtain ⟨j, hj, rfl⟩ := List.mem_mapIdx.mp hb
  have hij : i = j := (List.Nodup.getElem_inj_iff hids).mp hstate
  exact absurd (congrArg (idSeq + ·) hij) hne

/-- Some request for one of the states begins after the new one and ends before it. -/
def Overarches (reg : Registry) (now : T) (op : CreateObjectStateRequestId T)
    (s : Requests T) : Prop :=
  ∃ r ∈ s.objectStateRequest, r.objectId = op.objectId ∧ r.stateId ∈ op.stateIds reg ∧
    Encloses (op.newValidFrom now) op.validTo r.validFrom r.objValidTo

theorem disjunct_iff (hs : Disjunct s) (h : (op.exec reg now).run s = .ok (handle, id) s') :
    Disjunct s' ↔ ¬ op.Overarches reg now s := by
  obtain ⟨hvalid, hinsert⟩ := exec_ok h
  have hmem := fun r => Table.mem_of_insertAll? (r := r) hinsert
  have hdisjoint : ∀ r ∈ s.objectStateRequest, r.objectId = op.objectId →
      r.stateId ∈ op.stateIds reg →
      (Disjoint r.effective (Span.ico (op.newValidFrom now) op.validTo) ↔
        ¬ Encloses (op.newValidFrom now) op.validTo r.validFrom r.objValidTo) :=
    fun r hr hobject hstate => disjoint_iff_of_not_invalidState (hvalid r hr hobject hstate)
  constructor
  · rintro hs' ⟨r, hr, hobject, hstate, hencloses⟩
    obtain ⟨i, hi, hri⟩ := List.getElem_of_mem hstate
    have hnew : op.newRequest now (s.idSeq + i) r.stateId ∈
        op.newRequests now s.idSeq (op.stateIds reg) :=
      List.mem_mapIdx.mpr ⟨i, hi, by rw [hri]⟩
    have hapart := hs' r ((hmem r).mpr (.inl hr)) _ ((hmem _).mpr (.inr hnew))
      (Table.key_ne_of_insertAll? hinsert hr hnew)
    exact (hdisjoint r hr hobject hstate).mp (hapart hobject rfl) hencloses
  · intro hno
    refine hs.add Apart.symm (fun r hr => (hmem r).mp hr) ?_ (apart_newRequests stateIds_nodup)
    intro r hr new hnew hobject hstate
    obtain ⟨i, hi, rfl⟩ := List.mem_mapIdx.mp hnew
    have hlisted : r.stateId ∈ op.stateIds reg := hstate ▸ List.getElem_mem hi
    exact (hdisjoint r hr hobject hlisted).mpr fun h => hno ⟨r, hr, hobject, hlisted, h⟩

end CreateObjectStateRequestId

/-- Cancelation only removes instants. -/
theorem ObjectStateRequest.effective_cancel {r : ObjectStateRequest T}
    (h : (r.current now).holds) : (r.cancel now).effective ⊆ r.effective := by
  refine Span.ico_subset_of_upper fun v hv => ⟨min now v, ?_, min_le_right _ _⟩
  obtain ⟨⟨hcanceled, -⟩, -⟩ : (r.canceled = none ∧ _) ∧ _ := by simpa [current] using h
  simp_all [objValidTo, cancel]

theorem preserves_cancelCurrent {p : ObjectStateRequest T → Prop} [DecidablePred p] :
    Preserves Disjunct (cancelCurrent now p) := by
  refine fun s hs => ⟨fun canceled s' h => ?_, fun e s' h => nomatch h⟩
  cases h
  refine hs.change (S := fun r r' => r'.objectId = r.objectId ∧ r'.stateId = r.stateId ∧
    r'.effective ⊆ r.effective) ?_ ?_
  · intro r' hr'
    obtain ⟨r, hr, rfl⟩ := (Table.mem_update (ObjectStateRequest.key_cancel now)).mp hr'
    split
    · rename_i hp
      exact ⟨r, hr, rfl, rfl, rfl, ObjectStateRequest.effective_cancel hp.1⟩
    · exact ⟨r, hr, rfl, rfl, rfl, subset_rfl⟩
  · intro a a' b b' h ha hb hobject hstate
    rw [ha.1, hb.1] at hobject
    rw [ha.2.1, hb.2.1] at hstate
    exact (h hobject hstate).mono ha.2.2 hb.2.2

theorem CancelObjectStateRequestId.preserves_exec {op : CancelObjectStateRequestId} :
    Preserves Disjunct (op.exec reg now : Exec T Unit) := by
  unfold exec
  split
  · exact readOnly_throw.preserves
  · refine preserves_bind readOnly_getObjectStateIdMap.preserves fun _ => ?_
    refine preserves_bind readOnly_raiseIf.preserves fun _ => ?_
    exact preserves_bind preserves_cancelCurrent fun _ => readOnly_raiseIf.preserves

theorem ClearObjectStateRequestId.preserves_exec {op : ClearObjectStateRequestId} :
    Preserves Disjunct (op.exec reg now : Exec T (List Nat)) :=
  preserves_bind preserves_cancelCurrent fun _ => readOnly_pure.preserves

/-- A create that succeeds does not overarch an older request. -/
def Call.Admissible (c : Call T) (s : Requests T) : Prop :=
  ∀ op, c.op = .create op → (∃ r s', (op.exec c.reg c.now).run s = .ok r s') →
    ¬ op.Overarches c.reg c.now s

theorem disjunct_next {c : Call T} (hc : c.Admissible s) (hs : Disjunct s) :
    Disjunct (c.next s) := by
  rcases c with ⟨reg, now, keep, op | op | op⟩
  · refine CreateObjectStateRequestId.atomic_exec.outcome keep hs fun r s' h => ?_
    exact (CreateObjectStateRequestId.disjunct_iff hs h).mpr (hc op rfl ⟨r, s', h⟩)
  · exact CancelObjectStateRequestId.preserves_exec.outcome keep hs
  · exact ClearObjectStateRequestId.preserves_exec.outcome keep hs

/-- Tables that a run of calls reaches from an empty object_state_request. -/
def Reached (admits : Call T → Requests T → Prop) (s : Requests T) : Prop :=
  Transition.Reachable Call.next admits (·.objectStateRequest = ∅) s

theorem reached_disjunct (h : Reached Call.Admissible s) : Disjunct s := by
  refine h.invariant ?_ fun c s hc hs => disjunct_next hc hs
  intro s he
  simp [Disjunct, he]

/-- Requests stay disjunct in every run whose creates overarch no older request, and the first
one that does and succeeds ends that. -/
theorem reached_disjunct_exactly :
    (∀ s : Requests T, Reached Call.Admissible s → Disjunct s) ∧
    ∀ (s s' : Requests T) reg now op r, Disjunct s →
      (CreateObjectStateRequestId.exec reg now op).run s = .ok r s' →
      (Disjunct s' ↔ ¬ op.Overarches reg now s) :=
  ⟨fun _ h => reached_disjunct h,
    fun _ _ _ _ _ _ hs h => CreateObjectStateRequestId.disjunct_iff hs h⟩

/-- One domain and one state that it may be given by hand. -/
def sampleRegistry : Registry where
  enumObjectStates := ⟨[⟨1, "serverHold", [3], true⟩], by decide⟩
  objectRegistry := ⟨[⟨7, 3, "example.cz"⟩], by decide⟩

def sampleCreate (validFrom validTo : Nat) : CreateObjectStateRequestId Nat where
  objectId := 7
  statusList := ⟨["serverHold"], List.pairwise_singleton _ _⟩
  validFrom := some validFrom
  validTo := some validTo

def sampleCall (validFrom validTo : Nat) : Call Nat :=
  ⟨sampleRegistry, 0, false, .create (sampleCreate validFrom validTo)⟩

instance (newValidFrom : Nat) (newValidTo : Option Nat) (objValidFrom : Nat) (objValidTo : Option Nat) :
    Decidable (Encloses newValidFrom newValidTo objValidFrom objValidTo) :=
  inferInstanceAs (Decidable (_ ∧ _))

theorem admissible_sampleCall {validFrom validTo : Nat} {s : Requests Nat}
    (h : ∀ r ∈ s.objectStateRequest.rows, ¬ Encloses validFrom (some validTo) r.validFrom r.objValidTo) :
    (sampleCall validFrom validTo).Admissible s := by
  rintro op hop - ⟨r, hr, -, -, hencloses⟩
  obtain rfl := Operation.create.inj hop
  exact h r (Table.mem_rows.mpr hr) hencloses

/-- Two requests, of which the first one is effective at 7. -/
def requestedTwice : Requests Nat := (sampleCall 20 30).next ((sampleCall 5 10).next ⟨∅, 1⟩)

/-- The first one is canceled at 7. -/
def canceledAt7 : Requests Nat :=
  (⟨sampleRegistry, 7, false, .cancel ⟨7, (sampleCreate 0 0).statusList⟩⟩ : Call Nat).next requestedTwice

/-- The interval of a request that was canceled may be taken again, but for the time before that. -/
theorem reached_disjunct_exactly_sampleCall :
    (((sampleCall 8 12).next canceledAt7).objectStateRequest.rows.map
      fun r => (r.validFrom, r.validTo, r.canceled)) =
        [(5, some 10, some 7), (20, some 30, none), (8, some 12, none)] ∧
      Disjunct ((sampleCall 8 12).next canceledAt7) := by
  refine ⟨by decide +kernel, reached_disjunct_exactly.1 _ (.step _ (.step _ (.step _ (.step _ (.init rfl)
    (admissible_sampleCall ?_)) (admissible_sampleCall ?_)) nofun) (admissible_sampleCall ?_))⟩
  all_goals decide +kernel

/-- The interval from 3 to 20 is accepted after the one from 5 to 10. -/
theorem not_reached_disjunct :
    ¬ ∀ s : Requests Nat, Reached (fun _ _ => True) s → Disjunct s := by
  intro h
  have hs := h ((sampleCall 3 20).next ((sampleCall 5 10).next ⟨∅, 1⟩))
    (.step _ (.step _ (.init rfl) trivial) trivial)
  have hrows : ((sampleCall 3 20).next ((sampleCall 5 10).next ⟨∅, 1⟩)).objectStateRequest.rows =
      [⟨1, 7, 1, 0, 5, some 10, none⟩, ⟨2, 7, 1, 0, 3, some 20, none⟩] := by rfl
  have hapart := hs ⟨1, 7, 1, 0, 5, some 10, none⟩ (by simp [← Table.mem_rows, hrows])
    ⟨2, 7, 1, 0, 3, some 20, none⟩ (by simp [← Table.mem_rows, hrows]) (by decide) rfl rfl
  refine Set.disjoint_left.mp hapart (show 5 ∈ _ from ?_) ?_ <;>
    simp [ObjectStateRequest.effective, ObjectStateRequest.objValidTo]

end LibFred.ObjectState
