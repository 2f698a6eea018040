import LibFred.ObjectState.RequestTimes

/-! A request whose interval no other request shares is accepted. -/
namespace LibFred.ObjectState

open Sql

variable {T : Type} [LinearOrder T] {reg : Registry} {now : T} {s s' : Requests T}

/-- No request ends or is canceled before it begins, and the sequence has run past all ids. -/
structure InOrder (s : Requests T) : Prop where
  id_lt : ∀ r ∈ s.objectStateRequest, r.id < s.idSeq
  ends : ∀ r ∈ s.objectStateRequest, ∀ v ∈ r.validTo, r.validFrom ≤ v
  canceled : ∀ r ∈ s.objectStateRequest, ∀ c ∈ r.canceled, r.validFrom ≤ c

theorem inOrder_cancelCurrent {p : ObjectStateRequest T → Prop} [DecidablePred p] :
    Preserves InOrder (cancelCurrent now p) := by
  refine fun s hs => ⟨fun canceled s' h => ?_, fun e s' h => nomatch h⟩
  have hseq : s'.idSeq = s.idSeq := by cases h; rfl
  constructor
  · rw [hseq]
    exact forall_cancelCurrent h hs.id_lt fun r hr _ => hs.id_lt r hr
  · exact forall_cancelCurrent h hs.ends fun r hr _ => hs.ends r hr
  · refine forall_cancelCurrent h hs.canceled fun r _ hle c hc => ?_
    obtain rfl : now = c := Option.some.inj hc
    exact hle

theorem CancelObjectStateRequestId.inOrder_exec {op : CancelObjectStateRequestId} :
    Preserves InOrder (op.exec reg now : Exec T Unit) := by
  unfold exec
  split
  · exact readOnly_throw.preserves
  · refine preserves_bind readOnly_getObjectStateIdMap.preserves fun _ => ?_
    refine preserves_bind readOnly_raiseIf.preserves fun _ => ?_
    exact preserves_bind inOrder_cancelCurrent fun _ => readOnly_raiseIf.preserves

theorem ClearObjectStateRequestId.inOrder_exec {op : ClearObjectStateRequestId} :
    Preserves InOrder (op.exec reg now : Exec T (List Nat)) :=
  preserves_bind inOrder_cancelCurrent fun _ => readOnly_pure.preserves

namespace CreateObjectStateRequestId

variable {op : CreateObjectStateRequestId T} {ids : List Nat}

omit [LinearOrder T] in
theorem insert_error {e : Exception T} (h : (op.insert now ids).run s = .error e s') :
    e = .sqlError := by
  simp only [CreateObjectStateRequestId.insert, EStateM.run] at h
  split at h <;> cases h
  rfl

theorem inOrder_insert (hs : InOrder s) (hin : op.InTurn now) {id : Nat}
    (h : (op.insert now ids).run s = .ok id s') : InOrder s' := by
  constructor
  · rw [insert_idSeq h]
    exact forall_insert h (fun r hr => (hs.id_lt r hr).trans_le (Nat.le_add_right _ _))
      fun i hi => Nat.add_lt_add_left hi _
  · exact forall_insert h hs.ends fun i hi => hin
  · refine forall_insert h hs.canceled fun i hi c hc => ?_
    cases hc

theorem inOrder_exec (hs : InOrder s) {a : String × Nat} (h : (op.exec reg now).run s = .ok a s') :
    InOrder s' := by
  obtain ⟨object, id, -, -, htime, -, -, hinsert⟩ := exec_statements h
  exact inOrder_insert hs (checkTime_ok htime) hinsert

end CreateObjectStateRequestId

theorem inOrder_next (c : Call T) (hs : InOrder s) : InOrder (c.next s) := by
  rcases c with ⟨reg, now, keep, op | op | op⟩
  · exact CreateObjectStateRequestId.atomic_exec.outcome keep hs fun _ _ h =>
      CreateObjectStateRequestId.inOrder_exec hs h
  · exact CancelObjectStateRequestId.inOrder_exec.outcome keep hs
  · exact ClearObjectStateRequestId.inOrder_exec.outcome keep hs

theorem reached_inOrder {admits : Call T → Requests T → Prop} (h : Reached admits s) : InOrder s := by
  refine h.invariant ?_ fun c s _ hs => inOrder_next c hs
  intro s he
  constructor <;> intro r hr <;> simp [he] at hr

theorem InOrder.validFrom_le (hs : InOrder s) {r : ObjectStateRequest T}
    (hr : r ∈ s.objectStateRequest) : ∀ u ∈ r.objValidTo, r.validFrom ≤ u := by
  intro u hu
  rcases mem_or_mem_of_mem_least hu with hu | hu
  · exact hs.canceled r hr u hu
  · exact hs.ends r hr u hu

/-- The query for invalid states finds, besides requests that end before they begin, only such as
share an instant with the new one. -/
theorem not_invalidState_of_disjoint {objValidFrom newValidFrom : T}
    {objValidTo newValidTo : Option T} (hord : ∀ u ∈ objValidTo, objValidFrom ≤ u)
    (hne : ∀ v ∈ newValidTo, newValidFrom < v)
    (hd : Disjoint (Span.ico objValidFrom objValidTo) (Span.ico newValidFrom newValidTo)) :
    ¬ (invalidState objValidFrom objValidTo newValidFrom newValidTo).holds := by
  intro hinvalid
  refine Span.not_disjoint_ico_iff.mpr ?_ hd
  cases objValidTo <;> cases newValidTo <;> simp_all [invalidState] <;> grind

/-- The new request shares no instant with a request of the object for one of the states. -/
def CreateObjectStateRequestId.Free (reg : Registry) (now : T) (op : CreateObjectStateRequestId T)
    (s : Requests T) : Prop :=
  ∀ r ∈ s.objectStateRequest, r.objectId = op.objectId → r.stateId ∈ op.stateIds reg →
    Disjoint r.effective (Span.ico (op.newValidFrom now) op.validTo)

/-- The new interval has an instant. -/
def CreateObjectStateRequestId.Nonempty (now : T) (op : CreateObjectStateRequestId T) : Prop :=
  ∀ v ∈ op.validTo, op.newValidFrom now < v

namespace CreateObjectStateRequestId

variable {op : CreateObjectStateRequestId T} {ids : List Nat} {object : ObjectRegistry}

theorem not_invalidState (hs : InOrder s) (hne : op.Nonempty now) (hfree : op.Free reg now s) :
    ∀ r ∈ s.objectStateRequest, r.objectId = op.objectId → r.stateId ∈ op.stateIds reg →
      ¬ (invalidState r.validFrom r.objValidTo (op.newValidFrom now) op.validTo).holds :=
  fun r hr hobject hstate =>
    not_invalidState_of_disjoint (hs.validFrom_le hr) hne (hfree r hr hobject hstate)

/-- The errors that tell of a wrong or taken interval. -/
def IsRejection : Exception T → Prop
  | .outOfTurn _ _ => True
  | .overlayedTimeIntervals _ _ _ _ _ => True
  | _ => False

theorem exec_not_rejected (hs : InOrder s) (hne : op.Nonempty now) (hfree : op.Free reg now s)
    {e : Exception T} (h : (op.exec reg now).run s = .error e s') : ¬ IsRejection e := by
  unfold exec at h
  rw [run_bind_of_ok (run_checkTime fun v hv => (hne v hv).le)] at h
  split at h
  · cases h
    exact id
  · rename_i object hlookup
    have hids : op.stateIds reg = (stateIdMap reg op.statusList object.type).map Prod.snd := by
      rw [stateIds, hlookup]
    rcases run_bind_eq_error.mp h with h | ⟨_, _, hstatus, h⟩
    · obtain ⟨-, rfl, -⟩ := run_raiseIf_eq_error.mp h
      exact id
    · obtain rfl := readOnly_checkValidStatus.ok hstatus
      rcases run_bind_eq_error.mp h with h | ⟨_, _, hmap, h⟩
      · rcases run_bind_eq_error.mp h with h | ⟨_, _, -, h⟩
        · obtain ⟨-, rfl, -⟩ := run_raiseIf_eq_error.mp h
          exact id
        · cases h
      · obtain ⟨rfl, rfl⟩ := getObjectStateIdMap_ok hmap
        rw [← hids] at h
        rcases run_bind_eq_error.mp h with h | ⟨_, _, hoverlay, h⟩
        · rw [run_checkOverlay (not_invalidState hs hne hfree)] at h
          obtain ⟨-, rfl, -⟩ := run_raiseIf_eq_error.mp h
          exact id
        · rcases run_bind_eq_error.mp h with h | ⟨_, _, -, h⟩
          · rw [insert_error h]
            exact id
          · cases h

omit [LinearOrder T] in
theorem mem_newRequests_stateIds {idSeq : Nat} {r : ObjectStateRequest T} :
    r ∈ op.newRequests now idSeq ids ↔ ∃ i stateId, ids[i]? = some stateId ∧
      r = ⟨idSeq + i, op.objectId, stateId, now, op.validFrom.getD now, op.validTo, none⟩ := by
  rw [mem_newRequests]
  constructor
  · rintro ⟨i, hi, rfl⟩
    exact ⟨i, ids[i], List.getElem?_eq_getElem hi, rfl⟩
  · rintro ⟨i, stateId, hstate, rfl⟩
    obtain ⟨hi, rfl⟩ := List.getElem?_eq_some_iff.mp hstate
    exact ⟨i, hi, rfl⟩

end CreateObjectStateRequestId

/-- Whatever requests were created, canceled and cleared, a new one is accepted for manual states of
a known object if its interval is not empty and no request for those shares an instant with it; then
one is stored for each of the states. For no states or object at all is such a request turned away
for its interval. -/
theorem request_accepted (s : Requests T) (reg : Registry) (now : T)
    (op : CreateObjectStateRequestId T) (hs : Reached (fun _ _ => True) s)
    (hne : op.Nonempty now) (hfree : op.Free reg now s) :
    (∀ e s', (op.exec reg now).run s = .error e s' → ¬ CreateObjectStateRequestId.IsRejection e) ∧
    ∀ object, reg.UniqueNames → reg.objectRegistry.lookup op.objectId = some object →
      reg.Accepts object.type op.statusList → op.statusList.names ≠ [] →
        (∀ stateId, stateId ∈ op.stateIds reg ↔ ∃ eos ∈ reg.enumObjectStates, eos.id = stateId ∧
          object.type ∈ eos.types ∧ eos.name ∈ op.statusList.names) ∧
        ∃ a s', (op.exec reg now).run s = .ok a s' ∧ ∀ r, r ∈ s'.objectStateRequest ↔
          r ∈ s.objectStateRequest ∨ ∃ i stateId, (op.stateIds reg)[i]? = some stateId ∧
            r = ⟨s.idSeq + i, op.objectId, stateId, now, op.validFrom.getD now, op.validTo, none⟩ := by
  have hord : InOrder s := reached_inOrder hs
  refine ⟨fun e s' h => CreateObjectStateRequestId.exec_not_rejected hord hne hfree h, ?_⟩
  intro object hnames hlookup haccepts hlisted
  have hids : op.stateIds reg = (stateIdMap reg op.statusList object.type).map Prod.snd := by
    rw [CreateObjectStateRequestId.stateIds, hlookup]
  refine ⟨fun stateId => ?_, ?_⟩
  · rw [hids, mem_stateIdMap_snd hnames]
  · simp only [← CreateObjectStateRequestId.mem_newRequests_stateIds]
    exact CreateObjectStateRequestId.exec_accepted hnames hord.id_lt hlookup haccepts hlisted
      (fun v hv => (hne v hv).le) (CreateObjectStateRequestId.not_invalidState hord hne hfree)

/-- The interval from 10 to 20 is accepted after the one from 5 to 10. -/
theorem request_accepted_sample : ∃ a s',
    ((sampleCreate 10 20).exec sampleRegistry 0).run ((sampleCall 5 10).next ⟨∅, 1⟩) = .ok a s' ∧
      ⟨2, 7, 1, 0, 10, some 20, none⟩ ∈ s'.objectStateRequest := by
  have hrows : ((sampleCall 5 10).next ⟨∅, 1⟩).objectStateRequest.rows =
      [⟨1, 7, 1, 0, 5, some 10, none⟩] := by rfl
  have hnames : sampleRegistry.UniqueNames := by
    intro a ha b hb _
    obtain rfl := List.mem_singleton.mp ha
    exact (List.mem_singleton.mp hb).symm
  have haccepts : sampleRegistry.Accepts 3 (sampleCreate 10 20).statusList := by
    intro name hname
    obtain rfl := List.mem_singleton.mp hname
    exact ⟨_, List.mem_cons_self, rfl, by decide, rfl⟩
  obtain ⟨-, a, s', hrun, hmem⟩ := (request_accepted _ sampleRegistry 0 (sampleCreate 10 20)
    (.step (sampleCall 5 10) (.init rfl) trivial) (fun v hv => by cases hv; decide)
    (fun r hr _ _ => by
      rw [← Table.mem_rows, hrows] at hr
      obtain rfl := List.mem_singleton.mp hr
      exact Span.disjoint_ico_of_before (u := 10) rfl le_rfl)).2
    ⟨7, 3, "example.cz"⟩ hnames rfl haccepts (by decide)
  exact ⟨a, s', hrun, (hmem _).mpr (.inr ⟨0, 1, by rfl, by rfl⟩)⟩

end LibFred.ObjectState
