import LibFred.RegistrableObject.Contact.UpdateRaises
import LibFred.RegistrableObject.Contact.Verification.CancelByVersions

/-! The requests for the final states of the manual verification, which are cancelled. -/
namespace LibFred.RegistrableObject.Contact

open Sql
open LibFred.Db (Database Timestamp)
open LibFred.ObjectState (ObjectStateRequest Requests CancelObjectStateRequestId cancelCurrent
  getObjectStateIdMap stateIdMap)

variable {db : Database} {id : Nat} {o : Db.ObjectRegistry}

/-- The id of the state of contacts that has the name. -/
def contactStateId (db : Database) (state : String) : Option Nat :=
  ((db.enumObjectStates.select fun eos =>
    objectTypeId .contact ∈ eos.types ∧ eos.name = state).getLast?).map (·.id)

/-- A request for one of the states, which has begun, has not ended and was not cancelled yet. -/
def CurrentRequest (db : Database) (id : Nat) (states : List String)
    (r : ObjectStateRequest Timestamp) : Prop :=
  (r.current db.now).holds ∧ r.objectId = id ∧ ∃ state ∈ states, contactStateId db state = some r.stateId

instance (db : Database) (id : Nat) (states : List String) :
    DecidablePred (CurrentRequest db id states) :=
  fun r => inferInstanceAs (Decidable ((r.current db.now).holds ∧ r.objectId = id ∧
    ∃ state ∈ states, contactStateId db state = some r.stateId))

/-- The requests with the current ones for the states cancelled. -/
def cancelled (db : Database) (id : Nat) (states : List String) : Requests Timestamp where
  objectStateRequest := db.requests.objectStateRequest.update (CurrentRequest db id states)
    (ObjectStateRequest.cancel db.now) (ObjectStateRequest.key_cancel db.now)
  idSeq := db.requests.idSeq

theorem not_current_cancel {now : Timestamp} {r : ObjectStateRequest Timestamp} :
    ¬ ((r.cancel now).current now).holds := by
  simp [ObjectStateRequest.current, ObjectStateRequest.cancel]

theorem cancelled_of_none {states : List String}
    (h : ∀ r ∈ db.requests.objectStateRequest, ¬ CurrentRequest db id states r) :
    cancelled db id states = db.requests := by
  have htable := (Table.update_eq_self_iff (ObjectStateRequest.key_cancel db.now)).mpr
    fun r hr hcurrent => absurd hcurrent (h r hr)
  rw [cancelled, htable]

theorem currentRequest_append {states states' : List String} {r : ObjectStateRequest Timestamp} :
    CurrentRequest db id (states ++ states') r ↔
      CurrentRequest db id states r ∨ CurrentRequest db id states' r := by
  simp only [CurrentRequest, List.mem_append, or_and_right, exists_or, and_or_left]

/-- What was cancelled is not current when the other states are cancelled. -/
theorem cancelled_cancelled {states states' : List String} :
    cancelled { db with requests := cancelled db id states } id states' =
      cancelled db id (states ++ states') := by
  refine congrArg (Requests.mk · _) ((Table.update_update _ ?_).trans (Table.update_congr _ ?_))
  · exact fun r h => not_current_cancel h.1
  · exact fun r _ => currentRequest_append.symm

theorem stateIdMap_singleton (db : Database) {state : String} (hsorted : [state].Pairwise (· < ·)) :
    stateIdMap (stateRegistry db) ⟨[state], hsorted⟩ (objectTypeId .contact) =
      ((contactStateId db state).map (state, ·)).toList := by
  simp only [stateIdMap, List.filterMap_cons, List.filterMap_nil, contactStateId, stateRegistry]
  cases (db.enumObjectStates.select fun eos =>
    objectTypeId .contact ∈ eos.types ∧ eos.name = state).getLast? <;> rfl

/-- A state that has no id is reported. -/
theorem run_getObjectStateIdMap_unknown {state : String} (hsorted : [state].Pairwise (· < ·))
    {requests : Requests Timestamp} (hstate : contactStateId db state = none) :
    ∃ text, (getObjectStateIdMap (stateRegistry db) ⟨[state], hsorted⟩ (objectTypeId .contact)).run
      requests = .error (.stateNotFound text) requests := by
  have hmap := stateIdMap_singleton db hsorted
  rw [hstate, Option.map_none, Option.toList_none] at hmap
  unfold getObjectStateIdMap
  rw [hmap]
  refine ⟨_, run_bind_of_error (run_raiseIf_of_pos ⟨Nat.one_pos, ?_⟩)⟩
  simp

theorem run_getObjectStateIdMap_known {state : String} {stateId : Nat}
    {hsorted : [state].Pairwise (· < ·)} {requests : Requests Timestamp}
    (hstate : contactStateId db state = some stateId) :
    (getObjectStateIdMap (stateRegistry db) ⟨[state], hsorted⟩ (objectTypeId .contact)).run requests =
      .ok [(state, stateId)] requests := by
  have hmap := stateIdMap_singleton db hsorted
  rw [hstate, Option.map_some, Option.toList_some] at hmap
  unfold getObjectStateIdMap
  rw [hmap]
  exact run_bind_of_ok (run_raiseIf_of_neg fun h => absurd h.1 (lt_irrefl 1))

theorem run_cancelUnknownState {state : String} {hsorted : [state].Pairwise (· < ·)}
    (ho : db.objectRegistry.lookup id = some o) (htype : o.type = .contact)
    (hstate : contactStateId db state = none) :
    ∃ text, (CancelObjectStateRequestId.exec (stateRegistry db) db.now ⟨id, ⟨[state], hsorted⟩⟩).run
      db.requests = .error (.stateNotFound text) db.requests := by
  have hobject := lookup_stateRegistry ho
  rw [htype] at hobject
  obtain ⟨text, hrun⟩ := run_getObjectStateIdMap_unknown hsorted hstate
  simp only [CancelObjectStateRequestId.exec, hobject]
  exact ⟨text, run_bind_of_error hrun⟩

theorem currentRequest_singleton {state : String} {stateId : Nat} {r : ObjectStateRequest Timestamp}
    (hstate : contactStateId db state = some stateId) :
    (r.current db.now).holds ∧ r.objectId = id ∧ r.stateId ∈ [(state, stateId)].map Prod.snd ↔
      CurrentRequest db id [state] r := by
  simp [CurrentRequest, hstate, eq_comm]

theorem run_cancelCurrent_state {state : String} {stateId : Nat}
    (hstate : contactStateId db state = some stateId) :
    (cancelCurrent db.now fun r => r.objectId = id ∧ r.stateId ∈ [(state, stateId)].map Prod.snd).run
        db.requests = .ok (db.requests.objectStateRequest.select (CurrentRequest db id [state]))
          (cancelled db id [state]) := by
  have hselect : (db.requests.objectStateRequest.select fun r => (r.current db.now).holds ∧
      r.objectId = id ∧ r.stateId ∈ [(state, stateId)].map Prod.snd) =
        db.requests.objectStateRequest.select (CurrentRequest db id [state]) :=
    List.filter_congr fun r _ => decide_eq_decide.mpr (currentRequest_singleton hstate)
  rw [← hselect]
  exact congrArg (EStateM.Result.ok _ <| Requests.mk · _)
    (Table.update_congr _ fun r _ => currentRequest_singleton hstate)

/-- The current requests for a state are cancelled; it is reported when there are none. -/
theorem run_cancelKnownState {state : String} {stateId : Nat} {hsorted : [state].Pairwise (· < ·)}
    (ho : db.objectRegistry.lookup id = some o) (htype : o.type = .contact)
    (hstate : contactStateId db state = some stateId) :
    (CancelObjectStateRequestId.exec (stateRegistry db) db.now ⟨id, ⟨[state], hsorted⟩⟩).run
        db.requests = .ok () (cancelled db id [state]) ∨
      (∃ text, (CancelObjectStateRequestId.exec (stateRegistry db) db.now ⟨id, ⟨[state], hsorted⟩⟩).run
        db.requests = .error (.stateNotFound text) (cancelled db id [state])) ∧
        ∀ r ∈ db.requests.objectStateRequest, ¬ CurrentRequest db id [state] r := by
  have hobject := lookup_stateRegistry ho
  rw [htype] at hobject
  simp only [CancelObjectStateRequestId.exec, hobject]
  rw [run_bind_of_ok (run_getObjectStateIdMap_known hstate),
    run_bind_of_ok (run_raiseIf_of_neg (List.cons_ne_nil _ _)), run_bind_of_ok (run_cancelCurrent_state hstate)]
  have hstateId : ∀ r ∈ db.requests.objectStateRequest.select (CurrentRequest db id [state]),
      r.stateId = stateId := by
    intro r hr
    have hcurrent := (currentRequest_singleton hstate).mpr (Table.mem_select.mp hr).2
    exact List.mem_singleton.mp hcurrent.2.2
  cases hselect : db.requests.objectStateRequest.select (CurrentRequest db id [state]) with
  | nil =>
    right
    refine ⟨⟨_, run_raiseIf_of_pos (.inl Nat.one_pos)⟩, fun r hr hcurrent => ?_⟩
    have hmem := Table.mem_select.mpr ⟨hr, hcurrent⟩
    rw [hselect] at hmem
    cases hmem
  | cons r rs =>
    left
    rw [hselect] at hstateId
    refine run_raiseIf_of_neg ?_
    rintro (hlength | hstates)
    · simp at hlength
    · refine hstates (Finset.ext fun n => ?_)
      rw [List.mem_toFinset, List.mem_toFinset, List.mem_map]
      constructor
      · rintro ⟨r', hr', rfl⟩
        exact List.mem_singleton.mpr (hstateId r' hr')
      · intro hn
        exact ⟨r, List.mem_cons_self,
          (hstateId r List.mem_cons_self).trans (List.mem_singleton.mp hn).symm⟩

/-- A state is cancelled of a contact; nothing is done when it was not requested. -/
theorem run_cancelState_eq {state : String} (ho : db.objectRegistry.lookup id = some o)
    (htype : o.type = .contact) :
    (cancelState id state).run db = .ok () { db with requests := cancelled db id [state] } := by
  simp only [cancelState, EStateM.run]
  cases hstate : contactStateId db state with
  | none =>
    have hnone : cancelled db id [state] = db.requests :=
      cancelled_of_none fun r _ hcurrent => by
        obtain ⟨-, -, state', hmem, hid⟩ := hcurrent
        rw [List.mem_singleton.mp hmem, hstate] at hid
        cases hid
    obtain ⟨text, hrun⟩ := run_cancelUnknownState ho htype hstate
    rw [EStateM.run] at hrun
    rw [hrun, hnone]
  | some stateId =>
    obtain hrun | ⟨⟨text, hrun⟩, hnone⟩ := run_cancelKnownState ho htype hstate
    · rw [EStateM.run] at hrun
      rw [hrun]
    · rw [EStateM.run] at hrun
      rw [hrun, cancelled_of_none hnone]

theorem run_cancelFinalStates_eq (ho : db.objectRegistry.lookup id = some o)
    (htype : o.type = .contact) : (cancelFinalStates id).run db =
      .ok () { db with requests := cancelled db id finalStates.names } := by
  refine run_bind_eq_ok.mpr ⟨_, _, run_cancelState_eq ho htype, ?_⟩
  have hkept : ({ db with requests := cancelled db id ["contactFailedManualVerification"] } :
      Database).objectRegistry.lookup id = some o := ho
  refine (run_cancelState_eq hkept htype).trans ?_
  rw [cancelled_cancelled]
  rfl

/-- Both states at once are cancelled of any object that is registered. -/
theorem run_cancelFinalStatesAtOnce (ho : db.objectRegistry.lookup id = some o) :
    ∃ db', (cancelFinalStatesAtOnce id).run db = .ok true db' := by
  simp only [cancelFinalStatesAtOnce, EStateM.run]
  split
  · exact ⟨_, rfl⟩
  · exact ⟨_, rfl⟩
  · rename_i e requests hne hrun
    obtain ⟨text, rfl⟩ := cancelRequest_raises
      (isSome_lookup_stateRegistry (Option.isSome_of_eq_some ho)) (List.cons_ne_nil _ _) ⟨requests, hrun⟩
    exact absurd rfl (hne text)

end LibFred.RegistrableObject.Contact
