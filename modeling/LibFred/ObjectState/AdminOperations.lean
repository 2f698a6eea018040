import LibFred.ObjectState.RequestTimes
import LibFred.ObjectState.StateMaterialization

/-! The operations on an object in the course of time, and what they keep. -/
namespace LibFred.ObjectState

open Sql
open LibFred.RegistrableObject (ObjectState)

variable {T α : Type}

theorem run_onRequests_eq {x : Exec T α} {s : Tables T} :
    (onRequests x).run s = match x.run s.requests with
      | .ok a requests => .ok a { s with requests := requests }
      | .error e requests => .error (.objectStateRequest e) { s with requests := requests } := rfl

theorem run_onRequests {x : Exec T α} {s : Tables T} {a : α} {requests : Requests T}
    (h : x.run s.requests = .ok a requests) :
    (onRequests x).run s = .ok a { s with requests := requests } := by
  rw [run_onRequests_eq, h]

theorem run_onRequests_eq_ok {x : Exec T α} {s s' : Tables T} {a : α} :
    (onRequests x).run s = .ok a s' ↔
      ∃ requests, x.run s.requests = .ok a requests ∧ { s with requests := requests } = s' := by
  rw [run_onRequests_eq]
  cases x.run s.requests with
  | ok a' requests =>
    constructor
    · intro h
      cases h
      exact ⟨requests, rfl, rfl⟩
    · rintro ⟨_, h, rfl⟩
      cases h
      rfl
  | error e requests => simp

theorem preserves_onRequests {P : Tables T → Prop} {P' : Requests T → Prop} {x : Exec T α}
    (hx : Preserves P' x) (hfrom : ∀ s, P s → P' s.requests)
    (hto : ∀ s requests, P s → P' requests → P { s with requests := requests }) :
    Preserves P (onRequests x) := by
  intro s hs
  obtain ⟨hok, herror⟩ := hx s.requests (hfrom s hs)
  rw [run_onRequests_eq]
  cases hrun : x.run s.requests with
  | ok a requests =>
    refine ⟨fun a' s' h => ?_, nofun⟩
    cases h
    exact hto s requests hs (hok a requests hrun)
  | error e requests =>
    refine ⟨nofun, fun e' s' h => ?_⟩
    cases h
    exact hto s requests hs (herror e requests hrun)

theorem readOnly_getServerBlockedId {cat : Catalog} {e : AdminException T} :
    ReadOnly (getServerBlockedId cat e) := by
  unfold getServerBlockedId
  split
  · exact readOnly_pure
  · exact readOnly_throw

theorem run_getServerBlockedId {cat : Catalog} {sb : EnumObjectState} {s : Tables T}
    (hnames : cat.UniqueNames) (hsb : sb ∈ cat.enumObjectStates) (hname : sb.name = "serverBlocked") {e : AdminException T} :
    (getServerBlockedId cat e).run s = .ok sb.id s := by
  have honly : cat.enumObjectStates.select (·.name = "serverBlocked") = [sb] :=
    Table.select_eq_of_unique hnames hsb hname
  unfold getServerBlockedId
  rw [honly]
  rfl

theorem readOnly_getBlockingStatusDescList {cat : Catalog} {lang : String} :
    ReadOnly (getBlockingStatusDescList cat lang : AdminExec T _) :=
  readOnly_bind readOnly_raiseIf fun _ => readOnly_pure

theorem CreateAdminObjectBlockRequestId.readOnly_checkAdministrativeBlockStatusOnly {cat : Catalog}
    {op : CreateAdminObjectBlockRequestId T} :
    ReadOnly (op.checkAdministrativeBlockStatusOnly cat) := by
  refine readOnly_bind readOnly_raiseIf fun _ => ?_
  exact readOnly_bind readOnly_getBlockingStatusDescList fun _ => readOnly_raiseIf

theorem CreateAdminObjectStateRestoreRequestId.readOnly_getReason
    {op : CreateAdminObjectStateRestoreRequestId} : ReadOnly (op.getReason : AdminExec T String) := by
  unfold getReason
  split
  · exact readOnly_pure
  · exact readOnly_throw

variable [LinearOrder T] {cat : Catalog} {now last : T} {s s' : Tables T}
  {t : Table (ObjectState T)} {objectId : Nat}

/-- The requests are proper and the states are those of `t`. -/
def Kept (cat : Catalog) (now : T) (t : Table (ObjectState T)) (s : Tables T) : Prop :=
  Proper cat.toRegistry now s.requests ∧ s.objectState = t

theorem preserves_kept {x : Exec T α} (hx : Preserves (Proper cat.toRegistry now) x) :
    Preserves (Kept cat now t) (onRequests x) :=
  preserves_onRequests hx (fun _ h => h.1) fun _ _ h h' => ⟨h', h.2⟩

theorem ClearObjectStateRequestId.proper_exec {op : ClearObjectStateRequestId} {reg : Registry} :
    Preserves (Proper reg now) (op.exec reg now : Exec T (List Nat)) :=
  preserves_bind proper_cancelCurrent fun _ => readOnly_pure.preserves

theorem CancelObjectStateRequestId.proper_exec {op : CancelObjectStateRequestId} {reg : Registry} :
    Preserves (Proper reg now) (op.exec reg now : Exec T Unit) := by
  unfold exec
  split
  · exact readOnly_throw.preserves
  · refine preserves_bind readOnly_getObjectStateIdMap.preserves fun _ => ?_
    refine preserves_bind readOnly_raiseIf.preserves fun _ => ?_
    exact preserves_bind proper_cancelCurrent fun _ => readOnly_raiseIf.preserves

namespace CreateAdminObjectBlockRequestId

variable {op : CreateAdminObjectBlockRequestId T}

theorem readOnly_checkServerBlockedStatusAbsent :
    ReadOnly (op.checkServerBlockedStatusAbsent cat now) := by
  refine readOnly_bind readOnly_getServerBlockedId fun _ => ?_
  exact readOnly_bind readOnly_get fun _ => readOnly_raiseIf

theorem kept_insertReason : Preserves (Kept cat now t) (op.insertReason cat now) := by
  refine fun s hs => ⟨fun a s' h => ?_, nofun⟩
  cases h
  exact hs

theorem kept_exec (hnames : cat.UniqueNames) : Preserves (Kept cat now t) (op.exec cat now) := by
  refine preserves_bind readOnly_checkAdministrativeBlockStatusOnly.preserves fun _ => ?_
  refine preserves_bind readOnly_checkServerBlockedStatusAbsent.preserves fun _ => ?_
  refine preserves_bind (preserves_kept ClearObjectStateRequestId.proper_exec) fun _ => ?_
  refine preserves_bind (preserves_kept (CreateObjectStateRequestId.proper_exec hnames)) fun _ => ?_
  exact preserves_bind kept_insertReason fun _ => readOnly_pure.preserves

end CreateAdminObjectBlockRequestId

namespace ClearAdminObjectStateRequestId

variable {op : ClearAdminObjectStateRequestId}

theorem kept_exec : Preserves (Kept cat now t) (op.exec cat now) := by
  refine preserves_bind (preserves_kept ClearObjectStateRequestId.proper_exec) fun _ => ?_
  refine preserves_bind readOnly_raiseIf.preserves fun _ => ?_
  refine preserves_bind readOnly_get.preserves fun _ => ?_
  split
  · exact readOnly_throw.preserves
  · refine fun s hs => ⟨fun a s' h => ?_, nofun⟩
    cases h
    exact hs

end ClearAdminObjectStateRequestId

namespace CreateAdminObjectStateRestoreRequestId

variable {op : CreateAdminObjectStateRestoreRequestId} {desc : DescendingOrder T}

theorem readOnly_checkServerBlockedStatusPresent :
    ReadOnly (op.checkServerBlockedStatusPresent cat now) := by
  refine readOnly_bind readOnly_getServerBlockedId fun _ => ?_
  exact readOnly_bind readOnly_get fun _ => readOnly_bind readOnly_raiseIf fun _ => readOnly_pure

theorem kept_exec (hnames : cat.UniqueNames) :
    Preserves (Kept cat now t) (op.exec cat desc now) := by
  refine preserves_bind readOnly_checkServerBlockedStatusPresent.preserves fun _ => ?_
  refine preserves_bind readOnly_get.preserves fun _ => ?_
  refine preserves_bind readOnly_getReason.preserves fun _ => ?_
  refine preserves_bind ClearAdminObjectStateRequestId.kept_exec fun _ => ?_
  unfold createPrevious
  split
  · exact readOnly_pure.preserves
  · refine preserves_bind (preserves_kept (CreateObjectStateRequestId.proper_exec hnames)) fun _ => ?_
    exact readOnly_pure.preserves

end CreateAdminObjectStateRestoreRequestId

/-- An operation that writes requests. -/
inductive AdminOperation (T : Type) [LinearOrder T]
  | request (op : Operation T)
  | block (op : CreateAdminObjectBlockRequestId T)
  | clear (op : ClearAdminObjectStateRequestId)
  | restore (desc : DescendingOrder T) (op : CreateAdminObjectStateRestoreRequestId)

/-- The tables after the operation; `keep` tells what a caller makes of an exception. -/
def AdminOperation.next (cat : Catalog) (now : T) (keep : Bool) (s : Tables T) :
    AdminOperation T → Tables T
  | request op => { s with requests := Call.next ⟨cat.toRegistry, now, keep, op⟩ s.requests }
  | block op => outcome keep (op.exec cat now) s
  | clear op => outcome keep (op.exec cat now) s
  | restore desc op => outcome keep (op.exec cat desc now) s

theorem AdminOperation.kept_next (hnames : cat.UniqueNames) (keep : Bool)
    (operation : AdminOperation T) (h : Kept cat now t s) :
    Kept cat now t (operation.next cat now keep s) := by
  cases operation with
  | request op =>
    refine ⟨?_, h.2⟩
    cases op with
    | create op => exact (CreateObjectStateRequestId.proper_exec hnames).outcome keep h.1
    | cancel op => exact CancelObjectStateRequestId.proper_exec.outcome keep h.1
    | clear op => exact ClearObjectStateRequestId.proper_exec.outcome keep h.1
  | block op => exact (CreateAdminObjectBlockRequestId.kept_exec hnames).outcome keep h
  | clear op => exact ClearAdminObjectStateRequestId.kept_exec.outcome keep h
  | restore desc op => exact (CreateAdminObjectStateRestoreRequestId.kept_exec hnames).outcome keep h

variable {procedure : UpdateObjectStates T}

/-- The tables that operations and materialisations for the object reach from empty ones by `now`. -/
inductive History (procedure : UpdateObjectStates T) (cat : Catalog) (objectId : Nat) :
    T → Tables T → Prop
  | empty {now : T} {s : Tables T} (hrequests : s.requests.objectStateRequest = ∅)
      (hstates : s.objectState = ∅) : History procedure cat objectId now s
  | call {last now : T} {s : Tables T} (operation : AdminOperation T) (keep : Bool)
      (h : History procedure cat objectId last s) (hle : last ≤ now) :
      History procedure cat objectId now (operation.next cat now keep s)
  | perform {last now : T} {s : Tables T} (h : History procedure cat objectId last s)
      (hle : last ≤ now) :
      History procedure cat objectId now (procedure.perform cat now objectId s)

/-- What every history keeps. -/
structure Sound (cat : Catalog) (objectId : Nat) (now : T) (s : Tables T) : Prop where
  proper : Proper cat.toRegistry now s.requests
  past : Past cat objectId now s
  ofType : ∀ eos ∈ cat.enumObjectStates, eos.manual → ∀ os, OfState objectId eos.id s os →
    cat.OfType objectId eos.id

theorem Sound.mono (h : Sound cat objectId last s) (hle : last ≤ now) : Sound cat objectId now s :=
  ⟨h.proper.mono hle, h.past.mono hle, h.ofType⟩

theorem Sound.of_kept (h : Sound cat objectId now s) (hkept : Kept cat now s.objectState s') :
    Sound cat objectId now s' := by
  have hrows : ∀ {x os}, OfState objectId x s' os ↔ OfState objectId x s os := by
    simp [OfState, hkept.2]
  exact ⟨hkept.1, fun eos heos hm os hos => h.past eos heos hm os (hrows.mp hos),
    fun eos heos hm os hos => h.ofType eos heos hm os (hrows.mp hos)⟩

theorem Sound.kept (h : Sound cat objectId now s) : Kept cat now s.objectState s := ⟨h.proper, rfl⟩

theorem Sound.call (h : Sound cat objectId now s) (hnames : cat.UniqueNames) {keep : Bool}
    {operation : AdminOperation T} : Sound cat objectId now (operation.next cat now keep s) :=
  h.of_kept (AdminOperation.kept_next hnames keep operation h.kept)

theorem Sound.perform (h : Sound cat objectId last s) (hle : last ≤ now) :
    Sound cat objectId now (procedure.perform cat now objectId s) := by
  refine ⟨h.proper.mono hle, h.past.perform hle, fun eos heos hm os hos => ?_⟩
  rcases perform_row heos hm hos with hos | ⟨os₀, hos₀, -⟩ | ⟨hr, -⟩
  · exact h.ofType eos heos hm os hos
  · exact h.ofType eos heos hm os₀ hos₀
  · obtain ⟨r, hr, hobject, hstate, -⟩ := hr
    have htype := h.proper.ofType r hr
    rwa [hobject, hstate] at htype

theorem History.sound (hnames : cat.UniqueNames) (h : History procedure cat objectId now s) :
    Sound cat objectId now s := by
  induction h with
  | empty hrequests hstates =>
    refine ⟨⟨?_, ?_, ?_, ?_⟩, fun eos _ _ os hos => ?_, fun eos _ _ os hos => ?_⟩
    · simp [hrequests]
    · simp [hrequests]
    · simp [hrequests]
    · simp [hrequests]
    · simp [OfState, hstates] at hos
    · simp [OfState, hstates] at hos
  | call operation keep _ hle ih => exact (ih.mono hle).call hnames
  | perform _ hle ih => exact ih.perform hle

end LibFred.ObjectState
