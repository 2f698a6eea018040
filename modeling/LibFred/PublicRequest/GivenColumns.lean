import LibFred.PublicRequest.UpdateOutcome
import LibFred.PublicRequest.UpdateQuery

/-! When an update with valid values succeeds and sets what is given. -/
namespace LibFred.PublicRequest

open Sql

variable {ι : Type} {db : Session} {types : PublicRequestTypeIface ι} {logRequestId : Option Nat}
  {objectId id : Nat} {s s' : Requests} {type : ι} {a b : Request} {op : UpdatePublicRequest}

/-- The row has the given values with what a status brings along, and otherwise those from before;
an action that is given wins over the one of the status. -/
structure HasGiven (db : Session) (types : PublicRequestTypeIface ι) (logRequestId : Option Nat)
    (type : ι) (op : UpdatePublicRequest) (a b : Request) : Prop where
  id : b.id = a.id
  requestType : b.requestType = a.requestType
  status : b.status = op.status.getD a.status
  resolveTime : b.resolveTime =
    if op.status.isSome ∧ a.status = .opened then some db.now else a.resolveTime
  onStatusAction : b.onStatusAction =
    (op.onStatusAction.or (op.status.map (types.getOnStatusAction type))).getD a.onStatusAction
  reason : b.reason = op.reason.getD a.reason
  emailToAnswer : b.emailToAnswer = op.emailToAnswer.getD a.emailToAnswer
  answerEmailId : b.answerEmailId = op.answerEmailId.getD a.answerEmailId
  registrarId : b.registrarId = op.registrarId.getD a.registrarId
  resolveRequestId : b.resolveRequestId = logRequestId.or a.resolveRequestId

theorem ValidValues.hasGiven (h : ValidValues db logRequestId op) (types : PublicRequestTypeIface ι)
    (type : ι) (a : Request) :
    HasGiven db types logRequestId type op a (op.assign db types logRequestId type a) := by
  constructor <;> simp only [UpdatePublicRequest.assign, h.newStatus]

/-- The UPDATE is well formed and its text has no comma too many, what it makes of the row has what
is given, and the update comes to an end with that, unless its bound is too small. -/
def SetsGiven (db : Session) (types : PublicRequestTypeIface ι) (logRequestId : Option Nat)
    (op : UpdatePublicRequest) (id : Nat) (type : ι) (s : Requests) (a : Request) : Prop :=
  (op.query types logRequestId type id).WellFormed ∧
  op.toSet types logRequestId type id =
    ",".intercalate ((op.query types logRequestId type id).items.map itemText) ∧
  ∃ b, (op.query types logRequestId type id).run (setColumn db.now) a = some b ∧
    HasGiven db types logRequestId type op a b ∧
    ∀ depth, (openedIds s).card + 1 < depth → ∃ r s',
      (update db types logRequestId depth op id type).run s = .ok r s' ∧
      s'.publicRequest.lookup id = some b

/-- A locked request that exists, with its object. -/
structure Existing (db : Session) (s : Requests) (id : Nat) (a : Request) : Prop where
  row : s.publicRequest.lookup id = some a
  object : ∃ objectId ∈ db.objects, db.objectOf id = some objectId

theorem update_succeeds (hvalid : ValidValues db logRequestId op) (hop : ¬ op.setsTwice)
    (h : Existing db s id a) (types : PublicRequestTypeIface ι) (type : ι) {depth : Nat}
    (hdepth : (openedIds s).card + 1 < depth) : ∃ r s',
      (update db types logRequestId depth op id type).run s = .ok r s' ∧
      s'.publicRequest.lookup id = some (op.assign db types logRequestId type a) := by
  obtain ⟨objectId, hlock, hobject⟩ := h.object
  obtain ⟨depth, rfl⟩ := Nat.exists_eq_add_one_of_ne_zero (Nat.ne_zero_of_lt hdepth)
  have hends := update_valid_ends types type depth hvalid hop h.row
  obtain ⟨r, s', hrun, -⟩ := hends.exists_ok (by
    rintro e (⟨-, hlocked⟩ | ⟨-, hshort⟩)
    · rw [hobject] at hlocked
      exact hlocked hlock
    · omega)
  exact ⟨r, s', hrun, update_ok_row hrun h.row⟩

theorem ValidValues.setsTwice_iff (h : ValidValues db logRequestId op) :
    op.setsTwice ↔ op.status.isSome ∧ op.onStatusAction.isSome := by
  rw [UpdatePublicRequest.setsTwice, h.newStatus]

/-- An update with valid values sets them unless it gives both a status and an action on it. -/
theorem given_columns_set (hvalid : ValidValues db logRequestId op) (h : Existing db s id a)
    (types : PublicRequestTypeIface ι) (type : ι) :
    SetsGiven db types logRequestId op id type s a ↔
      ¬ (op.status.isSome ∧ op.onStatusAction.isSome) := by
  rw [← hvalid.setsTwice_iff]
  constructor
  · rintro ⟨hquery, -⟩
    exact (wellFormed_query.mp hquery).2
  · intro hop
    refine ⟨wellFormed_query.mpr ⟨hvalid.something, hop⟩, toSet_eq, _, ?_,
      hvalid.hasGiven types type a, fun depth => update_succeeds hvalid hop h types type⟩
    rw [run_query, if_neg hop]

/-- A request that was answered with an error before. -/
def answered : Request :=
  ⟨4, 2, .resolved, .failed, some 90, none, some "holder@example.cz", none, none, none⟩

def answeredSession : Session where
  enumPublicRequestType := ⟨[⟨2, "personalinfo_pif"⟩], by decide⟩
  typeOfName := by
    intro t ht t' ht' _
    rw [List.mem_singleton.mp ht, List.mem_singleton.mp ht']
  objects := [31]
  registrars := []
  mailArchive := [12]
  publicRequestObjectsMap := ⟨[⟨4, 31⟩], by decide⟩
  publicRequestMessagesMap := []
  now := 95

def answeredRequests : Requests := ⟨⟨[answered], by decide⟩, ∅⟩

def personalinfo : PublicRequestTypeIface Unit :=
  ⟨fun _ => "personalinfo_pif", fun _ _ _ => [], fun _ _ => .processed⟩

theorem existing_answered : Existing answeredSession answeredRequests 4 answered :=
  ⟨rfl, 31, by decide, rfl⟩

/-- The answer is sent again. -/
def resend : UpdatePublicRequest := ⟨none, none, none, some (some 12), none, some .scheduled⟩

/-- The request is resolved again, with an action of the caller's choice. -/
def reschedule : UpdatePublicRequest := ⟨some .resolved, none, none, none, none, some .scheduled⟩

theorem validValues_resend : ValidValues answeredSession none resend :=
  ⟨by decide, by decide, by decide, by decide⟩

theorem given_columns_set_resend :
    SetsGiven answeredSession personalinfo none resend 4 () answeredRequests answered :=
  (given_columns_set validValues_resend existing_answered personalinfo ()).mpr (by decide)

/-- The list assigns on_status_action once for the status and once more for the action. -/
theorem not_given_columns_set : ¬ ∀ (op : UpdatePublicRequest),
    ValidValues answeredSession none op →
      SetsGiven answeredSession personalinfo none op 4 () answeredRequests answered := by
  intro h
  have hvalid : ValidValues answeredSession none reschedule :=
    ⟨by decide, by decide, by decide, by decide⟩
  obtain ⟨hquery, -⟩ := h reschedule hvalid
  exact (wellFormed_query.mp hquery).2 (by decide)

end LibFred.PublicRequest
