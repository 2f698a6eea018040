import LibFred.PublicRequest.UpdatePublicRequest
import LibFred.Sql.SetList

/-! The query by which a public request is updated, part by part, and what it does to the row. -/
namespace LibFred.PublicRequest

open Sql

def Status.toDbHandle : Status → String
  | .opened => "opened"
  | .resolved => "resolved"
  | .invalidated => "invalidated"

def OnStatusAction.toDbHandle : OnStatusAction → String
  | .scheduled => "scheduled"
  | .processed => "processed"
  | .failed => "failed"

def Status.ofDbHandle? (handle : String) : Option Status :=
  [opened, resolved, invalidated].find? (·.toDbHandle = handle)

def OnStatusAction.ofDbHandle? (handle : String) : Option OnStatusAction :=
  [scheduled, processed, failed].find? (·.toDbHandle = handle)

@[simp] theorem Status.ofDbHandle?_toDbHandle (status : Status) :
    ofDbHandle? status.toDbHandle = some status := by
  cases status <;> rfl

@[simp] theorem OnStatusAction.ofDbHandle?_toDbHandle (action : OnStatusAction) :
    ofDbHandle? action.toDbHandle = some action := by
  cases action <;> rfl

/-- The columns of public_request that updates set. -/
inductive Column
  | status
  | resolveTime
  | onStatusAction
  | reason
  | emailToAnswer
  | answerEmailId
  | registrarId
  | resolveRequestId
  deriving DecidableEq

def Column.name : Column → String
  | .status => "status"
  | .resolveTime => "resolve_time"
  | .onStatusAction => "on_status_action"
  | .reason => "reason"
  | .emailToAnswer => "email_to_answer"
  | .answerEmailId => "answer_email_id"
  | .registrarId => "registrar_id"
  | .resolveRequestId => "resolve_request_id"

/-- What a parameter stands in. -/
inductive Form
  | text
  | bigint
  | enumOnStatusActionType
  | statusOfName
  | nowIfStatusOfName

/-- `(SELECT id FROM enum_public_request_status WHERE name=$...::TEXT)` -/
def subselect (number : Nat) : String :=
  "(SELECT id FROM enum_public_request_status WHERE name=$" ++ toString number ++ "::TEXT)"

def Form.render (number : Nat) : Form → String
  | .text => "$" ++ toString number ++ "::TEXT"
  | .bigint => "$" ++ toString number ++ "::BIGINT"
  | .enumOnStatusActionType => "$" ++ toString number ++ "::enum_on_status_action_type"
  | .statusOfName => subselect number
  | .nowIfStatusOfName =>
    "CASE WHEN status=" ++ subselect number ++
      " THEN NOW() ELSE resolve_time END"

def itemText (item : SetItem Column Form) : String :=
  item.column.name ++ "=" ++ item.form.render item.number

inductive QueryParam
  | null
  | text (s : String)
  | number (n : Nat)

/-- A given text, or `QPNull`. -/
def QueryParam.ofText : Option String → QueryParam
  | none => .null
  | some s => .text s

def QueryParam.ofNumber : Option Nat → QueryParam
  | none => .null
  | some n => .number n

/-- `$...::TEXT` -/
def QueryParam.text? : QueryParam → Option (Option String)
  | .null => some none
  | .text s => some (some s)
  | .number _ => none

/-- `$...::BIGINT` -/
def QueryParam.number? : QueryParam → Option (Option Nat)
  | .null => some none
  | .text _ => none
  | .number n => some (some n)

/-- One assignment: its value is computed from the row before the update, and must be of the type of
the column. -/
def setColumn (now : Int) (column : Column) (form : Form) (param : QueryParam) (old row : Request) :
    Option Request :=
  match column, form, param with
  | .status, .statusOfName, .text name =>
    (Status.ofDbHandle? name).map fun status => { row with status := status }
  | .resolveTime, .nowIfStatusOfName, .text name =>
    (Status.ofDbHandle? name).map fun status => { row with
      resolveTime := if old.status = status then some now else old.resolveTime }
  | .onStatusAction, .enumOnStatusActionType, .text name =>
    (OnStatusAction.ofDbHandle? name).map fun action => { row with onStatusAction := action }
  | .reason, .text, param => param.text?.map fun reason => { row with reason := reason }
  | .emailToAnswer, .text, param =>
    param.text?.map fun emailToAnswer => { row with emailToAnswer := emailToAnswer }
  | .answerEmailId, .bigint, param =>
    param.number?.map fun answerEmailId => { row with answerEmailId := answerEmailId }
  | .registrarId, .bigint, param =>
    param.number?.map fun registrarId => { row with registrarId := registrarId }
  | .resolveRequestId, .bigint, param =>
    param.number?.map fun resolveRequestId => { row with resolveRequestId := resolveRequestId }
  | _, _, _ => none

abbrev UpdatePart := SetPart Column Form QueryParam

/-- A part that is only there when the field is given. -/
def partOf {α : Type} (column : Column) (form : Form) (param : α → QueryParam) (field : Option α) :
    List UpdatePart :=
  field.toList.map fun value => ⟨column, form, param value⟩

section Query

variable {ι : Type} (types : PublicRequestTypeIface ι) (resolveLogRequestId : Option Nat) (type : ι)

/-- What a status contributes; one that cannot be set contributes nothing. -/
def statusParts (status : Option Status) : List UpdatePart :=
  match status with
  | none => []
  | some status =>
    [⟨.status, .statusOfName, .text status.toDbHandle⟩,
      ⟨.resolveTime, .nowIfStatusOfName, .text Status.opened.toDbHandle⟩,
      ⟨.onStatusAction, .enumOnStatusActionType, .text (types.getOnStatusAction type status).toDbHandle⟩]

def UpdatePublicRequest.parts (op : UpdatePublicRequest) : List UpdatePart :=
  statusParts types type op.newStatus ++
    partOf .reason .text .ofText op.reason ++
    partOf .emailToAnswer .text .ofText op.emailToAnswer ++
    partOf .answerEmailId .bigint .ofNumber op.answerEmailId ++
    partOf .registrarId .bigint .ofNumber op.registrarId ++
    partOf .onStatusAction .enumOnStatusActionType (fun action => .text action.toDbHandle)
      op.onStatusAction ++
    partOf .resolveRequestId .bigint .number resolveLogRequestId

/-- The first parameter is the id of the request. -/
def UpdatePublicRequest.query (op : UpdatePublicRequest) (publicRequestId : Nat) :
    SetList Column Form QueryParam :=
  .ofParts [.number publicRequestId] (op.parts types resolveLogRequestId type)

/-- `to_set` -/
def UpdatePublicRequest.toSet (op : UpdatePublicRequest) (publicRequestId : Nat) : String :=
  SetList.withoutLast ((op.query types resolveLogRequestId type publicRequestId).text itemText)

end Query

section Row

variable {now : Int} {old row : Request}

/-- The assignments of some parts, one after the other. -/
def setParts (now : Int) (old : Request) (parts : List UpdatePart) (row : Request) : Option Request :=
  parts.foldlM (fun row part => setColumn now part.column part.form part.param old row) row

theorem setParts_append (parts parts' : List UpdatePart) (row : Request) :
    setParts now old (parts ++ parts') row =
      (setParts now old parts row).bind (setParts now old parts') :=
  List.foldlM_append

theorem setParts_reason (reason : Given String) :
    setParts now old (partOf .reason .text .ofText reason) row =
      some { row with reason := reason.getD row.reason } := by
  rcases reason with _ | _ | reason <;> rfl

theorem setParts_emailToAnswer (emailToAnswer : Given String) :
    setParts now old (partOf .emailToAnswer .text .ofText emailToAnswer) row =
      some { row with emailToAnswer := emailToAnswer.getD row.emailToAnswer } := by
  rcases emailToAnswer with _ | _ | emailToAnswer <;> rfl

theorem setParts_answerEmailId (answerEmailId : Given Nat) :
    setParts now old (partOf .answerEmailId .bigint .ofNumber answerEmailId) row =
      some { row with answerEmailId := answerEmailId.getD row.answerEmailId } := by
  rcases answerEmailId with _ | _ | answerEmailId <;> rfl

theorem setParts_registrarId (registrarId : Given Nat) :
    setParts now old (partOf .registrarId .bigint .ofNumber registrarId) row =
      some { row with registrarId := registrarId.getD row.registrarId } := by
  rcases registrarId with _ | _ | registrarId <;> rfl

theorem setParts_onStatusAction (onStatusAction : Option OnStatusAction) :
    setParts now old (partOf .onStatusAction .enumOnStatusActionType
        (fun action => .text action.toDbHandle) onStatusAction) row =
      some { row with onStatusAction := onStatusAction.getD row.onStatusAction } := by
  rcases onStatusAction with _ | action
  · rfl
  · simp [setParts, partOf, setColumn]

theorem setParts_resolveRequestId (resolveRequestId : Option Nat) :
    setParts now old (partOf .resolveRequestId .bigint .number resolveRequestId) row =
      some { row with resolveRequestId := resolveRequestId.or row.resolveRequestId } := by
  rcases resolveRequestId with _ | resolveRequestId <;> rfl

theorem setParts_status {ι : Type} {types : PublicRequestTypeIface ι} {type : ι}
    (status : Option Status) :
    setParts now old (statusParts types type status) old = some { old with
      status := status.getD old.status
      resolveTime := if status.isSome ∧ old.status = .opened then some now else old.resolveTime
      onStatusAction := (status.map (types.getOnStatusAction type)).getD old.onStatusAction } := by
  cases status with
  | none => simp [setParts, statusParts]
  | some status => simp [setParts, statusParts, setColumn]

end Row

section Query

variable {ι : Type} {types : PublicRequestTypeIface ι} {resolveLogRequestId : Option Nat} {type : ι}
  {op : UpdatePublicRequest} {publicRequestId : Nat} {db : Session} {pr : Request}

/-- The text has commas between the parts only. -/
theorem toSet_eq : op.toSet types resolveLogRequestId type publicRequestId = ",".intercalate
    ((op.query types resolveLogRequestId type publicRequestId).items.map itemText) :=
  SetList.withoutLast_text itemText _

example : (⟨none, none, none, some (some 12), none, some .scheduled⟩ : UpdatePublicRequest).toSet
    types none type 4 =
      "answer_email_id=$2::BIGINT,on_status_action=$3::enum_on_status_action_type" := by
  rw [toSet_eq]
  rfl

theorem sublist_columns {α : Type} {column : Column} {form : Form} {param : α → QueryParam}
    (field : Option α) : ((partOf column form param field).map SetPart.column).Sublist [column] := by
  cases field with
  | none => exact List.nil_sublist _
  | some value => exact List.Sublist.refl _

theorem setParts_parts : setParts db.now pr (op.parts types resolveLogRequestId type) pr =
    some (op.assign db types resolveLogRequestId type pr) := by
  simp only [UpdatePublicRequest.parts, setParts_append, setParts_status, setParts_reason,
    setParts_emailToAnswer, setParts_answerEmailId, setParts_registrarId, setParts_onStatusAction,
    setParts_resolveRequestId, Option.bind_some, UpdatePublicRequest.assign, Option.getD_or]

/-- Only on_status_action can stand in the list twice. -/
theorem nodup_columns : ((op.parts types resolveLogRequestId type).map SetPart.column).Nodup ↔
    ¬ op.setsTwice := by
  simp only [UpdatePublicRequest.parts, List.map_append]
  constructor
  · rintro hnodup ⟨hstatus, haction⟩
    obtain ⟨status, hstatus⟩ := Option.isSome_iff_exists.mp hstatus
    obtain ⟨action, haction⟩ := Option.isSome_iff_exists.mp haction
    rw [hstatus, haction] at hnodup
    simp [statusParts, partOf] at hnodup
  · intro hnot
    by_cases haction : op.onStatusAction.isSome
    · have hstatus : op.newStatus = none := by
        by_contra hsome
        exact hnot ⟨Option.isSome_iff_ne_none.mpr hsome, haction⟩
      rw [hstatus]
      refine List.Sublist.nodup (((((((List.Sublist.refl []).append (sublist_columns _)).append
        (sublist_columns _)).append (sublist_columns _)).append (sublist_columns _)).append
        (sublist_columns _)).append (sublist_columns _)) ?_
      decide
    · rw [Option.not_isSome_iff_eq_none.mp haction]
      have hstatus : ((statusParts types type op.newStatus).map SetPart.column).Sublist
          [.status, .resolveTime, .onStatusAction] := by
        cases op.newStatus with
        | none => exact List.nil_sublist _
        | some status => exact List.Sublist.refl _
      refine List.Sublist.nodup (((((((hstatus.append (sublist_columns _)).append
        (sublist_columns _)).append (sublist_columns _)).append (sublist_columns _)).append
        (List.Sublist.refl [])).append (sublist_columns _))) ?_
      decide

/-- What the query makes of the row is what the update does. -/
theorem run_query : (op.query types resolveLogRequestId type publicRequestId).run
    (setColumn db.now) pr =
      if op.setsTwice then none else some (op.assign db types resolveLogRequestId type pr) := by
  rw [UpdatePublicRequest.query, SetList.run_ofParts]
  change (if _ then setParts db.now pr (op.parts types resolveLogRequestId type) pr else none) = _
  rw [setParts_parts, if_congr nodup_columns rfl rfl, ite_not]

theorem parts_eq_nil : op.parts types resolveLogRequestId type = [] ↔
    op.setsNothing resolveLogRequestId := by
  cases hstatus : op.newStatus <;>
    simp [UpdatePublicRequest.parts, UpdatePublicRequest.setsNothing, statusParts, partOf, hstatus]

theorem wellFormed_query : (op.query types resolveLogRequestId type publicRequestId).WellFormed ↔
    ¬ op.setsNothing resolveLogRequestId ∧ ¬ op.setsTwice := by
  rw [UpdatePublicRequest.query, SetList.wellFormed_ofParts, nodup_columns, ne_eq, parts_eq_nil]

end Query

end LibFred.PublicRequest
