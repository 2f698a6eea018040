import LibFred.Order.Span
import LibFred.Sql.Action
import LibFred.Sql.Table
import LibFred.Sql.Text
import LibFred.Sql.Truth
import LibFred.Transition
import LibFred.Values

/-! Certifications of registrars: the registrar_certification table and the operations that
write it. -/
namespace LibFred.Certification

open Sql

structure Registrar where
  id : Nat
  handle : String

structure File where
  id : Nat
  uuid : Uuid

structure RegistrarCertification where
  id : Nat
  uuid : Uuid
  registrarId : Nat
  validFrom : Int
  validUntil : Option Int
  classification : Int
  evalFileUuid : Uuid

instance : Keyed Registrar Nat := ⟨Registrar.id⟩
instance : Keyed File Nat := ⟨File.id⟩
instance : Keyed RegistrarCertification Nat := ⟨RegistrarCertification.id⟩

/-- What a transaction sees besides the table that it writes. A uuid names one file; the days are
those of the session and of the regular day procedure, and `newUuid` is the default of the uuid
column for the row of an id. -/
structure Session where
  registrar : Table Registrar
  files : Table File
  fileOfUuid : ∀ f ∈ files, ∀ g ∈ files, f.uuid = g.uuid → f = g
  currentDate : Int
  regularDay : Int
  newUuid : Nat → Uuid

/-- registrar_certification and the sequence that its ids are taken from. -/
structure Certifications where
  registrarCertification : Table RegistrarCertification
  idSeq : Nat

inductive CertificationException
  | scoreOutOfRange
  | invalidDateFrom
  | invalidDateTo
  | wrongIntervalOrder
  | certificationInPast
  | overlappingRange
  | registrarNotFound
  | tooManyRegistrars
  | fileDoesNotExist
  | tooManyFiles
  | registrarCertificationDoesNotExist
  | tooManyCertifications
  | sqlError
  deriving DecidableEq

abbrev Exec := EStateM CertificationException Certifications

inductive RegistrarIdVariant
  | byId (id : Nat)
  | byHandle (handle : String)

inductive FileIdVariant
  | byId (id : Nat)
  | byUuid (uuid : Uuid)

inductive CertificationIdVariant
  | byId (id : Nat)
  | byUuid (uuid : Uuid)

def FileIdVariant.names : FileIdVariant → File → Prop
  | .byId id, f => f.id = id
  | .byUuid uuid, f => f.uuid = uuid

instance : ∀ (v : FileIdVariant) (f : File), Decidable (v.names f)
  | .byId id, f => inferInstanceAs (Decidable (f.id = id))
  | .byUuid uuid, f => inferInstanceAs (Decidable (f.uuid = uuid))

def CertificationIdVariant.names : CertificationIdVariant → RegistrarCertification → Prop
  | .byId id, rc => rc.id = id
  | .byUuid uuid, rc => rc.uuid = uuid

instance : ∀ (v : CertificationIdVariant) (rc : RegistrarCertification), Decidable (v.names rc)
  | .byId id, rc => inferInstanceAs (Decidable (rc.id = id))
  | .byUuid uuid, rc => inferInstanceAs (Decidable (rc.uuid = uuid))

/-- The SQL expression for a registrar's id. A handle is a scalar subquery: NULL without a row,
an error with several. -/
def RegistrarIdVariant.sql (session : Session) : RegistrarIdVariant → Exec (Option Nat)
  | .byId id => pure (some id)
  | .byHandle handle =>
    match session.registrar.select (·.handle = upper handle) with
    | [] => pure none
    | [r] => pure (some r.id)
    | _ => throw .sqlError

def checkClassification (classification : Int) : Exec Unit :=
  raiseIf (classification < 0 ∨ 5 < classification) .scoreOutOfRange

/-- Gives the day of `validFrom`. -/
def checkValidity (session : Session) (validFrom validUntil : Date) : Exec Int :=
  match validFrom.day? with
  | none => throw .invalidDateFrom
  | some day => do
    raiseIf (∃ until' ∈ validUntil.day?, until' ≤ day) .wrongIntervalOrder
    raiseIf (∃ until' ∈ validUntil.day?, until' < session.currentDate) .certificationInPast
    return day

/-- The certification reaches the day, or has no end. -/
def reaches (rc : RegistrarCertification) (day : Int) : Truth :=
  (isNull rc.validUntil).or (le (some day) rc.validUntil)

/-- The row condition of the UPDATE that truncates. -/
def truncatable (registrarId : Option Nat) (validFrom : Int) (rc : RegistrarCertification) : Truth :=
  ((eq (some rc.registrarId) registrarId).and (lt (some rc.validFrom) (some validFrom))).and
    (reaches rc validFrom)

/-- Ends the certification on the day before `validFrom`. -/
def endBefore (validFrom : Int) (rc : RegistrarCertification) : RegistrarCertification :=
  { rc with validUntil := some (validFrom - 1) }

theorem key_endBefore (validFrom : Int) (rc : RegistrarCertification) :
    Keyed.key (endBefore validFrom rc) = Keyed.key rc := rfl

def truncateValidity (registrarId : Option Nat) (validFrom : Int) : Exec Unit := do
  let s ← get
  let truncated := s.registrarCertification.update
    (fun rc => (truncatable registrarId validFrom rc).holds) (endBefore validFrom)
    (key_endBefore validFrom)
  set { s with registrarCertification := truncated }
  match s.registrarCertification.select fun rc => (truncatable registrarId validFrom rc).holds with
  | [] => return ()
  | [_] => return ()
  | _ => throw .overlappingRange

def checkValidityOverlapping (session : Session) (registrarId : Option Nat) (validFrom : Int) :
    Exec Unit := do
  let s ← get
  match session.registrar.select fun r => (eq (some r.id) registrarId).holds with
  | [] => throw .registrarNotFound
  | [r] => raiseIf (∃ rc ∈ s.registrarCertification.rows,
      rc.registrarId = r.id ∧ (reaches rc validFrom).holds) .overlappingRange
  | _ => throw .tooManyRegistrars

def insertRow (session : Session) (registrarId : Option Nat) (validFrom : Int)
    (validUntil : Option Int) (classification : Int) (evalFileUuid : Uuid) :
    Exec RegistrarCertification := fun s =>
  match registrarId with
  | none => .error .sqlError s
  | some registrarId =>
    let rc : RegistrarCertification :=
      ⟨s.idSeq, session.newUuid s.idSeq, registrarId, validFrom, validUntil, classification,
        evalFileUuid⟩
    match s.registrarCertification.insert? rc with
    | some t => .ok rc ⟨t, s.idSeq + 1⟩
    | none => .error .sqlError s

/-- INSERT ... SELECT with one row for each file of the identification. -/
def insertOneRecord (session : Session) (registrarId : Option Nat) (validFrom : Int)
    (validUntil : Date) (classification : Int) (evalFileId : FileIdVariant) :
    Exec RegistrarCertification := do
  match ← (session.files.select (evalFileId.names ·)).mapM fun f =>
      insertRow session registrarId validFrom validUntil.day? classification f.uuid with
  | [] => throw .fileDoesNotExist
  | rc :: _ => return rc

structure CreateRegistrarCertification where
  registrarId : RegistrarIdVariant
  validFrom : Date
  validUntil : Date
  classification : Int
  evalFileId : FileIdVariant

def CreateRegistrarCertification.exec (session : Session) (op : CreateRegistrarCertification) :
    Exec RegistrarCertification := do
  checkClassification op.classification
  let validFrom ← checkValidity session op.validFrom op.validUntil
  let registrarId ← op.registrarId.sql session
  truncateValidity registrarId validFrom
  checkValidityOverlapping session registrarId validFrom
  insertOneRecord session registrarId validFrom op.validUntil op.classification op.evalFileId

structure UpdateRegistrarCertification where
  certificationId : CertificationIdVariant
  validUntil : Option Date
  classification : Option Int
  evalFileId : Option FileIdVariant

def checkValidUntil (session : Session) (certificationId : CertificationIdVariant)
    (validUntil : Int) : Exec Unit := do
  let s ← get
  match s.registrarCertification.select (certificationId.names ·) with
  | [] => throw .registrarCertificationDoesNotExist
  | [rc] => do
    raiseIf (validUntil < session.regularDay) .certificationInPast
    raiseIf (validUntil < rc.validFrom) .wrongIntervalOrder
  | _ => throw .tooManyCertifications

def checkFile (session : Session) (fileId : FileIdVariant) : Exec Unit :=
  match session.files.select (fileId.names ·) with
  | [_] => return ()
  | [] => throw .fileDoesNotExist
  | _ => throw .tooManyFiles

/-- The uuid that the SET list assigns. -/
def FileIdVariant.setUuid (session : Session) : FileIdVariant → Option Uuid
  | .byId id => (session.files.lookup id).map File.uuid
  | .byUuid uuid => some uuid

/-- The SET list: a column is assigned only when its value is given. -/
def UpdateRegistrarCertification.assign (session : Session) (op : UpdateRegistrarCertification)
    (rc : RegistrarCertification) : RegistrarCertification :=
  { rc with
    validUntil := (op.validUntil.bind Date.day?).or rc.validUntil
    classification := op.classification.getD rc.classification
    evalFileUuid := (op.evalFileId.bind (·.setUuid session)).getD rc.evalFileUuid }

theorem UpdateRegistrarCertification.key_assign (session : Session)
    (op : UpdateRegistrarCertification) (rc : RegistrarCertification) :
    Keyed.key (op.assign session rc) = Keyed.key rc := rfl

def UpdateRegistrarCertification.checkUntil (session : Session)
    (op : UpdateRegistrarCertification) : Exec Unit :=
  match op.validUntil with
  | none => return ()
  | some (.day validUntil) => checkValidUntil session op.certificationId validUntil
  | some _ => throw .invalidDateTo

/-- A statement whose SET list is empty is refused by the database. -/
def UpdateRegistrarCertification.exec (session : Session) (op : UpdateRegistrarCertification) :
    Exec RegistrarCertification := do
  op.checkUntil session
  op.classification.forM checkClassification
  op.evalFileId.forM (checkFile session)
  raiseIf (op.validUntil = none ∧ op.classification = none ∧ op.evalFileId.isNone) .sqlError
  let s ← get
  let updated := s.registrarCertification.update
    (op.certificationId.names ·) (op.assign session) (op.key_assign session)
  set { s with registrarCertification := updated }
  match s.registrarCertification.select (op.certificationId.names ·) with
  | [] => throw .registrarCertificationDoesNotExist
  | [rc] => return op.assign session rc
  | _ => throw .tooManyCertifications

structure DeleteRegistrarCertification where
  certificationId : CertificationIdVariant

def DeleteRegistrarCertification.exec (op : DeleteRegistrarCertification) :
    Exec RegistrarCertification := do
  let s ← get
  set { s with registrarCertification :=
    s.registrarCertification.delete (op.certificationId.names ·) }
  match s.registrarCertification.select (op.certificationId.names ·) with
  | [] => throw .registrarCertificationDoesNotExist
  | [rc] => return rc
  | _ => throw .tooManyCertifications

/-- One operation, run in a transaction of its own. -/
inductive Call
  | create (session : Session) (op : CreateRegistrarCertification)
  | update (session : Session) (op : UpdateRegistrarCertification)
  | delete (op : DeleteRegistrarCertification)

def Call.exec : Call → Exec RegistrarCertification
  | .create session op => op.exec session
  | .update session op => op.exec session
  | .delete op => op.exec

def Call.next (c : Call) (s : Certifications) : Certifications := transaction c.exec s

end LibFred.Certification
