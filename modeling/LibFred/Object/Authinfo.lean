import LibFred.Db.Schema

/-! Passwords that authorise the transfer of an object. -/
namespace LibFred.Object

open Sql
open LibFred.Db (Database ObjectAuthinfo Timestamp Exec)

/-- PasswordStorage. `check` is true when a password fits what is stored, false when it does not,
and none when what is stored cannot be read. -/
structure PasswordStorage where
  encrypt (salt plaintext : String) : String
  check (plaintext encrypted : String) : Option Bool
  encrypt_ne_empty : ∀ salt plaintext, encrypt salt plaintext ≠ ""
  check_encrypt : ∀ salt plaintext, check plaintext (encrypt salt plaintext) = some true
  check_readable : ∀ salt plaintext other, (check other (encrypt salt plaintext)).isSome

/-- The authinfo was neither canceled nor deactivated. -/
def Usable (a : ObjectAuthinfo) : Prop :=
  a.canceledAt = none ∧ (ne a.password (some "")).holds

instance (a : ObjectAuthinfo) : Decidable (Usable a) := by unfold Usable; infer_instance

/-- UPDATE of object_authinfo; the updated rows are returned. -/
def updateAuthinfo (p : Database → ObjectAuthinfo → Prop) [∀ db, DecidablePred (p db)]
    (f : Database → ObjectAuthinfo → ObjectAuthinfo) (hf : ∀ db a, (f db a).id = a.id) :
    Exec (List ObjectAuthinfo) := fun db =>
  .ok (db.objectAuthinfo.select (p db))
    { db with objectAuthinfo := db.objectAuthinfo.update (p db) (f db) (hf db) }

/-- INSERT into object_authinfo of rows that get the next ids. -/
def insertAuthinfos (rows : Database → List (Nat → ObjectAuthinfo)) : Exec Unit := fun db =>
  let new := (rows db).mapIdx fun i row => row (db.objectAuthinfoSeq + i)
  match db.objectAuthinfo.insertAll? new with
  | some t =>
    .ok () { db with objectAuthinfo := t, objectAuthinfoSeq := db.objectAuthinfoSeq + new.length }
  | none => .error .sqlError db

/-- The object lives. -/
def isRegistered (db : Database) (objectId : Nat) : Prop :=
  ∃ o ∈ db.objectRegistry.lookup objectId, o.erdate = none

instance (db : Database) (objectId : Nat) : Decidable (isRegistered db objectId) :=
  match h : db.objectRegistry.lookup objectId with
  | none => isFalse (by rintro ⟨o, ho, -⟩; rw [h] at ho; cases ho)
  | some o => decidable_of_iff (o.erdate = none) (by simp [isRegistered, h])

structure StoreAuthinfo where
  objectId : Nat
  registrarId : Nat
  ttl : Timestamp

def StoreAuthinfo.deactivatePassword (op : StoreAuthinfo) : Exec (List ObjectAuthinfo) :=
  updateAuthinfo (fun _ a => a.objectId = op.objectId ∧ a.registrarId = op.registrarId ∧ Usable a)
    (fun _ a => { a with password := some "" }) fun _ _ => rfl

def StoreAuthinfo.storePassword (op : StoreAuthinfo) (encryptedPassword : String) : Exec Unit :=
  insertAuthinfos fun db =>
    [fun id => ⟨id, op.objectId, op.registrarId, some encryptedPassword, db.now, db.now + op.ttl,
      none, 0⟩]

/-- StoreAuthinfo::exec; a time to live that is not positive is refused by the constructor. -/
def StoreAuthinfo.exec (storage : PasswordStorage) (salt : String) (op : StoreAuthinfo)
    (plaintextPassword : String) : Exec Unit := do
  raiseIf (op.ttl ≤ 0) (.internalError "TTL must be greater than 0 sec")
  let db ← get
  raiseIf (¬ isRegistered db op.objectId) .unknownObjectId
  raiseIf (db.registrar.lookup op.registrarId = none) .unknownRegistrar
  let _ ← op.deactivatePassword
  op.storePassword (storage.encrypt salt plaintextPassword)

/-- The authinfos of an object that a password is checked against. -/
def activeAuthinfos (db : Database) (objectId : Nat) : List ObjectAuthinfo :=
  db.objectAuthinfo.select fun a => a.objectId = objectId ∧ Usable a ∧ db.now < a.expiresAt

/-- The active authinfo with this id. -/
def ActiveWithId (authinfoId : Nat) (db : Database) (a : ObjectAuthinfo) : Prop :=
  a.id = authinfoId ∧ Usable a ∧ db.now < a.expiresAt

instance (authinfoId : Nat) (db : Database) : DecidablePred (ActiveWithId authinfoId db) :=
  fun a => by unfold ActiveWithId; infer_instance

def ObjectAuthinfo.use (a : ObjectAuthinfo) : ObjectAuthinfo := { a with useCount := a.useCount + 1 }

def incrementUsage (authinfoId : Nat) : Exec Unit := do
  let _ ← updateAuthinfo (ActiveWithId authinfoId) (fun _ a => ObjectAuthinfo.use a) fun _ _ => rfl

def ObjectAuthinfo.cancel (now : Timestamp) (a : ObjectAuthinfo) : ObjectAuthinfo :=
  { a with canceledAt := some now, password := none }

def incrementUsageAndCancel (authinfoId : Nat) : Exec Unit := do
  let rows ← updateAuthinfo (ActiveWithId authinfoId)
    (fun db a => ObjectAuthinfo.cancel db.now (ObjectAuthinfo.use a)) fun _ _ => rfl
  raiseIf (rows.length ≠ 1) (.internalError "check authinfo failed")

/-- The number of authinfos that the password fits; `onMatch` visits each of them. -/
def visitAuthinfos (storage : PasswordStorage) (plaintextPassword : String)
    (onMatch : Nat → Exec Unit) : List ObjectAuthinfo → Exec Nat
  | [] => return 0
  | a :: rows =>
    match storage.check plaintextPassword (a.password.getD "") with
    | some true => do
      onMatch a.id
      let matchCounter ← visitAuthinfos storage plaintextPassword onMatch rows
      return matchCounter + 1
    | some false => visitAuthinfos storage plaintextPassword onMatch rows
    | none => throw (.internalError "check authinfo failed")

/-- CheckAuthinfo::exec. -/
def checkAuthinfo (storage : PasswordStorage) (objectId : Nat) (plaintextPassword : String)
    (onMatch : Nat → Exec Unit) : Exec Nat := do
  let db ← get
  raiseIf (¬ isRegistered db objectId) .unknownObjectId
  visitAuthinfos storage plaintextPassword onMatch (activeAuthinfos db objectId)

/-- CleanAuthinfo::exec. -/
def cleanAuthinfo (objectId : Nat) : Exec Nat := do
  let rows ← updateAuthinfo (fun db a => a.objectId = objectId ∧ Usable a ∧ db.now < a.expiresAt)
    (fun db => ObjectAuthinfo.cancel db.now) fun _ _ => rfl
  return rows.length

/-- CleanExpiredAuthinfos::exec. -/
def cleanExpiredAuthinfos : Exec Nat := do
  let rows ← updateAuthinfo (fun db a => Usable a ∧ a.expiresAt ≤ db.now)
    (fun db => ObjectAuthinfo.cancel db.now) fun _ _ => rfl
  return rows.length

/-- The copy that CopyContact makes of the active authinfos of one object for another. -/
def copyAuthinfos (srcId dstId : Nat) : Exec Unit :=
  insertAuthinfos fun db => (activeAuthinfos db srcId).map fun a id =>
    ⟨id, dstId, a.registrarId, a.password, a.createdAt, a.expiresAt, none, 0⟩

end LibFred.Object
