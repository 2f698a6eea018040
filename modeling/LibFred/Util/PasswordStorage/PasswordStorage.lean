import LibFred.Util.PasswordStorage.Base64
import LibFred.Util.Printable

/-! Encrypting passwords and checking them by what they are encrypted to. -/
namespace LibFred.PasswordStorage

open Cpp Util

structure PasswordData where
  value : StdString
  deriving DecidableEq

inductive CheckResult
  | passwordIsCorrect
  | algorithmDoesNotFit

inductive HashFunction
  | sha512
  deriving DecidableEq

def sizeOfHash : HashFunction → Nat
  | .sha512 => 512 / 8

def toHashFunctionTag : HashFunction → StdString
  | .sha512 => "sha512".toList

def toHashFunction (hashFunctionTag : StdString) : Except PasswordException HashFunction :=
  match [HashFunction.sha512].find? (toHashFunctionTag · = hashFunctionTag) with
  | some hashFunction => .ok hashFunction
  | none => .error (.invalidArgument "conversion does not exist")

/-- PKCS5_PBKDF2_HMAC, which fills as many bytes as a hash has or fails. -/
abbrev Pkcs5Pbkdf2Hmac := (pass : StdString) → (passlen : Int) → (salt : BinaryData) →
  (iter : Int) → (digest : HashFunction) → Option { hash : List Byte // hash.length = sizeOfHash digest }

/-- The constructor accepts no other number of iterations. -/
structure Pbkdf2 where
  hashFunction : HashFunction
  numberOfIterations : Int
  positive : 0 < numberOfIterations
  fits : numberOfIterations < 2147483648

def pbkdf2Tag : StdString := "pbkdf2".toList

def Pbkdf2.getPrefixAndParameters (pbkdf2 : Pbkdf2) : StdString :=
  '$' :: pbkdf2Tag ++ '$' :: toHashFunctionTag pbkdf2.hashFunction ++
    '$' :: (intToString pbkdf2.numberOfIterations).toList ++ ['$']

def plaintextPrefix : StdString := "$plaintext$".toList

section

variable (hmac : Pkcs5Pbkdf2Hmac)

def pbkdf2ComputeHash (numberOfIterations : Int) (hashFunction : HashFunction) (salt : BinaryData)
    (plaintextPassword : StdString) : Except PasswordException BinaryData :=
  match hmac plaintextPassword (toInt plaintextPassword.length) salt numberOfIterations
    hashFunction with
  | none => .error (.runtimeError "unable to compute hash")
  | some hash => .ok (.fromRawBinaryData hash.val)

/-- Pbkdf2::compute for the salt that was generated. -/
def Pbkdf2.compute (pbkdf2 : Pbkdf2) (salt : BinaryData) (plaintextPassword : StdString) :
    Except PasswordException PasswordData := do
  let hash ← pbkdf2ComputeHash hmac pbkdf2.numberOfIterations pbkdf2.hashFunction salt
    plaintextPassword
  let encodedSalt ← getBase64EncodedData salt
  let encodedHash ← getBase64EncodedData hash
  return ⟨pbkdf2.getPrefixAndParameters ++ encodedSalt ++ '$' :: encodedHash⟩

def isspace (c : Char) : Bool := c = ' ' || ('\t' ≤ c && c ≤ '\r')

def splitSign : StdString → Bool × StdString
  | '-' :: s => (true, s)
  | '+' :: s => (false, s)
  | s => (false, s)

def digitsToInt (negative : Bool) (digits : StdString) : Except PasswordException Int :=
  let n : Int := if negative then -Nat.ofDigitChars 10 digits 0 else Nat.ofDigitChars 10 digits 0
  if digits = [] then .error (.invalidArgument "stoi")
  else if n < -2147483648 ∨ 2147483647 < n then .error (.outOfRange "stoi")
  else .ok n

def stoi (s : StdString) : Except PasswordException Int :=
  let signed := splitSign (s.dropWhile isspace)
  digitsToInt signed.1 (signed.2.takeWhile Char.isDigit)

/-- The parts of a text between delimiters; an empty one behind the last delimiter is none. -/
def tokens (s : StdString) : List StdString :=
  if '$' ∈ s ∧ (s.splitOn '$').getLast? = some [] then (s.splitOn '$').dropLast else s.splitOn '$'

def corruptedData : PasswordException := .runtimeError "corrupted data"

def nextItem : List StdString → Except PasswordException (StdString × List StdString)
  | [] => .error corruptedData
  | item :: items => .ok (item, items)

/-- $pbkdf2$<hashed_by>$<number_of_iterations>$<salt::base64>$<hash::base64> -/
structure Record where
  hashFunction : HashFunction
  numberOfIterations : Int
  salt : BinaryData
  storedHash : BinaryData
  deriving DecidableEq

def parseParameters (items : List StdString) : Except PasswordException Record := do
  let (hashFunctionTag, items) ← nextItem items
  let hashFunction ← toHashFunction hashFunctionTag
  let (iterations, items) ← nextItem items
  let numberOfIterations ← stoi iterations
  let (encodedSalt, items) ← nextItem items
  let salt ← getRawBinaryData encodedSalt
  let (encodedHash, items) ← nextItem items
  if items ≠ [] then .error corruptedData
  else do
    let storedHash ← getRawBinaryData encodedHash
    if storedHash.sizeOfRawBinaryData ≠ sizeOfHash hashFunction then .error corruptedData
    else return ⟨hashFunction, numberOfIterations, salt, storedHash⟩

/-- The first part of Pbkdf2::check_password_correctness. -/
def parseRecord (encryptedPasswordData : PasswordData) :
    Except PasswordException (Option Record) := do
  let (first, items) ← nextItem (tokens encryptedPasswordData.value)
  if first.length ≠ 0 then .error corruptedData
  else do
    let (tag, items) ← nextItem items
    if tag ≠ pbkdf2Tag then return none
    else do
      let record ← parseParameters items
      return some record

def throwIncorrectPasswordExceptionOnNonzeroValue (value : Byte) : Except PasswordException Unit :=
  if value ≠ 0 then .error .incorrectPassword else .ok ()

def checkEquality (lhs rhs : List Byte) (items : Nat)
    (throwExceptionOnNonzero : Byte → Except PasswordException Unit) :
    Except PasswordException Unit := do
  let result := ((lhs.zip rhs).take items).foldl (fun result p => result ||| (p.1 ^^^ p.2)) 0
  throwExceptionOnNonzero result
  if result ≠ 0 then .error (.logicError "check_equality failed") else return

def Pbkdf2.checkPasswordCorrectness (plaintextPassword : StdString)
    (encryptedPasswordData : PasswordData) : Except PasswordException CheckResult := do
  match ← parseRecord encryptedPasswordData with
  | none => return .algorithmDoesNotFit
  | some record => do
    let computedHash ← pbkdf2ComputeHash hmac record.numberOfIterations record.hashFunction
      record.salt plaintextPassword
    checkEquality computedHash.rawBinaryData record.storedHash.rawBinaryData
      (sizeOfHash record.hashFunction) throwIncorrectPasswordExceptionOnNonzeroValue
    return .passwordIsCorrect

end

namespace Plaintext

def compute (plaintextPassword : StdString) : PasswordData := ⟨plaintextPrefix ++ plaintextPassword⟩

def checkPasswordCorrectness (plaintextPassword : StdString)
    (encryptedPasswordData : PasswordData) : Except PasswordException CheckResult := do
  if plaintextPrefix.isPrefixOf (cStr encryptedPasswordData.value) then do
    -- The stored password is copied as a C string.
    let storedPassword := cStr (encryptedPasswordData.value.drop plaintextPrefix.length)
    throwIncorrectPasswordExceptionOnNonzeroValue
      (if plaintextPassword ≠ storedPassword then 1 else 0)
    return .passwordIsCorrect
  else return .algorithmDoesNotFit

end Plaintext

/-- PasswordCorrectness::check over the algorithms. -/
def checkByAlgorithms (plaintextPassword : StdString) (encryptedPassword : PasswordData) :
    List (StdString → PasswordData → Except PasswordException CheckResult) →
      Except PasswordException Unit
  | [] => .error (.runtimeError "password encrypted by unsupported algorithm")
  | check :: checks => do
    match ← check plaintextPassword encryptedPassword with
    | .passwordIsCorrect => return
    | .algorithmDoesNotFit => checkByAlgorithms plaintextPassword encryptedPassword checks

def checkPassword (hmac : Pkcs5Pbkdf2Hmac) (plaintextPassword : StdString)
    (encryptedPasswordData : PasswordData) : Except PasswordException Unit :=
  checkByAlgorithms plaintextPassword encryptedPasswordData
    [Pbkdf2.checkPasswordCorrectness hmac, Plaintext.checkPasswordCorrectness]

end LibFred.PasswordStorage
