import LibFred.Cpp.StdString
import LibFred.Cpp.TransformWidth

/-! Binary data and their Base64 texts. -/
namespace LibFred.PasswordStorage

open Cpp TransformWidth

abbrev Byte := BitVec 8

inductive PasswordException
  | incorrectPassword
  | runtimeError (what : String)
  | logicError (what : String)
  | invalidArgument (what : String)
  | outOfRange (what : String)
  | dataflowException
  deriving DecidableEq

/-- The number of the bytes is an int beside them. -/
structure BinaryData where
  rawBinaryData : List Byte
  sizeOfRawBinaryData : Int
  deriving DecidableEq

def BinaryData.fromRawBinaryData (data : List Byte) : BinaryData := ⟨data, toInt data.length⟩

def base64Alphabet : List Char :=
  "ABCDEFGHIJKLMNOPQRSTUVWXYZabcdefghijklmnopqrstuvwxyz0123456789+/".toList

def base64FromBinary (sextet : BitVec 6) : Char := base64Alphabet.getD sextet.toNat nul

def binaryFromBase64 (c : Char) : Except PasswordException (BitVec 6) :=
  if c = '=' then .ok 0
  else
    match base64Alphabet.idxOf? c with
    | some i => .ok (BitVec.ofNat 6 i)
    | none => .error .dataflowException

/-- The size of the text, an unsigned int, without the padding characters. -/
def sizeWithoutPadding (src : StdString) : Nat :=
  let size := src.length % 4294967296
  if 0 < size ∧ src[size - 1]? = some '=' then
    if 0 < size - 1 ∧ src[size - 1 - 1]? = some '=' then size - 1 - 1 else size - 1
  else size

def getRawBinaryData (src : StdString) : Except PasswordException BinaryData :=
  -- A last character alone makes the iterator step over its end and stop at the character behind the
  -- text, which is not of the alphabet.
  if sizeWithoutPadding src % 4 = 1 then .error .dataflowException
  else do
    let sextets ← (src.take (sizeWithoutPadding src)).mapM binaryFromBase64
    return .fromRawBinaryData (transformWidth 8 sextets)

def getBase64EncodedData (data : BinaryData) : Except PasswordException StdString :=
  let result := (transformWidth 6 (data.rawBinaryData.take data.sizeOfRawBinaryData.toNat)).map
    base64FromBinary
  match data.sizeOfRawBinaryData.tmod 3 with
  | 0 => .ok result
  | 1 => .ok (result ++ "==".toList)
  | 2 => .ok (result ++ "=".toList)
  | _ => .error (.logicError "unexpected result of modulo 3 operation")

variable {s : StdString} {c : Char} {data : List Byte}

theorem binaryFromBase64_base64FromBinary :
    ∀ sextet, binaryFromBase64 (base64FromBinary sextet) = .ok sextet := by decide +kernel

theorem base64FromBinary_mem : ∀ sextet, base64FromBinary sextet ∈ base64Alphabet := by decide +kernel

/-- A text without padding comes back from what it is padded to. -/
theorem sizeWithoutPadding_append {k : Nat} (hk : k ≤ 2) (hs : '=' ∉ s)
    (hlength : s.length + 2 < 4294967296) :
    sizeWithoutPadding (s ++ List.replicate k '=') = s.length := by
  have hsize : (s ++ List.replicate k '=').length % 4294967296 = s.length + k := by
    rw [List.length_append, List.length_replicate]
    omega
  have hlast (h : 0 < s.length) : (s ++ List.replicate k '=')[s.length - 1]? ≠ some '=' := by
    rw [List.getElem?_append_left (by omega)]
    exact fun hget => hs (List.mem_of_getElem? hget)
  have hpadding {i : Nat} (hi : i < k) : (s ++ List.replicate k '=')[s.length + i]? = some '=' := by
    rw [List.getElem?_append_right (by omega), Nat.add_sub_cancel_left,
      List.getElem?_replicate_of_lt hi]
  unfold sizeWithoutPadding
  simp only [hsize]
  obtain rfl | rfl | rfl : k = 0 ∨ k = 1 ∨ k = 2 := by omega
  · exact if_neg fun h => hlast h.1 h.2
  · rw [if_pos ⟨by omega, hpadding Nat.zero_lt_one⟩]
    exact if_neg fun h => hlast h.1 h.2
  · rw [if_pos ⟨by omega, hpadding Nat.one_lt_two⟩]
    exact if_pos ⟨by omega, hpadding Nat.zero_lt_two⟩

theorem mapM_binaryFromBase64 (sextets : List (BitVec 6)) :
    (sextets.map base64FromBinary).mapM binaryFromBase64 = .ok sextets := by
  induction sextets with
  | nil => rfl
  | cons sextet sextets ih =>
    rw [List.map_cons, List.mapM_cons, binaryFromBase64_base64FromBinary, ih]
    rfl

/-- The texts of encoded data are their sextets and up to two padding characters. -/
theorem getBase64EncodedData_eq (h : data.length < 2147483648) : ∃ k ≤ 2,
    getBase64EncodedData (.fromRawBinaryData data) =
      .ok ((transformWidth 6 data).map base64FromBinary ++ List.replicate k '=') := by
  have hsize : toInt data.length = data.length := toInt_of_lt (by omega) (by omega)
  have htake : data.take (toInt data.length).toNat = data := by
    rw [hsize, Int.toNat_natCast, List.take_length]
  have hmod : (toInt data.length).tmod 3 = (data.length % 3 : Nat) := by
    rw [hsize]
    exact (Int.ofNat_tmod data.length 3).symm
  simp only [getBase64EncodedData, BinaryData.fromRawBinaryData, htake, hmod]
  obtain h0 | h1 | h2 : data.length % 3 = 0 ∨ data.length % 3 = 1 ∨ data.length % 3 = 2 := by omega
  · exact ⟨0, by omega, by simp [h0]⟩
  · exact ⟨2, by omega, by simp [h1]⟩
  · exact ⟨1, by omega, by simp [h2]⟩

theorem notMem_map_base64FromBinary (hc : c ∉ base64Alphabet) (sextets : List (BitVec 6)) :
    c ∉ sextets.map base64FromBinary := by
  intro hmem
  obtain ⟨sextet, -, heq⟩ := List.mem_map.mp hmem
  exact hc (heq ▸ base64FromBinary_mem sextet)

/-- No delimiter of records is in the texts of encoded data. -/
theorem notMem_getBase64EncodedData (h : data.length < 2147483648) (hc : c ∉ base64Alphabet)
    (hpadding : c ≠ '=') (hs : getBase64EncodedData (.fromRawBinaryData data) = .ok s) : c ∉ s := by
  obtain ⟨k, -, hencoded⟩ := getBase64EncodedData_eq h
  rw [hencoded] at hs
  rw [← Except.ok.inj hs, List.mem_append, not_or]
  exact ⟨notMem_map_base64FromBinary hc _, fun hmem => hpadding (List.eq_of_mem_replicate hmem)⟩

theorem getBase64EncodedData_ne_nil (h : data.length < 2147483648) (hne : data ≠ [])
    (hs : getBase64EncodedData (.fromRawBinaryData data) = .ok s) : s ≠ [] := by
  obtain ⟨k, -, hencoded⟩ := getBase64EncodedData_eq h
  obtain ⟨fill, -, hlength⟩ := length_transformWidth (n := 6) (by omega) (by omega) data
  have hpos := List.length_pos_iff.mpr hne
  rw [hencoded] at hs
  rw [← Except.ok.inj hs]
  refine List.append_ne_nil_of_left_ne_nil (List.ne_nil_of_length_pos ?_) _
  rw [List.length_map]
  omega

/-- Binary data of every length come back from their texts. -/
theorem getRawBinaryData_getBase64EncodedData (h : data.length < 2147483648) :
    (getBase64EncodedData (.fromRawBinaryData data)).bind getRawBinaryData =
      .ok (.fromRawBinaryData data) := by
  obtain ⟨k, hk, hencoded⟩ := getBase64EncodedData_eq h
  obtain ⟨fill, hfill, hlength⟩ := length_transformWidth (n := 6) (by omega) (by omega) data
  have hsize := sizeWithoutPadding_append hk
    (notMem_map_base64FromBinary (by decide) (transformWidth 6 data))
    (by rw [List.length_map]; omega)
  rw [List.length_map] at hsize
  have htake : ((transformWidth 6 data).map base64FromBinary ++ List.replicate k '=').take
      (transformWidth 6 data).length = (transformWidth 6 data).map base64FromBinary :=
    List.take_left' (List.length_map _)
  rw [hencoded]
  simp only [Except.bind, getRawBinaryData, hsize, htake, mapM_binaryFromBase64]
  rw [if_neg (by omega)]
  change Except.ok (BinaryData.fromRawBinaryData (transformWidth 8 (transformWidth 6 data))) = _
  rw [transformWidth_transformWidth (by omega) (by omega)]

end LibFred.PasswordStorage
