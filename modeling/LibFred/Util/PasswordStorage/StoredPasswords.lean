import LibFred.Util.PasswordStorage.PasswordStorage

/-! Which passwords are accepted for what a password was encrypted to. -/
namespace LibFred.PasswordStorage

open Cpp Util

variable {hmac : Pkcs5Pbkdf2Hmac} {pbkdf2 : Pbkdf2} {salt hash : List Byte}
  {encrypted : PasswordData} {p q s : StdString} {items : List StdString}

/-- Bytes are or-ed up to zero when all of them are. -/
theorem foldl_or_eq_zero {pairs : List (Byte × Byte)} {result : Byte} :
    pairs.foldl (fun result p => result ||| (p.1 ^^^ p.2)) result = 0 ↔
      result = 0 ∧ ∀ p ∈ pairs, p.1 = p.2 := by
  induction pairs generalizing result with
  | nil => simp
  | cons pair pairs ih =>
    rw [List.foldl_cons, ih, List.forall_mem_cons, ← and_assoc]
    refine and_congr_left' ?_
    rw [BitVec.ofNat_eq_ofNat, BitVec.or_eq_zero_iff, BitVec.xor_eq_zero_iff]

theorem forall_mem_zip {lhs rhs : List Byte} (h : lhs.length = rhs.length) :
    (∀ p ∈ lhs.zip rhs, p.1 = p.2) ↔ lhs = rhs := by
  induction lhs generalizing rhs with
  | nil =>
    rw [List.length_nil] at h
    simp [List.length_eq_zero_iff.mp h.symm]
  | cons a lhs ih =>
    cases rhs with
    | nil => exact absurd h (by simp)
    | cons b rhs =>
      rw [List.zip_cons_cons, List.forall_mem_cons, ih (Nat.succ.inj h), List.cons.injEq]

/-- All the bytes are compared, and only that they differ is found out. -/
theorem checkEquality_eq {lhs rhs : List Byte} {size : Nat} (hl : lhs.length = size)
    (hr : rhs.length = size) :
    checkEquality lhs rhs size throwIncorrectPasswordExceptionOnNonzeroValue =
      if lhs = rhs then .ok () else .error .incorrectPassword := by
  have htake : (lhs.zip rhs).take size = lhs.zip rhs := List.take_of_length_le (by simp [hl, hr])
  have hzero : (lhs.zip rhs).foldl (fun result p => result ||| (p.1 ^^^ p.2)) 0 = 0 ↔ lhs = rhs := by
    rw [foldl_or_eq_zero, forall_mem_zip (hl.trans hr.symm)]
    simp
  unfold checkEquality throwIncorrectPasswordExceptionOnNonzeroValue
  rw [htake]
  by_cases heq : lhs = rhs
  · rw [if_pos heq, hzero.mpr heq]
    rfl
  · rw [if_neg heq]
    simp only [if_pos (mt hzero.mp heq)]
    rfl

theorem not_isspace_of_isDigit {c : Char} (h : c.isDigit) : isspace c = false := by
  simp only [Char.isDigit, Bool.and_eq_true, decide_eq_true_eq, ge_iff_le] at h
  have hle : '0' ≤ c := h.1
  have hspace : c ≠ ' ' := by
    rintro rfl
    exact absurd hle (by decide)
  have hr : ¬ c ≤ '\r' := fun h' => absurd (Char.le_trans hle h') (by decide)
  simp [isspace, hspace, hr]

theorem splitSign_of_isDigit {c : Char} (h : c.isDigit) :
    splitSign (c :: s) = (false, c :: s) := by
  unfold splitSign
  split
  · rename_i heq
    obtain ⟨rfl, -⟩ := List.cons.inj heq
    exact absurd h (by decide)
  · rename_i heq
    obtain ⟨rfl, -⟩ := List.cons.inj heq
    exact absurd h (by decide)
  · rfl

/-- A positive number is read back from its text. -/
theorem stoi_intToString {n : Int} (hpos : 0 < n) (hfits : n < 2147483648) :
    stoi (intToString n).toList = .ok n := by
  obtain ⟨m, rfl⟩ := Int.eq_ofNat_of_zero_le (Int.le_of_lt hpos)
  have hdigits : ∀ c ∈ Nat.toDigits 10 m, c.isDigit :=
    fun c => Nat.isDigit_of_mem_toDigits (by decide) (by decide)
  have htext : (intToString m).toList = Nat.toDigits 10 m := Nat.toList_repr
  have hvalue : Nat.ofDigitChars 10 (Nat.toDigits 10 m) 0 = m := Nat.ofDigitChars_ten_toDigits
  obtain ⟨c, cs, hcons⟩ : ∃ c cs, Nat.toDigits 10 m = c :: cs :=
    List.exists_cons_of_ne_nil Nat.toDigits_ne_nil
  rw [hcons] at hdigits hvalue
  have hc : c.isDigit := hdigits c List.mem_cons_self
  rw [htext, hcons, stoi, List.dropWhile_cons_of_neg (by simp [not_isspace_of_isDigit hc])]
  simp only [splitSign_of_isDigit hc, List.takeWhile_eq_self_iff.mpr hdigits]
  simp only [digitsToInt, hvalue, Bool.false_eq_true, if_false]
  rw [if_neg (List.cons_ne_nil c cs), if_neg (by omega)]

/-- A record falls apart into the items that it is made of. -/
theorem tokens_intercalate (hitems : ∀ item ∈ items, '$' ∉ item) (hne : items ≠ [])
    (hlast : items.getLast? ≠ some []) : tokens (['$'].intercalate items) = items := by
  rw [tokens, List.splitOn_intercalate '$' hitems hne, if_neg fun h => hlast h.2]

/-- What is behind the first two items of a text does not change them. -/
theorem tokens_tag {tag : StdString} (htag : '$' ∉ tag) (s : StdString) : ∃ items,
    tokens ('$' :: tag ++ '$' :: s) = [] :: tag :: items := by
  have hsplit : ('$' :: tag ++ '$' :: s).splitOn '$' = [] :: tag :: s.splitOn '$' := by
    have hfirst := List.splitOn_append_cons_self_of_not_mem (List.not_mem_nil : '$' ∉ [])
      (tag ++ '$' :: s)
    rw [List.splitOn_append_cons_self_of_not_mem htag] at hfirst
    exact hfirst
  have hne : s.splitOn '$' ≠ [] := List.splitOn_ne_nil '$' s
  rw [tokens, hsplit]
  split
  · exact ⟨(s.splitOn '$').dropLast, by
      rw [List.dropLast_cons_of_ne_nil (List.cons_ne_nil _ _), List.dropLast_cons_of_ne_nil hne]⟩
  · exact ⟨s.splitOn '$', rfl⟩

theorem sizeOfHash_eq (hashFunction : HashFunction) : sizeOfHash hashFunction = 64 := by
  cases hashFunction
  rfl

theorem sizeOfRawBinaryData_mk {data : List Byte} {size : Int} :
    (BinaryData.mk data size).sizeOfRawBinaryData = size := rfl

theorem sizeOfRawBinaryData_hash {hashFunction : HashFunction}
    (h : hash.length = sizeOfHash hashFunction) :
    (BinaryData.fromRawBinaryData hash).sizeOfRawBinaryData = sizeOfHash hashFunction := by
  rw [BinaryData.fromRawBinaryData, sizeOfRawBinaryData_mk, h, sizeOfHash_eq]
  exact toInt_of_lt (by omega) (by omega)

/-- A chain of two steps succeeds when both do. -/
theorem bind_eq_ok {α β : Type} {x : Except PasswordException α}
    {f : α → Except PasswordException β} {b : β} (h : x >>= f = .ok b) :
    ∃ a, x = .ok a ∧ f a = .ok b := by
  cases x with
  | error e => cases h
  | ok a => exact ⟨a, rfl, h⟩

theorem pbkdf2ComputeHash_eq_ok {n : Int} {hashFunction : HashFunction} {salt hash : BinaryData} :
    pbkdf2ComputeHash hmac n hashFunction salt p = .ok hash ↔
      ∃ bytes, hmac p (toInt p.length) salt n hashFunction = some bytes ∧
        hash = .fromRawBinaryData bytes.val := by
  unfold pbkdf2ComputeHash
  cases hmac p (toInt p.length) salt n hashFunction with
  | none => simp
  | some bytes => simp [eq_comm]

/-- The items of a record. -/
structure Recorded (hmac : Pkcs5Pbkdf2Hmac) (pbkdf2 : Pbkdf2) (salt : List Byte) (p : StdString)
    (hash : { hash : List Byte // hash.length = sizeOfHash pbkdf2.hashFunction })
    (encrypted : PasswordData) (encodedSalt encodedHash : StdString) : Prop where
  computed : hmac p (toInt p.length) (.fromRawBinaryData salt) pbkdf2.numberOfIterations
    pbkdf2.hashFunction = some hash
  salt : getBase64EncodedData (.fromRawBinaryData salt) = .ok encodedSalt
  hash : getBase64EncodedData (.fromRawBinaryData hash.val) = .ok encodedHash
  value : encrypted.value = ['$'].intercalate [[], pbkdf2Tag, toHashFunctionTag pbkdf2.hashFunction,
    (intToString pbkdf2.numberOfIterations).toList, encodedSalt, encodedHash]

theorem recorded_of_compute (h : pbkdf2.compute hmac (.fromRawBinaryData salt) p = .ok encrypted) :
    ∃ hash encodedSalt encodedHash,
      Recorded hmac pbkdf2 salt p hash encrypted encodedSalt encodedHash := by
  obtain ⟨hash, hcomputed, hrest⟩ := bind_eq_ok h
  obtain ⟨encodedSalt, hsalt, hrest'⟩ := bind_eq_ok hrest
  obtain ⟨encodedHash, hhash, hvalue⟩ := bind_eq_ok hrest'
  obtain ⟨bytes, hbytes, rfl⟩ := pbkdf2ComputeHash_eq_ok.mp hcomputed
  refine ⟨bytes, encodedSalt, encodedHash, hbytes, hsalt, hhash, ?_⟩
  rw [← Except.ok.inj hvalue]
  simp [Pbkdf2.getPrefixAndParameters, List.intercalate, List.intersperse]

theorem getRawBinaryData_of_encoded {data : List Byte} (hlength : data.length < 2147483648)
    (h : getBase64EncodedData (.fromRawBinaryData data) = .ok s) :
    getRawBinaryData s = .ok (.fromRawBinaryData data) := by
  have hround := getRawBinaryData_getBase64EncodedData hlength
  rwa [h] at hround

theorem items_of_recorded {encodedSalt encodedHash : StdString}
    {hash : { hash : List Byte // hash.length = sizeOfHash pbkdf2.hashFunction }}
    (hlength : salt.length < 2147483648)
    (h : Recorded hmac pbkdf2 salt p hash encrypted encodedSalt encodedHash) :
    tokens encrypted.value = [[], pbkdf2Tag, toHashFunctionTag pbkdf2.hashFunction,
      (intToString pbkdf2.numberOfIterations).toList, encodedSalt, encodedHash] := by
  have hsize : hash.val.length = 64 := hash.property.trans (sizeOfHash_eq _)
  have hsalt : '$' ∉ encodedSalt :=
    notMem_getBase64EncodedData hlength (by decide) (by decide) h.salt
  have hhash : '$' ∉ encodedHash :=
    notMem_getBase64EncodedData (by omega) (by decide) (by decide) h.hash
  have hhash_ne : encodedHash ≠ [] :=
    getBase64EncodedData_ne_nil (by omega) (List.ne_nil_of_length_pos (by omega)) h.hash
  have htag : '$' ∉ toHashFunctionTag pbkdf2.hashFunction := by
    cases pbkdf2.hashFunction
    decide
  have hnumber : '$' ∉ (intToString pbkdf2.numberOfIterations).toList := by
    obtain ⟨n, hn⟩ := Int.eq_ofNat_of_zero_le (Int.le_of_lt pbkdf2.positive)
    have htext : (intToString n).toList = Nat.toDigits 10 n := Nat.toList_repr
    rw [hn, htext]
    exact fun hmem =>
      absurd (Nat.isDigit_of_mem_toDigits (by decide) (by decide) hmem) (by decide)
  rw [h.value]
  refine tokens_intercalate ?_ (List.cons_ne_nil _ _) (by simpa using hhash_ne)
  have hpbkdf2 : '$' ∉ pbkdf2Tag := by decide
  simp only [List.forall_mem_cons]
  exact ⟨List.not_mem_nil, hpbkdf2, htag, hnumber, hsalt, hhash, by simp⟩

/-- What is parsed is what the record was made of. -/
theorem parseRecord_of_recorded {encodedSalt encodedHash : StdString}
    {hash : { hash : List Byte // hash.length = sizeOfHash pbkdf2.hashFunction }}
    (hlength : salt.length < 2147483648)
    (h : Recorded hmac pbkdf2 salt p hash encrypted encodedSalt encodedHash) :
    parseRecord encrypted = .ok (some ⟨pbkdf2.hashFunction, pbkdf2.numberOfIterations,
      .fromRawBinaryData salt, .fromRawBinaryData hash.val⟩) := by
  have hsize : hash.val.length = 64 := hash.property.trans (sizeOfHash_eq _)
  have htag : toHashFunction (toHashFunctionTag pbkdf2.hashFunction) = .ok pbkdf2.hashFunction := by
    cases pbkdf2.hashFunction
    rfl
  have hnumber := stoi_intToString pbkdf2.positive pbkdf2.fits
  have hsalt := getRawBinaryData_of_encoded hlength h.salt
  have hhash := getRawBinaryData_of_encoded (by omega) h.hash
  unfold parseRecord parseParameters
  simp only [items_of_recorded hlength h, nextItem, htag, hnumber, hsalt, hhash,
    sizeOfRawBinaryData_hash hash.property, bind, Except.bind, pure, Except.pure, List.length_nil,
    ne_eq, not_true_eq_false, if_false]

/-- A password is checked by its own hash against the stored one. -/
theorem checkPassword_of_recorded {encodedSalt encodedHash : StdString}
    {hash : { hash : List Byte // hash.length = sizeOfHash pbkdf2.hashFunction }}
    (hlength : salt.length < 2147483648)
    (h : Recorded hmac pbkdf2 salt p hash encrypted encodedSalt encodedHash) (q : StdString) :
    checkPassword hmac q encrypted =
      match hmac q (toInt q.length) (.fromRawBinaryData salt) pbkdf2.numberOfIterations
        pbkdf2.hashFunction with
      | none => .error (.runtimeError "unable to compute hash")
      | some hash' => if hash' = hash then .ok () else .error .incorrectPassword := by
  have hparse := parseRecord_of_recorded hlength h
  simp only [checkPassword, checkByAlgorithms, Pbkdf2.checkPasswordCorrectness, hparse,
    pbkdf2ComputeHash, bind, Except.bind]
  cases hcomputed : hmac q (toInt q.length) (.fromRawBinaryData salt) pbkdf2.numberOfIterations
      pbkdf2.hashFunction with
  | none => rfl
  | some hash' =>
    have hequal : checkEquality hash'.val hash.val (sizeOfHash pbkdf2.hashFunction)
        throwIncorrectPasswordExceptionOnNonzeroValue =
        if hash'.val = hash.val then .ok () else .error .incorrectPassword :=
      checkEquality_eq hash'.property hash.property
    simp only [BinaryData.fromRawBinaryData, hequal, Subtype.ext_iff]
    by_cases heq : hash'.val = hash.val
    · rw [if_pos heq]
      rfl
    · rw [if_neg heq]

theorem cStr_append {s t : StdString} (h : nul ∉ s) : cStr (s ++ t) = s ++ cStr t := by
  refine List.takeWhile_append_of_pos fun c hc => decide_eq_true ?_
  rintro rfl
  exact h hc

theorem nul_notMem_cStr : nul ∉ cStr s := by
  intro hmem
  have hne : decide (nul ≠ nul) = true := List.mem_takeWhile_imp (p := (· ≠ nul)) hmem
  exact of_decide_eq_true hne rfl

/-- A plaintext password is compared with what a C string keeps of it. -/
theorem checkPassword_plaintext (q : StdString) : checkPassword hmac q (Plaintext.compute p) =
    if q = cStr p then .ok () else .error .incorrectPassword := by
  obtain ⟨items, htokens⟩ := tokens_tag (by decide : '$' ∉ "plaintext".toList) p
  have hparse : parseRecord (Plaintext.compute p) = .ok none := by
    unfold parseRecord
    change (nextItem (tokens ('$' :: "plaintext".toList ++ '$' :: p)) >>= _) = _
    rw [htokens]
    rfl
  have hvalue : cStr (plaintextPrefix ++ p) = plaintextPrefix ++ cStr p := cStr_append (by decide)
  have hfits : plaintextPrefix.isPrefixOf (cStr (Plaintext.compute p).value) := by
    rw [Plaintext.compute, hvalue, List.isPrefixOf_iff_prefix]
    exact List.prefix_append _ _
  have hstored : (Plaintext.compute p).value.drop plaintextPrefix.length = p := List.drop_left
  simp only [checkPassword, checkByAlgorithms, Pbkdf2.checkPasswordCorrectness, hparse,
    Plaintext.checkPasswordCorrectness, hfits, hstored,
    throwIncorrectPasswordExceptionOnNonzeroValue, bind, Except.bind, pure, Except.pure, if_true]
  by_cases heq : q = cStr p
  · rw [if_pos heq]
    simp [heq]
  · rw [if_neg heq]
    simp [heq]

/-- How passwords are checked by what `p` is encrypted to. -/
structure ChecksCorrectly (hmac : Pkcs5Pbkdf2Hmac) (p : StdString) : Prop where
  base64 : ∀ data : List Byte, data.length < 2147483648 →
    getBase64EncodedData (.fromRawBinaryData data) >>= getRawBinaryData =
      .ok (.fromRawBinaryData data)
  parsed : ∀ (pbkdf2 : Pbkdf2) (salt : List Byte) (encrypted : PasswordData),
    salt.length < 2147483648 → pbkdf2.compute hmac (.fromRawBinaryData salt) p = .ok encrypted →
      ∃ hash, pbkdf2ComputeHash hmac pbkdf2.numberOfIterations pbkdf2.hashFunction
          (.fromRawBinaryData salt) p = .ok hash ∧
        parseRecord encrypted = .ok (some ⟨pbkdf2.hashFunction, pbkdf2.numberOfIterations,
          .fromRawBinaryData salt, hash⟩)
  pbkdf2 : ∀ (pbkdf2 : Pbkdf2) (salt : List Byte) (encrypted : PasswordData),
    salt.length < 2147483648 → pbkdf2.compute hmac (.fromRawBinaryData salt) p = .ok encrypted →
      checkPassword hmac p encrypted = .ok ()
  pbkdf2Incorrect : ∀ (pbkdf2 : Pbkdf2) (salt : List Byte) (encrypted : PasswordData),
    salt.length < 2147483648 → pbkdf2.compute hmac (.fromRawBinaryData salt) p = .ok encrypted →
      ∀ q, checkPassword hmac q encrypted = .error .incorrectPassword ↔
        ∃ hash hash', pbkdf2ComputeHash hmac pbkdf2.numberOfIterations pbkdf2.hashFunction
            (.fromRawBinaryData salt) p = .ok hash ∧
          pbkdf2ComputeHash hmac pbkdf2.numberOfIterations pbkdf2.hashFunction
            (.fromRawBinaryData salt) q = .ok hash' ∧ hash ≠ hash'
  plaintext : checkPassword hmac p (Plaintext.compute p) = .ok ()
  plaintextIncorrect : ∀ q,
    checkPassword hmac q (Plaintext.compute p) = .error .incorrectPassword ↔ q ≠ p

theorem fromRawBinaryData_injective {data data' : List Byte}
    (h : BinaryData.fromRawBinaryData data = .fromRawBinaryData data') : data = data' :=
  (BinaryData.mk.inj h).1

/-- A password differs from the encrypted one when its hash does. -/
theorem checkPassword_eq_incorrectPassword (hlength : salt.length < 2147483648)
    (h : pbkdf2.compute hmac (.fromRawBinaryData salt) p = .ok encrypted) (q : StdString) :
    checkPassword hmac q encrypted = .error .incorrectPassword ↔
      ∃ hash hash', pbkdf2ComputeHash hmac pbkdf2.numberOfIterations pbkdf2.hashFunction
          (.fromRawBinaryData salt) p = .ok hash ∧
        pbkdf2ComputeHash hmac pbkdf2.numberOfIterations pbkdf2.hashFunction
          (.fromRawBinaryData salt) q = .ok hash' ∧ hash ≠ hash' := by
  obtain ⟨hash, encodedSalt, encodedHash, hrecorded⟩ := recorded_of_compute h
  have hown := pbkdf2ComputeHash_eq_ok.mpr ⟨hash, hrecorded.computed, rfl⟩
  rw [checkPassword_of_recorded hlength hrecorded q]
  constructor
  · intro hincorrect
    split at hincorrect
    · cases hincorrect
    · rename_i hash' hother
      have hne : hash' ≠ hash := by
        rintro rfl
        rw [if_pos rfl] at hincorrect
        cases hincorrect
      refine ⟨_, _, hown, pbkdf2ComputeHash_eq_ok.mpr ⟨hash', hother, rfl⟩, fun heq => hne ?_⟩
      exact Subtype.ext (fromRawBinaryData_injective heq).symm
  · rintro ⟨data, data', hdata, hdata', hne⟩
    obtain ⟨hash', hother, rfl⟩ := pbkdf2ComputeHash_eq_ok.mp hdata'
    rw [hown] at hdata
    obtain rfl := Except.ok.inj hdata
    rw [hother]
    exact if_neg fun heq => hne (by rw [heq])

/-- Passwords are checked correctly unless they have a NUL character. -/
theorem checks_correctly_iff (hmac : Pkcs5Pbkdf2Hmac) (p : StdString) :
    ChecksCorrectly hmac p ↔ nul ∉ p := by
  constructor
  · intro h
    have hcheck := h.plaintext
    rw [checkPassword_plaintext] at hcheck
    split at hcheck
    · rename_i heq
      rw [heq]
      exact nul_notMem_cStr
    · cases hcheck
  · intro h
    refine ⟨fun data => getRawBinaryData_getBase64EncodedData, ?_, ?_, ?_, ?_, fun q => ?_⟩
    · intro pbkdf2 salt encrypted hlength hcompute
      obtain ⟨hash, encodedSalt, encodedHash, hrecorded⟩ := recorded_of_compute hcompute
      exact ⟨_, pbkdf2ComputeHash_eq_ok.mpr ⟨hash, hrecorded.computed, rfl⟩,
        parseRecord_of_recorded hlength hrecorded⟩
    · intro pbkdf2 salt encrypted hlength hcompute
      obtain ⟨hash, encodedSalt, encodedHash, hrecorded⟩ := recorded_of_compute hcompute
      rw [checkPassword_of_recorded hlength hrecorded p, hrecorded.computed]
      exact if_pos rfl
    · intro pbkdf2 salt encrypted hlength hcompute q
      exact checkPassword_eq_incorrectPassword hlength hcompute q
    · rw [checkPassword_plaintext, cStr_eq_self h]
      exact if_pos rfl
    · rw [checkPassword_plaintext, cStr_eq_self h]
      by_cases heq : q = p
      · simp [heq]
      · simp [heq]

/-- A plaintext password with a NUL character is refused, and a shorter one is accepted for it. -/
theorem not_checks_correctly : ¬ ∀ (hmac : Pkcs5Pbkdf2Hmac) (p : StdString),
    checkPassword hmac p (Plaintext.compute p) = .ok () ∧
      ∀ q, checkPassword hmac q (Plaintext.compute p) = .error .incorrectPassword ↔ q ≠ p := by
  intro h
  have hrefused : checkPassword (fun _ _ _ _ _ => none) ['a', nul] (Plaintext.compute ['a', nul]) =
      .error .incorrectPassword := by decide +kernel
  rw [(h _ _).1] at hrefused
  cases hrefused

end LibFred.PasswordStorage
