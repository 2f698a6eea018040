import Mathlib.Data.List.OfFn

/-! Sequences of numbers of some width as sequences of numbers of another width. -/
namespace TransformWidth

variable {m n : Nat} {x : BitVec n} {bs buffer rest rest' : List Bool} {xs ys : List (BitVec n)}

/-- The bits of a number, the most significant first. -/
def bits (x : BitVec n) : List Bool := List.ofFn fun i : Fin n => x.getMsbD i

def ofBits (n : Nat) (bs : List Bool) : BitVec n := (BitVec.ofBoolListBE bs).setWidth n

@[simp] theorem length_bits : (bits x).length = n := List.length_ofFn

theorem bits_ofBits (h : bs.length = n) : bits (ofBits n bs) = bs := by
  subst h
  refine List.ext_getElem length_bits fun i hi hi' => ?_
  simp [bits, ofBits]

theorem getD_bits {i : Nat} (hi : i < n) : (bits x).getD i false = x.getMsbD i := by
  simp [bits, hi]

theorem ofBits_bits (x : BitVec n) : ofBits n (bits x) = x := by
  refine BitVec.eq_of_getMsbD_eq fun i hi => ?_
  rw [← getD_bits hi, bits_ofBits length_bits, getD_bits hi]

/-- Bits are gathered until they make up a number; those that are left over come last. -/
def regroup (n : Nat) : List Bool → List Bool → List (BitVec n) × List Bool
  | buffer, [] => ([], buffer)
  | buffer, b :: bs =>
    if buffer.length + 1 = n then
      (ofBits n (buffer ++ [b]) :: (regroup n [] bs).1, (regroup n [] bs).2)
    else regroup n (buffer ++ [b]) bs

def zeroFill (n : Nat) (rest : List Bool) : List (BitVec n) :=
  if rest = [] then [] else [ofBits n (rest ++ List.replicate (n - rest.length) false)]

/-- From narrow to wide numbers the bits left over are discarded, from wide to narrow ones they are
filled with zeros. -/
def transformWidth (n : Nat) (xs : List (BitVec m)) : List (BitVec n) :=
  (regroup n [] (xs.flatMap bits)).1 ++
    if m < n then [] else zeroFill n (regroup n [] (xs.flatMap bits)).2

theorem length_nil_lt (h : 0 < n) : ([] : List Bool).length < n := h

/-- No bit is lost, and less than a number is left over. -/
theorem regroup_spec (bs : List Bool) (h : buffer.length < n) :
    (regroup n buffer bs).1.flatMap bits ++ (regroup n buffer bs).2 = buffer ++ bs ∧
      (regroup n buffer bs).2.length < n := by
  induction bs generalizing buffer with
  | nil => simpa [regroup] using h
  | cons b bs ih =>
    rw [regroup]
    split
    · rename_i hfull
      obtain ⟨hbits, hlength⟩ := ih (length_nil_lt (Nat.zero_lt_of_lt h))
      refine ⟨?_, hlength⟩
      rw [List.flatMap_cons, bits_ofBits (by simpa using hfull), List.append_assoc, hbits]
      simp
    · have hshort : (buffer ++ [b]).length < n := by
        rw [List.length_append, List.length_singleton]
        omega
      obtain ⟨hbits, hlength⟩ := ih hshort
      refine ⟨?_, hlength⟩
      rw [hbits, List.append_assoc, List.singleton_append]

/-- The bits say which numbers they are of. -/
theorem flatMap_bits_inj (hrest : rest.length < n) (hrest' : rest'.length < n)
    (h : xs.flatMap bits ++ rest = ys.flatMap bits ++ rest') : xs = ys ∧ rest = rest' := by
  induction xs generalizing ys with
  | nil =>
    cases ys with
    | nil => exact ⟨rfl, h⟩
    | cons y ys =>
      have hlength := congrArg List.length h
      simp only [List.flatMap_nil, List.nil_append, List.flatMap_cons, List.length_append,
        length_bits] at hlength
      omega
  | cons x xs ih =>
    cases ys with
    | nil =>
      have hlength := congrArg List.length h
      simp only [List.flatMap_nil, List.nil_append, List.flatMap_cons, List.length_append,
        length_bits] at hlength
      omega
    | cons y ys =>
      rw [List.flatMap_cons, List.flatMap_cons, List.append_assoc, List.append_assoc] at h
      obtain ⟨hbits, htail⟩ := List.append_inj h (by simp)
      obtain ⟨rfl, rfl⟩ := ih htail
      rw [← ofBits_bits x, hbits, ofBits_bits]
      exact ⟨rfl, rfl⟩

theorem regroup_eq (hrest : rest.length < n) :
    regroup n [] (xs.flatMap bits ++ rest) = (xs, rest) := by
  obtain ⟨hbits, hlength⟩ :=
    regroup_spec (xs.flatMap bits ++ rest) (length_nil_lt (Nat.zero_lt_of_lt hrest))
  obtain ⟨hxs, hleft⟩ := flatMap_bits_inj hlength hrest hbits
  exact Prod.ext hxs hleft

theorem bits_zeroFill (h : rest.length < n) : ∃ k, k < n ∧
    (zeroFill n rest).flatMap bits = rest ++ List.replicate k false := by
  unfold zeroFill
  split
  · rename_i hempty
    exact ⟨0, Nat.zero_lt_of_lt h, by simp [hempty]⟩
  · rename_i hrest
    have hpos := List.length_pos_iff.mpr hrest
    refine ⟨n - rest.length, by omega, ?_⟩
    rw [List.flatMap_singleton, bits_ofBits]
    rw [List.length_append, List.length_replicate]
    omega

/-- Narrow numbers have the bits of the wide ones and some zeros after them. -/
theorem bits_transformWidth (hn : 0 < n) (h : n ≤ m) (xs : List (BitVec m)) : ∃ k, k < n ∧
    (transformWidth n xs).flatMap bits = xs.flatMap bits ++ List.replicate k false := by
  obtain ⟨hbits, hlength⟩ := regroup_spec (xs.flatMap bits) (length_nil_lt hn)
  obtain ⟨k, hk, hfill⟩ := bits_zeroFill hlength
  rw [List.nil_append] at hbits
  refine ⟨k, hk, ?_⟩
  rw [transformWidth, if_neg (Nat.not_lt.mpr h), List.flatMap_append, hfill, ← List.append_assoc, hbits]

@[simp] theorem length_flatMap_bits : (xs.flatMap bits).length = xs.length * n := by
  induction xs with
  | nil => simp
  | cons x xs ih =>
    rw [List.flatMap_cons, List.length_append, length_bits, ih, List.length_cons, Nat.add_mul,
      Nat.one_mul, Nat.add_comm]

theorem length_transformWidth (hn : 0 < n) (h : n ≤ m) (xs : List (BitVec m)) : ∃ k, k < n ∧
    (transformWidth n xs).length * n = xs.length * m + k := by
  obtain ⟨k, hk, hbits⟩ := bits_transformWidth hn h xs
  refine ⟨k, hk, ?_⟩
  have hlength := congrArg List.length hbits
  rwa [List.length_append, length_flatMap_bits, length_flatMap_bits, List.length_replicate] at hlength

/-- Wide numbers come back from narrow ones. -/
theorem transformWidth_transformWidth (hn : 0 < n) (h : n < m) (xs : List (BitVec m)) :
    transformWidth m (transformWidth n xs) = xs := by
  obtain ⟨k, hk, hbits⟩ := bits_transformWidth hn (Nat.le_of_lt h) xs
  have hrest : (List.replicate k false).length < m := by
    rw [List.length_replicate]
    omega
  rw [transformWidth, hbits, regroup_eq hrest, if_pos h, List.append_nil]

end TransformWidth
