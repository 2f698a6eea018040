import Mathlib.Data.Char
import Mathlib.Tactic.Common

/-! Letter case of texts, as the C locale folds it. -/
namespace Sql

def upper (s : String) : String := String.ofList (s.toList.map Char.toUpper)

def lower (s : String) : String := String.ofList (s.toList.map Char.toLower)

theorem toUpper_of_not_lowercase {c : Char} (h : ¬ (97 ≤ c.val ∧ c.val ≤ 122)) :
    c.toUpper = c := by
  unfold Char.toUpper
  exact dif_neg h

theorem toLower_of_not_uppercase {c : Char} (h : ¬ (65 ≤ c.val ∧ c.val ≤ 90)) :
    c.toLower = c := by
  unfold Char.toLower
  exact dif_neg h

theorem toNat_toUpper_of_lowercase {c : Char} (h : 97 ≤ c.val ∧ c.val ≤ 122) :
    c.toUpper.val.toNat = c.val.toNat - 32 := by
  have hv : c.toUpper.val = c.val + ('A'.val - 'a'.val) := by
    unfold Char.toUpper
    rw [dif_pos (show c.val ≥ 'a'.val ∧ c.val ≤ 'z'.val from h)]
  have hd : 'A'.val - 'a'.val = 4294967264 := by rfl
  rw [hv]
  simp only [hd, UInt32.le_iff_toNat_le, UInt32.toNat_add, UInt32.reduceToNat] at h ⊢
  omega

theorem toNat_toLower_of_uppercase {c : Char} (h : 65 ≤ c.val ∧ c.val ≤ 90) :
    c.toLower.val.toNat = c.val.toNat + 32 := by
  have hv : c.toLower.val = c.val + ('a'.val - 'A'.val) := by
    unfold Char.toLower
    rw [dif_pos (show c.val ≥ 'A'.val ∧ c.val ≤ 'Z'.val from h)]
  have hd : 'a'.val - 'A'.val = 32 := by rfl
  rw [hv]
  simp only [hd, UInt32.le_iff_toNat_le, UInt32.toNat_add, UInt32.reduceToNat] at h ⊢
  omega

theorem toUpper_not_lowercase (c : Char) : ¬ (97 ≤ c.toUpper.val ∧ c.toUpper.val ≤ 122) := by
  by_cases h : 97 ≤ c.val ∧ c.val ≤ 122
  · have hup := toNat_toUpper_of_lowercase h
    simp only [UInt32.le_iff_toNat_le, UInt32.reduceToNat] at h ⊢
    omega
  · rwa [toUpper_of_not_lowercase h]

theorem toLower_not_uppercase (c : Char) : ¬ (65 ≤ c.toLower.val ∧ c.toLower.val ≤ 90) := by
  by_cases h : 65 ≤ c.val ∧ c.val ≤ 90
  · have hlow := toNat_toLower_of_uppercase h
    simp only [UInt32.le_iff_toNat_le, UInt32.reduceToNat] at h ⊢
    omega
  · rwa [toLower_of_not_uppercase h]

theorem toLower_toUpper (c : Char) : c.toUpper.toLower = c.toLower := by
  by_cases h : 97 ≤ c.val ∧ c.val ≤ 122
  · have hup := toNat_toUpper_of_lowercase h
    simp only [UInt32.le_iff_toNat_le, UInt32.reduceToNat] at h
    have hcase : 65 ≤ c.toUpper.val ∧ c.toUpper.val ≤ 90 := by
      simp only [UInt32.le_iff_toNat_le, UInt32.reduceToNat]
      omega
    have hlow : c.toLower = c := by
      apply toLower_of_not_uppercase
      simp only [UInt32.le_iff_toNat_le, UInt32.reduceToNat]
      omega
    rw [hlow]
    apply Char.ext
    apply UInt32.toNat_inj.mp
    rw [toNat_toLower_of_uppercase hcase]
    omega
  · rw [toUpper_of_not_lowercase h]

theorem utf8Size_toUpper (c : Char) : c.toUpper.utf8Size = c.utf8Size := by
  by_cases h : 97 ≤ c.val ∧ c.val ≤ 122
  · have hup := toNat_toUpper_of_lowercase h
    simp only [UInt32.le_iff_toNat_le, UInt32.reduceToNat] at h
    have hleft : c.toUpper.utf8Size = 1 := by
      simp only [Char.utf8Size_eq_one_iff, UInt32.le_iff_toNat_le, UInt32.reduceToNat]
      omega
    have hright : c.utf8Size = 1 := by
      simp only [Char.utf8Size_eq_one_iff, UInt32.le_iff_toNat_le, UInt32.reduceToNat]
      omega
    rw [hleft, hright]
  · rw [toUpper_of_not_lowercase h]

@[simp] theorem upper_upper (s : String) : upper (upper s) = upper s := by
  simp [upper, Function.comp_def, toUpper_of_not_lowercase (toUpper_not_lowercase _)]

@[simp] theorem lower_lower (s : String) : lower (lower s) = lower s := by
  simp [lower, Function.comp_def, toLower_of_not_uppercase (toLower_not_uppercase _)]

theorem lower_upper (s : String) : lower (upper s) = lower s := by
  simp only [lower, upper, String.toList_ofList, List.map_map, Function.comp_def, toLower_toUpper]

theorem utf8ByteSize_upper (s : String) : (upper s).utf8ByteSize = s.utf8ByteSize := by
  have h : ∀ l : List Char,
      (String.ofList (l.map Char.toUpper)).utf8ByteSize = (String.ofList l).utf8ByteSize := by
    intro l
    induction l with
    | nil => rfl
    | cons c l ih =>
      rw [List.map_cons, String.ofList_cons, String.ofList_cons, String.utf8ByteSize_append,
        String.utf8ByteSize_append, ih, String.utf8ByteSize_singleton,
        String.utf8ByteSize_singleton, utf8Size_toUpper]
  rw [upper, h, String.ofList_toList]

end Sql
