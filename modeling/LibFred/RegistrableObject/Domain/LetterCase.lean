import LibFred.RegistrableObject.Domain.HostNameGrammar
import LibFred.Sql.Text

/-! Host names in another letter case. -/
namespace LibFred.RegistrableObject.Domain

open Cpp (StdString)

variable {s s' label : StdString} {c d : Char}

theorem toLower_eq_iff (hc : ¬ (65 ≤ d.val ∧ d.val ≤ 90)) (hd : ¬ (97 ≤ d.val ∧ d.val ≤ 122)) :
    c.toLower = d ↔ c = d := by
  by_cases h : 65 ≤ c.val ∧ c.val ≤ 90
  · have hlower := Sql.toNat_toLower_of_uppercase h
    simp only [UInt32.le_iff_toNat_le, UInt32.reduceToNat] at h hc hd
    constructor
    · rintro rfl
      omega
    · rintro rfl
      omega
  · rw [Sql.toLower_of_not_uppercase h]

theorem toLower_eq_dot : c.toLower = '.' ↔ c = '.' := toLower_eq_iff (by decide) (by decide)

theorem toLower_eq_hyphen : c.toLower = '-' ↔ c = '-' := toLower_eq_iff (by decide) (by decide)

theorem isDigit_toLower (c : Char) : c.toLower.isDigit = c.isDigit := by
  by_cases h : 65 ≤ c.val ∧ c.val ≤ 90
  · have hlower := Sql.toNat_toLower_of_uppercase h
    simp only [UInt32.le_iff_toNat_le, UInt32.reduceToNat] at h
    simp only [Char.isDigit, UInt32.le_iff_toNat_le, Char.reduceVal, UInt32.reduceToNat, hlower]
    rw [Bool.eq_iff_iff, Bool.and_eq_true, Bool.and_eq_true]
    simp only [decide_eq_true_eq]
    omega
  · rw [Sql.toLower_of_not_uppercase h]

theorem isAlpha_toLower (c : Char) : c.toLower.isAlpha = c.isAlpha := by
  by_cases h : 65 ≤ c.val ∧ c.val ≤ 90
  · have hlower := Sql.toNat_toLower_of_uppercase h
    simp only [UInt32.le_iff_toNat_le, UInt32.reduceToNat] at h
    rw [Bool.eq_iff_iff, isAlpha_iff, isAlpha_iff, hlower]
    omega
  · rw [Sql.toLower_of_not_uppercase h]

theorem isAlphanum_toLower (c : Char) : c.toLower.isAlphanum = c.isAlphanum := by
  rw [Char.isAlphanum, Char.isAlphanum, isAlpha_toLower, isDigit_toLower]

/-- Dots stay where they are. -/
theorem splitOn_toLowerCopy (s : StdString) :
    (Cpp.toLowerCopy s).splitOn '.' = (s.splitOn '.').map Cpp.toLowerCopy := by
  induction s with
  | nil => rfl
  | cons c s ih =>
    have hdot : (c.toLower == '.') = (c == '.') := by
      rw [Bool.eq_iff_iff, beq_iff_eq, beq_iff_eq, toLower_eq_dot]
    have hcons : Cpp.toLowerCopy (c :: s) = c.toLower :: Cpp.toLowerCopy s := rfl
    rw [hcons, List.splitOn_cons_eq_if_modifyHead, List.splitOn_cons_eq_if_modifyHead, hdot, ih]
    split
    · rfl
    · cases s.splitOn '.' with
      | nil => rfl
      | cons label labels => rfl

theorem getLast?_toLowerCopy (hd : ∀ c : Char, c.toLower = d ↔ c = d) :
    (Cpp.toLowerCopy s).getLast? = some d ↔ s.getLast? = some d := by
  rw [Cpp.toLowerCopy, List.getLast?_map, Option.map_eq_some_iff]
  simp only [hd]
  constructor
  · rintro ⟨c, hc, rfl⟩
    exact hc
  · intro h
    exact ⟨d, h, rfl⟩

theorem head?_toLowerCopy (hd : ∀ c : Char, c.toLower = d ↔ c = d) :
    (Cpp.toLowerCopy s).head? = some d ↔ s.head? = some d := by
  rw [Cpp.toLowerCopy, List.head?_map, Option.map_eq_some_iff]
  simp only [hd]
  constructor
  · rintro ⟨c, hc, rfl⟩
    exact hc
  · intro h
    exact ⟨d, h, rfl⟩

theorem remTrailingDot_toLowerCopy (s : StdString) :
    Zone.remTrailingDot (Cpp.toLowerCopy s) = Cpp.toLowerCopy (Zone.remTrailingDot s) := by
  unfold Zone.remTrailingDot
  simp only [getLast?_toLowerCopy fun _ => toLower_eq_dot]
  split
  · exact List.map_dropLast.symm
  · rfl

theorem isLabel_toLowerCopy : IsLabel (Cpp.toLowerCopy label) ↔ IsLabel label := by
  have hchars : (∀ c ∈ Cpp.toLowerCopy label, c.isAlphanum = true ∨ c = '-') ↔
      ∀ c ∈ label, c.isAlphanum = true ∨ c = '-' := by
    unfold Cpp.toLowerCopy
    rw [List.forall_mem_map]
    simp only [isAlphanum_toLower, toLower_eq_hyphen]
  have hfirst := head?_toLowerCopy (s := label) fun _ => toLower_eq_hyphen
  have hlast := getLast?_toLowerCopy (s := label) fun _ => toLower_eq_hyphen
  constructor
  · rintro ⟨hmin, hmax, hcs, hf, hl⟩
    rw [Cpp.length_toLowerCopy] at hmin hmax
    exact ⟨hmin, hmax, hchars.mp hcs, mt hfirst.mpr hf, mt hlast.mpr hl⟩
  · rintro ⟨hmin, hmax, hcs, hf, hl⟩
    rw [← Cpp.length_toLowerCopy] at hmin hmax
    exact ⟨hmin, hmax, hchars.mpr hcs, mt hfirst.mp hf, mt hlast.mp hl⟩

theorem dottedLabels_join {labels : List StdString} (hne : labels ≠ [])
    (h : ∀ label ∈ labels, IsLabel label) : DottedLabels (join labels) := by
  induction labels with
  | nil => exact absurd rfl hne
  | cons label labels ih =>
    obtain ⟨hlabel, hlabels⟩ := List.forall_mem_cons.mp h
    by_cases hnil : labels = []
    · rw [hnil, join_singleton]
      exact .label hlabel
    · rw [join_cons label hnil]
      exact .dot hlabel (ih hnil hlabels)

theorem dottedLabels_iff : DottedLabels s ↔ ∀ label ∈ s.splitOn '.', IsLabel label := by
  refine ⟨DottedLabels.splitOn, fun h => ?_⟩
  have hjoin := dottedLabels_join (List.splitOn_ne_nil '.' s) h
  rwa [join_splitOn] at hjoin

theorem dottedLabels_toLowerCopy : DottedLabels (Cpp.toLowerCopy s) ↔ DottedLabels s := by
  rw [dottedLabels_iff, dottedLabels_iff, splitOn_toLowerCopy, List.forall_mem_map]
  simp only [isLabel_toLowerCopy]

theorem dottedLabels_append : DottedLabels (s ++ '.' :: s') ↔ DottedLabels s ∧ DottedLabels s' := by
  simp only [dottedLabels_iff, List.splitOn_append_cons_self, List.forall_mem_append]

/-- The check does not look at letter case. -/
theorem isRfc1123_toLowerCopy (s : StdString) :
    isRfc1123CompliantHostName (Cpp.toLowerCopy s) = isRfc1123CompliantHostName s := by
  rw [Bool.eq_iff_iff, isRfc1123_iff, isRfc1123_iff, remTrailingDot_toLowerCopy,
    dottedLabels_toLowerCopy, Cpp.length_toLowerCopy]

end LibFred.RegistrableObject.Domain
