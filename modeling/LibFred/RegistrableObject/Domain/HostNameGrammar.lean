import LibFred.RegistrableObject.Domain.DomainName

/-! The grammar of host names beside the checks of their syntax. -/
namespace LibFred.RegistrableObject.Domain

open Cpp (StdString)

variable {s name label : StdString} {c : Char}

/-- A label: letters, digits and hyphens, which do not stand at its ends. -/
structure IsLabel (label : StdString) : Prop where
  nonempty : 1 ≤ label.length
  short : label.length ≤ 63
  characters : ∀ c ∈ label, c.isAlphanum = true ∨ c = '-'
  first : label.head? ≠ some '-'
  last : label.getLast? ≠ some '-'

/-- Labels that are joined by dots. -/
inductive DottedLabels : StdString → Prop
  | label {label : StdString} : IsLabel label → DottedLabels label
  | dot {label name : StdString} : IsLabel label → DottedLabels name → DottedLabels (label ++ '.' :: name)

/-- A host name, which may have a final dot. -/
def IsHostName (s : StdString) : Prop :=
  ∃ name, DottedLabels name ∧ name.length ≤ 253 ∧ (s = name ∨ s = name ++ ['.'])

theorem isAlpha_iff : c.isAlpha = true ↔
    (65 ≤ c.val.toNat ∧ c.val.toNat ≤ 90) ∨ (97 ≤ c.val.toNat ∧ c.val.toNat ≤ 122) := by
  delta Char.isAlpha Char.isUpper Char.isLower
  simp only [Bool.or_eq_true, Bool.and_eq_true, decide_eq_true_eq, UInt32.le_iff_toNat_le,
    UInt32.reduceToNat, Char.reduceVal, ge_iff_le]

theorem mem_letterDigitHyphenDot :
    c ∈ letterDigitHyphenDot ↔ c.isAlphanum = true ∨ c = '-' ∨ c = '.' := by
  constructor
  · have hall : ∀ c ∈ letterDigitHyphenDot, c.isAlphanum = true ∨ c = '-' ∨ c = '.' := by decide
    exact hall c
  · rintro (h | rfl | rfl)
    · have hall : ∀ n < 128, (Char.ofNat n).isAlphanum = true → Char.ofNat n ∈ letterDigitHyphenDot := by
        decide
      have hlt : c.toNat < 128 := by
        rw [Char.isAlphanum, Bool.or_eq_true, isAlpha_iff] at h
        simp only [Char.isDigit, Bool.and_eq_true, decide_eq_true_eq, UInt32.le_iff_toNat_le,
          UInt32.reduceToNat, Char.reduceVal] at h
        rw [Char.toNat]
        omega
      have hc := hall c.toNat hlt
      rw [Char.ofNat_toNat] at hc
      exact hc h
    · decide
    · decide

theorem dot_notMem_label (h : IsLabel label) : '.' ∉ label := by
  intro hdot
  have hchar := h.characters '.' hdot
  exact absurd hchar (by decide)

theorem isCompliantLabel_iff : isCompliantLabel label = true ↔
    1 ≤ label.length ∧ label.length ≤ 63 ∧ label.head? ≠ some '-' ∧ label.getLast? ≠ some '-' := by
  unfold isCompliantLabel
  rw [decide_eq_true_iff]
  simp only [not_or, not_lt]

theorem DottedLabels.splitOn (h : DottedLabels s) : ∀ label ∈ s.splitOn '.', IsLabel label := by
  induction h with
  | label hlabel =>
    rw [List.splitOn_eq_singleton (dot_notMem_label hlabel)]
    intro label hmem
    rw [List.mem_singleton.mp hmem]
    exact hlabel
  | dot hlabel _ ih =>
    rw [List.splitOn_append_cons_self_of_not_mem (dot_notMem_label hlabel)]
    exact List.forall_mem_cons.mpr ⟨hlabel, ih⟩

theorem DottedLabels.characters (h : DottedLabels s) : ∀ c ∈ s, c ∈ letterDigitHyphenDot := by
  induction h with
  | label hlabel =>
    intro c hc
    rw [mem_letterDigitHyphenDot, ← or_assoc]
    exact .inl (hlabel.characters c hc)
  | dot hlabel _ ih =>
    intro c hc
    rcases List.mem_append.mp hc with hc | hc
    · rw [mem_letterDigitHyphenDot, ← or_assoc]
      exact .inl (hlabel.characters c hc)
    · rcases List.mem_cons.mp hc with rfl | hc
      · decide
      · exact ih c hc

/-- The first label of a text ends with its first dot. -/
theorem dottedLabels_of_compliant (hchars : ∀ c ∈ s, c ∈ letterDigitHyphenDot)
    (hlabels : ∀ label ∈ s.splitOn '.', isCompliantLabel label = true) : DottedLabels s := by
  have hlabel {label : StdString} (hcompliant : isCompliantLabel label = true)
      (hchars : ∀ c ∈ label, c ∈ letterDigitHyphenDot) (hdot : '.' ∉ label) : IsLabel label := by
    obtain ⟨hmin, hmax, hfirst, hlast⟩ := isCompliantLabel_iff.mp hcompliant
    refine ⟨hmin, hmax, fun c hc => ?_, hfirst, hlast⟩
    rcases mem_letterDigitHyphenDot.mp (hchars c hc) with h | h | rfl
    · exact .inl h
    · exact .inr h
    · exact absurd hc hdot
  induction hn : s.length using Nat.strong_induction_on generalizing s with
  | h n ih =>
    by_cases hdot : '.' ∈ s
    · obtain ⟨label, name, rfl, hfirst⟩ := List.eq_append_cons_of_mem hdot
      rw [List.splitOn_append_cons_self_of_not_mem hfirst, List.forall_mem_cons] at hlabels
      have hname : ∀ c ∈ name, c ∈ letterDigitHyphenDot := fun c hc =>
        hchars c (List.mem_append_right _ (List.mem_cons_of_mem _ hc))
      refine .dot (hlabel hlabels.1 (fun c hc => hchars c (List.mem_append_left _ hc)) hfirst) ?_
      refine ih name.length ?_ hname hlabels.2 rfl
      rw [← hn, List.length_append, List.length_cons]
      omega
    · rw [List.splitOn_eq_singleton hdot] at hlabels
      exact .label (hlabel (hlabels s (List.mem_singleton_self s)) hchars hdot)

theorem DottedLabels.ne_nil (h : DottedLabels s) : s ≠ [] := by
  rintro rfl
  have hnil := h.splitOn [] (by simp)
  exact absurd hnil.nonempty (by decide)

theorem DottedLabels.last (h : DottedLabels s) : s.getLast? ≠ some '.' := by
  intro hlast
  obtain ⟨t, rfl⟩ := List.getLast?_eq_some_iff.mp hlast
  have hnil := h.splitOn [] (by rw [splitOn_concat_dot]; simp)
  exact absurd hnil.nonempty (by decide)

theorem eq_or_eq_remTrailingDot (s : StdString) :
    s = Zone.remTrailingDot s ∨ s = Zone.remTrailingDot s ++ ['.'] := by
  by_cases hlast : s.getLast? = some '.'
  · obtain ⟨t, rfl⟩ := List.getLast?_eq_some_iff.mp hlast
    refine .inr ?_
    simp [Zone.remTrailingDot]
  · exact .inl (remTrailingDot_eq_self hlast).symm

/-- The check sees the name without its final dot. -/
theorem isRfc1123_iff : isRfc1123CompliantHostName s = true ↔
    DottedLabels (Zone.remTrailingDot s) ∧ (Zone.remTrailingDot s).length ≤ 253 := by
  unfold isRfc1123CompliantHostName
  dsimp only
  constructor
  · intro h
    split at h
    · cases h
    · rename_i hlength
      split at h
      · cases h
      · rename_i hchars
        refine ⟨dottedLabels_of_compliant ?_ (List.all_eq_true.mp h), by omega⟩
        intro c hc
        by_contra hnot
        exact hchars ⟨c, hc, hnot⟩
  · rintro ⟨hname, hmax⟩
    have hmin : 1 ≤ (Zone.remTrailingDot s).length := List.length_pos_iff.mpr hname.ne_nil
    rw [if_neg (by omega), if_neg]
    · refine List.all_eq_true.mpr fun label hlabel => ?_
      obtain ⟨hnonempty, hshort, -, hfirst, hlast⟩ := hname.splitOn label hlabel
      exact isCompliantLabel_iff.mpr ⟨hnonempty, hshort, hfirst, hlast⟩
    · rintro ⟨c, hc, hnot⟩
      exact hnot (hname.characters c hc)

theorem isHostName_iff : IsHostName s ↔
    DottedLabels (Zone.remTrailingDot s) ∧ (Zone.remTrailingDot s).length ≤ 253 := by
  constructor
  · rintro ⟨name, hname, hlength, rfl | rfl⟩
    · rw [remTrailingDot_eq_self hname.last]
      exact ⟨hname, hlength⟩
    · have hrem : Zone.remTrailingDot (name ++ ['.']) = name := by simp [Zone.remTrailingDot]
      rw [hrem]
      exact ⟨hname, hlength⟩
  · rintro ⟨hname, hlength⟩
    exact ⟨_, hname, hlength, eq_or_eq_remTrailingDot s⟩

theorem init_eq_ok : (∃ name, DomainName.init (some s) = .ok name) ↔
    isRfc1123CompliantHostName s = true := by
  unfold DomainName.init
  split
  · cases ‹some s = none›
  · rename_i heq
    cases heq
    split
    · rename_i h
      exact ⟨fun _ => h, fun _ => ⟨_, rfl⟩⟩
    · rename_i h
      exact ⟨nofun, fun hs => (h hs).elim⟩

/-- The check accepts the host names of the grammar and no other text, and so does the constructor;
of a text with a zero it sees what is before that. -/
theorem host_name_grammar (s : StdString) :
    (isRfc1123CompliantHostName s = true ↔ IsHostName s) ∧
      ((∃ name, DomainName.new s = .ok name) ↔ IsHostName (Cpp.cStr s)) ∧
      (Cpp.nul ∉ s → ((∃ name, DomainName.new s = .ok name) ↔ IsHostName s)) := by
  have hcheck (s : StdString) : isRfc1123CompliantHostName s = true ↔ IsHostName s := by
    rw [isRfc1123_iff, isHostName_iff]
  have hnew : (∃ name, DomainName.new s = .ok name) ↔ IsHostName (Cpp.cStr s) := by
    rw [DomainName.new, init_eq_ok, hcheck]
  refine ⟨hcheck s, hnew, fun hnul => ?_⟩
  rw [hnew, Cpp.cStr_eq_self hnul]

end LibFred.RegistrableObject.Domain
