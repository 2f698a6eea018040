import Mathlib.Data.List.Induction
import Mathlib.Order.BooleanAlgebra.Set

/-! Lists of items that are put into a set, or taken out of it, one by one. An item spells an
element of the set, in one of several ways, or none at all. -/
namespace Itemwise

variable {α κ : Type*}

inductive Change
  | put
  | take

namespace Change

/-- The set after elements are put into it or taken out of it. -/
def apply : Change → Set κ → Set κ → Set κ
  | put, s, t => s ∪ t
  | take, s, t => s \ t

/-- The change of this element would change nothing. -/
def Done : Change → Set κ → κ → Prop
  | put, s, k => k ∈ s
  | take, s, k => k ∉ s

variable {c : Change} {s t t' : Set κ} {k : κ}

@[simp] theorem apply_empty : c.apply s ∅ = s := by
  cases c with
  | put => exact Set.union_empty s
  | take => exact Set.sdiff_empty

theorem apply_apply : c.apply (c.apply s t) t' = c.apply s (t ∪ t') := by
  cases c with
  | put => exact Set.union_assoc s t t'
  | take => exact sdiff_sdiff_left

theorem apply_of_done (h : c.Done s k) : c.apply s {k} = s := by
  cases c with
  | put => exact Set.union_eq_self_of_subset_right (Set.singleton_subset_iff.mpr h)
  | take => exact Set.sdiff_singleton_eq_self h

theorem done_apply : c.Done (c.apply s t) k ↔ c.Done s k ∨ k ∈ t := by
  cases c with
  | put => exact Iff.rfl
  | take =>
    simp only [Done, apply, Set.mem_sdiff, not_and, not_not]
    exact ⟨fun h => (em (k ∈ s)).symm.imp_right h, fun h hs => h.resolve_left (not_not_intro hs)⟩

end Change

/-- What became of the items so far: those that spell nothing are `unknown`, and those that find
their change done already are `refused`. -/
structure Tally (α κ : Type*) where
  set : Set κ
  unknown : List α
  refused : List α

variable (key : α → Option κ) (c : Change)

open Classical in
noncomputable def step (o : Tally α κ) (a : α) : Tally α κ :=
  match key a with
  | none => { o with unknown := o.unknown ++ [a] }
  | some k =>
    if c.Done o.set k then { o with refused := o.refused ++ [a] }
    else { o with set := c.apply o.set {k} }

/-- The elements that the items spell. -/
def keys (l : List α) : Set κ := {k | ∃ a ∈ l, key a = some k}

/-- The item stands somewhere in the list where its change is done already, be it before the list
or by an item ahead. -/
def Refused (s : Set κ) (l : List α) (a : α) : Prop :=
  ∃ ahead behind k, l = ahead ++ a :: behind ∧ key a = some k ∧ (c.Done s k ∨ k ∈ keys key ahead)

variable {key c} {o : Tally α κ} {s : Set κ} {l : List α} {a b : α} {k : κ}

theorem step_unknown (h : key a = none) :
    step key c o a = { o with unknown := o.unknown ++ [a] } := by
  simp [step, h]

theorem step_refused (h : key a = some k) (hk : c.Done o.set k) :
    step key c o a = { o with refused := o.refused ++ [a] } := by
  simp [step, h, hk]

theorem step_changes (h : key a = some k) (hk : ¬ c.Done o.set k) :
    step key c o a = { o with set := c.apply o.set {k} } := by
  simp [step, h, hk]

@[simp] theorem keys_nil : keys key ([] : List α) = ∅ := by simp [keys]

theorem mem_keys : k ∈ keys key l ↔ ∃ a ∈ l, key a = some k := Iff.rfl

/-- Items that spell themselves. -/
theorem keys_some (l : List α) : keys some l = {a | a ∈ l} := by
  ext k
  simp [keys]

theorem keys_concat : keys key (l ++ [b]) = keys key l ∪ {k | key b = some k} := by
  ext k
  simp only [mem_keys, List.mem_append, List.mem_singleton, Set.mem_union, Set.mem_ofPred_eq]
  constructor
  · rintro ⟨a, ha | rfl, hk⟩
    · exact .inl ⟨a, ha, hk⟩
    · exact .inr hk
  · rintro (⟨a, ha, hk⟩ | hk)
    · exact ⟨a, .inl ha, hk⟩
    · exact ⟨b, .inr rfl, hk⟩

theorem not_refused_nil : ¬ Refused key c s [] a := by
  rintro ⟨ahead, behind, k, h, -⟩
  simp at h

/-- The last item is refused or it is not; those ahead do not mind. -/
theorem refused_concat : Refused key c s (l ++ [b]) a ↔
    Refused key c s l a ∨ a = b ∧ ∃ k, key b = some k ∧ c.Done (c.apply s (keys key l)) k := by
  constructor
  · rintro ⟨ahead, behind, k, h, hk, hdone⟩
    cases behind using List.reverseRecOn with
    | nil =>
      obtain ⟨rfl, hb⟩ := List.append_inj' h rfl
      obtain rfl : b = a := by simpa using hb
      exact .inr ⟨rfl, k, hk, Change.done_apply.mpr hdone⟩
    | append_singleton behind b' =>
      rw [← List.cons_append, ← List.append_assoc] at h
      obtain ⟨rfl, -⟩ := List.append_inj' h rfl
      exact .inl ⟨ahead, behind, k, rfl, hk, hdone⟩
  · rintro (⟨ahead, behind, k, rfl, hk, hdone⟩ | ⟨rfl, k, hk, hdone⟩)
    · exact ⟨ahead, behind ++ [b], k, by simp, hk, hdone⟩
    · exact ⟨l, [], k, rfl, hk, Change.done_apply.mp hdone⟩

/-- The set law: each item counts as if it were the only one. -/
theorem set_foldl (l : List α) : (l.foldl (step key c) o).set = c.apply o.set (keys key l) := by
  induction l using List.reverseRecOn with
  | nil => simp
  | append_singleton l b ih =>
    rw [List.foldl_append, List.foldl_cons, List.foldl_nil, keys_concat, ← Change.apply_apply, ← ih]
    cases hb : key b with
    | none =>
      have hnone : {k | (none : Option κ) = some k} = ∅ := by simp
      rw [step_unknown hb, hnone, Change.apply_empty]
    | some k =>
      have hone : {k' | some k = some k'} = {k} := by
        ext k'
        simp [eq_comm]
      rw [hone]
      by_cases hk : c.Done (l.foldl (step key c) o).set k
      · rw [step_refused hb hk, Change.apply_of_done hk]
      · rw [step_changes hb hk]

theorem mem_unknown_foldl (l : List α) : a ∈ (l.foldl (step key c) o).unknown ↔
    a ∈ o.unknown ∨ a ∈ l ∧ key a = none := by
  induction l using List.reverseRecOn with
  | nil => simp
  | append_singleton l b ih =>
    rw [List.foldl_append, List.foldl_cons, List.foldl_nil]
    have hsplit : a ∈ l ++ [b] ∧ key a = none ↔ a ∈ l ∧ key a = none ∨ a = b ∧ key b = none := by
      simp only [List.mem_append, List.mem_singleton, or_and_right]
      exact or_congr_right (and_congr_right fun h => by rw [h])
    rw [hsplit, ← or_assoc, ← ih]
    cases hb : key b with
    | none =>
      rw [step_unknown hb]
      simp
    | some k =>
      by_cases hk : c.Done (l.foldl (step key c) o).set k
      · rw [step_refused hb hk]
        simp
      · rw [step_changes hb hk]
        simp

theorem mem_refused_foldl (l : List α) : a ∈ (l.foldl (step key c) o).refused ↔
    a ∈ o.refused ∨ Refused key c o.set l a := by
  induction l using List.reverseRecOn with
  | nil => simp [not_refused_nil]
  | append_singleton l b ih =>
    rw [List.foldl_append, List.foldl_cons, List.foldl_nil, refused_concat, ← or_assoc, ← ih,
      ← set_foldl]
    cases hb : key b with
    | none =>
      rw [step_unknown hb]
      simp
    | some k =>
      by_cases hk : c.Done (l.foldl (step key c) o).set k
      · rw [step_refused hb hk]
        simp [hk]
      · rw [step_changes hb hk]
        simp [hk]

/-- Where no item is refused, every change of the list was still to be made before it. -/
theorem not_done_of_not_refused (h : ∀ a, ¬ Refused key c s l a) (hk : k ∈ keys key l) : ¬ c.Done s k := by
  intro hdone
  obtain ⟨a, ha, hak⟩ := hk
  obtain ⟨ahead, behind, rfl⟩ := List.append_of_mem ha
  exact h a ⟨ahead, behind, k, rfl, hak, .inl hdone⟩

end Itemwise
