import Mathlib.Data.List.Perm.Basic
import Mathlib.Data.Tree.Basic

/-! Search trees in the manner of std::map. The comparator need not be an order: a search goes
where it leads, and an insertion asks it about the new key's place only. -/
namespace StdMap

variable {α κ β : Type}

def toList : BinaryTree α → List α
  | .nil => []
  | .node a l r => toList l ++ a :: toList r

/-- How a tree is rebalanced after an insertion. The elements keep their order. -/
structure Balance where
  balance : ∀ {α : Type}, BinaryTree α → BinaryTree α
  toList_balance : ∀ {α : Type} (t : BinaryTree α), toList (balance t) = toList t

/-- The last node on the way down whose key is not before `k`, or `y`. -/
def lowerBound (lt : κ → κ → Prop) [DecidableRel lt] (k : κ) :
    BinaryTree (κ × β) → Option (κ × β) → Option (κ × β)
  | .nil, y => y
  | .node e l r, y => if lt e.1 k then lowerBound lt k r y else lowerBound lt k l (some e)

def find (lt : κ → κ → Prop) [DecidableRel lt] (k : κ) (t : BinaryTree (κ × β)) :
    Option (κ × β) :=
  (lowerBound lt k t none).filter fun e => ¬ lt k e.1

/-- Puts a new node where the search for its key ends, unless the key that precedes that place,
`pred`, is not before it. -/
def insertUnique (lt : κ → κ → Prop) [DecidableRel lt] (e : κ × β) :
    Option κ → BinaryTree (κ × β) → Option (BinaryTree (κ × β))
  | pred, .nil => if ∀ p ∈ pred, lt p e.1 then some (.node e .nil .nil) else none
  | pred, .node a l r =>
    if lt e.1 a.1 then (insertUnique lt e pred l).map (.node a · r)
    else (insertUnique lt e (some a.1) r).map (.node a l ·)

def insert (b : Balance) (lt : κ → κ → Prop) [DecidableRel lt] (e : κ × β)
    (t : BinaryTree (κ × β)) : Option (BinaryTree (κ × β)) :=
  (insertUnique lt e none t).map b.balance

section Lemmas

variable {lt : κ → κ → Prop} [DecidableRel lt] {k : κ} {e : κ × β} {y : Option (κ × β)}
  {pred : Option κ} {t : BinaryTree (κ × β)}

/-- When the keys before `k` come first, the search finds the first other one. -/
theorem lowerBound_eq (h : (toList t).Pairwise fun a b => lt b.1 k → lt a.1 k) :
    lowerBound lt k t y = ((toList t).find? fun a => ¬ lt a.1 k).or y := by
  induction t generalizing y with
  | nil => rfl
  | node a l r ihl ihr =>
    rw [toList, List.pairwise_append, List.pairwise_cons] at h
    obtain ⟨hl, ⟨-, hr⟩, hlr⟩ := h
    rw [lowerBound, toList, List.find?_append]
    by_cases ha : lt a.1 k
    · have hnone : ((toList l).find? fun b => ¬ lt b.1 k) = none := by
        rw [List.find?_eq_none]
        intro b hb
        simpa using hlr b hb a List.mem_cons_self ha
      rw [if_pos ha, ihr hr, hnone, List.find?_cons_of_neg (by simpa using ha), Option.none_or]
    · rw [if_neg ha, ihl hl, List.find?_cons_of_pos (by simpa using ha), Option.or_assoc,
        Option.some_or]

/-- The new element splits those in the tree into the ones that it is not before and the ones
that it is. -/
theorem insertUnique_eq_some (hpred : ∀ p ∈ pred, lt p e.1)
    (htotal : ∀ a ∈ toList t, ¬ lt e.1 a.1 → lt a.1 e.1)
    (hmono : (toList t).Pairwise fun a b => lt e.1 a.1 → lt e.1 b.1) :
    ∃ t' l₁ l₂, insertUnique lt e pred t = some t' ∧ toList t = l₁ ++ l₂ ∧
      toList t' = l₁ ++ e :: l₂ ∧ (∀ a ∈ l₁, lt a.1 e.1) ∧ ∀ a ∈ l₂, lt e.1 a.1 := by
  induction t generalizing pred with
  | nil =>
    exact ⟨.node e .nil .nil, [], [], by rw [insertUnique, if_pos hpred], rfl, rfl, by simp⟩
  | node a l r ihl ihr =>
    rw [toList, List.pairwise_append, List.pairwise_cons] at hmono
    obtain ⟨hl, ⟨har, hr⟩, hlr⟩ := hmono
    simp only [toList, List.mem_append, List.mem_cons] at htotal
    by_cases ha : lt e.1 a.1
    · obtain ⟨t', l₁, l₂, ht', hsplit, hlist, hbefore, hafter⟩ :=
        ihl hpred (fun b hb => htotal b (.inl hb)) hl
      refine ⟨.node a t' r, l₁, l₂ ++ a :: toList r, by simp [insertUnique, ha, ht'], ?_, ?_,
        hbefore, ?_⟩
      · simp [toList, hsplit]
      · simp [toList, hlist]
      · intro b hb
        rcases List.mem_append.mp hb with hb | hb
        · exact hafter b hb
        · rcases List.mem_cons.mp hb with rfl | hb
          · exact ha
          · exact har b hb ha
    · have hea : lt a.1 e.1 := htotal a (.inr (.inl rfl)) ha
      obtain ⟨t', l₁, l₂, ht', hsplit, hlist, hbefore, hafter⟩ :=
        @ihr (some a.1) (by simpa using hea) (fun b hb => htotal b (.inr (.inr hb))) hr
      refine ⟨.node a l t', toList l ++ a :: l₁, l₂, by simp [insertUnique, ha, ht'], ?_, ?_, ?_,
        hafter⟩
      · simp [toList, hsplit]
      · simp [toList, hlist]
      · intro b hb
        rcases List.mem_append.mp hb with hb | hb
        · exact htotal b (.inl hb) fun hlt => ha (hlr b hb a List.mem_cons_self hlt)
        · rcases List.mem_cons.mp hb with rfl | hb
          · exact hea
          · exact hbefore b hb

end Lemmas

/-- A comparator that orders the keys of a kind, though maybe no others. -/
structure Orders (lt : κ → κ → Prop) (kind : κ → Prop) : Prop where
  irrefl : ∀ a, kind a → ¬ lt a a
  trans : ∀ a b c, kind b → lt a b → lt b c → lt a c

/-- The keys are of the kind and ascend. -/
structure Sorted (lt : κ → κ → Prop) (kind : κ → Prop) (t : BinaryTree (κ × β)) : Prop where
  ascends : (toList t).Pairwise fun a b => lt a.1 b.1
  kinds : ∀ e ∈ toList t, kind e.1

variable {lt : κ → κ → Prop} [DecidableRel lt] {kind : κ → Prop} {k : κ} {e : κ × β}
  {t : BinaryTree (κ × β)}

omit [DecidableRel lt] in
theorem sorted_nil : Sorted lt kind (.nil : BinaryTree (κ × β)) :=
  ⟨List.Pairwise.nil, fun _ he => absurd he List.not_mem_nil⟩

/-- A search finds something exactly when some key is neither before nor after its own. -/
theorem isSome_find_iff (ho : Orders lt kind) (hs : Sorted lt kind t) :
    (find lt k t).isSome ↔ ∃ e ∈ toList t, ¬ lt e.1 k ∧ ¬ lt k e.1 := by
  have hmono : (toList t).Pairwise fun a b => lt b.1 k → lt a.1 k :=
    hs.ascends.imp_of_mem fun _ hb hab hbk => ho.trans _ _ _ (hs.kinds _ hb) hab hbk
  rw [find, lowerBound_eq hmono, Option.or_none]
  constructor
  · intro h
    obtain ⟨e, he⟩ := Option.isSome_iff_exists.mp h
    obtain ⟨hfirst, hke⟩ := Option.filter_eq_some_iff.mp he
    exact ⟨e, List.mem_of_find?_eq_some hfirst, by simpa using List.find?_some hfirst,
      by simpa using hke⟩
  · rintro ⟨e, he, hek, hke⟩
    obtain ⟨l₁, l₂, hlist⟩ := List.append_of_mem he
    cases hfirst : (toList t).find? fun a => ¬ lt a.1 k with
    | none => exact absurd hek (by simpa using List.find?_eq_none.mp hfirst e he)
    | some x =>
      have hkx : ¬ lt k x.1 := by
        intro hkx
        obtain ⟨-, m₁, m₂, hsplit, hbefore⟩ := List.find?_eq_some_iff_append.mp hfirst
        have hmem : e ∈ m₁ ++ x :: m₂ := hsplit ▸ he
        have hasc := hs.ascends
        rw [hsplit, List.pairwise_append, List.pairwise_cons] at hasc
        rcases List.mem_append.mp hmem with hem | hem
        · exact hek (by simpa using hbefore e hem)
        · rcases List.mem_cons.mp hem with rfl | hem
          · exact hke hkx
          · have hx : x ∈ toList t := List.mem_of_find?_eq_some hfirst
            exact hke (ho.trans _ _ _ (hs.kinds x hx) hkx (hasc.2.1.1 e hem))
      simp [hkx]

/-- A key that is before or after each one in the tree is inserted in its place. -/
theorem insert_eq_some (b : Balance) (ho : Orders lt kind) (hs : Sorted lt kind t)
    (he : kind e.1) (hsep : ∀ a ∈ toList t, lt a.1 e.1 ∨ lt e.1 a.1) :
    ∃ t', insert b lt e t = some t' ∧ Sorted lt kind t' ∧
      List.Perm (toList t') (e :: toList t) := by
  have hmono : (toList t).Pairwise fun a b => lt e.1 a.1 → lt e.1 b.1 :=
    hs.ascends.imp_of_mem fun ha _ hab hea => ho.trans _ _ _ (hs.kinds _ ha) hea hab
  have hnone : ∀ p, p ∈ none → lt p e.1 := fun p hp => by simp at hp
  obtain ⟨t', l₁, l₂, ht', hsplit, hlist, hbefore, hafter⟩ := insertUnique_eq_some
    hnone (fun a ha hna => (hsep a ha).resolve_right hna) hmono
  have hperm : List.Perm (toList t') (e :: toList t) := by
    rw [hlist, hsplit]
    exact List.perm_middle
  refine ⟨b.balance t', by simp [insert, ht'], ⟨?_, ?_⟩, ?_⟩
  · have hasc := hs.ascends
    rw [hsplit, List.pairwise_append] at hasc
    rw [b.toList_balance, hlist, List.pairwise_append, List.pairwise_cons]
    refine ⟨hasc.1, ⟨hafter, hasc.2.1⟩, fun a ha c hc => ?_⟩
    rcases List.mem_cons.mp hc with rfl | hc
    · exact hbefore a ha
    · exact hasc.2.2 a ha c hc
  · rw [b.toList_balance]
    intro a ha
    rcases List.mem_cons.mp (hperm.mem_iff.mp ha) with rfl | ha
    · exact he
    · exact hs.kinds a ha
  · rw [b.toList_balance]
    exact hperm

end StdMap
