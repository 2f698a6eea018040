import Mathlib.Data.Set.Insert

/-! Links between objects and those who hold roles for them. Somebody takes over the links that
somebody else has in one role, object by object. -/
namespace TakeOver

variable {ι κ ρ : Type*} {role : ρ} {src dst : κ} {links links' : Set (ι × κ × ρ)} {ids ids' : Set ι}

/-- For these objects the links of `src` end, and `dst` gets a link in the role where it has none. -/
def takeOver (role : ρ) (src dst : κ) (ids : Set ι) (links : Set (ι × κ × ρ)) : Set (ι × κ × ρ) :=
  {x | (x.1 ∈ ids → x.2.1 ≠ src) ∧
    (x ∈ links ∨ x.1 ∈ ids ∧ x.2 = (dst, role) ∧ ∀ r, (x.1, dst, r) ∉ links)}

/-- The objects for which `src` has the role. -/
def held (role : ρ) (src : κ) (links : Set (ι × κ × ρ)) : Set ι := {i | (i, src, role) ∈ links}

/-- What taking over is for: the links of `src` in the role are those of `dst`, and the others are
as they were. -/
structure TakenOver (role : ρ) (src dst : κ) (links links' : Set (ι × κ × ρ)) : Prop where
  ended : ∀ i, (i, src, role) ∉ links'
  taken : ∀ i, (i, src, role) ∈ links → (i, dst, role) ∈ links'
  others : ∀ i k, k ≠ src → ¬ (k = dst ∧ (i, src, role) ∈ links) →
    ((i, k, role) ∈ links' ↔ (i, k, role) ∈ links)

@[simp] theorem takeOver_empty : takeOver role src dst ∅ links = links := by
  ext x
  simp [takeOver]

theorem mem_takeOver_dst (hne : src ≠ dst) {i : ι} {r : ρ} :
    (i, dst, r) ∈ takeOver role src dst ids links ↔
      (i, dst, r) ∈ links ∨ i ∈ ids ∧ r = role ∧ ∀ r, (i, dst, r) ∉ links := by
  simp [takeOver, hne.symm]

/-- Objects may be dealt with one after the other, also more than once. -/
theorem takeOver_takeOver (hne : src ≠ dst) :
    takeOver role src dst ids' (takeOver role src dst ids links) =
      takeOver role src dst (ids ∪ ids') links := by
  ext ⟨i, k, r⟩
  have hfree : (∀ r, (i, dst, r) ∉ takeOver role src dst ids links) ↔
      (∀ r, (i, dst, r) ∉ links) ∧ i ∉ ids := by
    simp only [mem_takeOver_dst hne, not_or, not_and]
    refine ⟨fun h => ⟨fun r => (h r).1, fun hi => (h role).2 hi rfl fun r => (h r).1⟩, fun h r => ?_⟩
    exact ⟨h.1 r, fun hi => absurd hi h.2⟩
  constructor
  · rintro ⟨hsrc', ⟨hsrc, hold | ⟨hi, hk, hnone⟩⟩ | ⟨hi, hk, hnone⟩⟩
    · exact ⟨fun hi => hi.elim hsrc hsrc', .inl hold⟩
    · exact ⟨fun hi => hi.elim hsrc hsrc', .inr ⟨.inl hi, hk, hnone⟩⟩
    · exact ⟨fun _ => (congrArg Prod.fst hk).trans_ne hne.symm,
        .inr ⟨.inr hi, hk, (hfree.mp hnone).1⟩⟩
  · rintro ⟨hsrc, hold | ⟨hi, hk, hnone⟩⟩
    · exact ⟨fun hi => hsrc (.inr hi), .inl ⟨fun hi => hsrc (.inl hi), .inl hold⟩⟩
    · refine ⟨fun hi => hsrc (.inr hi), ?_⟩
      by_cases hfirst : i ∈ ids
      · exact .inl ⟨fun _ => hsrc hi, .inr ⟨hfirst, hk, hnone⟩⟩
      · exact .inr ⟨hi.resolve_left hfirst, hk, hfree.mpr ⟨hnone, hfirst⟩⟩

/-- What becomes of the links in the role when all objects of `src` are dealt with. -/
theorem mem_takeOver_held (hne : src ≠ dst) {i : ι} {k : κ} :
    (i, k, role) ∈ takeOver role src dst (held role src links) links ↔
      k ≠ src ∧ ((i, k, role) ∈ links ∨
        k = dst ∧ (i, src, role) ∈ links ∧ ∀ r, (i, dst, r) ∉ links) := by
  constructor
  · rintro ⟨hsrc, hold | ⟨hi, hk, hnone⟩⟩
    · exact ⟨fun hk => hsrc (hk ▸ hold) hk, .inl hold⟩
    · exact ⟨hsrc hi, .inr ⟨congrArg Prod.fst hk, hi, hnone⟩⟩
  · rintro ⟨hk, hold | ⟨rfl, hi, hnone⟩⟩
    · exact ⟨fun _ => hk, .inl hold⟩
    · exact ⟨fun _ => hk, .inr ⟨hi, rfl, hnone⟩⟩

/-- Nothing is lost unless `dst` has another role for an object where it should get this one. -/
theorem takenOver_iff (hne : src ≠ dst) :
    TakenOver role src dst links (takeOver role src dst (held role src links) links) ↔
      ∀ i r, (i, src, role) ∈ links → (i, dst, r) ∈ links → (i, dst, role) ∈ links := by
  constructor
  · intro h i r hi hr
    rcases (mem_takeOver_held hne).mp (h.taken i hi) with ⟨-, hold | ⟨-, -, hnone⟩⟩
    · exact hold
    · exact absurd hr (hnone r)
  · intro h
    refine ⟨fun i hi => ((mem_takeOver_held hne).mp hi).1 rfl, fun i hi => ?_, fun i k hk hother => ?_⟩
    · refine (mem_takeOver_held hne).mpr ⟨hne.symm, ?_⟩
      by_cases hnone : ∀ r, (i, dst, r) ∉ links
      · exact .inr ⟨rfl, hi, hnone⟩
      · obtain ⟨r, hr⟩ := not_forall_not.mp hnone
        exact .inl (h i r hi hr)
    · rw [mem_takeOver_held hne]
      constructor
      · rintro ⟨-, hold | ⟨hdst, hi, -⟩⟩
        · exact hold
        · exact absurd ⟨hdst, hi⟩ hother
      · exact fun hold => ⟨hk, .inl hold⟩

end TakeOver
