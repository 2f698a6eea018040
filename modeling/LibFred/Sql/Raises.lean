import LibFred.Sql.Action

/-! Which exceptions a run raises. -/
namespace Sql

variable {ε σ α β : Type} {x : EStateM ε σ α} {f : α → EStateM ε σ β} {s s' : σ} {a : α} {e e' : ε}

/-- The run from `s` ends with the exception. -/
def Raises (x : EStateM ε σ α) (s : σ) (e : ε) : Prop := ∃ s', x.run s = .error e s'

theorem raises_of_error (hx : x.run s = .error e' s') : Raises x s e ↔ e' = e := by
  unfold Raises
  rw [hx]
  constructor
  · rintro ⟨_, h⟩
    exact (EStateM.Result.error.inj h).1
  · rintro rfl
    exact ⟨s', rfl⟩

instance decidableRaises [DecidableEq ε] : Decidable (Raises x s e) :=
  match hx : x.run s with
  | .ok _ _ => .isFalse fun ⟨_, h⟩ => nomatch hx.symm.trans h
  | .error e' _ => decidable_of_iff (e' = e) (raises_of_error hx).symm

theorem not_raises_of_ok (hx : x.run s = .ok a s') : ¬ Raises x s e := by
  rintro ⟨_, h⟩
  rw [hx] at h
  cases h

theorem raises_bind_of_ok (hx : x.run s = .ok a s') : Raises (x >>= f) s e ↔ Raises (f a) s' e := by
  rw [Raises, run_bind_of_ok hx, Raises]

theorem raises_bind_of_error (hx : x.run s = .error e' s') : Raises (x >>= f) s e ↔ e' = e :=
  raises_of_error (run_bind_of_error hx)

/-- What raises nothing of a kind afterwards raises what it begins with. -/
theorem raises_bind_left (hf : ∀ a s', x.run s = .ok a s' → ¬ Raises (f a) s' e) :
    Raises (x >>= f) s e ↔ Raises x s e := by
  constructor
  · rintro ⟨s', h⟩
    rcases run_bind_eq_error.mp h with h | ⟨a, t, hx, h⟩
    · exact ⟨s', h⟩
    · exact absurd ⟨s', h⟩ (hf a t hx)
  · rintro ⟨s', h⟩
    exact ⟨s', run_bind_of_error h⟩

/-- A check and what comes after it. -/
theorem raises_raiseIf_bind {c : Prop} [Decidable c] {f : Unit → EStateM ε σ β} :
    Raises (raiseIf c e' >>= f) s e ↔ c ∧ e' = e ∨ ¬ c ∧ Raises (f ()) s e := by
  by_cases hc : c
  · rw [raises_bind_of_error (run_raiseIf_of_pos hc)]
    simp [hc]
  · rw [raises_bind_of_ok (run_raiseIf_of_neg hc)]
    simp [hc]

/-- A check after which nothing else raises the exception. -/
theorem raises_raiseIf_only {c : Prop} [Decidable c] {f : Unit → EStateM ε σ β}
    (hf : ¬ Raises (f ()) s e) : Raises (raiseIf c e' >>= f) s e ↔ c ∧ e' = e := by
  rw [raises_raiseIf_bind]
  exact or_iff_left fun h => hf h.2

end Sql
