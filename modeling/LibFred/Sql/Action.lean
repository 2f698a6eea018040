import Mathlib.Tactic.TypeStar

/-! Statements run in one transaction: a state that an exception does not undo by itself, and
the inversion rules that take a run apart. -/
namespace Sql

variable {ε ε' σ τ α β : Type} {x : EStateM ε σ α} {f : α → EStateM ε σ β} {s s' : σ} {a a' : α} {b : β}

theorem run_bind_eq_ok :
    (x >>= f).run s = .ok b s' ↔ ∃ a t, x.run s = .ok a t ∧ (f a).run t = .ok b s' := by
  rw [EStateM.run_bind]
  cases hx : x.run s with
  | ok a t => exact ⟨fun h => ⟨a, t, rfl, h⟩, fun ⟨_, _, he, h⟩ => by cases he; exact h⟩
  | error e t => simp

theorem run_bind_eq_error {e : ε} :
    (x >>= f).run s = .error e s' ↔
      x.run s = .error e s' ∨ ∃ a t, x.run s = .ok a t ∧ (f a).run t = .error e s' := by
  rw [EStateM.run_bind]
  cases x.run s with
  | ok a t => exact ⟨fun h => .inr ⟨a, t, rfl, h⟩, fun h => by
      rcases h with h | ⟨_, _, he, h⟩
      · cases h
      · cases he; exact h⟩
  | error e t => simp

theorem run_bind_of_ok {t : σ} (hx : x.run s = .ok a t) : (x >>= f).run s = (f a).run t := by
  rw [EStateM.run_bind, hx]

theorem run_bind_of_error {e : ε} {t : σ} (hx : x.run s = .error e t) :
    (x >>= f).run s = .error e t := by
  rw [EStateM.run_bind, hx]

theorem run_pure_eq_ok : (pure a : EStateM ε σ α).run s = .ok a' s' ↔ a = a' ∧ s = s' := by
  simp [EStateM.run_pure]

theorem run_get_eq_ok {s₁ : σ} : (get : EStateM ε σ σ).run s = .ok s₁ s' ↔ s = s₁ ∧ s = s' := by
  rw [EStateM.run_get]
  simp

theorem run_set_eq_ok {s₁ : σ} {u : PUnit} :
    (set s₁ : EStateM ε σ PUnit).run s = .ok u s' ↔ s₁ = s' := by
  rw [EStateM.run_set]
  simp

/-- A handler goes on from the state in which the exception was raised. -/
theorem run_tryCatch {handler : ε → EStateM ε σ α} :
    (tryCatch x handler : EStateM ε σ α).run s =
      match x.run s with
      | .ok a s' => .ok a s'
      | .error e s' => (handler e).run s' := by
  change EStateM.tryCatch x handler s = _
  delta EStateM.tryCatch
  simp only [EStateM.run]
  cases x s <;> rfl

theorem run_tryCatch_eq_ok {handler : ε → EStateM ε σ α} :
    (tryCatch x handler : EStateM ε σ α).run s = .ok a s' ↔
      x.run s = .ok a s' ∨ ∃ e t, x.run s = .error e t ∧ (handler e).run t = .ok a s' := by
  rw [run_tryCatch]
  cases x.run s with
  | ok a s' => simp
  | error e t =>
    refine ⟨fun h => .inr ⟨e, t, rfl, h⟩, fun h => ?_⟩
    rcases h with h | ⟨_, _, he, h⟩
    · cases h
    · cases he
      exact h

/-- `throw e`, should the condition hold. -/
def raiseIf (c : Prop) [Decidable c] (e : ε) : EStateM ε σ Unit := if c then throw e else pure ()

theorem run_raiseIf_eq_ok {c : Prop} [Decidable c] {e : ε} {u : Unit} :
    (raiseIf c e : EStateM ε σ Unit).run s = .ok u s' ↔ ¬ c ∧ s = s' := by
  unfold raiseIf
  split
  · rename_i hc
    exact ⟨nofun, fun h => (h.1 hc).elim⟩
  · rename_i hc
    simp [EStateM.run_pure, hc]

theorem run_raiseIf_eq_error {c : Prop} [Decidable c] {e e' : ε} :
    (raiseIf c e : EStateM ε σ Unit).run s = .error e' s' ↔ c ∧ e = e' ∧ s = s' := by
  unfold raiseIf
  split
  · rename_i hc
    exact ⟨fun h => by cases h; exact ⟨hc, rfl, rfl⟩, fun ⟨_, he, hs⟩ => by subst he hs; rfl⟩
  · rename_i hc
    exact ⟨nofun, fun h => (hc h.1).elim⟩

theorem run_raiseIf_of_pos {c : Prop} [Decidable c] {e : ε} (hc : c) :
    (raiseIf c e : EStateM ε σ Unit).run s = .error e s :=
  run_raiseIf_eq_error.mpr ⟨hc, rfl, rfl⟩

theorem run_raiseIf_of_neg {c : Prop} [Decidable c] {e : ε} (hc : ¬ c) :
    (raiseIf c e : EStateM ε σ Unit).run s = .ok () s :=
  run_raiseIf_eq_ok.mpr ⟨hc, rfl⟩

/-- The statements leave the state alone, whether they raise or not. -/
def ReadOnly (x : EStateM ε σ α) : Prop :=
  ∀ s, (∃ a, x.run s = .ok a s) ∨ ∃ e, x.run s = .error e s

/-- The statements write nothing when they raise. -/
def Atomic (x : EStateM ε σ α) : Prop := ∀ s e s', x.run s = .error e s' → s = s'

theorem ReadOnly.ok (hx : ReadOnly x) (h : x.run s = .ok a s') : s = s' := by
  rcases hx s with ⟨b, hb⟩ | ⟨e, he⟩
  · rw [hb] at h; cases h; rfl
  · rw [he] at h; cases h

theorem ReadOnly.atomic (hx : ReadOnly x) : Atomic x := by
  intro s e s' h
  rcases hx s with ⟨b, hb⟩ | ⟨e, he⟩
  · rw [hb] at h; cases h
  · rw [he] at h; cases h; rfl

theorem readOnly_pure : ReadOnly (pure a : EStateM ε σ α) := fun _ => .inl ⟨a, rfl⟩

theorem readOnly_throw {e : ε} : ReadOnly (throw e : EStateM ε σ α) := fun _ => .inr ⟨e, rfl⟩

theorem readOnly_get : ReadOnly (get : EStateM ε σ σ) := fun s => .inl ⟨s, rfl⟩

theorem readOnly_raiseIf {c : Prop} [Decidable c] {e : ε} :
    ReadOnly (raiseIf c e : EStateM ε σ Unit) := by
  unfold raiseIf
  split
  · exact readOnly_throw
  · exact readOnly_pure

theorem readOnly_bind (hx : ReadOnly x) (hf : ∀ a, ReadOnly (f a)) : ReadOnly (x >>= f) := by
  intro s
  rw [EStateM.run_bind]
  rcases hx s with ⟨a, ha⟩ | ⟨e, he⟩
  · rw [ha]; exact hf a s
  · rw [he]; exact .inr ⟨e, rfl⟩

theorem atomic_bind (hx : ReadOnly x) (hf : ∀ a, Atomic (f a)) : Atomic (x >>= f) := by
  intro s e s' h
  rcases run_bind_eq_error.mp h with h | ⟨a, t, ha, h⟩
  · exact hx.atomic s e s' h
  · exact (hx.ok ha).trans (hf a t e s' h)

/-- After its last write an atomic run must not raise any more. -/
theorem Atomic.map {g : α → β} (hx : Atomic x) : Atomic (do let a ← x; return g a) := by
  intro s e s' h
  rcases run_bind_eq_error.mp h with h | ⟨a, t, -, h⟩
  · exact hx s e s' h
  · cases h

/-- A property of the state that a run keeps, even when it raises. -/
def Preserves (P : σ → Prop) (x : EStateM ε σ α) : Prop :=
  ∀ s, P s → (∀ a s', x.run s = .ok a s' → P s') ∧ ∀ e s', x.run s = .error e s' → P s'

theorem ReadOnly.preserves {P : σ → Prop} (hx : ReadOnly x) : Preserves P x :=
  fun s hs => ⟨fun _ _ h => hx.ok h ▸ hs, fun e s' h => hx.atomic s e s' h ▸ hs⟩

theorem preserves_bind {P : σ → Prop} (hx : Preserves P x) (hf : ∀ a, Preserves P (f a)) :
    Preserves P (x >>= f) := by
  intro s hs
  constructor
  · intro b s' h
    obtain ⟨a, t, ha, h⟩ := run_bind_eq_ok.mp h
    exact (hf a t ((hx s hs).1 a t ha)).1 b s' h
  · intro e s' h
    rcases run_bind_eq_error.mp h with h | ⟨a, t, ha, h⟩
    · exact (hx s hs).2 e s' h
    · exact (hf a t ((hx s hs).1 a t ha)).2 e s' h

theorem preserves_forM {P : σ → Prop} {g : β → EStateM ε σ PUnit} {l : List β}
    (hg : ∀ b, Preserves P (g b)) : Preserves P (l.forM g) := by
  induction l with
  | nil => exact (readOnly_pure (a := PUnit.unit)).preserves
  | cons b l ih => exact preserves_bind (hg b) fun _ => ih

/-- A loop that yields one value ran its body once. -/
theorem run_mapM_eq_ok_singleton {l : List β} {g : β → EStateM ε σ α}
    (h : (l.mapM g).run s = .ok [a] s') : ∃ b, l = [b] ∧ (g b).run s = .ok a s' := by
  cases l with
  | nil => simp [EStateM.run_pure] at h
  | cons b l =>
    rw [List.mapM_cons] at h
    obtain ⟨c, t, hb, h⟩ := run_bind_eq_ok.mp h
    obtain ⟨cs, t', hl, h⟩ := run_bind_eq_ok.mp h
    obtain ⟨hc, rfl⟩ := run_pure_eq_ok.mp h
    obtain ⟨rfl, rfl⟩ : c = a ∧ cs = [] := by simpa using hc
    cases l with
    | nil =>
      rw [List.mapM_nil] at hl
      obtain ⟨-, rfl⟩ := run_pure_eq_ok.mp hl
      exact ⟨b, rfl, hb⟩
    | cons b' l =>
      rw [List.mapM_cons] at hl
      obtain ⟨_, _, -, hl⟩ := run_bind_eq_ok.mp hl
      obtain ⟨_, _, -, hl⟩ := run_bind_eq_ok.mp hl
      simp [EStateM.run_pure] at hl

/-- What is left of a run that may raise: a caller that catches the exception either keeps what
was written before it or rolls it back. -/
def outcome (keep : Bool) (x : EStateM ε σ α) (s : σ) : σ :=
  match x.run s with
  | .ok _ s' => s'
  | .error _ s' => if keep then s' else s

/-- A transaction that raises is rolled back. -/
def transaction (x : EStateM ε σ α) (s : σ) : σ := outcome false x s

theorem outcome_of_ok {keep : Bool} (h : x.run s = .ok a s') : outcome keep x s = s' := by
  simp [outcome, h]

theorem transaction_of_ok (h : x.run s = .ok a s') : transaction x s = s' := outcome_of_ok h

/-- Whether a run returns the value. -/
def returns [DecidableEq α] (x : EStateM ε σ α) (s : σ) (a : α) : Bool :=
  match x.run s with
  | .ok b _ => b = a
  | .error _ _ => false

theorem run_of_returns [DecidableEq α] (h : returns x s a = true) :
    x.run s = .ok a (transaction x s) := by
  unfold returns at h
  unfold transaction outcome
  split at h
  · rename_i b s' hx
    rw [hx, of_decide_eq_true h]
  · cases h

theorem Preserves.outcome {P : σ → Prop} (h : Preserves P x) (keep : Bool) (hs : P s) :
    P (outcome keep x s) := by
  unfold Sql.outcome
  cases hx : x.run s with
  | ok a s' => exact (h s hs).1 a s' hx
  | error e s' =>
    cases keep with
    | true => exact (h s hs).2 e s' hx
    | false => exact hs

theorem Atomic.outcome {P : σ → Prop} (h : Atomic x) (keep : Bool) (hs : P s)
    (hok : ∀ a s', x.run s = .ok a s' → P s') : P (outcome keep x s) := by
  unfold Sql.outcome
  cases hx : x.run s with
  | ok a s' => exact hok a s' hx
  | error e s' =>
    cases h s e s' hx
    simpa using hs

/-- A property of the state survives a transaction when it survives the successful run. -/
theorem transaction_preserves {P : σ → Prop} (hs : P s)
    (h : ∀ a s', x.run s = .ok a s' → P s') : P (transaction x s) := by
  unfold transaction outcome
  cases hx : x.run s with
  | ok a s' => exact h a s' hx
  | error e s' => exact hs

end Sql
