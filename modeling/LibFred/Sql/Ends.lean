import LibFred.Sql.Action
import Mathlib.Order.Defs.Unbundled

/-! How a run of statements ends: with a value and a state, or with an exception. -/
namespace Sql

variable {ε σ α β : Type} {x : EStateM ε σ α} {f : α → EStateM ε σ β} {s : σ}
  {Q Q' : α → σ → Prop} {R R' : ε → Prop}

/-- The run from `s` ends in `Q`, or with an exception in `R`. -/
def Ends (x : EStateM ε σ α) (s : σ) (Q : α → σ → Prop) (R : ε → Prop) : Prop :=
  match x.run s with
  | .ok a s' => Q a s'
  | .error e _ => R e

theorem Ends.ok (h : Ends x s Q R) {a : α} {s' : σ} (hx : x.run s = .ok a s') : Q a s' := by
  rw [Ends, hx] at h
  exact h

theorem Ends.exists_ok (h : Ends x s Q R) (hR : ∀ e, ¬ R e) :
    ∃ a s', x.run s = .ok a s' ∧ Q a s' := by
  unfold Ends at h
  cases hx : x.run s with
  | ok a s' =>
    rw [hx] at h
    exact ⟨a, s', rfl, h⟩
  | error e s' =>
    rw [hx] at h
    exact absurd h (hR e)

theorem Ends.mono (h : Ends x s Q R) (hQ : ∀ a s', Q a s' → Q' a s') (hR : ∀ e, R e → R' e) :
    Ends x s Q' R' := by
  unfold Ends at h ⊢
  cases hx : x.run s with
  | ok a s' =>
    rw [hx] at h
    exact hQ a s' h
  | error e s' =>
    rw [hx] at h
    exact hR e h

theorem ends_pure {a : α} (h : Q a s) : Ends (pure a : EStateM ε σ α) s Q R := h

theorem ends_throw {e : ε} (h : R e) : Ends (throw e : EStateM ε σ α) s Q R := h

theorem ends_get {Q : σ → σ → Prop} (h : Q s s) : Ends (get : EStateM ε σ σ) s Q R := h

theorem ends_set {Q : PUnit → σ → Prop} {s' : σ} (h : Q ⟨⟩ s') :
    Ends (set s' : EStateM ε σ PUnit) s Q R := h

theorem ends_raiseIf {c : Prop} [Decidable c] {e : ε} {Q : Unit → σ → Prop} (hc : ¬ c)
    (h : Q () s) : Ends (raiseIf c e : EStateM ε σ Unit) s Q R := by
  rw [raiseIf, if_neg hc]
  exact h

theorem ends_bind {Q' : β → σ → Prop} (hx : Ends x s Q R)
    (hf : ∀ a s', Q a s' → Ends (f a) s' Q' R) : Ends (x >>= f) s Q' R := by
  unfold Ends at hx ⊢
  rw [EStateM.run_bind]
  cases h : x.run s with
  | ok a s' =>
    rw [h] at hx
    exact hf a s' hx
  | error e s' =>
    rw [h] at hx
    exact hx

/-- A run that raises nothing is not handled. -/
theorem ends_tryCatch {handler : ε → EStateM ε σ α} (hx : Ends x s Q fun _ => False) :
    Ends (tryCatch x handler) s Q R := by
  obtain ⟨a, s', hok, hQ⟩ := hx.exists_ok fun _ => not_false
  rw [Ends, run_tryCatch, hok]
  exact hQ

theorem ends_of_run {a : α} {s' : σ} (hx : x.run s = .ok a s') (h : Q a s') : Ends x s Q R := by
  rw [Ends, hx]
  exact h

theorem ends_of_error {e : ε} {s' : σ} (hx : x.run s = .error e s') (h : R e) : Ends x s Q R := by
  rw [Ends, hx]
  exact h

/-- A loop whose rounds keep `P`, a property of what is left to do and of the state. -/
theorem ends_forM {P : List β → σ → Prop} {g : β → EStateM ε σ PUnit} {l : List β}
    (hg : ∀ b l s, P (b :: l) s → Ends (g b) s (fun _ s' => P l s') R) (h : P l s) :
    Ends (l.forM g) s (fun _ s' => P [] s') R := by
  induction l generalizing s with
  | nil => exact ends_pure h
  | cons b l ih => exact ends_bind (hg b l s h) fun _ s' hs' => ih hs'

/-- A loop each round of which brings about `G`, which later rounds keep. -/
theorem ends_forM_each {K : σ → σ → Prop} [Std.Refl K] [IsTrans σ K] {G : β → σ → Prop}
    {g : β → EStateM ε σ PUnit} {l : List β}
    (hg : ∀ b ∈ l, ∀ s', K s s' → Ends (g b) s' (fun _ s'' => K s' s'' ∧ G b s'') R)
    (hkeep : ∀ b ∈ l, ∀ s' s'', K s' s'' → G b s' → G b s'') :
    Ends (l.forM g) s (fun _ s' => K s s' ∧ ∀ b ∈ l, G b s') R := by
  induction l generalizing s with
  | nil => exact ends_pure ⟨refl_of K s, fun _ hb => absurd hb List.not_mem_nil⟩
  | cons b l ih =>
    refine ends_bind (hg b List.mem_cons_self s (refl_of K s)) fun _ s₁ h => ?_
    obtain ⟨hs₁, hb⟩ := h
    have hrest := ih (s := s₁)
      (fun b' hb' s' hs' => hg b' (List.mem_cons_of_mem _ hb') s' (trans_of K hs₁ hs'))
      fun b' hb' => hkeep b' (List.mem_cons_of_mem _ hb')
    refine hrest.mono (fun _ s' h => ⟨trans_of K hs₁ h.1, ?_⟩) fun _ h => h
    intro b' hb'
    rcases List.mem_cons.mp hb' with rfl | hb'
    · exact hkeep b' List.mem_cons_self s₁ s' h.1 hb
    · exact h.2 b' hb'

/-- A loop whose rounds keep `P`, a property of what is done so far, of the value and of the state. -/
theorem ends_foldlM {P : List β → α → σ → Prop} {g : α → β → EStateM ε σ α} {a : α} (l : List β)
    (hg : ∀ p b a s, P p a s → Ends (g a b) s (P (p ++ [b])) R) (h : P [] a s) :
    Ends (l.foldlM g a) s (P l) R := by
  suffices hgo : ∀ p a s, P p a s → Ends (l.foldlM g a) s (P (p ++ l)) R from hgo [] a s h
  induction l with
  | nil =>
    intro p a s hp
    rw [List.append_nil]
    exact ends_pure hp
  | cons b l ih =>
    intro p a s hp
    rw [List.foldlM_cons, ← List.singleton_append, ← List.append_assoc]
    exact ends_bind (hg p b a s hp) fun a' s' hs' => ih (p ++ [b]) a' s' hs'

/-- The same of a loop that lists what its rounds return. -/
theorem ends_mapM {P : List β → σ → Prop} {g : β → EStateM ε σ α} (l : List β)
    (hg : ∀ p, ∀ b ∈ l, ∀ s, P p s → Ends (g b) s (fun _ s' => P (p ++ [b]) s') R) (h : P [] s) :
    Ends (l.mapM g) s (fun _ s' => P l s') R := by
  suffices hgo : ∀ l', l' ⊆ l → ∀ p s, P p s → Ends (l'.mapM g) s (fun _ s' => P (p ++ l') s') R from
    hgo l (List.Subset.refl l) [] s h
  intro l'
  induction l' with
  | nil =>
    intro _ p s hp
    rw [List.append_nil]
    exact ends_pure hp
  | cons b l' ih =>
    intro hl p s hp
    obtain ⟨hb, hl⟩ := List.cons_subset.mp hl
    rw [List.mapM_cons, ← List.singleton_append, ← List.append_assoc]
    refine ends_bind (hg p b hb s hp) fun a s' hs' => ?_
    exact ends_bind (ih hl (p ++ [b]) s' hs') fun _ s'' hs'' => ends_pure hs''

theorem ends_of_ok (h : ∀ a s', x.run s = .ok a s' → Q a s') : Ends x s Q fun _ => True := by
  rw [Ends]
  cases hx : x.run s with
  | ok a s' => exact h a s' hx
  | error e s' => trivial

/-- From every state the statements raise exceptions in `R` at most. -/
def RaisesOnly (R : ε → Prop) (x : EStateM ε σ α) : Prop := ∀ s, Ends x s (fun _ _ => True) R

theorem RaisesOnly.error (hx : RaisesOnly R x) {e : ε} {s' : σ} (h : x.run s = .error e s') : R e := by
  have hends := hx s
  rwa [Ends, h] at hends

theorem RaisesOnly.mono (hx : RaisesOnly R x) (hR : ∀ e, R e → R' e) : RaisesOnly R' x :=
  fun s => (hx s).mono (fun _ _ h => h) hR

theorem raisesOnly_pure {a : α} : RaisesOnly R (pure a : EStateM ε σ α) := fun _ => ends_pure trivial

theorem raisesOnly_get : RaisesOnly R (get : EStateM ε σ σ) := fun _ => ends_get trivial

theorem raisesOnly_throw {e : ε} (h : R e) : RaisesOnly R (throw e : EStateM ε σ α) :=
  fun _ => ends_throw h

theorem raisesOnly_raiseIf {c : Prop} [Decidable c] {e : ε} (h : R e) :
    RaisesOnly R (raiseIf c e : EStateM ε σ Unit) := by
  unfold raiseIf
  split
  · exact raisesOnly_throw h
  · exact raisesOnly_pure

theorem raisesOnly_bind (hx : RaisesOnly R x) (hf : ∀ a, RaisesOnly R (f a)) : RaisesOnly R (x >>= f) :=
  fun s => ends_bind (hx s) fun a s' _ => hf a s'

theorem raisesOnly_foldlM {g : α → β → EStateM ε σ α} {l : List β} {a : α}
    (hg : ∀ a b, RaisesOnly R (g a b)) : RaisesOnly R (l.foldlM g a) := by
  induction l generalizing a with
  | nil => exact raisesOnly_pure
  | cons b l ih => exact raisesOnly_bind (hg a b) fun _ => ih

theorem raisesOnly_tryCatch {handler : ε → EStateM ε σ α} (hx : RaisesOnly R x)
    (hhandler : ∀ e, R e → RaisesOnly R (handler e)) : RaisesOnly R (tryCatch x handler) := by
  intro s
  rw [Ends, run_tryCatch]
  cases h : x.run s with
  | ok a s' => trivial
  | error e s' => exact hhandler e (hx.error h) s'

end Sql
