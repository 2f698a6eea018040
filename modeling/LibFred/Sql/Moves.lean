import LibFred.Sql.Action
import Mathlib.Order.Defs.Unbundled

/-! Relations between the states before and after statements, whether they raise or not. -/
namespace Sql

variable {ε σ α β : Type} {R : σ → σ → Prop} {x : EStateM ε σ α} {f : α → EStateM ε σ β} {s : σ}

/-- The relation holds from the state before a run to the state after it. -/
def Moves (R : σ → σ → Prop) (x : EStateM ε σ α) : Prop :=
  ∀ s, (∀ a s', x.run s = .ok a s' → R s s') ∧ ∀ e s', x.run s = .error e s' → R s s'

/-- It holds so for a run from `s`. -/
def MovesFrom (R : σ → σ → Prop) (s : σ) (x : EStateM ε σ α) : Prop :=
  (∀ a s', x.run s = .ok a s' → R s s') ∧ ∀ e s', x.run s = .error e s' → R s s'

theorem Moves.ok (h : Moves R x) {a : α} {s' : σ} (hx : x.run s = .ok a s') : R s s' :=
  (h s).1 a s' hx

theorem Moves.error (h : Moves R x) {e : ε} {s' : σ} (hx : x.run s = .error e s') : R s s' :=
  (h s).2 e s' hx

theorem Moves.and {S : σ → σ → Prop} (h : Moves R x) (h' : Moves S x) :
    Moves (fun s s' => R s s' ∧ S s s') x :=
  fun _ => ⟨fun _ _ hx => ⟨h.ok hx, h'.ok hx⟩, fun _ _ hx => ⟨h.error hx, h'.error hx⟩⟩

theorem Moves.mono {S : σ → σ → Prop} (h : Moves R x) (hRS : ∀ s s', R s s' → S s s') : Moves S x :=
  fun s => ⟨fun _ s' hx => hRS s s' (h.ok hx), fun _ s' hx => hRS s s' (h.error hx)⟩

theorem Moves.preserves {P : σ → Prop} (h : Moves R x) (hP : ∀ s s', R s s' → P s → P s') :
    Preserves P x :=
  fun s hs => ⟨fun _ s' hx => hP s s' (h.ok hx) hs, fun _ s' hx => hP s s' (h.error hx) hs⟩

theorem ReadOnly.moves [Std.Refl R] (hx : ReadOnly x) : Moves R x :=
  fun s => ⟨fun _ _ h => hx.ok h ▸ refl_of R s, fun e s' h => hx.atomic s e s' h ▸ refl_of R s⟩

theorem moves_of_run {g : σ → EStateM.Result ε σ α}
    (hok : ∀ s a s', g s = .ok a s' → R s s') (herror : ∀ s e s', g s = .error e s' → R s s') :
    Moves R (g : EStateM ε σ α) :=
  fun s => ⟨fun a s' h => hok s a s' h, fun e s' h => herror s e s' h⟩

/-- What follows goes on from a state in which `x` has ended. -/
theorem movesFrom_bind [IsTrans σ R] (hx : MovesFrom R s x)
    (hf : ∀ a s', x.run s = .ok a s' → MovesFrom R s' (f a)) : MovesFrom R s (x >>= f) := by
  constructor
  · intro b s' h
    obtain ⟨a, t, ha, h⟩ := run_bind_eq_ok.mp h
    exact trans_of R (hx.1 a t ha) ((hf a t ha).1 b s' h)
  · intro e s' h
    rcases run_bind_eq_error.mp h with h | ⟨a, t, ha, h⟩
    · exact hx.2 e s' h
    · exact trans_of R (hx.1 a t ha) ((hf a t ha).2 e s' h)

theorem ReadOnly.movesFrom_bind [Std.Refl R] [IsTrans σ R] (hx : ReadOnly x)
    (hf : ∀ a, MovesFrom R s (f a)) : MovesFrom R s (x >>= f) :=
  Sql.movesFrom_bind (hx.moves s) fun a _ h => hx.ok h ▸ hf a

theorem moves_bind [IsTrans σ R] (hx : Moves R x) (hf : ∀ a, Moves R (f a)) : Moves R (x >>= f) :=
  fun s => movesFrom_bind (hx s) fun a s' _ => hf a s'

theorem moves_mapM [Std.Refl R] [IsTrans σ R] {l : List β} {g : β → EStateM ε σ α}
    (hg : ∀ b, Moves R (g b)) : Moves R (l.mapM g) := by
  induction l with
  | nil => exact readOnly_pure.moves
  | cons b l ih =>
    rw [List.mapM_cons]
    exact moves_bind (hg b) fun _ => moves_bind ih fun _ => readOnly_pure.moves

theorem moves_forM [Std.Refl R] [IsTrans σ R] {l : List β} {g : β → EStateM ε σ PUnit}
    (hg : ∀ b ∈ l, Moves R (g b)) : Moves R (l.forM g) := by
  induction l with
  | nil => exact readOnly_pure.moves
  | cons b l ih =>
    refine moves_bind (hg b List.mem_cons_self) fun _ => ?_
    exact ih fun b' hb' => hg b' (List.mem_cons_of_mem b hb')

theorem moves_foldlM [Std.Refl R] [IsTrans σ R] {l : List β} {g : α → β → EStateM ε σ α} {a : α}
    (hg : ∀ a b, Moves R (g a b)) : Moves R (l.foldlM g a) := by
  induction l generalizing a with
  | nil => exact readOnly_pure.moves
  | cons b l ih =>
    rw [List.foldlM_cons]
    exact moves_bind (hg a b) fun _ => ih

theorem moves_tryCatch [IsTrans σ R] {handler : ε → EStateM ε σ α} (hx : Moves R x)
    (hh : ∀ e, Moves R (handler e)) : Moves R (tryCatch x handler) := by
  intro s
  rw [run_tryCatch]
  cases hrx : x.run s with
  | ok a t =>
    refine ⟨fun a' s' h => ?_, nofun⟩
    obtain ⟨rfl, rfl⟩ := EStateM.Result.ok.inj h
    exact hx.ok hrx
  | error e t =>
    exact ⟨fun a s' h => trans_of R (hx.error hrx) ((hh e).ok h),
      fun e' s' h => trans_of R (hx.error hrx) ((hh e).error h)⟩

theorem Moves.outcome [Std.Refl R] (h : Moves R x) (keep : Bool) : R s (outcome keep x s) := by
  unfold Sql.outcome
  cases hx : x.run s with
  | ok a s' => exact h.ok hx
  | error e s' =>
    cases keep with
    | true => exact h.error hx
    | false => exact refl_of R s

section Commits

/-- The relation holds from `s` to the state in which a run from `s` succeeds. -/
def CommitsFrom (R : σ → σ → Prop) (s : σ) (x : EStateM ε σ α) : Prop :=
  ∀ a s', x.run s = .ok a s' → R s s'

/-- It holds so from every state. -/
def Commits (R : σ → σ → Prop) (x : EStateM ε σ α) : Prop := ∀ s, CommitsFrom R s x

theorem Moves.commits (h : Moves R x) : Commits R x := fun _ _ _ hx => h.ok hx

theorem ReadOnly.commits [Std.Refl R] (hx : ReadOnly x) : Commits R x := hx.moves.commits

theorem commitsFrom_bind [IsTrans σ R] (hx : CommitsFrom R s x)
    (hf : ∀ a s', x.run s = .ok a s' → CommitsFrom R s' (f a)) : CommitsFrom R s (x >>= f) := by
  intro b s' h
  obtain ⟨a, t, ha, h⟩ := run_bind_eq_ok.mp h
  exact trans_of R (hx a t ha) (hf a t ha b s' h)

theorem commits_bind [IsTrans σ R] (hx : Commits R x) (hf : ∀ a, Commits R (f a)) :
    Commits R (x >>= f) :=
  fun s => commitsFrom_bind (hx s) fun a s' _ => hf a s'

/-- What is read is known of the state that the statements go on from. -/
theorem ReadOnly.commitsFrom_bind (hx : ReadOnly x)
    (hf : ∀ a, x.run s = .ok a s → CommitsFrom R s (f a)) : CommitsFrom R s (x >>= f) := by
  intro b s' h
  obtain ⟨a, t, ha, h⟩ := run_bind_eq_ok.mp h
  obtain rfl := hx.ok ha
  exact hf a ha b s' h

theorem commits_foldlM [Std.Refl R] [IsTrans σ R] {l : List β} {g : α → β → EStateM ε σ α} {a : α}
    (hg : ∀ a b, Commits R (g a b)) : Commits R (l.foldlM g a) := by
  induction l generalizing a with
  | nil => exact readOnly_pure.commits
  | cons b l ih =>
    rw [List.foldlM_cons]
    exact commits_bind (hg a b) fun _ => ih

end Commits

end Sql
