import LibFred.Sql.Action
import Mathlib.Data.List.Forall2

/-! A program beside its dry run, which makes the same checks and writes nothing. -/
namespace Sql

variable {ε σ α β γ δ ι : Type} {C : ε → Prop} {Q : α → β → Prop} {S S' : σ → σ → Prop}
  {x : EStateM ε σ α} {y : EStateM ε σ β} {s₀ s s' : σ}

/-- A run that leaves the state alone and raises exceptions of checks only. -/
def Checks (C : ε → Prop) (y : EStateM ε σ β) : Prop :=
  ∀ s, (∃ b, y.run s = .ok b s) ∨ ∃ e, C e ∧ y.run s = .error e s

theorem Checks.readOnly (hy : Checks C y) : ReadOnly y := by
  intro s
  rcases hy s with h | ⟨e, -, he⟩
  · exact .inl h
  · exact .inr ⟨e, he⟩

theorem checks_pure {b : β} : Checks C (pure b : EStateM ε σ β) := fun _ => .inl ⟨b, rfl⟩

theorem checks_throw {e : ε} (he : C e) : Checks C (throw e : EStateM ε σ β) :=
  fun _ => .inr ⟨e, he, rfl⟩

theorem checks_get : Checks C (get : EStateM ε σ σ) := fun s => .inl ⟨s, rfl⟩

theorem checks_raiseIf {c : Prop} [Decidable c] {e : ε} (he : C e) :
    Checks C (raiseIf c e : EStateM ε σ Unit) := by
  unfold raiseIf
  split
  · exact checks_throw he
  · exact checks_pure

theorem checks_bind {g : β → EStateM ε σ δ} (hy : Checks C y) (hg : ∀ b, Checks C (g b)) :
    Checks C (y >>= g) := by
  intro s
  rw [EStateM.run_bind]
  rcases hy s with ⟨b, hb⟩ | ⟨e, he, hr⟩
  · rw [hb]
    exact hg b s
  · rw [hr]
    exact .inr ⟨e, he, rfl⟩

theorem checks_mapM {g : ι → EStateM ε σ β} (hg : ∀ i, Checks C (g i)) (l : List ι) :
    Checks C (l.mapM g) := by
  induction l with
  | nil => exact checks_pure
  | cons i l ih =>
    rw [List.mapM_cons]
    exact checks_bind (hg i) fun _ => checks_bind ih fun _ => checks_pure

theorem run_mapM_cons {g : ι → EStateM ε σ β} (hg : ∀ i, Checks C (g i)) {i : ι} {l : List ι}
    {bs : List β} :
    ((i :: l).mapM g).run s = .ok bs s' ↔
      ∃ b bs', (g i).run s = .ok b s ∧ (l.mapM g).run s = .ok bs' s' ∧ bs = b :: bs' := by
  rw [List.mapM_cons]
  constructor
  · intro h
    obtain ⟨b, t, hb, h⟩ := run_bind_eq_ok.mp h
    obtain rfl := (hg i).readOnly.ok hb
    obtain ⟨bs', t, hl, h⟩ := run_bind_eq_ok.mp h
    obtain ⟨rfl, rfl⟩ := run_pure_eq_ok.mp h
    exact ⟨b, bs', hb, hl, rfl⟩
  · rintro ⟨b, bs', hb, hl, rfl⟩
    exact run_bind_eq_ok.mpr ⟨b, s, hb, run_bind_eq_ok.mpr ⟨bs', s', hl, rfl⟩⟩

/-- Checks may be made in any order. -/
theorem run_mapM_perm {g : ι → EStateM ε σ β} (hg : ∀ i, Checks C (g i)) {l l' : List ι}
    (hp : l.Perm l') {bs : List β} (h : (l.mapM g).run s = .ok bs s) :
    ∃ bs', (l'.mapM g).run s = .ok bs' s ∧ bs.Perm bs' := by
  induction hp generalizing bs with
  | nil => exact ⟨bs, h, .refl bs⟩
  | cons i _ ih =>
    obtain ⟨b, bs₁, hb, hl, rfl⟩ := (run_mapM_cons hg).mp h
    obtain ⟨bs₂, hl', hperm⟩ := ih hl
    exact ⟨b :: bs₂, (run_mapM_cons hg).mpr ⟨b, bs₂, hb, hl', rfl⟩, hperm.cons b⟩
  | swap i j l =>
    obtain ⟨b, bs₁, hb, htail, rfl⟩ := (run_mapM_cons hg).mp h
    obtain ⟨b', bs₂, hb', hl, rfl⟩ := (run_mapM_cons hg).mp htail
    have hrest : ((j :: l).mapM g).run s = .ok (b :: bs₂) s :=
      (run_mapM_cons hg).mpr ⟨b, bs₂, hb, hl, rfl⟩
    exact ⟨b' :: b :: bs₂, (run_mapM_cons hg).mpr ⟨b', b :: bs₂, hb', hrest, rfl⟩, .swap b' b bs₂⟩
  | trans _ _ ih ih' =>
    obtain ⟨bs₁, h₁, hperm⟩ := ih h
    obtain ⟨bs₂, h₂, hperm'⟩ := ih' h₁
    exact ⟨bs₂, h₂, hperm.trans hperm'⟩

/-- How a real run ends beside a dry run from `s₀`: with a fitting result, with an exception that
is not one of checks, or with the same exception of a check. -/
inductive Beside (C : ε → Prop) (Q : α → β → Prop) (S : σ → σ → Prop) (s₀ : σ) :
    EStateM.Result ε σ α → EStateM.Result ε σ β → Prop
  | done {a : α} {b : β} {s' : σ} (hQ : Q a b) (hS : S s₀ s') : Beside C Q S s₀ (.ok a s') (.ok b s₀)
  | stopped {e : ε} {s' : σ} {r : EStateM.Result ε σ β} (he : ¬ C e) :
    Beside C Q S s₀ (.error e s') r
  | refused {e : ε} {s' : σ} (he : C e) : Beside C Q S s₀ (.error e s') (.error e s₀)

/-- Beside the dry run `y` of `x`, which sees a state that `S` relates to that of the real run. -/
structure DryRun (C : ε → Prop) (S S' : σ → σ → Prop) (Q : α → β → Prop) (x : EStateM ε σ α)
    (y : EStateM ε σ β) : Prop where
  checks : Checks C y
  beside : ∀ s₀ s, S s₀ s → Beside C Q S' s₀ (x.run s) (y.run s₀)

/-- A check of what `S` preserves, made by both runs. -/
theorem dryRun_check {y : EStateM ε σ α} (hy : Checks C y) (hS : ∀ s₀ s, S s₀ s → S' s₀ s)
    (hsame : ∀ s₀ s, S s₀ s → (∃ a, y.run s = .ok a s ∧ y.run s₀ = .ok a s₀) ∨
      ∃ e, C e ∧ y.run s = .error e s ∧ y.run s₀ = .error e s₀) :
    DryRun C S S' (· = ·) y y := by
  refine ⟨hy, fun s₀ s h => ?_⟩
  rcases hsame s₀ s h with ⟨a, ha, ha₀⟩ | ⟨e, he, hr, hr₀⟩
  · rw [ha, ha₀]
    exact .done rfl (hS s₀ s h)
  · rw [hr, hr₀]
    exact .refused he

theorem dryRun_pure {a : α} {b : β} (hQ : Q a b) :
    DryRun C S S Q (pure a : EStateM ε σ α) (pure b) :=
  ⟨checks_pure, fun _ _ h => .done hQ h⟩

/-- A condition that both runs see alike. -/
theorem dryRun_raiseIf {c c' : Prop} [Decidable c] [Decidable c'] {e : ε} (he : C e) (hc : c ↔ c') :
    DryRun C S S (· = ·) (raiseIf c e : EStateM ε σ Unit) (raiseIf c' e) := by
  unfold raiseIf
  by_cases h : c
  · rw [if_pos h, if_pos (hc.mp h)]
    exact ⟨checks_throw he, fun _ _ _ => .refused he⟩
  · rw [if_neg h, if_neg fun h' => h (hc.mpr h')]
    exact dryRun_pure rfl

/-- Writes that only the real run makes. -/
theorem dryRun_write {b : β} (hstop : ∀ s e s', x.run s = .error e s' → ¬ C e)
    (hS : ∀ s₀ s a s', S s₀ s → x.run s = .ok a s' → S' s₀ s' ∧ Q a b) :
    DryRun C S S' Q x (pure b) := by
  refine ⟨checks_pure, fun s₀ s h => ?_⟩
  cases hx : x.run s with
  | ok a s' =>
    obtain ⟨hS', hQ⟩ := hS s₀ s a s' h hx
    exact .done hQ hS'
  | error e s' => exact .stopped (hstop s e s' hx)

theorem DryRun.bind {S'' : σ → σ → Prop} {R : γ → δ → Prop} {f : α → EStateM ε σ γ}
    {g : β → EStateM ε σ δ} (hx : DryRun C S S' Q x y) (hg : ∀ b, Checks C (g b))
    (hf : ∀ a b, Q a b → DryRun C S' S'' R (f a) (g b)) :
    DryRun C S S'' R (x >>= f) (y >>= g) := by
  refine ⟨checks_bind hx.checks hg, fun s₀ s h => ?_⟩
  have hb := hx.beside s₀ s h
  rw [EStateM.run_bind, EStateM.run_bind]
  generalize hrx : x.run s = rx at hb
  generalize hry : y.run s₀ = ry at hb
  cases hb with
  | done hQ hS => exact (hf _ _ hQ).beside _ _ hS
  | stopped he => exact .stopped he
  | refused he => exact .refused he

theorem DryRun.mono {S'' : σ → σ → Prop} {R : α → β → Prop} (hx : DryRun C S S' Q x y)
    (hQ : ∀ a b, Q a b → R a b) (hS : ∀ s₀ s, S' s₀ s → S'' s₀ s) : DryRun C S S'' R x y := by
  refine ⟨hx.checks, fun s₀ s h => ?_⟩
  have hb := hx.beside s₀ s h
  generalize x.run s = rx at hb
  generalize y.run s₀ = ry at hb
  cases hb with
  | done hq hs => exact .done (hQ _ _ hq) (hS _ _ hs)
  | stopped he => exact .stopped he
  | refused he => exact .refused he

theorem dryRun_mapM {f : ι → EStateM ε σ α} {g : ι → EStateM ε σ β}
    (h : ∀ i, DryRun C S S Q (f i) (g i)) (l : List ι) :
    DryRun C S S (List.Forall₂ Q) (l.mapM f) (l.mapM g) := by
  induction l with
  | nil => exact dryRun_pure .nil
  | cons i l ih =>
    rw [List.mapM_cons, List.mapM_cons]
    have hrest (b : β) : Checks C (do let bs ← l.mapM g; pure (b :: bs)) :=
      checks_bind ih.checks fun _ => checks_pure
    exact (h i).bind hrest fun a b hab => ih.bind (fun _ => checks_pure) fun as bs hs =>
      dryRun_pure (.cons hab hs)

variable (hxy : DryRun C S S' Q x y) (hS : S s₀ s)

include hxy hS

/-- When the real run succeeds, so does the dry run. -/
theorem DryRun.ok {a : α} (h : x.run s = .ok a s') : ∃ b, y.run s₀ = .ok b s₀ ∧ Q a b := by
  have hb := hxy.beside s₀ s hS
  rw [h] at hb
  generalize hry : y.run s₀ = ry at hb
  cases hb with
  | done hQ _ => exact ⟨_, rfl, hQ⟩

/-- A check that stops the real run stops the dry run. -/
theorem DryRun.error {e : ε} (h : x.run s = .error e s') (he : C e) : y.run s₀ = .error e s₀ := by
  have hb := hxy.beside s₀ s hS
  rw [h] at hb
  generalize hry : y.run s₀ = ry at hb
  cases hb with
  | stopped hne => exact (hne he).elim
  | refused _ => rfl

/-- A check that stops the dry run stops the real run, unless that was stopped otherwise before. -/
theorem DryRun.error_of_error {e : ε} (h : y.run s₀ = .error e s₀) :
    ∃ e' s', x.run s = .error e' s' ∧ (e' = e ∨ ¬ C e') := by
  have hb := hxy.beside s₀ s hS
  rw [h] at hb
  generalize hrx : x.run s = rx at hb
  cases hb with
  | stopped hne => exact ⟨_, _, rfl, .inr hne⟩
  | refused _ => exact ⟨_, _, rfl, .inl rfl⟩

end Sql
