import Mathlib.Tactic.TypeStar

/-! States reached by a run of calls, and the induction over such runs. -/
namespace Transition

variable {γ σ : Type*} {next : γ → σ → σ} {admits : γ → σ → Prop} {start I : σ → Prop} {s : σ}

/-- The states of a run from `start` in which every call `c` meets `admits c` in the state
it is made in. -/
inductive Reachable (next : γ → σ → σ) (admits : γ → σ → Prop) (start : σ → Prop) : σ → Prop
  | init {s : σ} : start s → Reachable next admits start s
  | step {s : σ} (c : γ) : Reachable next admits start s → admits c s →
      Reachable next admits start (next c s)

/-- What holds at the start and survives every admitted call holds in every reached state. -/
theorem Reachable.invariant (h : Reachable next admits start s) (hi : ∀ s, start s → I s)
    (hs : ∀ c s, admits c s → I s → I (next c s)) : I s := by
  induction h with
  | init h => exact hi _ h
  | step c _ ha ih => exact hs c _ ha ih

theorem Reachable.mono {admits' : γ → σ → Prop} (h : Reachable next admits start s)
    (ha : ∀ c s, admits c s → admits' c s) : Reachable next admits' start s := by
  induction h with
  | init h => exact .init h
  | step c _ hc ih => exact .step c ih (ha c _ hc)

/-- A list of calls that are admitted as long as `I` holds, which they keep. -/
theorem Reachable.run {l : List γ} (h : Reachable next admits start s) (hi : I s)
    (hs : ∀ c ∈ l, ∀ s, I s → admits c s ∧ I (next c s)) :
    Reachable next admits start (l.foldl (fun s c => next c s) s) := by
  induction l generalizing s with
  | nil => exact h
  | cons c l ih =>
    obtain ⟨hc, hi'⟩ := hs c List.mem_cons_self s hi
    exact ih (.step c h hc) hi' fun c' hc' => hs c' (List.mem_cons_of_mem c hc')

/-- A list of calls each of which is admitted after those before it. -/
theorem Reachable.run_of_admits {l : List γ} (h : Reachable next admits start s)
    (hl : ∀ n c, l[n]? = some c → admits c ((l.take n).foldl (fun s c => next c s) s)) :
    Reachable next admits start (l.foldl (fun s c => next c s) s) := by
  induction l generalizing s with
  | nil => exact h
  | cons c l ih =>
    refine ih (.step c h (hl 0 c rfl)) fun n c' hc' => ?_
    have hadmits := hl (n + 1) c' hc'
    rwa [List.take_succ_cons, List.foldl_cons] at hadmits

end Transition
