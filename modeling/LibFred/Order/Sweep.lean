import Mathlib.Data.Finset.SDiff
import Mathlib.Order.Defs.LinearOrder

/-! Sets that change at instants, and their timelines. -/
namespace Sweep

variable {T α : Type*} [LinearOrder T]

/-- What a set gains and what it loses. -/
structure Change (α : Type*) where
  gained : Finset α
  lost : Finset α

def Change.none : Change α := ⟨∅, ∅⟩

/-- Changes by their instants, as a std::map keeps them. -/
abbrev Changes (T α : Type*) := List (T × Change α)

variable {l : Changes T α} {t t₀ k k' : T} {g : Change α → Change α}

def Ascending (l : Changes T α) : Prop := l.Pairwise fun a b => a.1 < b.1

/-- The change at an instant. -/
def find : Changes T α → T → Change α
  | [], _ => .none
  | (k', c) :: l, k => if k' = k then c else find l k

/-- The change at an instant becomes another one. -/
def alter (k : T) (g : Change α → Change α) : Changes T α → Changes T α
  | [] => [(k, g .none)]
  | (k', c) :: l =>
    if k < k' then (k, g .none) :: (k', c) :: l
    else if k' < k then (k', c) :: alter k g l
    else (k', g c) :: l

theorem find_of_forall_lt (h : ∀ p ∈ l, k < p.1) : find l k = .none := by
  induction l with
  | nil => rfl
  | cons p l ih =>
    have hp : p.1 ≠ k := (h p (by simp)).ne'
    rw [find, if_neg hp]
    exact ih fun q hq => h q (by simp [hq])

theorem find_alter (hl : Ascending l) :
    find (alter k g l) k' = if k' = k then g (find l k) else find l k' := by
  induction l with
  | nil =>
    by_cases h : k' = k
    · simp [alter, find, h]
    · simp [alter, find, h, Ne.symm h]
  | cons p l ih =>
    obtain ⟨k₁, c⟩ := p
    obtain ⟨hlt, hl⟩ := List.pairwise_cons.mp hl
    rw [alter]
    split
    · rename_i hk
      have hnone : find ((k₁, c) :: l) k = .none := by
        refine find_of_forall_lt ?_
        intro q hq
        rcases List.mem_cons.mp hq with rfl | hq
        · exact hk
        · exact hk.trans (hlt q hq)
      rw [hnone, find]
      by_cases h : k' = k
      · simp [h]
      · simp [h, Ne.symm h]
    · rename_i hk
      split
      · rename_i hk₁
        rw [find, ih hl]
        by_cases h : k' = k
        · simp [h, find, hk₁.ne]
        · simp [h, find]
      · rename_i hk₁
        obtain rfl : k = k₁ := le_antisymm (not_lt.mp hk₁) (not_lt.mp hk)
        by_cases h : k' = k
        · simp [h, find]
        · simp [h, find, Ne.symm h]

theorem mem_alter {p : T × Change α} (hp : p ∈ alter k g l) : p.1 = k ∨ ∃ q ∈ l, q.1 = p.1 := by
  induction l with
  | nil =>
    obtain rfl : p = (k, g .none) := by simpa [alter] using hp
    exact .inl rfl
  | cons q l ih =>
    obtain ⟨k₁, c⟩ := q
    rw [alter] at hp
    split at hp
    · rcases List.mem_cons.mp hp with rfl | hp
      · exact .inl rfl
      · exact .inr ⟨p, hp, rfl⟩
    · split at hp
      · rcases List.mem_cons.mp hp with rfl | hp
        · exact .inr ⟨_, by simp, rfl⟩
        · rcases ih hp with h | ⟨q, hq, h⟩
          · exact .inl h
          · exact .inr ⟨q, by simp [hq], h⟩
      · rcases List.mem_cons.mp hp with rfl | hp
        · exact .inr ⟨_, List.mem_cons_self, rfl⟩
        · exact .inr ⟨p, by simp [hp], rfl⟩

theorem mem_keys_alter : k' ∈ (alter k g l).map (·.1) ↔ k' = k ∨ k' ∈ l.map (·.1) := by
  induction l with
  | nil => simp [alter]
  | cons p l ih =>
    obtain ⟨k₁, c⟩ := p
    rw [alter]
    split
    · simp
    · split
      · rw [List.map_cons, List.mem_cons, ih, List.map_cons, List.mem_cons]
        exact or_left_comm
      · rename_i hk hk₁
        obtain rfl : k = k₁ := le_antisymm (not_lt.mp hk₁) (not_lt.mp hk)
        simp

theorem ascending_alter (hl : Ascending l) : Ascending (alter k g l) := by
  induction l with
  | nil => exact List.pairwise_singleton _ _
  | cons p l ih =>
    obtain ⟨k₁, c⟩ := p
    obtain ⟨hlt, htail⟩ := List.pairwise_cons.mp hl
    rw [alter]
    split
    · rename_i hk
      refine List.pairwise_cons.mpr ⟨?_, hl⟩
      intro q hq
      rcases List.mem_cons.mp hq with rfl | hq
      · exact hk
      · exact hk.trans (hlt q hq)
    · split
      · rename_i hk
        refine List.pairwise_cons.mpr ⟨?_, ih htail⟩
        intro q hq
        rcases mem_alter hq with h | ⟨q', hq', h⟩
        · rwa [h]
        · rw [← h]
          exact hlt q' hq'
      · exact List.pairwise_cons.mpr ⟨hlt, htail⟩

variable [DecidableEq α] {s : Finset α} {f : α} {c : Change α}

/-- Something is gained at an instant. -/
def gain (k : T) (s : Finset α) (l : Changes T α) : Changes T α :=
  alter k (fun c => ⟨c.gained ∪ s, c.lost⟩) l

/-- Something is lost at an instant. -/
def lose (k : T) (s : Finset α) (l : Changes T α) : Changes T α :=
  alter k (fun c => ⟨c.gained, c.lost ∪ s⟩) l

theorem ascending_gain (hl : Ascending l) : Ascending (gain k s l) := ascending_alter hl

theorem ascending_lose (hl : Ascending l) : Ascending (lose k s l) := ascending_alter hl

theorem mem_gained_gain (hl : Ascending l) : f ∈ (find (gain k s l) k').gained ↔
    f ∈ (find l k').gained ∨ k = k' ∧ f ∈ s := by
  rw [gain, find_alter hl]
  by_cases h : k' = k
  · simp [h]
  · simp [h, Ne.symm h]

theorem lost_gain (hl : Ascending l) : (find (gain k s l) k').lost = (find l k').lost := by
  rw [gain, find_alter hl]
  by_cases h : k' = k
  · simp [h]
  · simp [h]

theorem mem_lost_lose (hl : Ascending l) : f ∈ (find (lose k s l) k').lost ↔
    f ∈ (find l k').lost ∨ k = k' ∧ f ∈ s := by
  rw [lose, find_alter hl]
  by_cases h : k' = k
  · simp [h]
  · simp [h, Ne.symm h]

theorem gained_lose (hl : Ascending l) : (find (lose k s l) k').gained = (find l k').gained := by
  rw [lose, find_alter hl]
  by_cases h : k' = k
  · simp [h]
  · simp [h]

/-- The loss goes last. -/
def Change.apply (c : Change α) (s : Finset α) : Finset α := (s ∪ c.gained) \ c.lost

@[simp] theorem Change.mem_apply : f ∈ c.apply s ↔ (f ∈ s ∨ f ∈ c.gained) ∧ f ∉ c.lost := by
  simp [Change.apply]

structure Record (T α : Type*) where
  validFrom : T
  state : Finset α

/-- The records that the changes leave behind. -/
def run (s : Finset α) : Changes T α → List (Record T α)
  | [] => []
  | (k, c) :: l => ⟨k, c.apply s⟩ :: run (c.apply s) l

/-- The set in the last record that is valid at an instant. -/
def presence (timeline : List (Record T α)) (t : T) : Option (Finset α) :=
  ((timeline.filter (·.validFrom ≤ t)).getLast?).map (·.state)

/-- The set after all changes up to an instant. -/
def stateAt (s : Finset α) : Changes T α → T → Finset α
  | [], _ => s
  | (k, c) :: l, t => if k ≤ t then stateAt (c.apply s) l t else s

theorem forall_mem_run : (∀ r ∈ run s l, t < r.validFrom) ↔ ∀ p ∈ l, t < p.1 := by
  induction l generalizing s with
  | nil => simp [run]
  | cons p l ih => simp [run, ih]

theorem pairwise_run (hl : Ascending l) : (run s l).Pairwise fun a b => a.validFrom < b.validFrom := by
  induction l generalizing s with
  | nil => exact .nil
  | cons p l ih =>
    obtain ⟨k, c⟩ := p
    obtain ⟨hlt, htail⟩ := List.pairwise_cons.mp hl
    exact List.pairwise_cons.mpr ⟨forall_mem_run.mpr hlt, ih htail⟩

/-- Records from a first one that is valid tell the state after the changes. -/
theorem presence_run (hl : Ascending l) (ht : t₀ ≤ t) :
    presence (⟨t₀, s⟩ :: run s l) t = some (stateAt s l t) := by
  induction l generalizing t₀ s with
  | nil => simp [presence, run, stateAt, ht]
  | cons p l ih =>
    obtain ⟨k, c⟩ := p
    obtain ⟨hlt, htail⟩ := List.pairwise_cons.mp hl
    rw [stateAt]
    by_cases hk : k ≤ t
    · rw [if_pos hk, ← ih htail hk]
      simp [presence, run, ht, hk]
    · have hlate : ∀ r ∈ run s ((k, c) :: l), t < r.validFrom := by
        refine forall_mem_run.mpr fun q hq => ?_
        rcases List.mem_cons.mp hq with rfl | hq
        · exact not_le.mp hk
        · exact (not_le.mp hk).trans (hlt q hq)
      have hnil : (run s ((k, c) :: l)).filter (·.validFrom ≤ t) = [] := by
        simpa using hlate
      rw [if_neg hk]
      simp [presence, ht, hnil]

/-- Without a first record the earliest change has to be valid. -/
theorem presence_run_of_le {c : Change α} (hl : Ascending ((k, c) :: l)) (hk : k ≤ t) :
    presence (run s ((k, c) :: l)) t = some (stateAt s ((k, c) :: l) t) := by
  rw [run, stateAt, if_pos hk]
  exact presence_run (List.pairwise_cons.mp hl).2 hk

/-- An element is there when it was gained and not lost since, or was there and never lost. -/
theorem mem_stateAt (hl : Ascending l) : f ∈ stateAt s l t ↔
    (∃ k ≤ t, f ∈ (find l k).gained ∧ ∀ k', k ≤ k' → k' ≤ t → f ∉ (find l k').lost) ∨
      f ∈ s ∧ ∀ k' ≤ t, f ∉ (find l k').lost := by
  induction l generalizing s with
  | nil => simp [stateAt, find, Change.none]
  | cons p l ih =>
    obtain ⟨k₁, c⟩ := p
    obtain ⟨hlt, htail⟩ := List.pairwise_cons.mp hl
    have hnone : ∀ k ≤ k₁, find l k = .none :=
      fun k hk => find_of_forall_lt fun q hq => hk.trans_lt (hlt q hq)
    have hgained : ∀ k, f ∈ (find l k).gained → k₁ < k := by
      intro k hf
      by_contra hk
      simp [hnone k (not_lt.mp hk), Change.none] at hf
    have hlost : ∀ k, f ∈ (find l k).lost → k₁ < k := by
      intro k hf
      by_contra hk
      simp [hnone k (not_lt.mp hk), Change.none] at hf
    have hlater : ∀ k, k₁ < k → find ((k₁, c) :: l) k = find l k := fun k hk => if_neg hk.ne
    have hself : find ((k₁, c) :: l) k₁ = c := if_pos rfl
    rw [stateAt]
    split
    · rename_i hk₁
      rw [ih htail, Change.mem_apply]
      constructor
      · rintro (⟨k, hkt, hf, hno⟩ | ⟨⟨hf, hnc⟩, hno⟩)
        · have hk := hgained k hf
          refine .inl ⟨k, hkt, hlater k hk ▸ hf, fun k' hk' hk't => ?_⟩
          rw [hlater k' (hk.trans_le hk')]
          exact hno k' hk' hk't
        · have hnot : ∀ k' ≤ t, f ∉ (find ((k₁, c) :: l) k').lost := by
            intro k' hk't
            by_cases he : k₁ = k'
            · rwa [← he, hself]
            · rw [find, if_neg he]
              exact hno k' hk't
          rcases hf with hf | hf
          · exact .inr ⟨hf, hnot⟩
          · exact .inl ⟨k₁, hk₁, hself.symm ▸ hf, fun k' _ hk't => hnot k' hk't⟩
      · rintro (⟨k, hkt, hf, hno⟩ | ⟨hf, hno⟩)
        · by_cases he : k₁ = k
          · subst he
            rw [hself] at hf
            have hnc : f ∉ c.lost := hself ▸ hno k₁ le_rfl hkt
            refine .inr ⟨⟨.inr hf, hnc⟩, fun k' hk't hl' => ?_⟩
            have hk' := hlost k' hl'
            exact hno k' hk'.le hk't (hlater k' hk' ▸ hl')
          · rw [find, if_neg he] at hf
            have hk := hgained k hf
            refine .inl ⟨k, hkt, hf, fun k' hk' hk't hl' => ?_⟩
            exact hno k' hk' hk't (hlater k' (hk.trans_le hk') ▸ hl')
        · have hnc : f ∉ c.lost := hself ▸ hno k₁ hk₁
          refine .inr ⟨⟨.inl hf, hnc⟩, fun k' hk't hl' => ?_⟩
          exact hno k' hk't (hlater k' (hlost k' hl') ▸ hl')
    · rename_i hk₁
      have hearly : ∀ k ≤ t, find ((k₁, c) :: l) k = .none := by
        intro k hk
        have hlt₁ : k < k₁ := hk.trans_lt (not_le.mp hk₁)
        rw [find, if_neg hlt₁.ne']
        exact hnone k hlt₁.le
      constructor
      · intro hf
        exact .inr ⟨hf, fun k' hk't => by simp [hearly k' hk't, Change.none]⟩
      · rintro (⟨k, hkt, hf, -⟩ | ⟨hf, -⟩)
        · simp [hearly k hkt, Change.none] at hf
        · exact hf

end Sweep
