import Mathlib.Data.List.Dedup
import Mathlib.Data.List.Forall2

/-! Tables with a primary key. -/
namespace Sql

theorem filterMap_eq_singleton {α β : Type*} {g : α → Option β} {b : β} {l : List α} (hl : l.Nodup) :
    l.filterMap g = [b] ↔ ∃ a ∈ l, g a = some b ∧ ∀ a' ∈ l, (g a').isSome → a' = a := by
  induction l with
  | nil => simp
  | cons a l ih =>
    obtain ⟨ha, hl⟩ := List.nodup_cons.mp hl
    cases hga : g a with
    | none =>
      rw [List.filterMap_cons_none hga, ih hl]
      simp [hga]
    | some c =>
      rw [List.filterMap_cons_some hga]
      constructor
      · intro h
        obtain ⟨rfl, hnil⟩ := List.cons.inj h
        refine ⟨a, List.mem_cons_self, hga, fun a' ha' hsome => ?_⟩
        rcases List.mem_cons.mp ha' with rfl | ha'
        · rfl
        · rw [List.filterMap_eq_nil_iff.mp hnil a' ha'] at hsome
          cases hsome
      · rintro ⟨a', -, hga', honly⟩
        obtain rfl : a = a' := honly a List.mem_cons_self (by simp [hga])
        obtain rfl : c = b := by simpa [hga] using hga'
        refine congrArg (c :: ·) (List.filterMap_eq_nil_iff.mpr fun a' ha' => ?_)
        by_contra hne
        obtain rfl := honly a' (List.mem_cons_of_mem _ ha') (Option.isSome_iff_ne_none.mpr hne)
        exact ha ha'

/-- Lists that are related row by row. -/
theorem exists_of_forall₂ {α β : Type*} {C : α → β → Prop} {l : List α} {l' : List β} {b : β}
    (h : List.Forall₂ C l l') (hb : b ∈ l') : ∃ a ∈ l, C a b := by
  induction h with
  | nil => cases hb
  | cons hab h ih =>
    rcases List.mem_cons.mp hb with rfl | hb
    · exact ⟨_, List.mem_cons_self, hab⟩
    · obtain ⟨a, ha, hC⟩ := ih hb
      exact ⟨a, List.mem_cons_of_mem _ ha, hC⟩

/-- Rows that a primary key identifies. -/
class Keyed (ρ : Type*) (κ : outParam Type*) where
  key : ρ → κ

open Keyed

/-- The rows of a table, no two of which share a primary key. -/
structure Table (ρ : Type*) {κ : outParam Type*} [Keyed ρ κ] where
  rows : List ρ
  nodup : (rows.map key).Nodup

namespace Table

variable {ρ κ : Type*} [Keyed ρ κ] {t : Table ρ} {r r' : ρ} {k : κ}

instance : Membership ρ (Table ρ) := ⟨fun t r => r ∈ t.rows⟩

theorem mem_rows : r ∈ t.rows ↔ r ∈ t := Iff.rfl

@[ext] theorem ext {t t' : Table ρ} (h : t.rows = t'.rows) : t = t' := by
  cases t; cases t'; simpa using h

def empty : Table ρ := ⟨[], List.nodup_nil⟩

instance : EmptyCollection (Table ρ) := ⟨empty⟩

@[simp] theorem not_mem_empty : r ∉ (∅ : Table ρ) := List.not_mem_nil

@[simp] theorem rows_empty : (∅ : Table ρ).rows = [] := rfl

theorem eq_of_key_eq (h : r ∈ t) (h' : r' ∈ t) (hk : key r = key r') : r = r' :=
  List.inj_on_of_nodup_map t.nodup h h' hk

/-- Any two rows of different keys are related. -/
def Pairwise (t : Table ρ) (R : ρ → ρ → Prop) : Prop :=
  ∀ a ∈ t, ∀ b ∈ t, key a ≠ key b → R a b

@[simp] theorem pairwise_empty {R : ρ → ρ → Prop} : (∅ : Table ρ).Pairwise R := by
  intro a ha
  simp at ha

/-- Rows added to a table have to be related to the older ones and to each other. -/
theorem Pairwise.add {R : ρ → ρ → Prop} {t' : Table ρ} {l : List ρ} (h : t.Pairwise R)
    (hsymm : ∀ {a b}, R a b → R b a) (hmem : ∀ r ∈ t', r ∈ t ∨ r ∈ l)
    (hold : ∀ a ∈ t, ∀ b ∈ l, R a b) (hnew : ∀ a ∈ l, ∀ b ∈ l, key a ≠ key b → R a b) :
    t'.Pairwise R := by
  intro a ha b hb hne
  rcases hmem a ha with ha | ha <;> rcases hmem b hb with hb | hb
  · exact h a ha b hb hne
  · exact hold a ha b hb
  · exact hsymm (hold b hb a ha)
  · exact hnew a ha b hb hne

/-- Rows may be deleted, and changed in ways that `R` survives. -/
theorem Pairwise.change {R S : ρ → ρ → Prop} {t' : Table ρ} (h : t.Pairwise R)
    (hmem : ∀ r ∈ t', ∃ r₀ ∈ t, key r₀ = key r ∧ S r₀ r)
    (hS : ∀ {a a' b b'}, R a b → S a a' → S b b' → R a' b') : t'.Pairwise R := by
  intro a ha b hb hne
  obtain ⟨a₀, ha₀, hka, hSa⟩ := hmem a ha
  obtain ⟨b₀, hb₀, hkb, hSb⟩ := hmem b hb
  exact hS (h a₀ ha₀ b₀ hb₀ (by rwa [hka, hkb])) hSa hSb

/-- SELECT of the rows that meet a condition. -/
def select (t : Table ρ) (p : ρ → Prop) [DecidablePred p] : List ρ := t.rows.filter (p ·)

@[simp] theorem mem_select {p : ρ → Prop} [DecidablePred p] : r ∈ t.select p ↔ r ∈ t ∧ p r := by
  simp [select, mem_rows]

theorem nodup_rows (t : Table ρ) : t.rows.Nodup := List.Nodup.of_map key t.nodup

/-- A query yields one value exactly when a single row of those that it selects has one. -/
theorem filterMap_select_eq_singleton {β : Type*} {p : ρ → Prop} [DecidablePred p]
    {g : ρ → Option β} {b : β} :
    (t.select p).filterMap g = [b] ↔
      ∃ r ∈ t, p r ∧ g r = some b ∧ ∀ r' ∈ t, p r' → (g r').isSome → r' = r := by
  have hnodup : (t.select p).Nodup := t.nodup_rows.filter _
  rw [filterMap_eq_singleton hnodup]
  simp [and_assoc]

theorem select_eq_singleton {p : ρ → Prop} [DecidablePred p] :
    t.select p = [r] ↔ r ∈ t ∧ p r ∧ ∀ r' ∈ t, p r' → r' = r := by
  have h := filterMap_select_eq_singleton (t := t) (p := p) (g := some) (b := r)
  rw [List.filterMap_some] at h
  simpa using h

/-- A condition that only one key meets selects its row. -/
theorem select_eq_of_key {p : ρ → Prop} [DecidablePred p] (hr : r ∈ t) (hp : p r)
    (hkey : ∀ r' ∈ t, p r' → key r' = key r) : t.select p = [r] :=
  select_eq_singleton.mpr ⟨hr, hp, fun r' hr' hp' => eq_of_key_eq hr' hr (hkey r' hr' hp')⟩

/-- A value of a column in which no two rows agree selects its row. -/
theorem select_eq_of_unique {γ : Type*} [DecidableEq γ] {f : ρ → γ} {v : γ}
    (hunique : ∀ r ∈ t, ∀ r' ∈ t, f r = f r' → r = r') (hr : r ∈ t) (hv : f r = v) :
    t.select (f · = v) = [r] :=
  select_eq_singleton.mpr ⟨hr, hv, fun r' hr' hv' => hunique r' hr' r hr (hv'.trans hv.symm)⟩

theorem select_key [DecidableEq κ] (hr : r ∈ t) (hk : key r = k) : t.select (key · = k) = [r] :=
  select_eq_of_key hr hk fun _ _ hk' => hk'.trans hk.symm

/-- A condition that two rows do not share selects one row at most. -/
theorem select_eq_nil_or_singleton {p : ρ → Prop} [DecidablePred p]
    (h : ∀ a ∈ t, ∀ b ∈ t, p a → p b → a = b) : t.select p = [] ∨ ∃ r, t.select p = [r] := by
  cases hl : t.select p with
  | nil => exact .inl rfl
  | cons r l =>
    have hmem : ∀ a ∈ r :: l, a ∈ t ∧ p a := fun a ha => mem_select.mp (hl ▸ ha)
    refine .inr ⟨r, ?_⟩
    rw [← hl, select_eq_singleton]
    obtain ⟨hr, hpr⟩ := hmem r List.mem_cons_self
    exact ⟨hr, hpr, fun a ha hpa => h a ha r hr hpa hpr⟩

/-- DELETE of the rows that meet a condition. -/
def delete (t : Table ρ) (p : ρ → Prop) [DecidablePred p] : Table ρ where
  rows := t.rows.filter (¬ p ·)
  nodup := t.nodup.sublist (List.filter_sublist.map key)

@[simp] theorem mem_delete {p : ρ → Prop} [DecidablePred p] : r ∈ t.delete p ↔ r ∈ t ∧ ¬ p r := by
  simp [delete, ← mem_rows]

theorem delete_eq_self {p : ρ → Prop} [DecidablePred p] (h : t.select p = []) : t.delete p = t := by
  refine ext (List.filter_eq_self.mpr fun r hr => ?_)
  have hnone := List.eq_nil_iff_forall_not_mem.mp h r
  simpa [hr, ← mem_rows] using hnone

/-- DELETE leaves the rows of a query that it does not concern. -/
theorem select_delete {p q : ρ → Prop} [DecidablePred p] [DecidablePred q]
    (h : ∀ r ∈ t, p r → ¬ q r) : (t.delete p).select q = t.select q := by
  unfold select delete
  rw [List.filter_filter]
  refine List.filter_congr fun r hr => ?_
  by_cases hq : q r
  · have hp : ¬ p r := fun hp => h r hr hp hq
    simp [hq, hp]
  · simp [hq]

/-- UPDATE of the rows that meet a condition by an assignment that leaves the key alone. -/
def update (t : Table ρ) (p : ρ → Prop) [DecidablePred p] (f : ρ → ρ)
    (hf : ∀ r, key (f r) = key r := by intro _; rfl) : Table ρ where
  rows := t.rows.map fun r => if p r then f r else r
  nodup := by
    rw [List.map_map, List.map_congr_left (g := key)]
    · exact t.nodup
    · intro r _
      by_cases h : p r <;> simp [h, hf]

@[simp] theorem mem_update {p : ρ → Prop} [DecidablePred p] {f : ρ → ρ}
    (hf : ∀ r, key (f r) = key r) :
    r ∈ t.update p f hf ↔ ∃ r' ∈ t, (if p r' then f r' else r') = r := by
  simp [update, ← mem_rows]

/-- UPDATE leaves the rows of a query that it does not concern. -/
theorem select_update {p q : ρ → Prop} [DecidablePred p] [DecidablePred q] {f : ρ → ρ}
    (hf : ∀ r, key (f r) = key r) (h : ∀ r, p r → ¬ q r) (h' : ∀ r, p r → ¬ q (f r)) :
    (t.update p f hf).select q = t.select q := by
  unfold select update
  rw [List.filter_map, List.filter_congr (q := (decide <| q ·)), List.map_congr_left, List.map_id]
  · intro r hr
    have hq : q r := of_decide_eq_true (List.mem_filter.mp hr).2
    exact if_neg fun hp => h r hp hq
  · intro r _
    by_cases hp : p r
    · simp [hp, h r hp, h' r hp]
    · simp [hp]

/-- The rows that an UPDATE concerns, when it keeps concerning them. -/
theorem select_updated {p : ρ → Prop} [DecidablePred p] {f : ρ → ρ} (hf : ∀ r, key (f r) = key r)
    (h : ∀ r, p r → p (f r)) : (t.update p f hf).select p = (t.select p).map f := by
  have hp : ∀ r, p (if p r then f r else r) ↔ p r := by
    intro r
    split
    · rename_i hr
      exact iff_of_true (h r hr) hr
    · exact Iff.rfl
  have hrows : t.rows.filter (fun r => decide (p (if p r then f r else r))) = t.select p :=
    List.filter_congr fun r _ => decide_eq_decide.mpr (hp r)
  refine List.filter_map.trans ((congrArg _ hrows).trans ?_)
  exact List.map_congr_left fun r hr => if_pos (of_decide_eq_true (List.mem_filter.mp hr).2)

/-- What an assignment leaves of the rows. -/
theorem map_update {β : Type*} {p : ρ → Prop} [DecidablePred p] {f : ρ → ρ} {g : ρ → β}
    (hf : ∀ r, key (f r) = key r) (hg : ∀ r, g (f r) = g r) :
    (t.update p f hf).rows.map g = t.rows.map g := by
  rw [update, List.map_map]
  refine List.map_congr_left fun r _ => ?_
  by_cases h : p r <;> simp [h, hg]

/-- An UPDATE leaves the table as it is if it does so with every row that it matches. -/
theorem update_eq_self_iff {p : ρ → Prop} [DecidablePred p] {f : ρ → ρ}
    (hf : ∀ r, key (f r) = key r) : t.update p f hf = t ↔ ∀ r ∈ t, p r → f r = r := by
  constructor
  · intro h r hr hp
    have hmem : f r ∈ t.update p f hf := (mem_update hf).mpr ⟨r, hr, if_pos hp⟩
    rw [h] at hmem
    exact eq_of_key_eq hmem hr (hf r)
  · intro h
    refine ext ((List.map_congr_left fun r hr => ?_).trans (List.map_id t.rows))
    split
    · rename_i hp
      exact h r hr hp
    · rfl

theorem update_congr {p q : ρ → Prop} [DecidablePred p] [DecidablePred q] {f : ρ → ρ}
    (hf : ∀ r, key (f r) = key r) (h : ∀ r ∈ t, p r ↔ q r) : t.update p f hf = t.update q f hf :=
  ext (List.map_congr_left fun r hr => if_congr (h r hr) rfl rfl)

/-- Two updates, the second of which passes over what the first one has made. -/
theorem update_update {p q : ρ → Prop} [DecidablePred p] [DecidablePred q] {f : ρ → ρ}
    (hf : ∀ r, key (f r) = key r) (h : ∀ r, ¬ q (f r)) :
    (t.update p f hf).update q f hf = t.update (fun r => p r ∨ q r) f hf := by
  refine ext (List.map_map.trans (List.map_congr_left fun r _ => ?_))
  by_cases hp : p r <;> simp [hp, h]

/-- UPDATE of one row. -/
theorem mem_update_row {p : ρ → Prop} [DecidablePred p] {f : ρ → ρ} {r₀ : ρ}
    (hf : ∀ r, key (f r) = key r) (hr : r₀ ∈ t) (hp : ∀ r ∈ t, p r ↔ key r = key r₀) :
    r ∈ t.update p f hf ↔ r = f r₀ ∨ r ∈ t ∧ key r ≠ key r₀ := by
  rw [mem_update hf]
  constructor
  · rintro ⟨r', hr', rfl⟩
    by_cases hk : key r' = key r₀
    · rw [if_pos ((hp r' hr').mpr hk), eq_of_key_eq hr' hr hk]
      exact .inl rfl
    · rw [if_neg (hk ∘ (hp r' hr').mp)]
      exact .inr ⟨hr', hk⟩
  · rintro (rfl | ⟨hr', hk⟩)
    · exact ⟨r₀, hr, if_pos ((hp r₀ hr).mpr rfl)⟩
    · exact ⟨r, hr', if_neg (hk ∘ (hp r hr').mp)⟩

/-- An UPDATE changes rows in a way that `C` allows when it does so row by row. -/
theorem forall₂_update {C : ρ → ρ → Prop} {t' : Table ρ} {p : ρ → Prop} [DecidablePred p] {f : ρ → ρ}
    (hf : ∀ r, key (f r) = key r) (h : List.Forall₂ C t.rows t'.rows)
    (hC : ∀ a ∈ t, ∀ a', C a a' → p a' → C a (f a')) :
    List.Forall₂ C t.rows (t'.update p f hf).rows := by
  have hmem : List.Forall₂ (fun a a' => a ∈ t ∧ C a a') t.rows t'.rows :=
    (List.forall₂_and_left _ _).mpr ⟨fun a ha => ha, h⟩
  refine List.forall₂_map_right_iff.mpr (hmem.imp fun a a' haa' => ?_)
  by_cases hp : p a'
  · rw [if_pos hp]
    exact hC a haa'.1 a' haa'.2 hp
  · rw [if_neg hp]
    exact haa'.2

/-- After an UPDATE of one row the others are still related to each other. -/
theorem Pairwise.update_row_iff {R : ρ → ρ → Prop} {p : ρ → Prop} [DecidablePred p] {f : ρ → ρ}
    {r₀ : ρ} (h : t.Pairwise R) (hsymm : ∀ {a b}, R a b → R b a) (hf : ∀ r, key (f r) = key r)
    (hr : r₀ ∈ t) (hp : ∀ r ∈ t, p r ↔ key r = key r₀) :
    (t.update p f hf).Pairwise R ↔ ∀ b ∈ t, key b ≠ key r₀ → R (f r₀) b := by
  constructor
  · intro hu b hb hne
    refine hu (f r₀) ((mem_update_row hf hr hp).mpr (.inl rfl)) b
      ((mem_update_row hf hr hp).mpr (.inr ⟨hb, hne⟩)) ?_
    rw [hf]
    exact hne.symm
  · intro hnew a ha b hb hne
    rcases (mem_update_row hf hr hp).mp ha with rfl | ⟨ha, hka⟩ <;>
      rcases (mem_update_row hf hr hp).mp hb with rfl | ⟨hb, hkb⟩
    · exact absurd rfl hne
    · exact hnew b hb hkb
    · exact hsymm (hnew a ha hka)
    · exact h a ha b hb hne

variable [DecidableEq κ]

/-- The row that a primary key names. -/
def lookup (t : Table ρ) (k : κ) : Option ρ := t.rows.find? (key · = k)

theorem lookup_eq_some : t.lookup k = some r ↔ r ∈ t ∧ key r = k := by
  constructor
  · intro h
    exact ⟨List.mem_of_find?_eq_some h, by simpa using List.find?_some h⟩
  · rintro ⟨hr, rfl⟩
    have hsome : (t.lookup (key r)).isSome := List.find?_isSome.mpr ⟨r, hr, by simp⟩
    obtain ⟨r', hr'⟩ := Option.isSome_iff_exists.mp hsome
    have hk : key r' = key r := by simpa using List.find?_some hr'
    rw [hr', eq_of_key_eq (List.mem_of_find?_eq_some hr') hr hk]

theorem lookup_eq_none : t.lookup k = none ↔ ∀ r ∈ t, key r ≠ k := by
  simp [lookup, ← mem_rows]

/-- A query by the primary key. -/
theorem select_lookup : t.select (key · = k) = (t.lookup k).toList := by
  cases h : t.lookup k with
  | none => exact List.filter_eq_nil_iff.mpr fun r hr => by simpa using lookup_eq_none.mp h r hr
  | some r =>
    obtain ⟨hr, hk⟩ := lookup_eq_some.mp h
    exact select_key hr hk

/-- INSERT of a row; `none` when its key is taken. -/
def insert? (t : Table ρ) (r : ρ) : Option (Table ρ) :=
  if h : key r ∈ t.rows.map key then none
  else some ⟨t.rows ++ [r], by
    simp only [List.map_append, List.map_cons, List.map_nil]
    exact List.nodup_append.mpr ⟨t.nodup, List.nodup_singleton _, by
      intro a ha b hb
      rw [List.mem_singleton.mp hb]
      exact fun he => h (he ▸ ha)⟩⟩

theorem insert?_eq_some {t' : Table ρ} :
    t.insert? r = some t' ↔ (∀ r' ∈ t, key r' ≠ key r) ∧ t'.rows = t.rows ++ [r] := by
  unfold insert?
  split
  · rename_i h
    obtain ⟨r', hr', hk⟩ := List.mem_map.mp h
    simp only [reduceCtorEq, false_iff, not_and]
    exact fun hn => (hn r' hr' hk).elim
  · rename_i h
    have hn : ∀ r' ∈ t, key r' ≠ key r := fun r' hr' hk => h (List.mem_map.mpr ⟨r', hr', hk⟩)
    rw [Option.some.injEq]
    exact ⟨fun he => ⟨hn, he ▸ rfl⟩, fun he => Table.ext he.2.symm⟩

/-- A row with a key of its own can be added. -/
theorem exists_insert? (h : ∀ r' ∈ t, key r' ≠ key r) : ∃ t', t.insert? r = some t' := by
  have hfresh : key r ∉ t.rows.map key := by
    rintro hk
    obtain ⟨r', hr', hkey⟩ := List.mem_map.mp hk
    exact h r' hr' hkey
  exact ⟨_, dif_neg hfresh⟩

theorem mem_of_insert? {t' : Table ρ} (h : t.insert? r = some t') :
    r' ∈ t' ↔ r' ∈ t ∨ r' = r := by
  rw [← mem_rows, (insert?_eq_some.mp h).2]
  simp [mem_rows]

/-- INSERT leaves the rows of a query that it does not concern. -/
theorem select_of_insert? {q : ρ → Prop} [DecidablePred q] {t' : Table ρ} (h : t.insert? r = some t')
    (hr : ¬ q r) : t'.select q = t.select q := by
  unfold select
  rw [(insert?_eq_some.mp h).2, List.filter_append, List.filter_cons_of_neg (by simpa using hr),
    List.filter_nil, List.append_nil]

/-- INSERT of several rows by one statement; `none` when a key is taken. -/
def insertAll? (t : Table ρ) (rs : List ρ) : Option (Table ρ) := rs.foldlM insert? t

theorem rows_of_insertAll? {rs : List ρ} {t' : Table ρ} (h : t.insertAll? rs = some t') :
    t'.rows = t.rows ++ rs := by
  induction rs generalizing t with
  | nil =>
    obtain rfl : t = t' := by simpa [insertAll?] using h
    simp
  | cons r₁ rs ih =>
    rw [insertAll?, List.foldlM_cons, Option.bind_eq_bind, Option.bind_eq_some_iff] at h
    obtain ⟨t₁, ht₁, h⟩ := h
    rw [ih h, (insert?_eq_some.mp ht₁).2, List.append_assoc, List.singleton_append]

theorem mem_of_insertAll? {rs : List ρ} {t' : Table ρ} (h : t.insertAll? rs = some t') :
    r ∈ t' ↔ r ∈ t ∨ r ∈ rs := by
  rw [← mem_rows, rows_of_insertAll? h, List.mem_append, mem_rows]

/-- Rows with keys of their own can be added. -/
theorem exists_insertAll? {rs : List ρ} (hold : ∀ r ∈ t, ∀ r' ∈ rs, key r ≠ key r')
    (hnew : (rs.map key).Nodup) : ∃ t', t.insertAll? rs = some t' := by
  induction rs generalizing t with
  | nil => exact ⟨t, rfl⟩
  | cons r₁ rs ih =>
    obtain ⟨hr₁, hrs⟩ := List.nodup_cons.mp hnew
    obtain ⟨t₁, ht₁⟩ := exists_insert? fun r hr => hold r hr r₁ List.mem_cons_self
    rw [insertAll?, List.foldlM_cons, ht₁]
    refine ih (fun r hr r' hr' => ?_) hrs
    rcases (mem_of_insert? ht₁).mp hr with hr | rfl
    · exact hold r hr r' (List.mem_cons_of_mem _ hr')
    · exact fun he => hr₁ (List.mem_map.mpr ⟨r', hr', he.symm⟩)

theorem key_ne_of_insertAll? {rs : List ρ} {t' : Table ρ} (h : t.insertAll? rs = some t')
    (hr : r ∈ t) (hr' : r' ∈ rs) : key r ≠ key r' := by
  have hnodup := t'.nodup
  rw [rows_of_insertAll? h, List.map_append] at hnodup
  exact (List.nodup_append.mp hnodup).2.2 _ (List.mem_map_of_mem hr) _ (List.mem_map_of_mem hr')

theorem lookup_of_insertAll? {rs : List ρ} {t' : Table ρ} (h : t.insertAll? rs = some t') :
    t'.lookup k = (t.lookup k).or (rs.find? (key · = k)) := by
  rw [lookup, rows_of_insertAll? h, List.find?_append, lookup]

theorem lookup_of_insert? {t' : Table ρ} (h : t.insert? r = some t') :
    t'.lookup k = if key r = k then some r else t.lookup k := by
  rw [lookup, (insert?_eq_some.mp h).2, List.find?_append]
  by_cases hk : key r = k
  · have hnone : t.lookup k = none :=
      lookup_eq_none.mpr fun r' hr' => hk ▸ (insert?_eq_some.mp h).1 r' hr'
    rw [lookup] at hnone
    simp [hk, hnone]
  · simp [hk, lookup]

theorem lookup_update {p : ρ → Prop} [DecidablePred p] {f : ρ → ρ} (hf : ∀ r, key (f r) = key r) :
    (t.update p f hf).lookup k = (t.lookup k).map fun r => if p r then f r else r := by
  have hkey : (fun r : ρ => decide (key (if p r then f r else r) = k)) = fun r => decide (key r = k) := by
    funext r
    by_cases h : p r <;> simp [h, hf]
  rw [lookup, update, List.find?_map, Function.comp_def, hkey, lookup]

/-- UPDATE of the row that a primary key names. -/
theorem lookup_update_row {p : ρ → Prop} [DecidablePred p] {f : ρ → ρ} {k' : κ}
    (hf : ∀ r, key (f r) = key r) (hp : ∀ r, p r ↔ key r = k) :
    (t.update p f hf).lookup k' = if k' = k then (t.lookup k').map f else t.lookup k' := by
  rw [lookup_update]
  cases h : t.lookup k' with
  | none => simp
  | some r =>
    have hr : key r = k' := (lookup_eq_some.mp h).2
    by_cases hk : k' = k <;> simp [hp, hr, hk]

theorem lookup_delete {p : ρ → Prop} [DecidablePred p] :
    (t.delete p).lookup k = (t.lookup k).filter (¬ p ·) := by
  cases h : t.lookup k with
  | none =>
    have hnone := lookup_eq_none.mp h
    exact lookup_eq_none.mpr fun r hr => hnone r (mem_delete.mp hr).1
  | some r =>
    obtain ⟨hr, hk⟩ := lookup_eq_some.mp h
    by_cases hp : p r
    · rw [Option.filter_some_neg (by simpa using hp)]
      refine lookup_eq_none.mpr fun r' hr' hk' => ?_
      obtain ⟨hr', hp'⟩ := mem_delete.mp hr'
      exact hp' (eq_of_key_eq hr' hr (hk'.trans hk.symm) ▸ hp)
    · rw [Option.filter_some_pos (by simpa using hp)]
      exact lookup_eq_some.mpr ⟨mem_delete.mpr ⟨hr, hp⟩, hk⟩

end Table

/-- The groups of GROUP BY; NULLs are one value in a key. -/
def groupBy {ρ κ : Type*} [DecidableEq κ] (key : ρ → κ) (rows : List ρ) : List (List ρ) :=
  (rows.map key).dedup.map fun k => rows.filter (key · = k)

theorem mem_groupBy {ρ κ : Type*} [DecidableEq κ] {key : ρ → κ} {rows group : List ρ} :
    group ∈ groupBy key rows ↔ ∃ r ∈ rows, group = rows.filter (key · = key r) := by
  simp only [groupBy, List.mem_map, List.mem_dedup, exists_exists_and_eq_and]
  exact exists_congr fun r => and_congr_right fun _ => eq_comm

/-- Two rows are in one group exactly when their keys agree. -/
theorem exists_mem_groupBy {ρ κ : Type*} [DecidableEq κ] {key : ρ → κ} {rows : List ρ} {a b : ρ}
    (ha : a ∈ rows) (hb : b ∈ rows) :
    (∃ group ∈ groupBy key rows, a ∈ group ∧ b ∈ group) ↔ key a = key b := by
  constructor
  · rintro ⟨group, hgroup, hag, hbg⟩
    obtain ⟨r, -, rfl⟩ := mem_groupBy.mp hgroup
    have hka : key a = key r := by simpa using (List.mem_filter.mp hag).2
    have hkb : key b = key r := by simpa using (List.mem_filter.mp hbg).2
    rw [hka, hkb]
  · intro hk
    refine ⟨_, mem_groupBy.mpr ⟨b, hb, rfl⟩, ?_, ?_⟩
    · simp [ha, hk]
    · simp [hb]

end Sql
