import Mathlib.Data.List.Nodup
import Mathlib.Data.Option.Basic
import Mathlib.Data.Prod.Basic

/-! Joins of rows. -/
namespace Sql

variable {α β : Type*} {on : α → β → Prop} [∀ a, DecidablePred (on a)]
  {as : List α} {bs : List β} {a : α} {b : β}

/-- JOIN of the rows that the condition relates. -/
def join (on : α → β → Prop) [∀ a, DecidablePred (on a)] (as : List α) (bs : List β) : List (α × β) :=
  as.flatMap fun a => (bs.filter (on a ·)).map (a, ·)

@[simp] theorem mem_join : (a, b) ∈ join on as bs ↔ a ∈ as ∧ b ∈ bs ∧ on a b := by
  simp only [join, List.mem_flatMap, List.mem_map, List.mem_filter, decide_eq_true_eq, Prod.mk.injEq]
  constructor
  · rintro ⟨a, ha, b, ⟨hb, hon⟩, rfl, rfl⟩
    exact ⟨ha, hb, hon⟩
  · rintro ⟨ha, hb, hon⟩
    exact ⟨a, ha, b, ⟨hb, hon⟩, rfl, rfl⟩

theorem nodup_join (has : as.Nodup) (hbs : bs.Nodup) : (join on as bs).Nodup := by
  refine List.nodup_flatMap.mpr ⟨fun a _ => ?_, ?_⟩
  · exact (hbs.filter _).map (Prod.mk_right_injective a)
  · refine has.imp fun {a a'} hne p hp hp' => ?_
    obtain ⟨b, -, rfl⟩ := List.mem_map.mp hp
    obtain ⟨b', -, he⟩ := List.mem_map.mp hp'
    exact hne (congrArg Prod.fst he).symm

/-- The rows that a LEFT JOIN puts beside a row: those found, or NULLs when there is none. -/
def orNull (bs : List β) : List (Option β) := if bs = [] then [none] else bs.map some

theorem some_mem_orNull : some b ∈ orNull bs ↔ b ∈ bs := by
  unfold orNull
  split
  · rename_i h
    simp [h]
  · simp

theorem none_mem_orNull : none ∈ orNull bs ↔ bs = [] := by
  unfold orNull
  split
  · rename_i h
    simp [h]
  · rename_i h
    simp [h]

theorem nodup_orNull (hbs : bs.Nodup) : (orNull bs).Nodup := by
  unfold orNull
  split
  · exact List.nodup_singleton none
  · exact hbs.map (Option.some_injective β)

def leftJoin (on : α → β → Prop) [∀ a, DecidablePred (on a)] (as : List α) (bs : List β) :
    List (α × Option β) :=
  as.flatMap fun a => (orNull (bs.filter (on a ·))).map (a, ·)

@[simp] theorem mem_leftJoin_some :
    (a, some b) ∈ leftJoin on as bs ↔ a ∈ as ∧ b ∈ bs ∧ on a b := by
  simp only [leftJoin, List.mem_flatMap, List.mem_map, Prod.mk.injEq]
  constructor
  · rintro ⟨a, ha, b', hb', rfl, rfl⟩
    have hb : b ∈ bs ∧ on a b := by simpa using some_mem_orNull.mp hb'
    exact ⟨ha, hb⟩
  · rintro ⟨ha, hb, hon⟩
    exact ⟨a, ha, some b, some_mem_orNull.mpr (by simpa using ⟨hb, hon⟩), rfl, rfl⟩

@[simp] theorem mem_leftJoin_none :
    (a, none) ∈ leftJoin on as bs ↔ a ∈ as ∧ ∀ b ∈ bs, ¬ on a b := by
  simp only [leftJoin, List.mem_flatMap, List.mem_map, Prod.mk.injEq]
  constructor
  · rintro ⟨a, ha, b', hb', rfl, rfl⟩
    have hnone := none_mem_orNull.mp hb'
    exact ⟨ha, by simpa using hnone⟩
  · rintro ⟨ha, hnone⟩
    exact ⟨a, ha, none, none_mem_orNull.mpr (by simpa using hnone), rfl, rfl⟩

theorem nodup_leftJoin (has : as.Nodup) (hbs : bs.Nodup) : (leftJoin on as bs).Nodup := by
  refine List.nodup_flatMap.mpr ⟨fun a _ => ?_, ?_⟩
  · exact (nodup_orNull (hbs.filter _)).map (Prod.mk_right_injective a)
  · refine has.imp fun {a a'} hne p hp hp' => ?_
    obtain ⟨b, -, rfl⟩ := List.mem_map.mp hp
    obtain ⟨b', -, he⟩ := List.mem_map.mp hp'
    exact hne (congrArg Prod.fst he).symm

theorem join_singleton : join on [a] bs = (bs.filter (on a ·)).map (a, ·) := by
  simp [join]

theorem leftJoin_singleton : leftJoin on [a] bs = (orNull (bs.filter (on a ·))).map (a, ·) := by
  simp [leftJoin]

end Sql
