import LibFred.RegistrableObject.ContactLists
import LibFred.TakeOver

/-! Updates of an object that replace one of its contacts by another one. -/
namespace LibFred.RegistrableObject

open Sql
open LibFred.Db
open TakeOver (takeOver)

namespace ContactMap

variable {ρ : Type} [Keyed ρ (Nat × Nat)] (map : ContactMap ρ) (role : ρ → Nat)

/-- The links with their roles. -/
def links (db : ObjectDatabase) : Set (Nat × Nat × Nat) :=
  {x | ∃ r ∈ map.table db, Keyed.key r = (x.1, x.2.1) ∧ role r = x.2.2}

variable {map} {role} {db db' : ObjectDatabase} {objectId src dst : Nat} {add rem : List String}

/-- The lists replace `src` by `dst`, or they only remove it where `dst` is linked already. -/
structure Replaces (map : ContactMap ρ) (objectId src dst : Nat) (add rem : List String)
    (db : ObjectDatabase) : Prop where
  added : contactIds db add = {dst} ∨ contactIds db add = ∅ ∧ dst ∈ map.linked objectId db
  removed : contactIds db rem = {src}

/-- Links are added in the role 1. -/
theorem UpdatesContacts.takeOver (hrow : ∀ objectId contactId, role (map.row objectId contactId) = 1)
    (hne : src ≠ dst) (h : UpdatesContacts map objectId add rem db db')
    (hr : Replaces map objectId src dst add rem db) :
    map.links role db' = takeOver 1 src dst {objectId} (map.links role db) := by
  have hkept : ∀ m : ρ, Keyed.key m ≠ (objectId, src) ↔
      ¬ ((Keyed.key m).1 = objectId ∧ (Keyed.key m).2 ∈ contactIds db rem) := by
    intro m
    rw [hr.removed, Set.mem_singleton_iff, Ne, Prod.ext_iff]
  have hrows : ∀ m, m ∈ map.table db' ↔ (m ∈ map.table db ∨
      ∃ contactId ∈ contactIds db add, m = map.row objectId contactId) ∧
        Keyed.key m ≠ (objectId, src) := by
    intro m
    rw [h.rows, hkept]
  ext ⟨i, k, r⟩
  constructor
  · rintro ⟨m, hm, hkey, rfl⟩
    obtain ⟨hold, hsrc⟩ := (hrows m).mp hm
    refine ⟨fun hi hk => hsrc (hkey.trans (Prod.ext hi hk)), ?_⟩
    rcases hold with hold | ⟨c, hc, rfl⟩
    · exact .inl ⟨m, hold, hkey, rfl⟩
    · rcases hr.added with hadd | ⟨hadd, -⟩
      · rw [hadd, Set.mem_singleton_iff] at hc
        rw [map.key_row, hc] at hkey
        obtain ⟨rfl, rfl⟩ := Prod.mk.inj hkey
        rw [hc] at hm hsrc ⊢
        by_cases hdst : ∃ r, (objectId, dst, r) ∈ map.links role db
        · obtain ⟨r, m', hm', hkey', -⟩ := hdst
          -- The link that was there is the one that is there now.
          have hsame := Table.eq_of_key_eq ((hrows m').mpr ⟨.inl hm', by
            rw [hkey', ← map.key_row]
            exact hsrc⟩) hm (hkey'.trans (map.key_row _ _).symm)
          exact .inl ⟨m', hm', hkey', congrArg role hsame⟩
        · exact .inr ⟨rfl, Prod.ext rfl (hrow _ _), fun r hr => hdst ⟨r, hr⟩⟩
      · rw [hadd] at hc
        exact hc.elim
  · rintro ⟨hsrc, ⟨m, hm, hkey, hrole⟩ | ⟨hi, hk, hnone⟩⟩
    · refine ⟨m, (hrows m).mpr ⟨.inl hm, fun hkey' => ?_⟩, hkey, hrole⟩
      obtain ⟨hi, hk⟩ := Prod.mk.inj (hkey.symm.trans hkey')
      exact hsrc hi hk
    · obtain rfl : i = objectId := hi
      obtain ⟨rfl, rfl⟩ := Prod.mk.inj hk
      rcases hr.added with hadd | ⟨-, m, hm, hkey⟩
      · refine ⟨map.row i k, (hrows _).mpr ⟨.inr ⟨k, hadd ▸ rfl, rfl⟩, ?_⟩, map.key_row i k, hrow i k⟩
        rw [map.key_row]
        exact fun hkey => hne (congrArg Prod.snd hkey).symm
      · exact absurd ⟨m, hm, hkey, rfl⟩ (hnone (role m))

/-- The only handle that is to be added is refused because its contact is linked. -/
theorem NamesContacts.mem_linked {e : ContactErrors} {handle handle' : String}
    (h : NamesContacts map objectId [handle] rem db e) (hrefused : e.alreadySet.head? = some handle')
    (hid : objectIdOf db.toDatabase .contact handle = some dst) : dst ∈ map.linked objectId db := by
  obtain ⟨ahead, behind, k, hlist, hk, hdone⟩ := (h.alreadySet handle').mp (List.mem_of_mem_head? hrefused)
  cases ahead with
  | nil =>
    obtain ⟨rfl, -⟩ := List.cons.inj hlist
    obtain rfl := Option.some.inj (hk.symm.trans hid)
    exact hdone.elim id fun hnone => by simp at hnone
  | cons _ ahead => simp at hlist

end ContactMap

end LibFred.RegistrableObject
