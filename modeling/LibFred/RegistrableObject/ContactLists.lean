import LibFred.Itemwise
import LibFred.RegistrableObject.UpdateSteps
import LibFred.Sql.Ends

/-! What the lists of contacts of an update do to the links of its object. -/
namespace LibFred.RegistrableObject

open Sql
open LibFred.Db
open LibFred.Object (getObjectIdByHandleAndType liveObjects)
open Itemwise (Change Refused Tally keys step)

/-- No two live objects of a type share a name. -/
def UniqueNames (db : Database) : Prop :=
  ∀ o ∈ db.objectRegistry, ∀ o' ∈ db.objectRegistry, o.type = o'.type → o.name = o'.name →
    o.erdate = none → o'.erdate = none → o = o'

/-- The id of the live object that a handle means. -/
def objectIdOf (db : Database) (type : Db.ObjectType) (handle : String) : Option Nat :=
  (liveObjects db type handle).head?.map (·.id)

theorem UniqueNames.liveObjects {db : Database} (h : UniqueNames db) (type : Db.ObjectType)
    (handle : String) : liveObjects db type handle = [] ∨ ∃ o, liveObjects db type handle = [o] := by
  refine Table.select_eq_nil_or_singleton fun o ho o' ho' hp hp' => ?_
  exact h o ho o' ho' (hp.1.trans hp'.1.symm) (hp.2.1.trans hp'.2.1.symm) hp.2.2 hp'.2.2

/-- Where a handle means one object at most, the lookup ends. -/
theorem run_getObjectIdByHandleAndType {db : Database} {type : Db.ObjectType} {handle : String}
    (h : liveObjects db type handle = [] ∨ ∃ o, liveObjects db type handle = [o]) :
    (getObjectIdByHandleAndType handle type).run db = .ok (objectIdOf db type handle) db := by
  refine run_bind_eq_ok.mpr ⟨db, db, rfl, ?_⟩
  rcases h with h | ⟨o, h⟩
  · rw [objectIdOf, h]
    rfl
  · rw [objectIdOf, h]
    rfl

theorem run_lift_getObjectId {db : ObjectDatabase} {type : Db.ObjectType} {handle : String}
    (h : UniqueNames db.toDatabase) : (lift (getObjectIdByHandleAndType handle type)).run db =
      .ok (objectIdOf db.toDatabase type handle) db :=
  run_lift_eq_ok.mpr ⟨_, run_getObjectIdByHandleAndType (h.liveObjects type handle), rfl⟩

theorem getObjectIdByHandleAndType_ok {db db' : Database} {type : Db.ObjectType} {handle : String}
    {id : Option Nat} (h : (getObjectIdByHandleAndType handle type).run db = .ok id db') :
    id = objectIdOf db type handle ∧ db' = db ∧ ∀ o ∈ liveObjects db type handle, id = some o.id := by
  obtain ⟨_, _, hget, h⟩ := run_bind_eq_ok.mp h
  obtain ⟨rfl, rfl⟩ := run_get_eq_ok.mp hget
  unfold objectIdOf
  split at h
  · rename_i hl
    obtain ⟨rfl, rfl⟩ := run_pure_eq_ok.mp h
    rw [hl]
    exact ⟨rfl, rfl, nofun⟩
  · rename_i o hl
    obtain ⟨rfl, rfl⟩ := run_pure_eq_ok.mp h
    rw [hl]
    exact ⟨rfl, rfl, fun o' ho' => by rw [List.mem_singleton.mp ho']⟩
  · cases h

theorem ends_getObjectId (db : ObjectDatabase) (handle : String) (type : Db.ObjectType) :
    Ends (lift (getObjectIdByHandleAndType handle type)) db
      (fun id db' => id = objectIdOf db.toDatabase type handle ∧ db' = db)
      fun _ => ¬ UniqueNames db.toDatabase := by
  by_cases hu : UniqueNames db.toDatabase
  · exact ends_of_run (run_lift_getObjectId hu) ⟨rfl, rfl⟩
  · refine (ends_of_ok fun id db' h => ?_).mono (fun _ _ hQ => hQ) fun _ _ => hu
    obtain ⟨d, hd, rfl⟩ := run_lift_eq_ok.mp h
    obtain ⟨rfl, rfl, -⟩ := getObjectIdByHandleAndType_ok hd
    exact ⟨rfl, rfl⟩

namespace ContactMap

variable {ρ : Type} [Keyed ρ (Nat × Nat)] (map : ContactMap ρ)

/-- The links are in a table of their own. -/
structure Lawful : Prop where
  table_setTable : ∀ db t, map.table (map.setTable db t) = t
  setTable_table : ∀ db, map.setTable db (map.table db) = db
  setTable_setTable : ∀ db t t', map.setTable (map.setTable db t) t' = map.setTable db t'
  setTable_toDatabase : ∀ db t d,
    map.setTable { db with toDatabase := d } t = { map.setTable db t with toDatabase := d }
  toDatabase_setTable : ∀ db t, (map.setTable db t).toDatabase = db.toDatabase

/-- The contacts that are linked to the object. -/
def linked (objectId : Nat) (db : ObjectDatabase) : Set Nat :=
  {contactId | ∃ r ∈ map.table db, Keyed.key r = (objectId, contactId)}

/-- The database with other links and other states of objects. -/
def relink (db : ObjectDatabase) (t : Table ρ) (os : Table Db.ObjectState) : ObjectDatabase :=
  map.setTable { db with objectState := os } t

variable {map} {db s : ObjectDatabase} {t t' : Table ρ} {os : Table Db.ObjectState} {objectId contactId : Nat}
  {procedures : StateProcedures} {o : Tally String Nat} {e e₁ : ContactErrors} {handle : String}

theorem mem_linked : contactId ∈ map.linked objectId db ↔
    ∃ r ∈ map.table db, Keyed.key r = (objectId, contactId) := Iff.rfl

namespace Lawful

variable (hmap : map.Lawful)

include hmap

theorem toDatabase_relink : (map.relink db t os).toDatabase = { db.toDatabase with objectState := os } :=
  hmap.toDatabase_setTable _ _

theorem relink_self : map.relink db (map.table db) db.objectState = db := by
  exact hmap.setTable_table db

theorem setTable_relink : map.setTable (map.relink db t os) t' = map.relink db t' os :=
  hmap.setTable_setTable _ t t'

theorem relink_eq : map.relink db t os =
    { map.setTable db t with toDatabase := { db.toDatabase with objectState := os } } :=
  hmap.setTable_toDatabase db t _

/-- Of the states that were set one after the other the last are left. -/
theorem relink_states (os' : Table Db.ObjectState) :
    { map.relink db t os with objectState := os' } = map.relink db t os' := by
  have heq (states : Table Db.ObjectState) : map.relink db t states =
      { map.setTable db t with toDatabase := { db.toDatabase with objectState := states } } :=
    hmap.relink_eq
  rw [heq os', heq os]

theorem relink_relink {os' : Table Db.ObjectState} :
    map.relink (map.relink db t os) t' os' = map.relink db t' os' :=
  (congrArg (map.setTable · t') (hmap.relink_states os')).trans hmap.setTable_relink

theorem objectIdOf_relink (type : Db.ObjectType) :
    objectIdOf (map.relink db t os).toDatabase type = objectIdOf db.toDatabase type := by
  rw [hmap.toDatabase_relink]
  rfl

theorem uniqueNames_relink : UniqueNames (map.relink db t os).toDatabase ↔ UniqueNames db.toDatabase := by
  rw [hmap.toDatabase_relink]
  exact Iff.rfl

theorem fire_setTable_relink (procedures : StateProcedures) (db : ObjectDatabase) (t t' : Table ρ)
    (os : Table Db.ObjectState) : ∃ os', procedures.fire (map.setTable (map.relink db t os) t') =
    map.relink db t' os' := by
  refine ⟨procedures.triggered (map.setTable (map.relink db t os) t'), ?_⟩
  rw [StateProcedures.fire, hmap.setTable_relink, hmap.relink_states]

theorem table_fire (procedures : StateProcedures) (s : ObjectDatabase) (t : Table ρ) :
    map.table (procedures.fire (map.setTable s t)) = t := by
  rw [StateProcedures.fire, ← hmap.setTable_toDatabase]
  exact hmap.table_setTable _ _

end Lawful

theorem run_insertContact_of_linked (h : contactId ∈ map.linked objectId s) :
    (map.insertContact procedures objectId contactId).run s = .ok false s := by
  have hnone : (map.table s).insert? (map.row objectId contactId) = none := by
    obtain ⟨r, hr, hkey⟩ := h
    refine dif_pos (List.mem_map.mpr ⟨r, hr, ?_⟩)
    rw [hkey, map.key_row]
  simp only [insertContact, EStateM.run, hnone]

theorem run_insertContact (procedures : StateProcedures) (h : contactId ∉ map.linked objectId s) :
    ∃ t, (map.insertContact procedures objectId contactId).run s =
        .ok true (procedures.fire (map.setTable s t)) ∧
      ∀ r, r ∈ t ↔ r ∈ map.table s ∨ r = map.row objectId contactId := by
  have hfresh : ∀ r ∈ map.table s, Keyed.key r ≠ Keyed.key (map.row objectId contactId) := by
    intro r hr hkey
    rw [map.key_row] at hkey
    exact h ⟨r, hr, hkey⟩
  obtain ⟨t, ht⟩ := Table.exists_insert? hfresh
  refine ⟨t, ?_, fun r => Table.mem_of_insert? ht⟩
  simp only [insertContact, EStateM.run, ht]

/-- The primary key lets one row at most be deleted. -/
theorem run_deleteContact (map : ContactMap ρ) (procedures : StateProcedures) (s : ObjectDatabase)
    (objectId contactId : Nat) : ∃ n, (map.deleteContact procedures objectId contactId).run s =
      .ok n (procedures.fire (map.setTable s
        ((map.table s).delete (Keyed.key · = (objectId, contactId))))) ∧ n ≤ 1 ∧
      (n = 0 ↔ contactId ∉ map.linked objectId s) := by
  refine ⟨_, rfl, ?_, ?_⟩
  · rcases Table.select_eq_nil_or_singleton (t := map.table s)
      (p := (Keyed.key · = (objectId, contactId)))
      (fun a ha b hb hp hp' => Table.eq_of_key_eq ha hb (hp.trans hp'.symm)) with h | ⟨r, h⟩
    · rw [h]
      exact Nat.zero_le 1
    · rw [h]
      exact Nat.le_refl 1
  · rw [List.length_eq_zero_iff, List.eq_nil_iff_forall_not_mem]
    simp only [Table.mem_select, mem_linked, not_exists, not_and]

theorem linked_of_inserted {s' : ObjectDatabase}
    (h : ∀ r, r ∈ map.table s' ↔ r ∈ map.table s ∨ r = map.row objectId contactId) :
    map.linked objectId s' = map.linked objectId s ∪ {contactId} := by
  ext c
  simp only [mem_linked, Set.mem_union, Set.mem_singleton_iff, h]
  constructor
  · rintro ⟨r, hr | rfl, hkey⟩
    · exact .inl ⟨r, hr, hkey⟩
    · rw [map.key_row] at hkey
      exact .inr (Prod.ext_iff.mp hkey).2.symm
  · rintro (⟨r, hr, hkey⟩ | rfl)
    · exact ⟨r, .inl hr, hkey⟩
    · exact ⟨_, .inr rfl, map.key_row _ _⟩

theorem linked_of_deleted {s' : ObjectDatabase}
    (h : map.table s' = (map.table s).delete (Keyed.key · = (objectId, contactId))) :
    map.linked objectId s' = map.linked objectId s \ {contactId} := by
  ext c
  simp only [mem_linked, Set.mem_sdiff, Set.mem_singleton_iff, h, Table.mem_delete]
  constructor
  · rintro ⟨r, ⟨hr, hne⟩, hkey⟩
    exact ⟨⟨r, hr, hkey⟩, fun hc => hne (hc ▸ hkey)⟩
  · rintro ⟨⟨r, hr, hkey⟩, hne⟩
    exact ⟨r, ⟨hr, fun he => hne (Prod.ext_iff.mp (hkey.symm.trans he)).2⟩, hkey⟩

section Lists

variable (objectId) (procedures)

/-- The contacts of a list as far as they are added. -/
structure Adding (map : ContactMap ρ) (db : ObjectDatabase) (o : Tally String Nat) (e : ContactErrors)
    (s : ObjectDatabase) : Prop where
  unknown : e.unknown = o.unknown
  alreadySet : e.alreadySet = o.refused
  unassigned : e.unassigned = []
  linked : map.linked objectId s = o.set
  state : ∃ t os, s = map.relink db t os
  rows : ∀ r, r ∈ map.table s ↔ r ∈ map.table db ∨
    ∃ contactId ∈ o.set, contactId ∉ map.linked objectId db ∧ r = map.row objectId contactId

/-- The contacts of a list as far as they are removed. -/
structure Removing (map : ContactMap ρ) (db : ObjectDatabase) (alreadySet : List String)
    (o : Tally String Nat) (e : ContactErrors) (s : ObjectDatabase) : Prop where
  unknown : e.unknown = o.unknown
  alreadySet : e.alreadySet = alreadySet
  unassigned : e.unassigned = o.refused
  linked : map.linked objectId s = o.set
  state : ∃ t os, s = map.relink db t os
  rows : ∀ r, r ∈ map.table s ↔ r ∈ map.table db ∧
    ((Keyed.key r).1 = objectId → (Keyed.key r).2 ∈ o.set)

variable {objectId} {procedures} (hmap : map.Lawful)

include hmap

/-- The contact of a handle is the same whatever is linked. -/
theorem ends_getContactId (hs : s = map.relink db t os)
    (handle : String) : Ends (lift (getObjectIdByHandleAndType handle .contact)) s
      (fun id s' => id = objectIdOf db.toDatabase .contact handle ∧ s' = s)
      fun _ => ¬ UniqueNames db.toDatabase := by
  have hid : objectIdOf s.toDatabase .contact = objectIdOf db.toDatabase .contact := by
    rw [hs, hmap.objectIdOf_relink]
  have hunique : UniqueNames s.toDatabase ↔ UniqueNames db.toDatabase := by
    rw [hs, hmap.uniqueNames_relink]
  have hends := ends_getObjectId s handle .contact
  rwa [hid, hunique] at hends

theorem ends_addContact (hs : Adding objectId map db o e s) (handle : String) :
    Ends (map.addContact procedures objectId e handle) s
      (Adding objectId map db (step (objectIdOf db.toDatabase .contact) .put o handle))
      fun _ => ¬ UniqueNames db.toDatabase := by
  obtain ⟨t, os, hstate⟩ := hs.state
  refine ends_bind (ends_getContactId hmap hstate handle) ?_
  rintro _ s ⟨rfl, rfl⟩
  cases hkey : objectIdOf db.toDatabase .contact handle with
  | none =>
    rw [Itemwise.step_unknown hkey]
    exact ends_pure { hs with unknown := congrArg (· ++ [handle]) hs.unknown }
  | some contactId =>
    by_cases hin : Change.put.Done o.set contactId
    · rw [Itemwise.step_refused hkey hin]
      have hrun : (map.insertContact procedures objectId contactId).run s = .ok false s :=
        run_insertContact_of_linked (hs.linked.symm ▸ hin)
      refine ends_bind (ends_of_run hrun (Q := fun b s' => b = false ∧ s' = s) ⟨rfl, rfl⟩) ?_
      rintro b s' ⟨rfl, rfl⟩
      exact ends_pure { hs with alreadySet := congrArg (· ++ [handle]) hs.alreadySet }
    · rw [Itemwise.step_changes hkey hin]
      have hnew : contactId ∉ map.linked objectId s := fun h => hin (hs.linked ▸ h)
      obtain ⟨t', hrun, ht'⟩ := run_insertContact procedures hnew
      refine ends_bind (ends_of_run hrun (Q := fun b s' => b = true ∧
        s' = procedures.fire (map.setTable s t')) ⟨rfl, rfl⟩) ?_
      rintro b s' ⟨rfl, rfl⟩
      have htable : map.table (procedures.fire (map.setTable s t')) = t' := hmap.table_fire procedures s t'
      have hold : contactId ∉ map.linked objectId db := by
        rintro ⟨r, hr, hk⟩
        exact hin (hs.linked ▸ ⟨r, (hs.rows r).mpr (.inl hr), hk⟩)
      refine ends_pure { hs with linked := ?_, state := ?_, rows := fun r => ?_ }
      · rw [Change.apply, ← hs.linked]
        exact linked_of_inserted fun r => by rw [htable, ht']
      · rw [hstate]
        obtain ⟨os', hos'⟩ := hmap.fire_setTable_relink procedures db t t' os
        exact ⟨t', os', hos'⟩
      · rw [htable, ht', hs.rows, or_assoc]
        refine or_congr_right ⟨?_, ?_⟩
        · rintro (⟨c, hc, hr⟩ | rfl)
          · exact ⟨c, .inl hc, hr⟩
          · exact ⟨contactId, .inr rfl, hold, rfl⟩
        · rintro ⟨c, hc | rfl, hold', hr⟩
          · exact .inl ⟨c, hc, hold', hr⟩
          · exact .inr hr

theorem ends_remContact {alreadySet : List String} (hs : Removing objectId map db alreadySet o e s)
    (handle : String) : Ends (map.remContact procedures objectId e handle) s
      (Removing objectId map db alreadySet
        (step (objectIdOf db.toDatabase .contact) .take o handle))
      fun _ => ¬ UniqueNames db.toDatabase := by
  obtain ⟨t, os, hstate⟩ := hs.state
  refine ends_bind (ends_getContactId hmap hstate handle) ?_
  rintro _ s ⟨rfl, rfl⟩
  cases hkey : objectIdOf db.toDatabase .contact handle with
  | none =>
    rw [Itemwise.step_unknown hkey]
    exact ends_pure { hs with unknown := congrArg (· ++ [handle]) hs.unknown }
  | some contactId =>
    obtain ⟨n, hrun, hle, hzero⟩ := run_deleteContact map procedures s objectId contactId
    refine ends_bind (ends_of_run hrun (Q := fun n' s' => n' = n ∧ s' = _) ⟨rfl, rfl⟩) ?_
    rintro n s' ⟨rfl, rfl⟩
    refine ends_bind (ends_raiseIf (Q := fun _ s' => s' = _) hle.not_gt rfl) ?_
    rintro _ s' rfl
    have htable := hmap.table_fire procedures s
      ((map.table s).delete (Keyed.key · = (objectId, contactId)))
    have hstate' : ∃ t os, procedures.fire (map.setTable s
        ((map.table s).delete (Keyed.key · = (objectId, contactId)))) = map.relink db t os := by
      obtain ⟨os', hos'⟩ := hmap.fire_setTable_relink procedures db t
        ((map.table s).delete (Keyed.key · = (objectId, contactId))) os
      exact ⟨_, os', by rw [← hos', ← hstate]⟩
    have hlinked := linked_of_deleted htable
    have hrows : ∀ r, r ∈ map.table (procedures.fire (map.setTable s
        ((map.table s).delete (Keyed.key · = (objectId, contactId))))) ↔ r ∈ map.table db ∧
          ((Keyed.key r).1 = objectId → (Keyed.key r).2 ∈ o.set \ {contactId}) := by
      intro r
      rw [htable, Table.mem_delete, hs.rows, and_assoc, Prod.ext_iff]
      refine and_congr_right fun _ => ?_
      constructor
      · rintro ⟨hset, hne⟩ hobject
        exact ⟨hset hobject, fun hcontact => hne ⟨hobject, hcontact⟩⟩
      · intro h
        exact ⟨fun hobject => (h hobject).1, fun hkey => (h hkey.1).2 hkey.2⟩
    rw [hs.linked] at hzero hlinked
    by_cases hin : Change.take.Done o.set contactId
    · rw [Itemwise.step_refused hkey hin, if_pos (hzero.mpr hin)]
      have hsame : o.set \ {contactId} = o.set := Set.sdiff_singleton_eq_self hin
      rw [hsame] at hlinked hrows
      exact ends_pure ⟨hs.unknown, hs.alreadySet, congrArg (· ++ [handle]) hs.unassigned, hlinked,
        hstate', hrows⟩
    · rw [Itemwise.step_changes hkey hin, if_neg (hin ∘ hzero.mp)]
      exact ends_pure ⟨hs.unknown, hs.alreadySet, hs.unassigned, hlinked, hstate', hrows⟩

end Lists

/-- The contacts that a list of handles means. -/
def contactIds (db : ObjectDatabase) (handles : List String) : Set Nat :=
  keys (objectIdOf db.toDatabase .contact) handles

variable (map) (objectId) (add rem : List String)

/-- The handles that are wrong are named, and no others. One that stands in its list twice is wrong
the second time; those to be removed are looked for among the contacts with those to be added. -/
structure NamesContacts (db : ObjectDatabase) (e : ContactErrors) : Prop where
  unknown : ∀ handle, handle ∈ e.unknown ↔
    (handle ∈ add ∨ handle ∈ rem) ∧ objectIdOf db.toDatabase .contact handle = none
  alreadySet : ∀ handle, handle ∈ e.alreadySet ↔
    Refused (objectIdOf db.toDatabase .contact) .put (map.linked objectId db) add handle
  unassigned : ∀ handle, handle ∈ e.unassigned ↔
    Refused (objectIdOf db.toDatabase .contact) .take
      (map.linked objectId db ∪ contactIds db add) rem handle

/-- What the lists of an update leave behind, be it accepted or not. -/
structure ListsContacts (db : ObjectDatabase) (e : ContactErrors) (s : ObjectDatabase) : Prop
    extends NamesContacts map objectId add rem db e where
  state : ∃ t os, s = map.relink db t os
  rows : ∀ r, r ∈ map.table s ↔
    (r ∈ map.table db ∨ ∃ contactId ∈ map.linked objectId db ∪ contactIds db add,
      contactId ∉ map.linked objectId db ∧ r = map.row objectId contactId) ∧
    ((Keyed.key r).1 = objectId →
      (Keyed.key r).2 ∈ (map.linked objectId db ∪ contactIds db add) \ contactIds db rem)

/-- The contacts of the object, administrators if it is a domain. -/
def assigned (db : ObjectDatabase) : Set Nat := {contactId | map.row objectId contactId ∈ map.table db}

/-- The set law of contacts, and the links that were there before: all that the lists do not mention
are kept as they are. -/
structure UpdatesContacts (db db' : ObjectDatabase) : Prop where
  contacts : map.assigned objectId db' =
    (map.assigned objectId db ∪ contactIds db add) \ contactIds db rem
  rows : ∀ r, r ∈ map.table db' ↔
    (r ∈ map.table db ∨ ∃ contactId ∈ contactIds db add, r = map.row objectId contactId) ∧
      ¬ ((Keyed.key r).1 = objectId ∧ (Keyed.key r).2 ∈ contactIds db rem)

variable {map} {objectId} {add rem}

/-- The law speaks of the links and of the handles of contacts only. -/
theorem UpdatesContacts.congr {db₁ db' s : ObjectDatabase}
    (h : UpdatesContacts map objectId add rem db₁ s) (hdb : map.table db₁ = map.table db)
    (hids : objectIdOf db₁.toDatabase .contact = objectIdOf db.toDatabase .contact)
    (hdb' : map.table s = map.table db') : UpdatesContacts map objectId add rem db db' := by
  obtain ⟨hcontacts, hrows⟩ := h
  simp only [assigned, contactIds, hdb, hids, hdb'] at hcontacts hrows
  exact ⟨hcontacts, hrows⟩

theorem NamesContacts.congr {db₁ : ObjectDatabase} (h : NamesContacts map objectId add rem db₁ e)
    (hdb : map.table db₁ = map.table db)
    (hids : objectIdOf db₁.toDatabase .contact = objectIdOf db.toDatabase .contact) :
    NamesContacts map objectId add rem db e := by
  obtain ⟨hunknown, halready, hunassigned⟩ := h
  simp only [linked, contactIds, hdb, hids] at hunknown halready hunassigned
  exact ⟨hunknown, halready, hunassigned⟩

theorem ends_addContacts (hmap : map.Lawful) (db : ObjectDatabase) :
    Ends (add.foldlM (map.addContact procedures objectId) {}) db
      (Adding objectId map db (add.foldl (step (objectIdOf db.toDatabase .contact) .put)
        ⟨map.linked objectId db, [], []⟩)) fun _ => ¬ UniqueNames db.toDatabase := by
  have hstart : Adding objectId map db ⟨map.linked objectId db, [], []⟩ {} db := by
    refine ⟨rfl, rfl, rfl, rfl, ⟨_, _, hmap.relink_self.symm⟩, fun r => ?_⟩
    refine (or_iff_left ?_).symm
    rintro ⟨c, hc, hnot, -⟩
    exact hnot hc
  refine ends_foldlM (P := fun p => Adding objectId map db
    (p.foldl (step _ .put) ⟨map.linked objectId db, [], []⟩)) add (fun p handle e s hs => ?_) hstart
  rw [List.foldl_append]
  exact ends_addContact hmap hs handle

theorem ends_remContacts (hmap : map.Lawful) (db : ObjectDatabase) (he : e.unassigned = []) :
    Ends (rem.foldlM (map.remContact procedures objectId) e) db
      (Removing objectId map db e.alreadySet
        (rem.foldl (step (objectIdOf db.toDatabase .contact) .take)
          ⟨map.linked objectId db, e.unknown, []⟩)) fun _ => ¬ UniqueNames db.toDatabase := by
  have hstart : Removing objectId map db e.alreadySet ⟨map.linked objectId db, e.unknown, []⟩ e db := by
    refine ⟨rfl, rfl, he, rfl, ⟨_, _, hmap.relink_self.symm⟩, fun r => ?_⟩
    refine (and_iff_left_of_imp fun hr hobject => ?_).symm
    exact ⟨r, hr, by rw [← hobject]⟩
  refine ends_foldlM (P := fun p => Removing objectId map db e.alreadySet
    (p.foldl (step _ .take) ⟨map.linked objectId db, e.unknown, []⟩)) rem (fun p handle e s hs => ?_)
    hstart
  rw [List.foldl_append]
  exact ends_remContact hmap hs handle

theorem ends_updateContacts (hmap : map.Lawful) (procedures : StateProcedures) (objectId : Nat)
    (add rem : List String) (db : ObjectDatabase) :
    Ends (map.updateContacts procedures objectId add rem) db
      (ListsContacts map objectId add rem db) fun _ => ¬ UniqueNames db.toDatabase := by
  refine ends_bind (ends_addContacts hmap db) fun e₁ s₁ hs₁ => ?_
  obtain ⟨t, os, hstate⟩ := hs₁.state
  have hid : objectIdOf s₁.toDatabase .contact = objectIdOf db.toDatabase .contact := by
    rw [hstate, hmap.objectIdOf_relink]
  have hunique : UniqueNames s₁.toDatabase ↔ UniqueNames db.toDatabase := by
    rw [hstate, hmap.uniqueNames_relink]
  refine (ends_remContacts hmap s₁ hs₁.unassigned).mono (fun e₂ s₂ hs₂ => ?_) fun _ h => hunique.not.mp h
  rw [hid, hs₁.linked, hs₁.unknown] at hs₂
  generalize hadded : add.foldl (step (objectIdOf db.toDatabase .contact) .put)
    ⟨map.linked objectId db, [], []⟩ = added at hs₁ hs₂
  have hset : added.set = map.linked objectId db ∪ contactIds db add := hadded ▸ Itemwise.set_foldl add
  have hset₂ : (rem.foldl (step (objectIdOf db.toDatabase .contact) .take)
      ⟨added.set, added.unknown, []⟩).set = added.set \ contactIds db rem := Itemwise.set_foldl rem
  refine ⟨⟨fun handle => ?_, fun handle => ?_, fun handle => ?_⟩, ?_, fun r => ?_⟩
  · rw [hs₂.unknown, Itemwise.mem_unknown_foldl, ← hadded, Itemwise.mem_unknown_foldl, or_and_right]
    simp
  · rw [hs₂.alreadySet, hs₁.alreadySet, ← hadded, Itemwise.mem_refused_foldl]
    simp
  · rw [hs₂.unassigned, Itemwise.mem_refused_foldl, hset]
    simp
  · obtain ⟨t₂, os₂, hstate₂⟩ := hs₂.state
    rw [hstate] at hstate₂
    exact ⟨t₂, os₂, hstate₂.trans hmap.relink_relink⟩
  · rw [hs₂.rows, hs₁.rows, hset₂, hset]

/-- Once nothing is set already, the lists do what the set law says. -/
theorem ListsContacts.updates (h : ListsContacts map objectId add rem db e s)
    (halready : e.alreadySet = []) : UpdatesContacts map objectId add rem db s := by
  have hnew : ∀ c ∈ contactIds db add, c ∉ map.linked objectId db := by
    refine fun c hc => Itemwise.not_done_of_not_refused (c := .put) (fun handle hrefused => ?_) hc
    rw [← h.alreadySet, halready] at hrefused
    cases hrefused
  have hrows : ∀ r, r ∈ map.table s ↔
      (r ∈ map.table db ∨ ∃ c ∈ contactIds db add, r = map.row objectId c) ∧
        ¬ ((Keyed.key r).1 = objectId ∧ (Keyed.key r).2 ∈ contactIds db rem) := by
    intro r
    rw [h.rows]
    constructor
    · rintro ⟨hr, hkept⟩
      refine ⟨hr.imp_right ?_, fun hrem => (hkept hrem.1).2 hrem.2⟩
      rintro ⟨c, hc, hold, rfl⟩
      exact ⟨c, hc.resolve_left hold, rfl⟩
    · rintro ⟨hr, hkept⟩
      refine ⟨hr.imp_right ?_, fun hobject => ⟨?_, fun hrem => hkept ⟨hobject, hrem⟩⟩⟩
      · rintro ⟨c, hc, rfl⟩
        exact ⟨c, .inr hc, hnew c hc, rfl⟩
      · rcases hr with hr | ⟨c, hc, rfl⟩
        · exact .inl ⟨r, hr, by rw [← hobject]⟩
        · rw [map.key_row]
          exact .inr hc
  refine ⟨Set.ext fun c => ?_, hrows⟩
  simp only [assigned, Set.mem_sdiff, Set.mem_union, Set.mem_ofPred_eq, hrows, map.key_row, true_and]
  refine and_congr_left fun _ => or_congr_right ⟨?_, fun hc => ⟨c, hc, rfl⟩⟩
  rintro ⟨c', hc', hrow⟩
  have hkey := congrArg Keyed.key hrow
  rw [map.key_row, map.key_row] at hkey
  obtain rfl : c = c' := (Prod.ext_iff.mp hkey).2
  exact hc'

end ContactMap

end LibFred.RegistrableObject
