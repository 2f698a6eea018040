import LibFred.RegistrableObject.Contact.ContactRefusal
import LibFred.RegistrableObject.Domain.SetColumns

/-! The objects that a merge selects, which it finds again by their names. -/
namespace LibFred.RegistrableObject.Contact

open Sql
open LibFred.Db
open LibFred.RegistrableObject.Domain (UpdateDomain remTrailingDot)
open LibFred.Object (KeepsObjects liveObjects nameOf unversioned)
open TakeOver (held)

/-- The type of the objects of a role. -/
def Link.objectType : Link → Db.ObjectType
  | .registrant => .domain
  | .admin => .domain
  | .nssetTech => .nsset
  | .keysetTech => .keyset

/-- The links of a role. -/
def Link.links (db : ObjectDatabase) (link : Link) : Set (Nat × Nat × Nat) := {x | x ∈ link.rows db}

/-- The name under which an object is looked for when an update is given this name. -/
def foundName (type : Db.ObjectType) (name : String) : String :=
  nameOf type (if type = .domain then remTrailingDot name else name)

/-- A live object that has a registrar and is found by its name. -/
structure Registered (db : Database) (type : Db.ObjectType) (id : Nat) : Prop where
  row : ∃ o ∈ db.objectRegistry.lookup id,
    o.type = type ∧ foundName type o.name = o.name ∧ o.erdate = none
  sponsor : ∃ o ∈ db.object.lookup id, (db.registrar.lookup o.clid).isSome

/-- Contacts and the objects of a role are registered, under names that no others have. -/
structure OwnersRegistered (link : Link) (db : ObjectDatabase) : Prop where
  uniqueNames : UniqueNames db.toDatabase
  contacts : ∀ c ∈ db.contact, ∃ o ∈ db.objectRegistry.lookup c.id, o.type = .contact
  owners : ∀ id ∈ link.owners db, Registered db.toDatabase link.objectType id

/-- What the keys of the tables and the creation of objects guarantee of a role. -/
structure LinkConsistent (link : Link) (db : ObjectDatabase) : Prop
    extends OwnersRegistered link db where
  owned : ∀ x ∈ link.rows db, x.1 ∈ link.owners db

variable {db db' : ObjectDatabase} {d d' : Database} {link : Link} {handle : String} {src id : Nat}
  {o : LinkedObject} {type : Db.ObjectType}

theorem registered_of_keepsObjects (h : KeepsObjects d d') (hr : Registered d type id) :
    Registered d' type id := by
  refine ⟨(exists_registry_congr h fun _ => Iff.rfl).mpr hr.row, ?_⟩
  obtain ⟨o, ho, hsome⟩ := hr.sponsor
  have hsponsors := h.sponsors id
  rw [ho, Option.map_some, Option.map_eq_some_iff] at hsponsors
  obtain ⟨o', ho', hclid⟩ := hsponsors
  refine ⟨o', ho', ?_⟩
  rwa [h.registrar, hclid]

theorem OwnersRegistered.congr {links : List Link} (hc : OwnersRegistered link db)
    (h : KeepsLinks links db db') : OwnersRegistered link db' where
  uniqueNames := uniqueNames_of_keepsObjects h.books.toKeepsObjects hc.uniqueNames
  contacts c hrow := by
    rw [h.books.contact] at hrow
    exact (exists_registry_congr h.books.toKeepsObjects fun _ => Iff.rfl).mpr (hc.contacts c hrow)
  owners id hid := by
    rw [h.owners link] at hid
    exact registered_of_keepsObjects h.books.toKeepsObjects (hc.owners id hid)

theorem LinkConsistent.congr {links : List Link} (hc : LinkConsistent link db)
    (h : KeepsLinks links db db') (hlink : link ∈ links) : LinkConsistent link db' where
  toOwnersRegistered := hc.toOwnersRegistered.congr h
  owned x hx := by
    rw [h.rows link hlink] at hx
    rw [h.owners link]
    exact hc.owned x hx

theorem linkedObject_eq_some : linkedObject db id = some o ↔
    ∃ oreg ∈ db.objectRegistry.lookup id, ∃ obj ∈ db.object.lookup id, oreg.erdate = none ∧
      ∃ r ∈ db.registrar.lookup obj.clid, o = ⟨oreg.name, r.handle, id⟩ := by
  unfold linkedObject
  constructor
  · intro h
    split at h
    · rename_i oreg obj horeg hobj
      split at h
      · rename_i hlive
        obtain ⟨r, hr, rfl⟩ := Option.map_eq_some_iff.mp h
        exact ⟨oreg, horeg, obj, hobj, hlive, r, hr, rfl⟩
      · cases h
    · cases h
  · rintro ⟨oreg, horeg, obj, hobj, hlive, r, hr, rfl⟩
    rw [horeg, hobj]
    simp only [if_pos hlive, Option.mem_def.mp hr, Option.map_some]

theorem mem_liveContactIds (hc : LinkConsistent link db)
    (hsrc : objectIdOf db.toDatabase .contact handle = some src)
    (hrow : (db.contact.lookup src).isSome) : id ∈ liveContactIds db handle ↔ id = src := by
  unfold liveContactIds
  rw [List.mem_filter, decide_eq_true_iff, List.mem_map]
  constructor
  · rintro ⟨⟨c, hmem, rfl⟩, o, ho, hname, hlive⟩
    obtain ⟨o', ho', htype⟩ := hc.contacts c hmem
    obtain rfl : o' = o := Option.some.inj (ho'.symm.trans ho)
    have hid : objectIdOf db.toDatabase .contact handle = some c.id :=
      (objectIdOf_eq_some hc.uniqueNames).mpr ⟨o', ho', htype, hname, hlive⟩
    exact Option.some.inj (hid.symm.trans hsrc)
  · rintro rfl
    obtain ⟨c, hmem⟩ := Option.isSome_iff_exists.mp hrow
    obtain ⟨hmem, hkey⟩ := Table.lookup_eq_some.mp hmem
    obtain ⟨o, ho, -, hname, hlive⟩ := (objectIdOf_eq_some hc.uniqueNames).mp hsrc
    exact ⟨⟨c, hmem, hkey⟩, o, ho, hname, hlive⟩

theorem mem_objectIds (hc : LinkConsistent link db) :
    id ∈ link.objectIds db src ↔ (id, src, 1) ∈ link.links db := by
  rw [Link.objectIds_eq, List.mem_filter, List.mem_map, decide_eq_true_iff]
  constructor
  · rintro ⟨⟨⟨i, k, r⟩, hmem, rfl⟩, -⟩
    obtain ⟨hmem', hrow⟩ := List.mem_filter.mp hmem
    obtain ⟨rfl, rfl⟩ := of_decide_eq_true hrow
    exact hmem'
  · intro h
    exact ⟨⟨_, List.mem_filter.mpr ⟨h, decide_eq_true ⟨rfl, rfl⟩⟩, rfl⟩, hc.owned _ h⟩

theorem mem_linkedObjects (hc : LinkConsistent link db)
    (hsrc : objectIdOf db.toDatabase .contact handle = some src)
    (hrow : (db.contact.lookup src).isSome) :
    o ∈ linkedObjects db handle link ↔
      linkedObject db o.id = some o ∧ (o.id, src, 1) ∈ link.links db := by
  unfold linkedObjects
  rw [List.mem_flatMap]
  constructor
  · rintro ⟨contactId, hcontact, ho⟩
    obtain rfl := (mem_liveContactIds hc hsrc hrow).mp hcontact
    obtain ⟨id, hid, ho⟩ := List.mem_filterMap.mp ho
    obtain ⟨_, _, _, _, _, _, _, heq⟩ := linkedObject_eq_some.mp ho
    obtain rfl : o.id = id := congrArg LinkedObject.id heq
    exact ⟨ho, (mem_objectIds hc).mp hid⟩
  · rintro ⟨ho, hlink⟩
    exact ⟨src, (mem_liveContactIds hc hsrc hrow).mpr rfl,
      List.mem_filterMap.mpr ⟨o.id, (mem_objectIds hc).mpr hlink, ho⟩⟩

/-- A merge selects all objects for which the source contact has the role. -/
theorem held_eq (hc : LinkConsistent link db)
    (hsrc : objectIdOf db.toDatabase .contact handle = some src)
    (hrow : (db.contact.lookup src).isSome) :
    {i | ∃ o ∈ linkedObjects db handle link, o.id = i} = held 1 src (link.links db) := by
  ext i
  constructor
  · rintro ⟨o, ho, rfl⟩
    exact ((mem_linkedObjects hc hsrc hrow).mp ho).2
  · intro hi
    have hreg := hc.owners i (hc.owned _ hi)
    obtain ⟨oreg, horeg, -, -, hlive⟩ := hreg.row
    obtain ⟨obj, hobj, hsome⟩ := hreg.sponsor
    obtain ⟨r, hr⟩ := Option.isSome_iff_exists.mp hsome
    refine ⟨⟨oreg.name, r.handle, i⟩, (mem_linkedObjects hc hsrc hrow).mpr ⟨?_, hi⟩, rfl⟩
    exact linkedObject_eq_some.mpr ⟨oreg, horeg, obj, hobj, hlive, r, hr, rfl⟩

/-- What is found under the name of an object is the object. -/
theorem eq_of_liveObjects (hu : UniqueNames d) (hreg : Registered d type id)
    {oreg o' : Db.ObjectRegistry} {name : String} (horeg : d.objectRegistry.lookup id = some oreg)
    (hname : nameOf type name = foundName type oreg.name) (ho' : o' ∈ liveObjects d type name) :
    o'.id = id := by
  obtain ⟨o, ho, htype, hfound, hlive⟩ := hreg.row
  obtain rfl : o = oreg := Option.some.inj (ho.symm.trans horeg)
  obtain ⟨hmem, rfl⟩ := Table.lookup_eq_some.mp horeg
  obtain ⟨hmem', htype', hname', hlive'⟩ := Table.mem_select.mp ho'
  exact congrArg Db.ObjectRegistry.id (hu o' hmem' o hmem (htype'.trans htype.symm)
    (hname'.trans (hname.trans hfound)) hlive' hlive)

/-- An update that is given the name of a linked domain finds this domain. -/
theorem selectDomain_eq {op : UpdateDomain} {found : Nat × Bool} (hu : UniqueNames db.toDatabase)
    (hreg : Registered db.toDatabase .domain o.id) (ho : linkedObject db o.id = some o)
    (hfqdn : op.fqdn = o.name) (h : op.selectDomain db = [found]) : found.1 = o.id := by
  obtain ⟨oreg, horeg, _, _, _, _, _, heq⟩ := linkedObject_eq_some.mp ho
  have hname : o.name = oreg.name := congrArg LinkedObject.name heq
  obtain ⟨-, o', ho', hid⟩ := UpdateDomain.exists_liveObject_of_selectDomain (h ▸ List.mem_singleton_self found)
  rw [← hid]
  exact eq_of_liveObjects hu hreg horeg (by rw [foundName, if_pos rfl, hfqdn, hname]) ho'

/-- The same of nssets and keysets. -/
theorem objectIdOf_eq (hu : UniqueNames db.toDatabase) (hreg : Registered db.toDatabase type o.id)
    (htype : type ≠ .domain) (ho : linkedObject db o.id = some o)
    (h : objectIdOf db.toDatabase type o.name = some id) : id = o.id := by
  obtain ⟨oreg, horeg, _, _, _, _, _, heq⟩ := linkedObject_eq_some.mp ho
  have hname : o.name = oreg.name := congrArg LinkedObject.name heq
  obtain ⟨o', ho', rfl⟩ := Option.map_eq_some_iff.mp h
  exact eq_of_liveObjects hu hreg horeg (by rw [foundName, if_neg htype, hname]) (List.mem_of_head? ho')

end LibFred.RegistrableObject.Contact
