import LibFred.RegistrableObject.RegistryChange

/-! What the operations on the registry keep: every object is registered, and what it refers to is
there. -/
namespace LibFred.RegistrableObject

open Sql
open LibFred.Db
open LibFred.Object (CreateObject NewObject NewVersion Prepares liveObjects mem_liveObjects nameOf)
open LibFred.RegistrableObject.Contact (Link LinkConsistent Registered foundName
  isSome_lookup_eq objectHasState)
open LibFred.RegistrableObject.Domain (DomainColumns)

variable {procedures : StateProcedures} {type type' : Db.ObjectType} {id id' historyId : Nat}
  {s s' db db' : ObjectDatabase} {d d' : Database}

section Registration

/-- Live objects have names of their own, under which they are found, registrars and versions. -/
structure Registration (d : Database) : Prop where
  uniqueNames : UniqueNames d
  found : ∀ o ∈ d.objectRegistry, foundName o.type o.name = o.name
  versions : ∀ o ∈ d.objectRegistry, (o.historyid.bind d.history.lookup).isSome
  creators : ∀ o ∈ d.objectRegistry, (d.registrar.lookup o.crid).isSome
  objects : ∀ type id, Live d type id → (d.object.lookup id).isSome
  sponsors : ∀ o ∈ d.object, (d.registrar.lookup o.clid).isSome

/-- An object keeps its version as long as no version is gone. -/
theorem isSome_version {o : Db.ObjectRegistry} {history history' : Table Db.History}
    (h : (o.historyid.bind history.lookup).isSome)
    (hhistory : ∀ id, (history.lookup id).isSome → (history'.lookup id).isSome) :
    (o.historyid.bind history'.lookup).isSome := by
  obtain ⟨version, hversion⟩ := Option.isSome_iff_exists.mp h
  obtain ⟨v, hv, hrow⟩ := Option.bind_eq_some_iff.mp hversion
  rw [hv]
  exact hhistory v (Option.isSome_of_eq_some hrow)

/-- The registry, the objects and their versions are the same, and no registrar is gone. -/
theorem Registration.congr (h : Registration d) (hregistry : d'.objectRegistry = d.objectRegistry)
    (hobject : d'.object = d.object) (hhistory : d'.history = d.history)
    (hregistrar : ∀ id, (d.registrar.lookup id).isSome → (d'.registrar.lookup id).isSome) :
    Registration d' where
  uniqueNames := by
    unfold UniqueNames
    rw [hregistry]
    exact h.uniqueNames
  found := by
    rw [hregistry]
    exact h.found
  versions := by
    rw [hregistry, hhistory]
    exact h.versions
  creators o ho := by
    rw [hregistry] at ho
    exact hregistrar o.crid (h.creators o ho)
  objects type id hlive := by
    rw [hobject]
    exact h.objects type id ((live_congr hregistry).mp hlive)
  sponsors o ho := by
    rw [hobject] at ho
    exact hregistrar o.clid (h.sponsors o ho)

theorem Registration.prepares {objects : Set Nat} (h : Registration d)
    (hprepares : Prepares objects d d') : Registration d' := by
  have hregistry : d'.objectRegistry = d.objectRegistry := by rw [hprepares.rest]
  have hregistrar : d'.registrar = d.registrar := by rw [hprepares.rest]
  have hhistory : d'.history = d.history := by rw [hprepares.rest]
  refine ⟨?_, ?_, ?_, ?_, fun type id hlive => ?_, fun o ho => ?_⟩
  · unfold UniqueNames
    rw [hregistry]
    exact h.uniqueNames
  · rw [hregistry]
    exact h.found
  · rw [hregistry, hhistory]
    exact h.versions
  · rw [hregistry, hregistrar]
    exact h.creators
  · rw [hprepares.kept]
    exact h.objects type id ((live_congr hregistry).mp hlive)
  · rw [hregistrar]
    rcases hprepares.sponsors o ho with ⟨o', ho', hclid⟩ | hknown
    · exact hclid ▸ h.sponsors o' ho'
    · exact hknown

/-- An object as it was but for its version. -/
theorem Registration.renewed (h : Registration d) (hversion : NewVersion id historyId d d') :
    Registration d' := by
  obtain ⟨p, hprepares, hrecords⟩ := hversion
  have hp := h.prepares hprepares
  obtain ⟨requestId, t, ht, rfl⟩ := hrecords.rest
  have hkey (o : Db.ObjectRegistry) : Keyed.key { o with historyid := some historyId } = Keyed.key o := rfl
  have hold {o : Db.ObjectRegistry} (ho : o ∈ p.objectRegistry.update (·.id = id)
      (fun o => { o with historyid := some historyId }) hkey) :
      ∃ a ∈ p.objectRegistry, a.id = o.id ∧ a.type = o.type ∧ a.name = o.name ∧ a.erdate = o.erdate ∧
        a.crid = o.crid ∧ (o.historyid = a.historyid ∨ o.historyid = some historyId) := by
    obtain ⟨a, ha, rfl⟩ := (Table.mem_update hkey).mp ho
    refine ⟨a, ha, ?_⟩
    split
    · exact ⟨rfl, rfl, rfl, rfl, rfl, .inr rfl⟩
    · exact ⟨rfl, rfl, rfl, rfl, rfl, .inl rfl⟩
  have hhistory (v : Nat) (hv : (p.history.lookup v).isSome) : (t.lookup v).isSome :=
    (isSome_lookup_of_insert ht rfl).mpr (.inl hv)
  refine ⟨fun o ho o' ho' htype hname hlive hlive' => ?_, fun o ho => ?_, fun o ho => ?_, fun o ho => ?_,
    fun type id' hlive => ?_, hp.sponsors⟩
  · obtain ⟨a, ha, hid, htypeₐ, hnameₐ, herdate, -⟩ := hold ho
    obtain ⟨b, hb, hid', htypeᵦ, hnameᵦ, herdate', -⟩ := hold ho'
    have heq : a = b := hp.uniqueNames a ha b hb (htypeₐ.trans (htype.trans htypeᵦ.symm))
      (hnameₐ.trans (hname.trans hnameᵦ.symm)) (herdate.trans hlive) (herdate'.trans hlive')
    exact Table.eq_of_key_eq ho ho' (hid.symm.trans ((congrArg (·.id) heq).trans hid'))
  · obtain ⟨a, ha, -, htype, hname, -⟩ := hold ho
    rw [← htype, ← hname]
    exact hp.found a ha
  · obtain ⟨a, ha, -, -, -, -, -, hversion | hversion⟩ := hold ho
    · exact hversion ▸ isSome_version (hp.versions a ha) hhistory
    · rw [hversion]
      exact (isSome_lookup_of_insert ht rfl).mpr (.inr rfl)
  · obtain ⟨a, ha, -, -, -, -, hcrid, -⟩ := hold ho
    exact hcrid ▸ hp.creators a ha
  · obtain ⟨o, ho, htype, hlive⟩ := hlive
    obtain ⟨hmem, rfl⟩ := Table.lookup_eq_some.mp ho
    obtain ⟨a, ha, hid, htypeₐ, -, herdate, -⟩ := hold hmem
    exact hp.objects type o.id ⟨a, Table.lookup_eq_some.mpr ⟨ha, hid⟩, htypeₐ.trans htype, herdate.trans hlive⟩

/-- A new object has a name that no live object of its type had. -/
theorem Registration.created {op : CreateObject} (h : Registration d)
    (hfound : foundName op.objectType (nameOf op.objectType op.handle) = nameOf op.objectType op.handle)
    (hnew : NewObject op id historyId d d') : Registration d' := by
  obtain ⟨new, hlookup, hname, htype, herdate, hversion, hcreator⟩ := hnew.row
  obtain ⟨obj, hobj, hclid⟩ := hnew.sponsored
  have hcases {o : Db.ObjectRegistry} (ho : o ∈ d'.objectRegistry) : o ∈ d.objectRegistry ∨ o = new := by
    have hrow : d'.objectRegistry.lookup o.id = some o := Table.lookup_eq_some.mpr ⟨ho, rfl⟩
    by_cases hid : o.id = id
    · rw [hid, hlookup] at hrow
      exact .inr (Option.some.inj hrow).symm
    · rw [hnew.others o.id hid] at hrow
      exact .inl (Table.lookup_eq_some.mp hrow).1
  have hfree {o : Db.ObjectRegistry} (ho : o ∈ d.objectRegistry) (htype' : o.type = new.type)
      (hname' : o.name = new.name) (hlive : o.erdate = none) : False := by
    have hmem : o ∈ liveObjects d op.objectType op.handle :=
      mem_liveObjects.mpr ⟨ho, htype'.trans htype, hname'.trans hname, hlive⟩
    rw [hnew.free] at hmem
    cases hmem
  have hhistory (v : Nat) (hv : (d.history.lookup v).isSome) : (d'.history.lookup v).isSome := by
    obtain ⟨row, hrow⟩ := Option.isSome_iff_exists.mp hv
    exact Option.isSome_of_eq_some (hnew.history v row hrow)
  refine ⟨fun o ho o' ho' htypes hnames hlive hlive' => ?_, fun o ho => ?_, fun o ho => ?_, fun o ho => ?_,
    fun type id' hlive => ?_, fun o ho => ?_⟩
  · rcases hcases ho with ho | rfl <;> rcases hcases ho' with ho' | rfl
    · exact h.uniqueNames o ho o' ho' htypes hnames hlive hlive'
    · exact (hfree ho htypes hnames hlive).elim
    · exact (hfree ho' htypes.symm hnames.symm hlive').elim
    · rfl
  · rcases hcases ho with ho | rfl
    · exact h.found o ho
    · rw [htype, hname]
      exact hfound
  · rcases hcases ho with ho | rfl
    · exact isSome_version (h.versions o ho) hhistory
    · exact hversion
  · rw [hnew.registrar]
    rcases hcases ho with ho | rfl
    · exact h.creators o ho
    · exact hcreator
  · by_cases hid : id' = id
    · rw [hid, hobj]
      rfl
    · rw [hnew.otherObjects id' hid]
      refine h.objects type id' ?_
      unfold Live at hlive
      rwa [hnew.others id' hid] at hlive
  · rw [hnew.registrar]
    have hrow : d'.object.lookup o.id = some o := Table.lookup_eq_some.mpr ⟨ho, rfl⟩
    by_cases hid : o.id = id
    · rw [hid, hobj] at hrow
      exact Option.some.inj hrow ▸ hclid
    · rw [hnew.otherObjects o.id hid] at hrow
      exact h.sponsors o (Table.lookup_eq_some.mp hrow).1

theorem Opening.registration (h : Opening type id historyId d d') (hr : Registration d) :
    Registration d' := by
  cases h with
  | renewed _ hversion => exact hr.renewed hversion
  | created op _ hfound hnew => exact hr.created hfound hnew

/-- The objects that are live are those from before but for the one that was deleted. -/
theorem live_unregistered : Live (unregistered d id) type' id' ↔ Live d type' id' ∧ id' ≠ id := by
  unfold Live
  rw [lookup_unregistered]
  by_cases hid : id' = id
  · simp [hid]
  · simp [hid]

theorem Registration.unregistered (h : Registration d) : Registration (unregistered d id) := by
  have hkey (o : Db.ObjectRegistry) : Keyed.key { o with erdate := some d.now } = Keyed.key o := rfl
  have hold {o : Db.ObjectRegistry} (ho : o ∈ (RegistrableObject.unregistered d id).objectRegistry) :
      ∃ a ∈ d.objectRegistry, a.type = o.type ∧ a.name = o.name ∧ a.historyid = o.historyid ∧
        a.crid = o.crid ∧ (o.erdate = none → o = a) := by
    obtain ⟨a, ha, rfl⟩ := (Table.mem_update hkey).mp ho
    refine ⟨a, ha, ?_⟩
    split
    · exact ⟨rfl, rfl, rfl, rfl, nofun⟩
    · exact ⟨rfl, rfl, rfl, rfl, fun _ => rfl⟩
  refine ⟨fun o ho o' ho' htype hname hlive hlive' => ?_, fun o ho => ?_, fun o ho => ?_, fun o ho => ?_,
    fun type id' hlive => ?_, fun o ho => h.sponsors o (Table.mem_delete.mp ho).1⟩
  · obtain ⟨a, ha, -, -, -, -, heq⟩ := hold ho
    obtain ⟨b, hb, -, -, -, -, heq'⟩ := hold ho'
    obtain rfl := heq hlive
    obtain rfl := heq' hlive'
    exact h.uniqueNames o ha o' hb htype hname hlive hlive'
  · obtain ⟨a, ha, htype, hname, -⟩ := hold ho
    rw [← htype, ← hname]
    exact h.found a ha
  · obtain ⟨a, ha, -, -, hversion, -⟩ := hold ho
    exact hversion ▸ h.versions a ha
  · obtain ⟨a, ha, -, -, -, hcrid, -⟩ := hold ho
    exact hcrid ▸ h.creators a ha
  · obtain ⟨hlive, hne⟩ := live_unregistered.mp hlive
    exact isSome_lookup_delete.mpr ⟨h.objects type id' hlive, hne⟩

end Registration

section References

/-- Other objects refer to the object. -/
def Linked (db : ObjectDatabase) : Db.ObjectType → Nat → Prop
  | .contact, id =>
    (∃ d ∈ db.domain, d.registrant = id) ∨ (∃ m ∈ db.domainContactMap, m.contactid = id) ∨
      (∃ m ∈ db.nssetContactMap, m.contactid = id) ∨ ∃ m ∈ db.keysetContactMap, m.contactid = id
  | .domain, _ => False
  | .nsset, id => ∃ d ∈ db.domain, d.nsset = some id
  | .keyset, id => ∃ d ∈ db.domain, d.keyset = some id

/-- Every object that others refer to has the state that says so. -/
def Marked (db : ObjectDatabase) : Prop :=
  ∀ type id, Linked db type id → objectHasState db.toDatabase id "linked" = true

def HasLinkedState (db : ObjectDatabase) : Prop := ∃ e ∈ db.enumObjectStates, e.name = "linked"

/-- What the procedures outside of the code are for, as far as the state linked goes: the triggers
keep up with changes of the tables, and an update of the states of an object forgets no link. -/
structure MarksLinked (procedures : StateProcedures) : Prop where
  triggered : ∀ {db : ObjectDatabase} (db' : ObjectDatabase), Marked db → HasLinkedState db →
    db'.toDatabase = db.toDatabase → Marked (procedures.fire db')
  updated : ∀ (db : ObjectDatabase) objectId, Marked db → HasLinkedState db →
    Marked { db with objectState := procedures.updateObjectStates db objectId }

/-- Rows belong to live objects, and what they refer to is live and marked. -/
structure References (db : ObjectDatabase) : Prop where
  owners : ∀ part : Part, ∀ r ∈ part.table db, Live db.toDatabase part.type (part.owner r)
  linked : ∀ type id, Linked db type id → Live db.toDatabase type id
  linkedState : HasLinkedState db
  marked : Marked db

theorem objectHasState_congr {state : String} (hstates : d'.objectState = d.objectState)
    (henum : d'.enumObjectStates = d.enumObjectStates) :
    objectHasState d' id state = objectHasState d id state := by
  unfold objectHasState
  rw [hstates, henum]

theorem Opening.references (h : Opening type id historyId db.toDatabase d) (hr : References db) :
    References { db with toDatabase := d } where
  owners part r hmem := by
    refine h.live_iff.mpr (.inl (hr.owners part r ?_))
    cases part <;> exact hmem
  linked type' id' hlinked := h.live_iff.mpr (.inl (hr.linked type' id' hlinked))
  linkedState := by
    unfold HasLinkedState
    rw [h.rest]
    exact hr.linkedState
  marked type' id' hlinked := by
    have hkept : objectHasState d id' "linked" = objectHasState db.toDatabase id' "linked" :=
      objectHasState_congr (by rw [h.rest]) (by rw [h.rest])
    exact hkept.trans (hr.marked type' id' hlinked)

/-- Tables about objects of other types are left alone. -/
theorem Write.table_other (h : Write procedures id s type s') {part : Part} (hpart : part.type ≠ type) :
    part.table s' = part.table s := by
  cases h <;> cases part <;> first | rfl | exact absurd rfl hpart

theorem Write.toDatabase (h : Write procedures id s type s') :
    s'.toDatabase = { s.toDatabase with objectState := s'.objectState } := by
  cases h <;> rfl

/-- A column that is not set keeps its value. -/
theorem value_of_column {α : Type} (column : Option α) (old : α) :
    column.getD old = old ∨ column = some (column.getD old) := by
  cases column with
  | none => exact .inl rfl
  | some value => exact .inr rfl

/-- What a step refers to in addition is live. -/
theorem Write.linked (h : Write procedures id s type s') (hlinked : Linked s' type' id') :
    Linked s type' id' ∨ Live s.toDatabase type' id' := by
  cases h with
  | insertDomain row _ hrefers ht =>
    have hold {d : Db.Domain} (hd : d ∈ _) : d ∈ s.domain ∨ d = row := (Table.mem_of_insert? ht).mp hd
    cases type' with
    | contact =>
      rcases hlinked with ⟨d, hd, rfl⟩ | hlinked
      · rcases hold hd with hd | rfl
        · exact .inl (.inl ⟨d, hd, rfl⟩)
        · exact .inr (hrefers.registrant _ rfl)
      · exact .inl (.inr hlinked)
    | domain => exact .inl hlinked
    | nsset =>
      obtain ⟨d, hd, hid⟩ := hlinked
      rcases hold hd with hd | rfl
      · exact .inl ⟨d, hd, hid⟩
      · exact .inr (hrefers.nsset _ hid)
    | keyset =>
      obtain ⟨d, hd, hid⟩ := hlinked
      rcases hold hd with hd | rfl
      · exact .inl ⟨d, hd, hid⟩
      · exact .inr (hrefers.keyset _ hid)
  | setDomain columns hrefers =>
    have hold {d : Db.Domain} (hd : d ∈ s.domain.update (·.id = id) columns.set columns.key_set) :=
      (Table.mem_update columns.key_set).mp hd
    cases type' with
    | contact =>
      rcases hlinked with ⟨d, hd, rfl⟩ | hlinked
      · obtain ⟨old, hmem, rfl⟩ := hold hd
        split
        · rcases value_of_column columns.registrant old.registrant with hsame | hset
          · exact .inl (.inl ⟨old, hmem, hsame.symm⟩)
          · exact .inr (hrefers.registrant _ hset)
        · exact .inl (.inl ⟨old, hmem, rfl⟩)
      · exact .inl (.inr hlinked)
    | domain => exact .inl hlinked
    | nsset =>
      obtain ⟨d, hd, hid⟩ := hlinked
      obtain ⟨old, hmem, rfl⟩ := hold hd
      split at hid
      · rcases value_of_column columns.nsset old.nsset with hsame | hset
        · exact .inl ⟨old, hmem, hsame.symm.trans hid⟩
        · exact .inr (hrefers.nsset _ (Option.join_eq_some_iff.mpr (hset.trans (congrArg some hid))))
      · exact .inl ⟨old, hmem, hid⟩
    | keyset =>
      obtain ⟨d, hd, hid⟩ := hlinked
      obtain ⟨old, hmem, rfl⟩ := hold hd
      split at hid
      · rcases value_of_column columns.keyset old.keyset with hsame | hset
        · exact .inl ⟨old, hmem, hsame.symm.trans hid⟩
        · exact .inr (hrefers.keyset _ (Option.join_eq_some_iff.mpr (hset.trans (congrArg some hid))))
      · exact .inl ⟨old, hmem, hid⟩
  | linkAdmin hcontact ht =>
    cases type' with
    | contact =>
      rcases hlinked with hlinked | ⟨m, hm, rfl⟩ | hlinked
      · exact .inl (.inl hlinked)
      · rcases (Table.mem_of_insert? ht).mp hm with hm | rfl
        · exact .inl (.inr (.inl ⟨m, hm, rfl⟩))
        · exact .inr hcontact
      · exact .inl (.inr (.inr hlinked))
    | _ => exact .inl hlinked
  | unlinkAdmin contactId =>
    cases type' with
    | contact =>
      rcases hlinked with hlinked | ⟨m, hm, hid⟩ | hlinked
      · exact .inl (.inl hlinked)
      · exact .inl (.inr (.inl ⟨m, (Table.mem_delete.mp hm).1, hid⟩))
      · exact .inl (.inr (.inr hlinked))
    | _ => exact .inl hlinked
  | linkNssetTech hcontact ht =>
    cases type' with
    | contact =>
      rcases hlinked with hlinked | hlinked | ⟨m, hm, rfl⟩ | hlinked
      · exact .inl (.inl hlinked)
      · exact .inl (.inr (.inl hlinked))
      · rcases (Table.mem_of_insert? ht).mp hm with hm | rfl
        · exact .inl (.inr (.inr (.inl ⟨m, hm, rfl⟩)))
        · exact .inr hcontact
      · exact .inl (.inr (.inr (.inr hlinked)))
    | _ => exact .inl hlinked
  | unlinkNssetTech contactId =>
    cases type' with
    | contact =>
      rcases hlinked with hlinked | hlinked | ⟨m, hm, hid⟩ | hlinked
      · exact .inl (.inl hlinked)
      · exact .inl (.inr (.inl hlinked))
      · exact .inl (.inr (.inr (.inl ⟨m, (Table.mem_delete.mp hm).1, hid⟩)))
      · exact .inl (.inr (.inr (.inr hlinked)))
    | _ => exact .inl hlinked
  | linkKeysetTech hcontact ht =>
    cases type' with
    | contact =>
      rcases hlinked with hlinked | hlinked | hlinked | ⟨m, hm, rfl⟩
      · exact .inl (.inl hlinked)
      · exact .inl (.inr (.inl hlinked))
      · exact .inl (.inr (.inr (.inl hlinked)))
      · rcases (Table.mem_of_insert? ht).mp hm with hm | rfl
        · exact .inl (.inr (.inr (.inr ⟨m, hm, rfl⟩)))
        · exact .inr hcontact
    | _ => exact .inl hlinked
  | unlinkKeysetTech contactId =>
    cases type' with
    | contact =>
      rcases hlinked with hlinked | hlinked | hlinked | ⟨m, hm, hid⟩
      · exact .inl (.inl hlinked)
      · exact .inl (.inr (.inl hlinked))
      · exact .inl (.inr (.inr (.inl hlinked)))
      · exact .inl (.inr (.inr (.inr ⟨m, (Table.mem_delete.mp hm).1, hid⟩)))
    | _ => exact .inl hlinked
  | _ => exact .inl hlinked

/-- Where the tables of links change, the triggers fire. -/
theorem Write.marked (h : Write procedures id s type s') (hmarks : MarksLinked procedures)
    (hstate : HasLinkedState s) (hmarked : Marked s) : Marked s' := by
  cases h with
  | insertNsset | setChecklevel | skipHost | insertHost | deleteHost | insertIpaddr | insertKeyset
    | skipKey | insertKey | deleteKey => exact hmarked
  | _ => exact hmarks.triggered _ hmarked hstate rfl

theorem Write.references (h : Write procedures id s type s') (hmarks : MarksLinked procedures)
    (hlive : Live s.toDatabase type id) (hs : HasHosts s) (hr : References s) : References s' := by
  have hregistry : s'.objectRegistry = s.objectRegistry := by rw [h.toDatabase]
  have hstates : s'.enumObjectStates = s.enumObjectStates := by rw [h.toDatabase]
  refine ⟨fun part r hmem => ?_, fun type' id' hlinked => ?_, ?_, h.marked hmarks hr.linkedState hr.marked⟩
  · rw [live_congr hregistry]
    by_cases hpart : part.type = type
    · by_cases howner : part.owner r = id
      · rw [hpart, howner]
        exact hlive
      · have hrows : r ∈ part.rows s' (part.owner r) := List.mem_filter.mpr ⟨hmem, decide_eq_true rfl⟩
        rw [(h.worksOn hs).rows part _ howner] at hrows
        exact hr.owners part r (List.mem_filter.mp hrows).1
    · rw [h.table_other hpart] at hmem
      exact hr.owners part r hmem
  · rw [live_congr hregistry]
    exact (h.linked hlinked).elim (hr.linked type' id') (·)
  · unfold HasLinkedState
    rw [hstates]
    exact hr.linkedState

theorem Writes.toDatabase (h : Writes procedures type id s s') :
    s'.toDatabase = { s.toDatabase with objectState := s'.objectState } := by
  induction h with
  | refl => rfl
  | tail _ hwrite ih => rw [hwrite.toDatabase, ih]

theorem Writes.references (h : Writes procedures type id s s') (hmarks : MarksLinked procedures)
    (hlive : Live s.toDatabase type id) (hs : HasHosts s) (hr : References s) : References s' := by
  induction h with
  | refl => exact hr
  | tail hbefore hwrite ih =>
    obtain ⟨hworks, hs⟩ := Writes.worksOn hbefore hs
    exact hwrite.references hmarks ((live_congr hworks.registry).mpr hlive) hs ih

theorem Copies.references (h : Copies type id historyId s s') (hr : References s) : References s' := by
  refine ⟨fun part r hmem => ?_, ?_, ?_, ?_⟩
  · rw [h.table part] at hmem
    rw [h.toDatabase]
    exact hr.owners part r hmem
  · rw [h.rest]
    exact hr.linked
  · rw [h.rest]
    exact hr.linkedState
  · rw [h.rest]
    exact hr.marked

section Delete

/-- Rows of other objects are left. -/
theorem mem_table_erased (part : Part) {r : part.Row}
    (h : r ∈ part.table (erased procedures db id type)) :
    r ∈ part.table db ∧ (part.type = type → part.owner r ≠ id) := by
  cases type with
  | contact => cases part <;> exact ⟨h, nofun⟩
  | domain =>
    cases part <;> first | exact ⟨h, nofun⟩ | exact (Table.mem_delete.mp h).imp_right fun hne _ => hne
  | nsset =>
    cases part <;> first | exact ⟨h, nofun⟩ | exact (Table.mem_delete.mp h).imp_right fun hne _ => hne
  | keyset =>
    cases part <;> first | exact ⟨h, nofun⟩ | exact (Table.mem_delete.mp h).imp_right fun hne _ => hne

theorem linked_erased (h : Linked (erased procedures db id type) type' id') : Linked db type' id' := by
  have hdomain : ∀ d ∈ (erased procedures db id type).domain, d ∈ db.domain :=
    fun d hd => (mem_table_erased .domain hd).1
  have hadmin : ∀ m ∈ (erased procedures db id type).domainContactMap, m ∈ db.domainContactMap :=
    fun m hm => (mem_table_erased .domainContactMap hm).1
  have hnsset : ∀ m ∈ (erased procedures db id type).nssetContactMap, m ∈ db.nssetContactMap :=
    fun m hm => (mem_table_erased .nssetContactMap hm).1
  have hkeyset : ∀ m ∈ (erased procedures db id type).keysetContactMap, m ∈ db.keysetContactMap :=
    fun m hm => (mem_table_erased .keysetContactMap hm).1
  cases type' with
  | contact =>
    rcases h with ⟨d, hd, hid⟩ | ⟨m, hm, hid⟩ | ⟨m, hm, hid⟩ | ⟨m, hm, hid⟩
    · exact .inl ⟨d, hdomain d hd, hid⟩
    · exact .inr (.inl ⟨m, hadmin m hm, hid⟩)
    · exact .inr (.inr (.inl ⟨m, hnsset m hm, hid⟩))
    · exact .inr (.inr (.inr ⟨m, hkeyset m hm, hid⟩))
  | domain => exact h
  | nsset =>
    obtain ⟨d, hd, hid⟩ := h
    exact ⟨d, hdomain d hd, hid⟩
  | keyset =>
    obtain ⟨d, hd, hid⟩ := h
    exact ⟨d, hdomain d hd, hid⟩

theorem marked_erased (hmarks : MarksLinked procedures) (hstate : HasLinkedState db)
    (hmarked : Marked db) : Marked (erased procedures db id type) := by
  cases type with
  | contact => exact hmarked
  | domain =>
    have hunlinked := hmarks.triggered
      { db with domainContactMap := db.domainContactMap.delete (·.domainid = id) } hmarked hstate rfl
    have hunvalidated := hmarks.triggered { procedures.fire
      { db with domainContactMap := db.domainContactMap.delete (·.domainid = id) } with
        enumval := db.enumval.delete (·.domainid = id) } hunlinked hstate rfl
    exact hmarks.triggered _ hunvalidated hstate rfl
  | nsset =>
    exact hmarks.triggered
      { db with nssetContactMap := db.nssetContactMap.delete (·.nssetid = id) } hmarked hstate rfl
  | keyset =>
    exact hmarks.triggered
      { db with keysetContactMap := db.keysetContactMap.delete (·.keysetid = id) } hmarked hstate rfl

theorem registry_erased : (erased procedures db id type).objectRegistry = db.objectRegistry := by
  cases type <;> rfl

/-- Nothing refers to an object that is deleted; its mark would have kept it. -/
theorem References.delete (hmarks : MarksLinked procedures) (hr : References db)
    (hlive : Live db.toDatabase type id)
    (hunlinked : type ≠ .domain → objectHasState db.toDatabase id "linked" = false) :
    References { erased procedures db id type with
      toDatabase := unregistered (erased procedures db id type).toDatabase id } where
  owners part r hmem := by
    have hmem : r ∈ part.table (erased procedures db id type) := by cases part <;> exact hmem
    obtain ⟨hold, hother⟩ := mem_table_erased part hmem
    refine live_unregistered.mpr ⟨(live_congr registry_erased).mpr (hr.owners part r hold), fun hid => ?_⟩
    exact hother (live_unique hlive (hid ▸ hr.owners part r hold)) hid
  linked type' id' hlinked := by
    have hold : Linked db type' id' := linked_erased hlinked
    refine live_unregistered.mpr ⟨(live_congr registry_erased).mpr (hr.linked type' id' hold), ?_⟩
    rintro rfl
    obtain rfl : type' = type := live_unique hlive (hr.linked type' id' hold)
    have hmarked := hr.marked type' id' hold
    cases type' with
    | domain => exact hold
    | _ =>
      rw [hunlinked nofun] at hmarked
      cases hmarked
  linkedState := by
    have hstate : (erased procedures db id type).enumObjectStates = db.enumObjectStates := by
      cases type <;> rfl
    unfold HasLinkedState
    exact hstate ▸ hr.linkedState
  marked := marked_erased hmarks hr.linkedState hr.marked

end Delete

end References

section Rows

/-- No step takes the row of an object. -/
theorem Write.keepsRow (h : Write procedures id s type s') (hrow : HasRow s type' id') :
    HasRow s' type' id' := by
  cases h with
  | insertDomain row hid _ ht =>
    cases type' with
    | domain => exact (isSome_lookup_of_insert ht hid).mpr (.inl hrow)
    | _ => exact hrow
  | setDomain columns _ =>
    exact hasRow_of_same hrow rfl (isSome_lookup_update _ columns.key_set).symm
  | insertNsset row hid ht =>
    cases type' with
    | nsset => exact (isSome_lookup_of_insert ht hid).mpr (.inl hrow)
    | _ => exact hrow
  | setChecklevel checklevel =>
    refine hasRow_of_same hrow rfl rfl ?_
    exact (isSome_lookup_update (fun n : Db.Nsset => { n with checklevel := checklevel }) fun _ => rfl).symm
  | insertKeyset row hid ht =>
    cases type' with
    | keyset => exact (isSome_lookup_of_insert ht hid).mpr (.inl hrow)
    | _ => exact hrow
  | _ => exact hrow

theorem Writes.keepsRow (h : Writes procedures type id s s') (hrow : HasRow s type' id') :
    HasRow s' type' id' := by
  induction h with
  | refl => exact hrow
  | tail _ hwrite ih => exact hwrite.keepsRow ih

end Rows

section Zones

/-- Whether a domain can be read depends on its zone and on the validation being there. -/
theorem ZoneReadable.congr (h : ZoneReadable s id)
    (hdomain : ∀ d' ∈ s'.domain.lookup id, ∃ d ∈ s.domain.lookup id, d'.zone = d.zone)
    (henumval : (s.enumval.lookup id).isSome → (s'.enumval.lookup id).isSome)
    (hzone : KeepsZones s.zone s'.zone) : ZoneReadable s' id := by
  intro d' hd'
  obtain ⟨d, hd, heq⟩ := hdomain d' hd'
  obtain ⟨z, hz, hvalidated⟩ := h d hd
  obtain ⟨z', hz', -, henum⟩ := hzone d.zone z hz
  exact ⟨z', heq ▸ hz', fun h => henumval (hvalidated (henum ▸ h))⟩

/-- The tables that a domain is read from are the same. -/
theorem ZoneReadable.same (h : ZoneReadable s id) (hdomain : s'.domain = s.domain := by rfl)
    (henumval : s'.enumval = s.enumval := by rfl) (hzone : s'.zone = s.zone := by rfl) :
    ZoneReadable s' id := by
  unfold ZoneReadable
  rw [hdomain, henumval, hzone]
  exact h

/-- A step leaves a domain that is there in its zone. -/
theorem Write.domain_zone (h : Write procedures id s type s') (hrow : HasRow s .domain id') :
    ∀ d' ∈ s'.domain.lookup id', ∃ d ∈ s.domain.lookup id', d'.zone = d.zone := by
  cases h with
  | insertDomain row hid _ ht =>
    obtain ⟨d, hd⟩ := Option.isSome_iff_exists.mp hrow
    obtain ⟨hmem, hkey⟩ := Table.lookup_eq_some.mp hd
    have hne : row.id ≠ id' := fun heq => (Table.insert?_eq_some.mp ht).1 d hmem (hkey.trans heq.symm)
    exact fun d' hd' => ⟨d', ((Table.lookup_of_insert? ht).trans (if_neg hne)).symm.trans hd', rfl⟩
  | setDomain columns _ =>
    intro d' hd'
    obtain ⟨d, hd, rfl⟩ := Option.map_eq_some_iff.mp ((Table.lookup_update columns.key_set).symm.trans hd')
    refine ⟨d, hd, ?_⟩
    split <;> rfl
  | _ => exact fun d' hd' => ⟨d', hd', rfl⟩

theorem Write.keepsEnumval (h : Write procedures id s type s')
    (henumval : (s.enumval.lookup id').isSome) : (s'.enumval.lookup id').isSome := by
  cases h with
  | insertEnumval row _ ht => exact (isSome_lookup_of_insert ht rfl).mpr (.inl henumval)
  | setEnumval f hf => exact (isSome_lookup_update f hf).trans henumval
  | _ => exact henumval

theorem Writes.zone (h : Writes procedures type id s s') : s'.zone = s.zone := by
  induction h with
  | refl => rfl
  | tail _ hwrite ih => cases hwrite <;> exact ih

theorem Writes.domain_zone (h : Writes procedures type id s s') (hrow : HasRow s .domain id') :
    ∀ d' ∈ s'.domain.lookup id', ∃ d ∈ s.domain.lookup id', d'.zone = d.zone := by
  induction h with
  | refl => exact fun d' hd' => ⟨d', hd', rfl⟩
  | tail hbefore hwrite ih =>
    intro d'' hd''
    obtain ⟨d', hd', heq'⟩ := hwrite.domain_zone (Writes.keepsRow hbefore hrow) d'' hd''
    obtain ⟨d, hd, heq⟩ := ih d' hd'
    exact ⟨d, hd, heq'.trans heq⟩

theorem Writes.keepsEnumval (h : Writes procedures type id s s')
    (henumval : (s.enumval.lookup id').isSome) : (s'.enumval.lookup id').isSome := by
  induction h with
  | refl => exact henumval
  | tail _ hwrite ih => exact hwrite.keepsEnumval ih

/-- The zone of a domain that is there can be read after any steps. -/
theorem Writes.zoneReadable (h : Writes procedures type id s s') (hrow : HasRow s .domain id')
    (hs : ZoneReadable s id') : ZoneReadable s' id' :=
  hs.congr (h.domain_zone hrow) h.keepsEnumval (h.zone ▸ refl_of KeepsZones _)

/-- A domain that is not there can be read as soon as it is. -/
theorem zoneReadable_of_no_row (h : ¬ HasRow db .domain id) : ZoneReadable db id :=
  fun _ hd => absurd (Option.isSome_of_eq_some hd) h

theorem zoneReadable_erased (h : ZoneReadable db id') : ZoneReadable (erased procedures db id type) id' := by
  cases type with
  | domain =>
    by_cases hid : id' = id
    · refine zoneReadable_of_no_row fun hrow => ?_
      exact (hasRow_erased.mp hrow).2 rfl hid
    · refine h.congr (fun d hd => ⟨d, ?_, rfl⟩) (fun henumval => ?_) (refl_of _ _)
      · obtain ⟨hmem, hkey⟩ := Table.lookup_eq_some.mp hd
        exact Table.lookup_eq_some.mpr ⟨(Table.mem_delete.mp hmem).1, hkey⟩
      · exact isSome_lookup_delete.mpr ⟨henumval, hid⟩
  | _ => exact h.same

end Zones

/-- Every object is registered and has its rows, and all that these refer to is there. -/
structure Consistent (db : ObjectDatabase) : Prop extends Grounded db, References db where
  present : ∀ type id, Live db.toDatabase type id → HasRow db type id
  registration : Registration db.toDatabase
  zones : ∀ id, ZoneReadable db id

/-- Tables of the registry and of objects are as they were, and so are the states. -/
theorem References.congr {d : Database} (hr : References db)
    (hregistry : d.objectRegistry = db.objectRegistry) (hstates : d.objectState = db.objectState)
    (henum : d.enumObjectStates = db.enumObjectStates) : References { db with toDatabase := d } where
  owners part r hmem := (live_congr hregistry).mpr (hr.owners part r (by cases part <;> exact hmem))
  linked type id hlinked := (live_congr hregistry).mpr (hr.linked type id (by cases type <;> exact hlinked))
  linkedState := by
    unfold HasLinkedState
    rw [henum]
    exact hr.linkedState
  marked type id hlinked :=
    (objectHasState_congr hstates henum).trans (hr.marked type id (by cases type <;> exact hlinked))

/-- The same of contacts, whose rows are in a table of their own. -/
theorem Consistent.contact (h : Consistent db) (hgrounded : Grounded { db with toDatabase := d' })
    (hopening : Opening .contact id historyId db.toDatabase d) {t : Table Db.Contact}
    (hkeeps : KeepsContacts { d with contact := t } d')
    (hrows : ∀ id', (t.lookup id').isSome ↔ (d.contact.lookup id').isSome ∨ id' = id) :
    Consistent { db with toDatabase := d' } := by
  have hregistry : d'.objectRegistry = d.objectRegistry := by rw [hkeeps.rest]
  refine ⟨hgrounded, ?_, fun type' id' hlive => ?_, ?_, fun id' => (h.zones id').same⟩
  · have hreferences := hopening.references h.toReferences
    exact hreferences.congr hregistry (by rw [hkeeps.rest]) (by rw [hkeeps.rest])
  · have hcontacts : (d'.contact.lookup id').isSome ↔ (db.contact.lookup id').isSome ∨ id' = id := by
      have hcontact : d.contact = db.contact := by rw [hopening.rest]
      rw [hkeeps.contacts, hrows, hcontact]
    rcases hopening.live_iff.mp ((live_congr hregistry).mp hlive) with hold | ⟨rfl, rfl⟩
    · have hrow := h.present type' id' hold
      cases type' with
      | contact => exact hcontacts.mpr (.inl hrow)
      | _ => exact hrow
    · exact hcontacts.mpr (.inr rfl)
  · refine (hopening.registration h.registration).congr hregistry (by rw [hkeeps.rest])
      (by rw [hkeeps.rest]) fun id' hid => ?_
    rw [hkeeps.rest]
    exact hid

/-- Whatever an operation does, nothing is left without what it refers to. -/
theorem Change.consistent (h : Change procedures db db') (hmarks : MarksLinked procedures)
    (hc : Consistent db) : Consistent db' := by
  have hgrounded := h.grounded hc.toGrounded
  cases h with
  | @object type id historyId d s db' hopening hwrites hzone hcopies =>
    have hhosts := (hopening.grounded hc.toGrounded).hosts
    obtain ⟨hworks, -⟩ := hwrites.worksOn hhosts
    have hregistry : db'.objectRegistry = d.objectRegistry := hcopies.registry.trans hworks.registry
    have hrows {type' : Db.ObjectType} {id' : Nat} (hrow : HasRow s type' id') : HasRow db' type' id' := by
      rw [hcopies.rest]
      exact hasRow_of_same hrow rfl
    have hdatabase : s.toDatabase = { d with objectState := s.objectState } := hwrites.toDatabase
    refine ⟨hgrounded, ?_, fun type' id' hlive => hrows ?_, ?_, fun id' => ?_⟩
    · have hreferences := hopening.references hc.toReferences
      exact hcopies.references (hwrites.references hmarks hopening.live hhosts hreferences)
    · rcases hopening.live_iff.mp ((live_congr hregistry).mp hlive) with hold | ⟨rfl, rfl⟩
      · refine hwrites.keepsRow (hasRow_of_same (hc.present type' id' hold) ?_)
        rw [hopening.rest]
      · exact hcopies.row
    · refine (hopening.registration hc.registration).congr hregistry ?_ ?_ fun id' hid => ?_
      · rw [hcopies.toDatabase, hdatabase]
      · rw [hcopies.toDatabase, hdatabase]
      · rw [hcopies.toDatabase, hdatabase]
        exact hid
    · suffices hs : ZoneReadable s id' by
        rw [hcopies.rest]
        exact hs.same
      by_cases hrow : HasRow { db with toDatabase := d } .domain id'
      · exact hwrites.zoneReadable hrow (hc.zones id').same
      by_cases hrow' : HasRow s .domain id'
      · obtain ⟨rfl, rfl⟩ := (hwrites.hasRow hrow').resolve_left hrow
        exact (hzone rfl).resolve_left hrow
      · exact zoneReadable_of_no_row hrow'
  | @contact id historyId d d' hlive hversion hkeeps =>
    refine hc.contact hgrounded (.renewed hlive hversion) hkeeps fun id' => ?_
    refine (or_iff_left_of_imp ?_).symm
    rintro rfl
    have hcontact : d.contact = db.contact := by rw [hversion.rest]
    exact hcontact ▸ hc.present .contact id' hlive
  | newContact row htype hnew hid ht hkeeps =>
    exact hc.contact hgrounded (opening_newContact htype hnew) hkeeps fun id' =>
      isSome_lookup_of_insert ht hid
  | @delete type id hlive hrow hunlinked =>
    have hlive : Live db.toDatabase type id := hc.rows type id hrow
    have hreferences := hc.toReferences.delete hmarks hlive hunlinked
    refine ⟨hgrounded, hreferences, fun type' id' hlive' => ?_, ?_,
      fun id' => (zoneReadable_erased (hc.zones id')).same⟩
    · obtain ⟨hlive', hne⟩ := live_unregistered.mp hlive'
      refine hasRow_of_same (hasRow_erased.mpr ⟨hc.present type' id' ?_, fun _ => hne⟩) rfl
      exact (live_congr registry_erased).mp hlive'
    · refine (hc.registration.congr registry_erased ?_ ?_ fun id' hid => ?_).unregistered
      · cases type <;> rfl
      · cases type <;> rfl
      · cases type <;> exact hid
  | @states requests os hos =>
    refine ⟨hgrounded, ?_, fun type' id' hlive => ?_, ?_, fun id' => (hc.zones id').same⟩
    · have hrequests : References { db with toDatabase := { db.toDatabase with requests := requests } } :=
        hc.toReferences.congr rfl rfl rfl
      refine ⟨hrequests.owners, hrequests.linked, hrequests.linkedState, ?_⟩
      rcases hos with rfl | ⟨objectId, rfl⟩
      · exact hrequests.marked
      · exact hmarks.updated _ objectId hrequests.marked hrequests.linkedState
    · exact hasRow_of_same (hc.present type' id' hlive) rfl
    · exact hc.registration.congr rfl rfl rfl fun _ hid => hid
  | @passwords d hprepares =>
    have hregistry : d.objectRegistry = db.objectRegistry := by rw [hprepares.rest]
    refine ⟨hgrounded, ?_, fun type' id' hlive => ?_, hc.registration.prepares hprepares,
      fun id' => (hc.zones id').same⟩
    · exact hc.toReferences.congr hregistry (by rw [hprepares.rest]) (by rw [hprepares.rest])
    · refine hasRow_of_same (hc.present type' id' ((live_congr hregistry).mp hlive)) ?_
      rw [hprepares.rest]
  | rollback hseq =>
    refine ⟨hgrounded, ?_, fun type' id' hlive => ?_, hc.registration.congr rfl rfl rfl fun _ hid => hid,
      fun id' => (hc.zones id').same⟩
    · have h := hc.toReferences
      exact ⟨fun part r hmem => h.owners part r (by cases part <;> exact hmem), h.linked, h.linkedState, h.marked⟩
    · exact hasRow_of_same (hc.present type' id' hlive) rfl
  | elsewhere now hregistrar hzone =>
    refine ⟨hgrounded, ?_, fun type' id' hlive => ?_, hc.registration.congr rfl rfl rfl hregistrar,
      fun id' => (hc.zones id').congr (fun d hd => ⟨d, hd, rfl⟩) (·) hzone⟩
    · have h := hc.toReferences
      exact ⟨fun part r hmem => h.owners part r (by cases part <;> exact hmem), h.linked, h.linkedState, h.marked⟩
    · exact hasRow_of_same (hc.present type' id' hlive) rfl

theorem Changes.consistent (h : Changes procedures db db') (hmarks : MarksLinked procedures)
    (hc : Consistent db) : Consistent db' := by
  induction h with
  | refl => exact hc
  | tail _ hchange ih => exact hchange.consistent hmarks ih

theorem Consistent.registered (h : Consistent db) (hlive : Live db.toDatabase type id) :
    Registered db.toDatabase type id := by
  obtain ⟨obj, hobj⟩ := Option.isSome_iff_exists.mp (h.registration.objects type id hlive)
  obtain ⟨o, ho, rfl, herdate⟩ := hlive
  exact ⟨⟨o, ho, rfl, h.registration.found o (Table.lookup_eq_some.mp ho).1, herdate⟩,
    obj, hobj, h.registration.sponsors obj (Table.lookup_eq_some.mp hobj).1⟩

theorem mem_owners {link : Link} : id ∈ link.owners db ↔ HasRow db link.objectType id := by
  have hmem {ρ : Type} [Keyed ρ Nat] {t : Table ρ} : id ∈ t.rows.map Keyed.key ↔ (t.lookup id).isSome := by
    rw [isSome_lookup_eq, decide_eq_true_iff]
  cases link <;> exact hmem

/-- What a merge of contacts relies on. -/
theorem Consistent.linkConsistent (h : Consistent db) (link : Link) : LinkConsistent link db where
  uniqueNames := h.registration.uniqueNames
  contacts c hmem := by
    have hrow : HasRow db .contact c.id :=
      Option.isSome_of_eq_some (Table.lookup_eq_some.mpr ⟨hmem, rfl⟩)
    obtain ⟨o, ho, htype, -⟩ := h.rows .contact c.id hrow
    exact ⟨o, ho, htype⟩
  owners id hid := h.registered (h.rows _ id (mem_owners.mp hid))
  owned x hx := by
    refine mem_owners.mpr (h.present _ x.1 ?_)
    cases link with
    | registrant =>
      obtain ⟨r, hr, rfl⟩ := List.mem_map.mp hx
      exact h.owners .domain r hr
    | admin =>
      obtain ⟨r, hr, rfl⟩ := List.mem_map.mp hx
      exact h.owners .domainContactMap r hr
    | nssetTech =>
      obtain ⟨r, hr, rfl⟩ := List.mem_map.mp hx
      exact h.owners .nssetContactMap r hr
    | keysetTech =>
      obtain ⟨r, hr, rfl⟩ := List.mem_map.mp hx
      exact h.owners .keysetContactMap r hr

section Marking

/-- The objects that others refer to. -/
def linkedIds (db : ObjectDatabase) : List Nat :=
  db.domain.rows.map (·.registrant) ++ db.domainContactMap.rows.map (·.contactid) ++
    db.nssetContactMap.rows.map (·.contactid) ++ db.keysetContactMap.rows.map (·.contactid) ++
    db.domain.rows.filterMap (·.nsset) ++ db.domain.rows.filterMap (·.keyset)

theorem mem_linkedIds (h : Linked db type id) : id ∈ linkedIds db := by
  simp only [linkedIds, List.mem_append, List.mem_map, List.mem_filterMap]
  cases type with
  | contact =>
    rcases h with h | h | h | h
    · exact .inl (.inl (.inl (.inl (.inl h))))
    · exact .inl (.inl (.inl (.inl (.inr h))))
    · exact .inl (.inl (.inl (.inr h)))
    · exact .inl (.inl (.inr h))
  | domain => exact h.elim
  | nsset => exact .inl (.inr h)
  | keyset => exact .inr h

/-- The object gets the state linked, from now on, unless it has it. -/
def mark (d : Database) (id : Nat) : Database :=
  match d.enumObjectStates.rows.find? (·.name = "linked") with
  | some e =>
    if objectHasState d id "linked" then d
    else
      match d.objectState.insert? ⟨(d.objectState.rows.map (·.id)).max?.getD 0 + 1, id, e.id, d.now, none⟩ with
      | some t => { d with objectState := t }
      | none => d
  | none => d

/-- A state is added, if anything. -/
theorem mark_cases (d : Database) (id : Nat) : mark d id = d ∨
    ∃ e t row, e ∈ d.enumObjectStates ∧ e.name = "linked" ∧ d.objectState.insert? row = some t ∧
      row.objectId = id ∧ row.stateId = e.id ∧ row.validTo = none ∧
      mark d id = { d with objectState := t } := by
  unfold mark
  split
  · rename_i e he
    split
    · exact .inl rfl
    · split
      · rename_i t ht
        have hname := List.find?_some he
        exact .inr ⟨e, t, _, List.mem_of_find?_eq_some he, of_decide_eq_true hname, ht, rfl, rfl, rfl, rfl⟩
      · exact .inl rfl
  · exact .inl rfl

theorem mark_rest (d : Database) (id : Nat) : mark d id = { d with objectState := (mark d id).objectState } := by
  rcases mark_cases d id with h | ⟨e, t, row, -, -, -, -, -, -, h⟩
  · rw [h]
  · rw [h]

theorem objectHasState_iff {state : String} : objectHasState d id state = true ↔
    ∃ os ∈ d.objectState, os.objectId = id ∧ os.validTo = none ∧
      (d.enumObjectStates.lookup os.stateId).map (·.name) = some state := by
  unfold objectHasState
  rw [decide_eq_true_iff, ne_eq, List.eq_nil_iff_forall_not_mem, not_forall_not]
  exact exists_congr fun os => Table.mem_select

theorem mark_keeps {state : String} (h : objectHasState d id state = true) :
    objectHasState (mark d id') id state = true := by
  rcases mark_cases d id' with heq | ⟨e, t, row, -, -, ht, -, -, -, heq⟩
  · rwa [heq]
  · obtain ⟨os, hos, hstate⟩ := objectHasState_iff.mp h
    rw [heq]
    exact objectHasState_iff.mpr ⟨os, (Table.mem_of_insert? ht).mpr (.inl hos), hstate⟩

theorem mark_marks (h : ∃ e ∈ d.enumObjectStates, e.name = "linked") :
    objectHasState (mark d id) id "linked" = true := by
  unfold mark
  split
  · rename_i e he
    split
    · assumption
    · have hmem : e ∈ d.enumObjectStates := List.mem_of_find?_eq_some he
      have hname : e.name = "linked" := by simpa using List.find?_some he
      split
      · rename_i t ht
        refine objectHasState_iff.mpr ⟨_, (Table.mem_of_insert? ht).mpr (.inr rfl), rfl, rfl, ?_⟩
        have hlookup : d.enumObjectStates.lookup e.id = some e := Table.lookup_eq_some.mpr ⟨hmem, rfl⟩
        rw [hlookup, Option.map_some, hname]
      · rename_i hnone
        have hfresh : ∀ os ∈ d.objectState, Keyed.key os ≠ (d.objectState.rows.map (·.id)).max?.getD 0 + 1 :=
          fun os hos => (Nat.lt_succ_of_le (List.le_max?_getD_of_mem (List.mem_map_of_mem hos))).ne
        obtain ⟨t, ht⟩ := Table.exists_insert? (t := d.objectState)
          (r := ⟨(d.objectState.rows.map (·.id)).max?.getD 0 + 1, id, e.id, d.now, none⟩) hfresh
        cases hnone.symm.trans ht
  · rename_i hnone
    obtain ⟨e, he, hname⟩ := h
    exact absurd (decide_eq_true hname) (List.find?_eq_none.mp hnone e he)

theorem mark_others {state : String} (hstate : state ≠ "linked") (objectId : Nat) :
    state ∈ getObjectStates (mark d id) objectId ↔ state ∈ getObjectStates d objectId := by
  rcases mark_cases d id with heq | ⟨e, t, row, he, hname, ht, -, hrow, -, heq⟩
  · rw [heq]
  · have hlookup : d.enumObjectStates.lookup e.id = some e := Table.lookup_eq_some.mpr ⟨he, rfl⟩
    rw [heq]
    simp only [getObjectStates, List.mem_filterMap, Table.mem_select, Table.mem_of_insert? ht]
    refine exists_congr fun os => and_congr_left fun hos => and_congr_left fun _ => or_iff_left ?_
    rintro rfl
    rw [hrow, hlookup, Option.map_some, hname] at hos
    exact hstate (Option.some.inj hos).symm

theorem foldl_mark_rest (ids : List Nat) (d : Database) :
    ids.foldl mark d = { d with objectState := (ids.foldl mark d).objectState } := by
  induction ids generalizing d with
  | nil => rfl
  | cons id ids ih =>
    rw [List.foldl_cons, ih (mark d id)]
    rw [mark_rest d id]

theorem foldl_mark_keeps {state : String} (ids : List Nat) (h : objectHasState d id state = true) :
    objectHasState (ids.foldl mark d) id state = true := by
  induction ids generalizing d with
  | nil => exact h
  | cons id' ids ih => exact ih (mark_keeps h)

theorem foldl_mark_marks {ids : List Nat} (h : ∃ e ∈ d.enumObjectStates, e.name = "linked")
    (hid : id ∈ ids) : objectHasState (ids.foldl mark d) id "linked" = true := by
  induction ids generalizing d with
  | nil => cases hid
  | cons id' ids ih =>
    rcases List.mem_cons.mp hid with rfl | hid
    · exact foldl_mark_keeps ids (mark_marks h)
    · refine ih ?_ hid
      rwa [mark_rest d id']

theorem foldl_mark_others {state : String} (hstate : state ≠ "linked") (ids : List Nat) (objectId : Nat) :
    state ∈ getObjectStates (ids.foldl mark d) objectId ↔ state ∈ getObjectStates d objectId := by
  induction ids generalizing d with
  | nil => rfl
  | cons id ids ih => exact ih.trans (mark_others hstate objectId)

/-- Triggers that mark whatever others refer to. -/
def markingProcedures : StateProcedures where
  triggered db := ((linkedIds db).foldl mark db.toDatabase).objectState
  updateObjectStates db _ := db.objectState
  triggered_derived db objectId state hstate := by
    have hother : state ≠ "linked" := fun h => hstate (h ▸ by decide)
    rw [← foldl_mark_rest]
    exact foldl_mark_others hother _ objectId

theorem marksLinked_markingProcedures : MarksLinked markingProcedures where
  triggered db' hmarked hstate hsame type id hlinked := by
    have hstate' : ∃ e ∈ db'.enumObjectStates, e.name = "linked" := by
      rw [hsame]
      exact hstate
    have hmark := foldl_mark_marks hstate' (mem_linkedIds hlinked)
    rw [foldl_mark_rest] at hmark
    exact hmark
  updated db objectId hmarked hstate := hmarked

end Marking

end LibFred.RegistrableObject
