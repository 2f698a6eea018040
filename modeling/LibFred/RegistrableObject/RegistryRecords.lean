import LibFred.RegistrableObject.RegistryConsistency
import LibFred.RegistrableObject.RegistrySteps

/-! What a version has kept is read as the object itself was read while it was in this version. -/
namespace LibFred.RegistrableObject

open Sql
open LibFred.Db
open LibFred.RegistrableObject.Contact (infoContactById infoContactById_ok infoContactOf infoContactRow
  infoContactRow_eq_some)
open Versioning (Store)

variable {procedures : StateProcedures} {type : Db.ObjectType} {id historyId : Nat}
  {db db' : ObjectDatabase} {d d' : Database}

section Persists

/-- Registered objects stay what they are: they get new versions until they are deleted. -/
def KeepsRegistered (d d' : Database) : Prop :=
  ∀ id, ∀ o ∈ d.objectRegistry.lookup id, ∃ o' ∈ d'.objectRegistry.lookup id,
    o' = { o with erdate := o'.erdate, historyid := o'.historyid } ∧ (o.erdate ≠ none → o' = o)

instance : Std.Refl KeepsRegistered := ⟨fun _ _ o ho => ⟨o, ho, rfl, fun _ => rfl⟩⟩

instance : IsTrans Database KeepsRegistered where
  trans d d' d'' h h' id o ho := by
    obtain ⟨o', ho', heq, hdeleted⟩ := h id o ho
    obtain ⟨o'', ho'', heq', hdeleted'⟩ := h' id o' ho'
    refine ⟨o'', ho'', heq'.trans (by rw [heq]), fun herdate => ?_⟩
    have hsame : o' = o := hdeleted herdate
    exact (hdeleted' (hsame ▸ herdate)).trans hsame

theorem keepsRegistered_of_eq (h : d'.objectRegistry = d.objectRegistry) : KeepsRegistered d d' := by
  intro id o ho
  exact ⟨o, h ▸ ho, rfl, fun _ => rfl⟩

/-- Whatever is registered, and whatever versions refer to, stays. -/
structure Persists (db db' : ObjectDatabase) : Prop where
  registered : KeepsRegistered db.toDatabase db'.toDatabase
  history : ∀ v row, db.history.lookup v = some row → db'.history.lookup v = some row
  registrar : ∀ id, (db.registrar.lookup id).isSome → (db'.registrar.lookup id).isSome
  zone : KeepsZones db.zone db'.zone

instance : Std.Refl Persists :=
  ⟨fun _ => ⟨refl_of _ _, fun _ _ => (·), fun _ => (·), refl_of _ _⟩⟩

instance : IsTrans ObjectDatabase Persists where
  trans _ _ _ h h' := ⟨trans_of _ h.registered h'.registered,
    fun v row hrow => h'.history v row (h.history v row hrow),
    fun id hid => h'.registrar id (h.registrar id hid), trans_of _ h.zone h'.zone⟩

theorem persists_of_same (hregistry : db'.objectRegistry = db.objectRegistry)
    (hhistory : db'.history = db.history) (hregistrar : db'.registrar = db.registrar)
    (hzone : db'.zone = db.zone) : Persists db db' :=
  ⟨keepsRegistered_of_eq hregistry, fun v row hrow => by rwa [hhistory], fun id hid => by rwa [hregistrar],
    hzone ▸ refl_of KeepsZones _⟩

theorem Opening.keepsRegistered (h : Opening type id historyId d d') : KeepsRegistered d d' := by
  intro id' o ho
  by_cases hid : id' = id
  · subst hid
    cases h with
    | renewed hlive hversion =>
      obtain ⟨o', ho', -, herdate⟩ := hlive
      obtain rfl : o' = o := Option.some.inj (ho'.symm.trans ho)
      refine ⟨{ o' with historyid := some historyId }, ?_, rfl, fun hdeleted => absurd herdate hdeleted⟩
      rw [hversion.lookup_registry, if_pos rfl, Option.mem_def.mp ho]
      rfl
    | created op _ _ hnew =>
      obtain ⟨hmem, hkey⟩ := Table.lookup_eq_some.mp ho
      exact absurd hkey (hnew.new o hmem)
  · exact ⟨o, (h.lookup_other hid).trans ho, rfl, fun _ => rfl⟩

theorem Opening.keepsHistory (h : Opening type id historyId d d') (v : Nat) (row : Db.History)
    (hrow : d.history.lookup v = some row) : d'.history.lookup v = some row := by
  cases h with
  | renewed hlive hversion =>
    obtain ⟨d₁, hprepares, hrecords⟩ := hversion
    obtain ⟨requestId, t, ht, rfl⟩ := hrecords.rest
    have hhistory : d₁.history = d.history := by rw [hprepares.rest]
    obtain ⟨hmem, hkey⟩ := Table.lookup_eq_some.mp hrow
    have hmem' := (Table.mem_of_insert? ht).mpr (.inl (hhistory ▸ hmem))
    exact Table.lookup_eq_some.mpr ⟨hmem', hkey⟩
  | created op _ _ hnew => exact hnew.history v row hrow

theorem Opening.persists (h : Opening type id historyId db.toDatabase d)
    (hdatabase : db'.toDatabase = { d with
      contact := db'.contact
      contactAddress := db'.contactAddress
      contactIdentity := db'.contactIdentity
      requests := db'.requests
      objectState := db'.objectState })
    (hzone : db'.zone = db.zone) : Persists db db' := by
  have hregistrar : d.registrar = db.registrar := by rw [h.rest]
  refine ⟨trans_of _ h.keepsRegistered (keepsRegistered_of_eq ?_), fun v row hrow => ?_, fun id' hid => ?_,
    hzone ▸ refl_of KeepsZones _⟩
  · rw [hdatabase]
  · rw [hdatabase]
    exact h.keepsHistory v row hrow
  · rw [hdatabase]
    exact hregistrar ▸ hid

theorem Change.persists (h : Change procedures db db') : Persists db db' := by
  cases h with
  | object hopening hwrites hzone hcopies =>
    refine hopening.persists (by rw [hcopies.toDatabase, hwrites.toDatabase]) ?_
    rw [hcopies.rest]
    exact hwrites.zone
  | contact hlive hversion hkeeps =>
    exact (Opening.renewed hlive hversion).persists (by rw [hkeeps.rest]) rfl
  | newContact row htype hnew hid ht hkeeps =>
    exact (opening_newContact htype hnew).persists (by rw [hkeeps.rest]) rfl
  | @delete type id hlive hrow hunlinked =>
    have hregistry : (erased procedures db id type).objectRegistry = db.objectRegistry := registry_erased
    have hnow : (erased procedures db id type).now = db.now := by cases type <;> rfl
    refine ⟨fun id' o ho => ?_, fun v row hversion => ?_, fun id' hid => ?_, ?_⟩
    · by_cases hid : id' = id
      · subst hid
        obtain ⟨o', ho', herdate⟩ := hlive
        obtain rfl : o' = o := Option.some.inj (ho'.symm.trans ho)
        refine ⟨{ o' with erdate := some db.now }, ?_, rfl, fun hdeleted => absurd herdate hdeleted⟩
        rw [Option.mem_def, lookup_unregistered, if_pos rfl, hregistry, Option.mem_def.mp ho, hnow]
        rfl
      · refine ⟨o, ?_, rfl, fun _ => rfl⟩
        rw [Option.mem_def, lookup_unregistered, if_neg hid, hregistry]
        exact ho
    · cases type <;> exact hversion
    · cases type <;> exact hid
    · cases type <;> exact refl_of KeepsZones _
  | states requests hos => exact persists_of_same rfl rfl rfl rfl
  | @passwords d hprepares =>
    have hregistry : d.objectRegistry = db.objectRegistry := by rw [hprepares.rest]
    have hhistory : d.history = db.history := by rw [hprepares.rest]
    have hregistrar : d.registrar = db.registrar := by rw [hprepares.rest]
    exact persists_of_same hregistry hhistory hregistrar rfl
  | rollback hseq => exact persists_of_same rfl rfl rfl rfl
  | elsewhere now hregistrar hzone => exact ⟨keepsRegistered_of_eq rfl, fun _ _ => (·), hregistrar, hzone⟩

theorem Changes.persists (h : Changes procedures db db') : Persists db db' := by
  induction h with
  | refl => exact refl_of _ db
  | tail _ hchange ih => exact trans_of _ ih hchange.persists

end Persists

section Kept

end Kept

section Read

variable {order : InfoOrder}

end Read

section Agreement

variable {order : InfoOrder}

end Agreement

section Readable

variable {order : InfoOrder}

theorem registered_of_live (hc : Consistent db) (hlive : Live db.toDatabase type id) :
    ∃ object, registered db id type = some object := by
  obtain ⟨obj, hobj⟩ := Option.isSome_iff_exists.mp (hc.registration.objects type id hlive)
  obtain ⟨o, ho, rfl, herdate⟩ := hlive
  obtain ⟨hmem, rfl⟩ := Table.lookup_eq_some.mp ho
  obtain ⟨version, hversion⟩ := Option.isSome_iff_exists.mp (hc.registration.versions o hmem)
  obtain ⟨clr, hclr⟩ := Option.isSome_iff_exists.mp
    (hc.registration.sponsors obj (Table.lookup_eq_some.mp hobj).1)
  obtain ⟨crr, hcrr⟩ := Option.isSome_iff_exists.mp (hc.registration.creators o hmem)
  refine ⟨objectContents o obj version, ?_⟩
  simp [registered, Option.mem_def.mp ho, hobj, hversion, hclr, hcrr, herdate]

theorem infoNssetById_isSome (hc : Consistent db) :
    (infoNssetById order db id).isSome ↔ Live db.toDatabase .nsset id := by
  constructor
  · intro h
    obtain ⟨contents, hcontents⟩ := Option.isSome_iff_exists.mp h
    obtain ⟨o, ho, -⟩ := Option.bind_eq_some_iff.mp hcontents
    exact live_of_registered ho
  · intro hlive
    obtain ⟨o, ho⟩ := registered_of_live hc hlive
    obtain ⟨n, hn⟩ := Option.isSome_iff_exists.mp (hc.present .nsset id hlive)
    simp [infoNssetById, currentNsset, ho, hn]

theorem infoKeysetById_isSome (hc : Consistent db) :
    (infoKeysetById order db id).isSome ↔ Live db.toDatabase .keyset id := by
  constructor
  · intro h
    obtain ⟨contents, hcontents⟩ := Option.isSome_iff_exists.mp h
    obtain ⟨o, ho, -⟩ := Option.bind_eq_some_iff.mp hcontents
    exact live_of_registered ho
  · intro hlive
    obtain ⟨o, ho⟩ := registered_of_live hc hlive
    obtain ⟨k, hk⟩ := Option.isSome_iff_exists.mp (hc.present .keyset id hlive)
    simp [infoKeysetById, currentKeyset, ho, hk]

theorem infoDomainById_isSome (hc : Consistent db) :
    (infoDomainById order db id).isSome ↔ Live db.toDatabase .domain id := by
  constructor
  · intro h
    obtain ⟨contents, hcontents⟩ := Option.isSome_iff_exists.mp h
    obtain ⟨o, ho, -⟩ := Option.bind_eq_some_iff.mp hcontents
    exact live_of_registered ho
  · intro hlive
    obtain ⟨o, ho⟩ := registered_of_live hc hlive
    obtain ⟨d, hd⟩ := Option.isSome_iff_exists.mp (hc.present .domain id hlive)
    obtain ⟨z, hz, hvalidated⟩ := hc.zones id d hd
    obtain ⟨hmem, -⟩ := Table.lookup_eq_some.mp hd
    obtain ⟨cor, hcor, -⟩ := hc.linked .contact d.registrant (.inl ⟨d, hmem, rfl⟩)
    have hvalidation : ∃ validation, readValidation z.isEnum (db.enumval.lookup id) = some validation := by
      unfold readValidation
      split
      · rename_i henum
        obtain ⟨ev, hev⟩ := Option.isSome_iff_exists.mp (hvalidated henum)
        exact ⟨_, by rw [hev]; rfl⟩
      · exact ⟨none, rfl⟩
    obtain ⟨validation, hvalidation⟩ := hvalidation
    simp [infoDomainById, currentDomain, DomainRows.read, ho, hd, Option.mem_def.mp hcor,
      Option.mem_def.mp hz, hvalidation]

theorem infoContactById_iff (hc : Consistent db) {localTime : Timestamp → Ptime} :
    (∃ info, (infoContactById localTime id).run db.toDatabase = .ok info db.toDatabase) ↔
      Live db.toDatabase .contact id := by
  constructor
  · rintro ⟨info, h⟩
    obtain ⟨⟨o, ho, rfl, hrow, -⟩, -⟩ := infoContactById_ok.mp h
    obtain ⟨_, _, _, _, _, hjoined, -⟩ := infoContactRow_eq_some.mp hrow
    exact ⟨o, Table.lookup_eq_some.mpr ⟨ho, rfl⟩, hjoined.type, hjoined.erdate⟩
  · intro hlive
    obtain ⟨o, ho⟩ := registered_of_live hc hlive
    obtain ⟨ct, hct⟩ := Option.isSome_iff_exists.mp (hc.present .contact id hlive)
    simp only [registered, Option.bind_eq_bind, Option.bind_eq_some_iff (x := db.object.lookup _),
      Option.bind_eq_some_iff (x := db.objectRegistry.lookup _), Option.bind_eq_some_iff] at ho
    obtain ⟨obr, hobr, obj, hobj, version, hversion, clr, hclr, crr, hcrr, _, hguard, -⟩ := ho
    obtain ⟨htype, herdate⟩ := (Option.guard_eq_some' _).mp hguard
    obtain ⟨hmem, rfl⟩ := Table.lookup_eq_some.mp hobr
    have hrow : infoContactRow localTime db.toDatabase obr = some
        (infoContactOf localTime db.toDatabase obr obj ct version clr crr) :=
      infoContactRow_eq_some.mpr ⟨obj, ct, version, clr, crr,
        ⟨hobj, hct, Option.bind_eq_some_iff.mpr hversion, hclr, hcrr, htype, herdate⟩, rfl⟩
    exact ⟨_, infoContactById_ok.mpr ⟨⟨obr, hmem, rfl, hrow, fun o' ho' hid _ =>
      Table.eq_of_key_eq ho' hmem hid⟩, rfl⟩⟩

end Readable

end LibFred.RegistrableObject
