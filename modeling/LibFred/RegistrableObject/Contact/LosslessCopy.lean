import LibFred.RegistrableObject.Contact.CopyContact
import LibFred.RegistrableObject.Contact.WrittenContacts

/-! A copy of a contact against the contact that was copied. -/
namespace LibFred.RegistrableObject.Contact

open Sql Overwrite
open LibFred.Db (Database ObjectRegistry ContactException CopyContactException Timestamp)
open LibFred.Object (CreateObjectProcedure liveObjects mem_liveObjects)

variable {db db' db'' : Database} {id dstId : Nat} {handle registrar : String}
  {procedure : CreateObjectProcedure} {localTime localTime' : Timestamp → Ptime} {op : CopyContact}
  {old info : InfoContactData} {result : CreateContactResult} {o : ObjectRegistry}

/-- Everything but the authinfos stays. -/
def KeepsRest (db db' : Database) : Prop :=
  db' = { db with objectAuthinfo := db'.objectAuthinfo, objectAuthinfoSeq := db'.objectAuthinfoSeq }

instance : Std.Refl KeepsRest := ⟨fun _ => rfl⟩

instance : IsTrans Database KeepsRest :=
  ⟨fun db db' db'' h h' => by
    rw [KeepsRest] at h h' ⊢
    rw [h', h]⟩

theorem moves_keepsRest_insertAuthinfos {rows : Database → List (Nat → Db.ObjectAuthinfo)} :
    Moves KeepsRest (Object.insertAuthinfos rows) := by
  refine moves_of_run (fun db u db' h => ?_) (fun db e db' h => ?_)
  all_goals
    simp only [Object.insertAuthinfos] at h
    split at h <;> cases h
    rfl

/-- The joined rows do not depend on the time zone that is asked for. -/
theorem infoContactRow_isSome :
    (infoContactRow localTime db o).isSome ↔ (infoContactRow localTime' db o).isSome := by
  simp only [Option.isSome_iff_exists, infoContactRow_eq_some]
  constructor
  · rintro ⟨_, obj, ct, h, clr, crr, hj, -⟩
    exact ⟨_, obj, ct, h, clr, crr, hj, rfl⟩
  · rintro ⟨_, obj, ct, h, clr, crr, hj, -⟩
    exact ⟨_, obj, ct, h, clr, crr, hj, rfl⟩

namespace CopyContact

theorem copyPasswords_ok (h : op.copyPasswords.run db = .ok dstId db') :
    KeepsRest db db' ∧ ∃ d, liveObjects db .contact op.dstContactHandle = [d] ∧ d.id = dstId := by
  obtain ⟨_, _, hget, h⟩ := run_bind_eq_ok.mp h
  obtain ⟨rfl, rfl⟩ := run_get_eq_ok.mp hget
  obtain ⟨_, db₁, hcopy, h⟩ := run_bind_eq_ok.mp h
  have hmoves : KeepsRest db db₁ :=
    (moves_mapM fun _ => moves_mapM fun _ => moves_keepsRest_insertAuthinfos).ok hcopy
  split at h
  · rename_i d hd
    obtain ⟨rfl, rfl⟩ := run_pure_eq_ok.mp h
    exact ⟨hmoves, d, hd, rfl⟩
  · cases h

theorem create_ok (h : (op.create procedure registrar old).run db = .ok result db') :
    (op.createContact registrar old).Creates result.objectId db db' := by
  rcases run_tryCatch_eq_ok.mp h with h | ⟨e, db₁, -, h⟩
  · exact CreateContact.exec_ok h
  · cases e with
    | contact e =>
      simp only at h
      split at h <;> cases h
    | _ => cases h

theorem readOnly_scalar {α : Type} {l : List α} : ReadOnly (scalar l : Db.Exec Bool) := by
  unfold scalar
  split
  · exact readOnly_pure
  · exact readOnly_pure
  · exact readOnly_throw

theorem scalar_ok {α : Type} {l : List α} {found : Bool} (h : (scalar l).run db = .ok found db')
    {a b : α} (ha : a ∈ l) (hb : b ∈ l) : a = b := by
  unfold scalar at h
  split at h
  · cases ha
  · rw [List.mem_singleton.mp ha, List.mem_singleton.mp hb]
  · cases h

theorem checkArgs_ok (h : op.checkArgs.run db = .ok () db') : db = db' ∧
    ∀ o ∈ liveObjects db .contact op.srcContactHandle,
      ∀ o' ∈ liveObjects db .contact op.srcContactHandle, o = o' := by
  obtain ⟨_, _, hget, h⟩ := run_bind_eq_ok.mp h
  obtain ⟨rfl, rfl⟩ := run_get_eq_ok.mp hget
  obtain ⟨src, _, hsrc, h⟩ := run_bind_eq_ok.mp h
  obtain rfl := readOnly_scalar.ok hsrc
  obtain ⟨dst, _, hdst, h⟩ := run_bind_eq_ok.mp h
  obtain rfl := readOnly_scalar.ok hdst
  obtain ⟨registrar, _, hregistrar, h⟩ := run_bind_eq_ok.mp h
  obtain rfl := readOnly_scalar.ok hregistrar
  obtain ⟨-, rfl⟩ := run_raiseIf_eq_ok.mp h
  exact ⟨rfl, fun o ho o' ho' => scalar_ok hsrc ho ho'⟩

theorem readOnly_getRegistrar : ReadOnly op.getRegistrar := by
  unfold getRegistrar
  split
  · exact readOnly_pure
  · exact readOnly_throw

/-- A copy that succeeds created a contact from what was read of the source, and copied authinfos. -/
structure Copies (op : CopyContact) (dstId : Nat) (old : InfoContactData) (registrar : String)
    (db db₁ db' : Database) : Prop where
  read : (infoContactByHandle utc op.srcContactHandle).run db = .ok old db
  single : ∀ o ∈ liveObjects db .contact op.srcContactHandle,
    ∀ o' ∈ liveObjects db .contact op.srcContactHandle, o = o'
  creates : (op.createContact registrar old).Creates dstId db db₁
  rest : KeepsRest db₁ db'

theorem exec_ok (h : (op.exec procedure).run db = .ok dstId db') :
    ∃ old registrar db₁, Copies op dstId old registrar db db₁ db' := by
  obtain ⟨_, _, hcheck, h⟩ := run_bind_eq_ok.mp h
  obtain ⟨rfl, hsingle⟩ := checkArgs_ok hcheck
  obtain ⟨old, _, hread, h⟩ := run_bind_eq_ok.mp h
  obtain rfl := (infoContactByHandle_ok.mp hread).2.symm
  obtain ⟨registrar, _, hregistrar, h⟩ := run_bind_eq_ok.mp h
  obtain rfl := readOnly_getRegistrar.ok hregistrar
  obtain ⟨result, db₁, hcreate, h⟩ := run_bind_eq_ok.mp h
  have hcreates := create_ok hcreate
  obtain ⟨hkeeps, d, hd, rfl⟩ := copyPasswords_ok h
  have hmem : d ∈ liveObjects db₁ .contact op.dstContactHandle := hd ▸ List.mem_singleton_self d
  obtain ⟨hd, htype, hname, herdate⟩ := mem_liveObjects.mp hmem
  have hid : d.id = result.objectId := hcreates.lives.only d hd ⟨hname, htype, herdate⟩
  rw [hid]
  exact ⟨old, registrar, db₁, hread, hsingle, hcreates, hkeeps⟩

end CopyContact

/-- What a contact says is the same in every time zone. -/
theorem infoContactByHandle_zone (localTime' : Timestamp → Ptime)
    (h : (infoContactByHandle localTime handle).run db = .ok old db) :
    ∃ info, (infoContactByHandle localTime' handle).run db = .ok info db ∧ info.data = old.data := by
  obtain ⟨⟨o, ho, hname, hrow, honly⟩, -⟩ := infoContactByHandle_ok.mp h
  obtain ⟨obj, ct, version, clr, crr, hj, rfl⟩ := infoContactRow_eq_some.mp hrow
  refine ⟨infoContactOf localTime' db o obj ct version clr crr, infoContactByHandle_ok.mpr
    ⟨⟨o, ho, hname, infoContactRow_eq_some.mpr ⟨_, _, _, _, _, hj, rfl⟩, ?_⟩, rfl⟩, rfl⟩
  intro o' ho' hname' hsome
  exact honly o' ho' hname' (infoContactRow_isSome.mp hsome)

/-- Other contacts are read as before when a contact is created. -/
theorem CreateContact.Creates.infoContactRow_other {create : CreateContact}
    (h : create.Creates id db db') (hid : o.id ≠ id)
    (hrow : infoContactRow localTime db o = some info) : infoContactRow localTime db' o = some info := by
  obtain ⟨obj, ct, version, clr, crr, hj, rfl⟩ := infoContactRow_eq_some.mp hrow
  obtain ⟨db₁, hcreated, heq⟩ := h.object
  have hregistrar : db'.registrar = db.registrar := by rw [heq, ← hcreated.registrar]
  have hssntype : db'.enumSsntype = db.enumSsntype := by rw [heq, ← hcreated.enumSsntype]
  have hobject : db'.object.lookup o.id = db.object.lookup o.id := by
    rw [heq, ← hcreated.otherObjects o.id hid]
  have haddresses : addressesOf db' o.id = addressesOf db o.id := by
    funext type
    rw [addressesOf, addressesOf, h.otherAddresses o.id hid type]
  obtain ⟨v, hv, hversion⟩ := Option.bind_eq_some_iff.mp hj.history
  refine infoContactRow_eq_some.mpr ⟨obj, ct, version, clr, crr, ?_, ?_⟩
  · exact {
      object := hobject.trans hj.object
      contact := (h.otherRows o.id hid).trans hj.contact
      history := by
        rw [hv, Option.bind_some, heq]
        exact hcreated.history v version hversion
      clr := by rw [hregistrar, hj.clr]
      crr := by rw [hregistrar, hj.crr]
      type := hj.type
      erdate := hj.erdate }
  · rw [infoContactOf, infoContactOf, haddresses, hregistrar, hssntype]

namespace CopyContact

variable {old : InfoContactData} {db₁ : Database}

/-- The arguments that a copy gives, apart from the flag of the address. -/
theorem lastGivenData_createContact : lastGivenData (op.createContact registrar old) [] =
    { old.data with discloseaddress := true } := by
  have hflag (b : Bool) : (flagToOptional b).getD false = b := by cases b <;> rfl
  have haddress (b : Bool) : (flagToOptional b).getD true = true := by cases b <;> rfl
  have haddresses : (addressesToOptional old.addresses).getD (fun _ => none) = old.addresses := by
    unfold addressesToOptional
    split
    · rename_i hnone
      funext type
      exact (hnone type).symm
    · rfl
  have hletter : (old.warningLetter.map some).join = old.warningLetter := by
    cases old.warningLetter <;> rfl
  simp only [lastGivenData, createContact, List.map_nil, lastGiven_nil, hflag, haddress, haddresses,
    hletter, InfoContactData.data]

/-- The type of identification that is read is spelled as the table spells it. -/
theorem ssntype_read (h : (infoContactByHandle localTime handle).run db = .ok old db) :
    ∀ text ∈ old.ssntype, ∃ t ∈ db.enumSsntype, t.type = text := by
  obtain ⟨⟨o, -, -, hrow, -⟩, -⟩ := infoContactByHandle_ok.mp h
  obtain ⟨obj, ct, version, clr, crr, -, rfl⟩ := infoContactRow_eq_some.mp hrow
  intro text htext
  obtain ⟨t, ht, rfl⟩ := Option.map_eq_some_iff.mp htext
  obtain ⟨n, -, ht⟩ := Option.bind_eq_some_iff.mp ht
  exact ⟨t, (Table.lookup_eq_some.mp ht).1, rfl⟩

theorem Copies.source (h : Copies op dstId old registrar db db₁ db')
    (hread : (infoContactByHandle localTime op.srcContactHandle).run db = .ok info db) :
    (infoContactByHandle localTime op.srcContactHandle).run db' = .ok info db' := by
  obtain ⟨⟨o, ho, hname, hrow, -⟩, -⟩ := infoContactByHandle_ok.mp hread
  obtain ⟨_, _, _, _, _, hj, -⟩ := infoContactRow_eq_some.mp hrow
  have hsrc : o ∈ liveObjects db .contact op.srcContactHandle :=
    mem_liveObjects.mpr ⟨ho, hj.type, hname, hj.erdate⟩
  obtain ⟨db₂, hcreated, heq⟩ := h.creates.object
  have hregistry : db₁.objectRegistry = db₂.objectRegistry := by rw [heq]
  have hid : o.id ≠ dstId := hcreated.new o ho
  obtain ⟨authinfos, seq, rfl⟩ : ∃ authinfos seq,
      db' = { db₁ with objectAuthinfo := authinfos, objectAuthinfoSeq := seq } := ⟨_, _, h.rest⟩
  refine infoContactByHandle_ok.mpr ⟨⟨o, ?_, hname, h.creates.infoContactRow_other hid hrow, ?_⟩, rfl⟩
  · have hlookup : db₁.objectRegistry.lookup o.id = some o := by
      rw [hregistry, hcreated.others o.id hid]
      exact Table.lookup_eq_some.mpr ⟨ho, rfl⟩
    exact (Table.lookup_eq_some.mp hlookup).1
  · intro o' ho' hname' hsome
    obtain ⟨_, hsome⟩ := Option.isSome_iff_exists.mp hsome
    obtain ⟨_, _, _, _, _, hj', -⟩ := infoContactRow_eq_some.mp hsome
    -- the handle of the copy was free, so what lives under that of the source is old
    have hid' : o'.id ≠ dstId := by
      rintro hid'
      obtain ⟨o'', ho'', hname'', -⟩ := hcreated.row
      have hlookup : db₁.objectRegistry.lookup dstId = some o' :=
        Table.lookup_eq_some.mpr ⟨ho', hid'⟩
      rw [hregistry, ho''] at hlookup
      obtain rfl := Option.some.inj hlookup
      have hfree : o ∈ liveObjects db .contact op.dstContactHandle :=
        mem_liveObjects.mpr ⟨ho, hj.type, hname.trans (hname'.symm.trans hname''), hj.erdate⟩
      have hnone : liveObjects db .contact op.dstContactHandle = [] := hcreated.free
      rw [hnone] at hfree
      cases hfree
    have hlookup : db.objectRegistry.lookup o'.id = some o' := by
      rw [← hcreated.others o'.id hid', ← hregistry]
      exact Table.lookup_eq_some.mpr ⟨ho', rfl⟩
    exact h.single o' (mem_liveObjects.mpr ⟨(Table.lookup_eq_some.mp hlookup).1, hj'.type, hname',
      hj'.erdate⟩) o hsrc

theorem Copies.copy (localTime : Timestamp → Ptime) (h : Copies op dstId old registrar db db₁ db') :
    ∃ dst, (infoContactByHandle localTime op.dstContactHandle).run db' = .ok dst db' ∧
      dst.id = dstId ∧ (dst.data = old.data ↔
        old.discloseaddress = true ∧ ∃ p ∈ old.place, ∃ c ∈ db.enumCountry, c.id = p.country) := by
  have hs := stored_create h.creates
  obtain ⟨db₂, hcreated, heq⟩ := h.creates.object
  have hcountry : db₁.enumCountry = db.enumCountry := by rw [heq, ← hcreated.enumCountry]
  have hssntype : db₁.enumSsntype = db.enumSsntype := by rw [heq, ← hcreated.enumSsntype]
  obtain ⟨authinfos, seq, rfl⟩ : ∃ authinfos seq,
      db' = { db₁ with objectAuthinfo := authinfos, objectAuthinfoSeq := seq } := ⟨_, _, h.rest⟩
  have hlives : Lives { db₁ with objectAuthinfo := authinfos, objectAuthinfoSeq := seq } dstId
      (upper op.dstContactHandle) := ⟨hs.lives.row, hs.lives.only, hs.lives.sponsored⟩
  obtain ⟨dst, hread, hid, -, hdata⟩ := hlives.infoContactByHandle localTime hs.row
  refine ⟨dst, hread, hid, ?_⟩
  have haddresses : dst.data = readData db₁.enumSsntype ((lastGivenData (op.createContact registrar
      old) []).row db₁.enumCountry db₁.enumSsntype dstId)
      (lastGivenData (op.createContact registrar old) []).addresses := by
    rw [hdata, ← hs.addresses]
    rfl
  have hplace : some (placeOf ((lastGivenData (op.createContact registrar old) []).row
      db₁.enumCountry db₁.enumSsntype dstId)) = (lastGivenData (op.createContact registrar old) []).place ↔
      _ := placeOf_row_eq_iff hs.country
  have htype := (typeOf_row_eq_iff hs.ssntype).mpr
  rw [haddresses, readData_row]
  rw [lastGivenData_createContact] at hplace htype ⊢
  rw [htype (hssntype ▸ ssntype_read h.read)]
  constructor
  · intro heq
    have hflag := congrArg ContactData.discloseaddress heq
    exact ⟨hflag.symm, hcountry ▸ hplace.mp (congrArg ContactData.place heq)⟩
  · rintro ⟨hflag, hcode⟩
    rw [hplace.mpr (hcountry ▸ hcode)]
    have hflag : old.data.discloseaddress = true := hflag
    simp only [← hflag]

/-- A copy says what its source says exactly when the source discloses its address and its country
is a code; the source stays as it was. -/
theorem copy_lossless_iff (h : (op.exec procedure).run db = .ok dstId db') :
    ∃ src dst, (infoContactByHandle localTime op.srcContactHandle).run db = .ok src db ∧
      (infoContactByHandle localTime op.srcContactHandle).run db' = .ok src db' ∧
      (infoContactByHandle localTime op.dstContactHandle).run db' = .ok dst db' ∧ dst.id = dstId ∧
      (dst.data = src.data ↔
        src.discloseaddress = true ∧ ∃ p ∈ src.place, ∃ c ∈ db.enumCountry, c.id = p.country) := by
  obtain ⟨old, registrar, db₁, hcopies⟩ := exec_ok h
  obtain ⟨src, hread, hdata⟩ := infoContactByHandle_zone localTime hcopies.read
  obtain ⟨dst, hdst, hid, hiff⟩ := hcopies.copy localTime
  refine ⟨src, dst, hread, hcopies.source hread, hdst, hid, ?_⟩
  have hflag : src.discloseaddress = old.discloseaddress := congrArg ContactData.discloseaddress hdata
  have hplace : src.place = old.place := congrArg ContactData.place hdata
  rw [hdata, hflag, hplace]
  exact hiff

def sampleCopy : CopyContact := ⟨"written", "copied", some "REG-WRITER", 0⟩

/-- A contact with a place whose address is disclosed or not. -/
def disclosingContact (discloseaddress : Bool) : CreateContact :=
  { writtenContact (some writtenPlace) with discloseaddress := some discloseaddress }

def disclosingDb (discloseaddress : Bool) : Database :=
  transaction ((disclosingContact discloseaddress).exec .sequential utc) writtenTables

def copiedDb (discloseaddress : Bool) : Database :=
  transaction (sampleCopy.exec .sequential) (disclosingDb discloseaddress)

theorem written_disclosingDb (discloseaddress : Bool) :
    Written .sequential (disclosingContact discloseaddress) 1 [] (disclosingDb discloseaddress) := by
  have hrun : ((disclosingContact discloseaddress).exec .sequential utc).run writtenTables =
      .ok ⟨1, 1, .time 0⟩ (disclosingDb discloseaddress) := by
    cases discloseaddress with
    | false => rfl
    | true => rfl
  exact .create hrun

theorem copy_lossless_iff_sampleCopy :
    ∃ src dst, (infoContactByHandle utc sampleCopy.srcContactHandle).run (disclosingDb true) =
        .ok src (disclosingDb true) ∧
      (infoContactByHandle utc sampleCopy.srcContactHandle).run (copiedDb true) =
        .ok src (copiedDb true) ∧
      (infoContactByHandle utc sampleCopy.dstContactHandle).run (copiedDb true) =
        .ok dst (copiedDb true) ∧ dst.id = 2 ∧
      (dst.data = src.data ↔ src.discloseaddress = true ∧
        ∃ p ∈ src.place, ∃ c ∈ (disclosingDb true).enumCountry, c.id = p.country) := by
  have hrun : (sampleCopy.exec .sequential).run (disclosingDb true) = .ok 2 (copiedDb true) :=
    run_of_returns (by decide +kernel)
  exact copy_lossless_iff hrun

/-- The copy of a contact that hides its address discloses it. -/
theorem not_copy_lossless :
    ¬ ∀ (procedure : CreateObjectProcedure) (op : CopyContact) (dstId : Nat) (db db' : Database),
      (op.exec procedure).run db = .ok dstId db' →
        ∃ src dst, (infoContactByHandle utc op.srcContactHandle).run db = .ok src db ∧
          (infoContactByHandle utc op.dstContactHandle).run db' = .ok dst db' ∧ dst.data = src.data := by
  intro h
  have hrun : (sampleCopy.exec .sequential).run (disclosingDb false) = .ok 2 (copiedDb false) :=
    run_of_returns (by decide +kernel)
  obtain ⟨src, dst, hsrc, hdst, hdata⟩ := h _ _ _ _ _ hrun
  obtain ⟨old, registrar, db₁, hcopies⟩ := exec_ok hrun
  obtain ⟨rfl, -⟩ := EStateM.Result.ok.inj (hcopies.read.symm.trans hsrc)
  obtain ⟨dst', hdst', -, hiff⟩ := hcopies.copy utc
  obtain ⟨rfl, -⟩ := EStateM.Result.ok.inj (hdst'.symm.trans hdst)
  have hs := (written_disclosingDb false).stored
  obtain ⟨info, hread, -, -, hinfo⟩ := hs.lives.infoContactByHandle utc hs.row
  obtain ⟨rfl, -⟩ := EStateM.Result.ok.inj (hread.symm.trans hsrc)
  have hhidden : info.discloseaddress = false := congrArg ContactData.discloseaddress hinfo
  exact absurd ((hiff.mp hdata).1.symm.trans hhidden) (by simp)

end CopyContact

end LibFred.RegistrableObject.Contact
