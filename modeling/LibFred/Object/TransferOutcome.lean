import LibFred.Object.AuthinfoRevocation
import LibFred.RegistrableObject.Contact.ContactRows
import LibFred.Sql.Ends

/-! When a transfer succeeds, and what it changes then. -/
namespace LibFred.Object

open Sql
open LibFred.Db (Database ObjectAuthinfo ObjectRegistry Timestamp Exec)
open LibFred.RegistrableObject.Contact (LiveContact Joined infoContactByHandle infoContactRow
  infoContactOf infoContactRow_eq_some)

variable {storage : PasswordStorage} {localTime : Timestamp → Ptime} {op : TransferObject}
  {db db' s : Database} {a a' : ObjectAuthinfo} {t : Table ObjectAuthinfo} {objectId n : Nat}
  {plaintext handle : String} {rows : List ObjectAuthinfo}

/-- What the unique indexes, the foreign keys and the sequences of the database guarantee. -/
structure Consistent (db : Database) : Prop where
  registrarHandle : ∀ r ∈ db.registrar, ∀ r' ∈ db.registrar, r.handle = r'.handle → r = r'
  contactName : ∀ o ∈ db.objectRegistry, ∀ o' ∈ db.objectRegistry,
    LiveContact o.name o → LiveContact o.name o' → o = o'
  contactRows : ∀ o ∈ db.objectRegistry, LiveContact o.name o →
    ∃ obj ct h clr crr, Joined db o obj ct h clr crr
  historyId : ∀ h ∈ db.history, h.id < db.historySeq

/-- The password fits an active authinfo of the object. -/
def PasswordFits (storage : PasswordStorage) (plaintext : String) (db : Database) (objectId : Nat) :
    Prop :=
  ∃ a ∈ activeAuthinfos db objectId, Fits storage plaintext a

/-- The object is an enabled contact that exists. -/
def EnabledContact (op : TransferObject) (db : Database) (id : Nat) : Prop :=
  ∃ handle ∈ op.enabledContacts, ∃ o ∈ db.objectRegistry, LiveContact (upper handle) o ∧ o.id = id

/-- The object may be transferred to the registrar, who has the handle. -/
structure Transferable (storage : PasswordStorage) (op : TransferObject) (db : Database)
    (registrarId : Nat) : Prop where
  registrar : ∃ r ∈ db.registrar, r.handle = upper op.newRegistrarHandle ∧ r.id = registrarId
  object : isRegistered db op.objectId
  sponsor : ∃ o, db.object.lookup op.objectId = some o ∧ o.clid ≠ registrarId
  password : PasswordFits storage op.authinfopw db op.objectId ∨
    ∃ id, EnabledContact op db id ∧ PasswordFits storage op.authinfopw db id

/-- What a transfer makes of an authinfo of the state `db` that it begins in. -/
inductive AuthinfoChange (storage : PasswordStorage) (op : TransferObject) (db : Database)
    (a : ObjectAuthinfo) : ObjectAuthinfo → Prop
  | kept : AuthinfoChange storage op db a a
  | used (n : Nat) : EnabledContact op db a.objectId → Usable a → db.now < a.expiresAt →
      Fits storage op.authinfopw a → a.useCount < n →
      AuthinfoChange storage op db a { a with useCount := n }
  | canceled (n : Nat) : a.objectId = op.objectId → Usable a → db.now < a.expiresAt →
      a.useCount ≤ n →
      AuthinfoChange storage op db a (ObjectAuthinfo.cancel db.now { a with useCount := n })

def AuthinfosChange (storage : PasswordStorage) (op : TransferObject) (db : Database)
    (t : Table ObjectAuthinfo) : Prop :=
  List.Forall₂ (AuthinfoChange storage op db) db.objectAuthinfo.rows t.rows

/-- What a successful transfer to the registrar has changed: who sponsors the object since when, its
version, and authinfos. -/
def Transferred (storage : PasswordStorage) (op : TransferObject) (db : Database)
    (registrarId historyId : Nat) (db' : Database) : Prop :=
  ∃ history authinfos,
    db.history.insert? ⟨historyId, db.historyUuid historyId, op.logdRequestId⟩ = some history ∧
      AuthinfosChange storage op db authinfos ∧ historyId = db.historySeq ∧
      db' = { db with
        object := db.object.update (·.id = op.objectId)
          fun o => { o with trdate := some db.now, clid := registrarId }
        objectRegistry := db.objectRegistry.update (·.id = op.objectId)
          (fun o => { o with historyid := some historyId }) (key_historyid historyId)
        objectHistory := db.objectHistory ++ (db.object.select (·.id = op.objectId)).map
          fun o => ⟨historyId, { o with trdate := some db.now, clid := registrarId }⟩
        history := history
        historySeq := historyId + 1
        objectAuthinfo := authinfos }

theorem AuthinfoChange.id (h : AuthinfoChange storage op db a a') : a'.id = a.id := by
  cases h <;> rfl

/-- The password of an authinfo that is still usable has not changed. -/
theorem AuthinfoChange.usable (h : AuthinfoChange storage op db a a') (hu : Usable a') :
    Usable a ∧ ∃ n, a' = { a with useCount := n } ∧ a.useCount ≤ n := by
  cases h with
  | kept => exact ⟨hu, a.useCount, rfl, le_rfl⟩
  | used n henabled husable hexpires hfits hn => exact ⟨husable, n, rfl, hn.le⟩
  | canceled n hobject husable hexpires hn => exact absurd hu not_usable_cancel

theorem AuthinfoChange.use (h : AuthinfoChange storage op db a a') (hu : Usable a')
    (hexpires : db.now < a.expiresAt) (henabled : EnabledContact op db a.objectId)
    (hfits : Fits storage op.authinfopw a) :
    AuthinfoChange storage op db a (ObjectAuthinfo.use a') := by
  obtain ⟨husable, n, rfl, hn⟩ := h.usable hu
  exact .used (n + 1) henabled husable hexpires hfits (Nat.lt_succ_of_le hn)

theorem AuthinfoChange.cancel (h : AuthinfoChange storage op db a a') (hu : Usable a')
    (hexpires : db.now < a.expiresAt) (hobject : a.objectId = op.objectId) {n : Nat}
    (hn : a'.useCount ≤ n) :
    AuthinfoChange storage op db a (ObjectAuthinfo.cancel db.now { a' with useCount := n }) := by
  obtain ⟨husable, m, rfl, hm⟩ := h.usable hu
  exact .canceled n hobject husable hexpires (hm.trans hn)

theorem authinfosChange_refl : AuthinfosChange storage op db db.objectAuthinfo :=
  List.forall₂_same.mpr fun _ _ => .kept

/-- What a usable authinfo was at the beginning. -/
theorem AuthinfosChange.origin (h : AuthinfosChange storage op db t) (ha' : a' ∈ t)
    (hu : Usable a') (ha : a ∈ db.objectAuthinfo) (hid : a.id = a'.id) :
    ∃ n, a' = { a with useCount := n } := by
  obtain ⟨b, hb, hchange⟩ := exists_of_forall₂ h ha'
  obtain rfl : a = b := Table.eq_of_key_eq ha hb (hid.trans hchange.id)
  obtain ⟨n, heq, -⟩ := (hchange.usable hu).2
  exact ⟨n, heq⟩

theorem AuthinfosChange.wellStored (h : AuthinfosChange storage op db t)
    (hw : WellStored storage db) : WellStored storage { db with objectAuthinfo := t } := by
  intro a' ha'
  obtain ⟨a, ha, hchange⟩ := exists_of_forall₂ h ha'
  refine ⟨hchange.id ▸ (hw a ha).1, fun hu => ?_⟩
  obtain ⟨husable, n, rfl, -⟩ := hchange.usable hu
  exact (hw a ha).2 husable

/-- The password of an active authinfo can be read. -/
theorem WellStored.readable (hw : WellStored storage db) (ha : a ∈ activeAuthinfos db objectId) :
    (storage.check plaintext (a.password.getD "")).isSome := by
  obtain ⟨hmem, -, hu, -⟩ := mem_activeAuthinfos.mp ha
  obtain ⟨salt, stored, hpassword⟩ := (hw a hmem).2 hu
  rw [hpassword]
  exact storage.check_readable salt stored plaintext

/-- A visit of authinfos keeps `P`, a property of those that are left and of the state. -/
theorem ends_visitAuthinfos {P : List ObjectAuthinfo → Database → Prop} {R : Db.Exception → Prop}
    {onMatch : Nat → Exec Unit}
    (hread : ∀ a ∈ rows, (storage.check plaintext (a.password.getD "")).isSome)
    (hmatch : ∀ a rows s, Fits storage plaintext a → P (a :: rows) s →
      Ends (onMatch a.id) s (fun _ s' => P rows s') R)
    (hskip : ∀ a rows s, ¬ Fits storage plaintext a → P (a :: rows) s → P rows s) (h : P rows s) :
    Ends (visitAuthinfos storage plaintext onMatch rows) s
      (fun n s' => n = (rows.filter (Fits storage plaintext ·)).length ∧ P [] s') R := by
  induction rows generalizing s with
  | nil => exact ends_pure ⟨rfl, h⟩
  | cons a rows ih =>
    have hrest := fun b hb => hread b (List.mem_cons_of_mem _ hb)
    rw [visitAuthinfos]
    split
    · rename_i hfit
      have hfits : Fits storage plaintext a := hfit
      refine ends_bind (hmatch a rows s hfits h) fun _ s₁ h₁ => ends_bind (ih hrest h₁) ?_
      rintro m s₂ ⟨rfl, h₂⟩
      exact ends_pure ⟨by simp [hfits], h₂⟩
    · rename_i hfit
      have hfits : ¬ Fits storage plaintext a := by simp [Fits, hfit]
      have hfilter : (a :: rows).filter (Fits storage plaintext ·) =
          rows.filter (Fits storage plaintext ·) := List.filter_cons_of_neg (by simpa using hfits)
      rw [hfilter]
      exact ih hrest (hskip a rows s hfits h)
    · rename_i hnone
      have hsome := hread a List.mem_cons_self
      simp [hnone] at hsome

/-- CheckAuthinfo of a registered object. -/
theorem ends_checkAuthinfo {P : List ObjectAuthinfo → Database → Prop} {R : Db.Exception → Prop}
    {onMatch : Nat → Exec Unit} (hw : WellStored storage s) (hr : isRegistered s objectId)
    (hmatch : ∀ a rows s, Fits storage plaintext a → P (a :: rows) s →
      Ends (onMatch a.id) s (fun _ s' => P rows s') R)
    (hskip : ∀ a rows s, ¬ Fits storage plaintext a → P (a :: rows) s → P rows s)
    (h : P (activeAuthinfos s objectId) s) :
    Ends (checkAuthinfo storage objectId plaintext onMatch) s
      (fun n s' => (0 < n ↔ PasswordFits storage plaintext s objectId) ∧ P [] s') R := by
  refine ends_bind (Q := fun s₀ s₁ => s = s₀ ∧ s = s₁) (ends_get ⟨rfl, rfl⟩) ?_
  rintro _ _ ⟨rfl, rfl⟩
  refine ends_bind (Q := fun _ s₁ => s = s₁) (ends_raiseIf (not_not.mpr hr) rfl) ?_
  rintro _ _ rfl
  refine (ends_visitAuthinfos (fun a ha => hw.readable ha) hmatch hskip h).mono ?_ fun _ he => he
  rintro n s' ⟨rfl, hP⟩
  refine ⟨?_, hP⟩
  rw [List.length_pos_iff_exists_mem]
  simp [PasswordFits]

/-- The states of a transfer that began in `db` and is not recorded yet. -/
def Checking (storage : PasswordStorage) (op : TransferObject) (db s : Database) : Prop :=
  ∃ t, AuthinfosChange storage op db t ∧ s = { db with objectAuthinfo := t }

theorem checking_refl : Checking storage op db db := ⟨db.objectAuthinfo, authinfosChange_refl, rfl⟩

theorem Checking.update {p : ObjectAuthinfo → Prop} [DecidablePred p]
    {f : ObjectAuthinfo → ObjectAuthinfo} (hf : ∀ a, Keyed.key (f a) = Keyed.key a)
    (h : Checking storage op db s)
    (hchange : ∀ a ∈ db.objectAuthinfo, ∀ a', AuthinfoChange storage op db a a' → p a' →
      AuthinfoChange storage op db a (f a')) :
    Checking storage op db { s with objectAuthinfo := s.objectAuthinfo.update p f hf } := by
  obtain ⟨t, ht, rfl⟩ := h
  exact ⟨t.update p f hf, Table.forall₂_update hf ht hchange, rfl⟩

theorem Checking.now (h : Checking storage op db s) : s.now = db.now := by
  obtain ⟨t, -, rfl⟩ := h
  rfl

theorem Checking.wellStored (h : Checking storage op db s) (hw : WellStored storage db) :
    WellStored storage s := by
  obtain ⟨t, ht, rfl⟩ := h
  exact ht.wellStored hw

theorem Checking.consistent (h : Checking storage op db s) (hc : Consistent db) : Consistent s := by
  obtain ⟨t, -, rfl⟩ := h
  refine ⟨hc.registrarHandle, hc.contactName, fun o ho hlive => ?_, hc.historyId⟩
  obtain ⟨obj, ct, h, clr, crr, hjoined⟩ := hc.contactRows o ho hlive
  exact ⟨obj, ct, h, clr, crr, hjoined.object, hjoined.contact, hjoined.history, hjoined.clr,
    hjoined.crr, hjoined.type, hjoined.erdate⟩

/-- An active authinfo that is left of those at the beginning. -/
theorem Checking.origin (h : Checking storage op db s) (ha' : a' ∈ activeAuthinfos s objectId)
    (ha : a ∈ db.objectAuthinfo) (hid : a.id = a'.id) :
    a.objectId = objectId ∧ db.now < a.expiresAt ∧ a.password = a'.password := by
  obtain ⟨t, ht, rfl⟩ := h
  obtain ⟨hmem, hobject, hu, hexpires⟩ := mem_activeAuthinfos.mp ha'
  obtain ⟨n, rfl⟩ := ht.origin hmem hu ha hid
  exact ⟨hobject, hexpires, rfl⟩

theorem run_incrementUsage (authinfoId : Nat) : (incrementUsage authinfoId).run s = .ok () { s with
    objectAuthinfo := s.objectAuthinfo.update (ActiveWithId authinfoId s) ObjectAuthinfo.use
      fun _ => rfl } := rfl

/-- CheckAuthinfo of an enabled contact counts the use of the authinfos that the password fits. -/
theorem ends_checkAuthinfo_incrementUsage {R : Db.Exception → Prop} (hw : WellStored storage db)
    (hs : Checking storage op db s) (hr : isRegistered s objectId)
    (henabled : EnabledContact op db objectId) :
    Ends (checkAuthinfo storage objectId op.authinfopw incrementUsage) s
      (fun n s' => (0 < n ↔ PasswordFits storage op.authinfopw s objectId) ∧
        Checking storage op db s' ∧ (0 < n ∨ s = s')) R := by
  refine (ends_checkAuthinfo (P := fun rows s' => (∀ b ∈ rows, b ∈ activeAuthinfos s objectId) ∧
    Checking storage op db s' ∧ (PasswordFits storage op.authinfopw s objectId ∨ s = s'))
    (hs.wellStored hw) hr ?_ ?_ ⟨fun b hb => hb, hs, .inr rfl⟩).mono ?_ fun _ he => he
  · rintro b rows s' hfits ⟨hactive, hs', -⟩
    have hb := hactive b List.mem_cons_self
    refine ends_of_run (run_incrementUsage b.id) ⟨fun c hc => hactive c (List.mem_cons_of_mem _ hc),
      hs'.update _ ?_, .inl ⟨b, hb, hfits⟩⟩
    rintro a ha a' hchange ⟨hid, hu, -⟩
    obtain ⟨rfl, hexpires, hpassword⟩ := hs.origin hb ha (hchange.id.symm.trans hid)
    refine hchange.use hu hexpires henabled ?_
    rwa [Fits, hpassword]
  · rintro b rows s' - ⟨hactive, hs', hused⟩
    exact ⟨fun c hc => hactive c (List.mem_cons_of_mem _ hc), hs', hused⟩
  · rintro n s' ⟨hcount, -, hs', hused⟩
    exact ⟨hcount, hs', hused.imp_left hcount.mpr⟩

/-- An active authinfo is there to be canceled. -/
theorem run_incrementUsageAndCancel {b : ObjectAuthinfo} (hb : b ∈ activeAuthinfos s objectId) :
    (incrementUsageAndCancel b.id).run s = .ok () { s with
      objectAuthinfo := s.objectAuthinfo.update (ActiveWithId b.id s)
        (fun a => ObjectAuthinfo.cancel s.now (ObjectAuthinfo.use a)) fun _ => rfl } := by
  obtain ⟨hmem, -, hu, hexpires⟩ := mem_activeAuthinfos.mp hb
  have hone : s.objectAuthinfo.select (ActiveWithId b.id s) = [b] :=
    Table.select_eq_of_key hmem ⟨rfl, hu, hexpires⟩ fun a _ hactive => hactive.1
  refine run_bind_eq_ok.mpr ⟨_, _, rfl, run_raiseIf_eq_ok.mpr ⟨?_, rfl⟩⟩
  simp [hone]

/-- CheckAuthinfo of the object cancels the authinfos that the password fits. -/
theorem ends_checkAuthinfo_incrementUsageAndCancel {R : Db.Exception → Prop}
    (hw : WellStored storage db) (hr : isRegistered db op.objectId) :
    Ends (checkAuthinfo storage op.objectId op.authinfopw incrementUsageAndCancel) db
      (fun n s' => (0 < n ↔ PasswordFits storage op.authinfopw db op.objectId) ∧
        Checking storage op db s' ∧ (0 < n ∨ db = s')) R := by
  have hnodup : ((activeAuthinfos db op.objectId).map (·.id)).Nodup :=
    db.objectAuthinfo.nodup.sublist (List.filter_sublist.map _)
  refine (ends_checkAuthinfo (P := fun rows s' =>
    (∀ b ∈ rows, b ∈ activeAuthinfos s' op.objectId ∧ b ∈ activeAuthinfos db op.objectId) ∧
      (rows.map (·.id)).Nodup ∧ Checking storage op db s' ∧
        (PasswordFits storage op.authinfopw db op.objectId ∨ db = s'))
    hw hr ?_ ?_ ⟨fun b hb => ⟨hb, hb⟩, hnodup, checking_refl, .inr rfl⟩).mono ?_ fun _ he => he
  · rintro b rows s' hfits ⟨hactive, hnodup, hs', -⟩
    obtain ⟨hb, hb₀⟩ := hactive b List.mem_cons_self
    obtain ⟨hfirst, hnodup⟩ := List.nodup_cons.mp hnodup
    refine ends_of_run (run_incrementUsageAndCancel hb) ⟨fun c hc => ⟨?_, ?_⟩, hnodup,
      hs'.update _ ?_, .inl ⟨b, hb₀, hfits⟩⟩
    · obtain ⟨hmem, hactive⟩ := mem_activeAuthinfos.mp (hactive c (List.mem_cons_of_mem _ hc)).1
      have hne : ¬ ActiveWithId b.id s' c := fun hid => hfirst (List.mem_map.mpr ⟨c, hc, hid.1⟩)
      have hkey : ∀ a, Keyed.key (ObjectAuthinfo.cancel s'.now (ObjectAuthinfo.use a)) =
        Keyed.key a := fun _ => rfl
      exact mem_activeAuthinfos.mpr ⟨(Table.mem_update hkey).mpr ⟨c, hmem, if_neg hne⟩, hactive⟩
    · exact (hactive c (List.mem_cons_of_mem _ hc)).2
    · rintro a ha a' hchange ⟨hid, hu, -⟩
      obtain ⟨hobject, hexpires, -⟩ := hs'.origin hb ha (hchange.id.symm.trans hid)
      rw [hs'.now]
      exact hchange.cancel hu hexpires hobject (Nat.le_succ _)
  · rintro b rows s' - ⟨hactive, hnodup, hs', hused⟩
    exact ⟨fun c hc => hactive c (List.mem_cons_of_mem _ hc), hnodup.of_cons, hs', hused⟩
  · rintro n s' ⟨hcount, -, -, hs', hused⟩
    exact ⟨hcount, hs', hused.imp_left hcount.mpr⟩

/-- A contact that exists is read. -/
theorem run_infoContactByHandle (localTime : Timestamp → Ptime) (hc : Consistent db) {o : ObjectRegistry}
    (ho : o ∈ db.objectRegistry) (hlive : LiveContact (upper handle) o) :
    ∃ info, (infoContactByHandle localTime handle).run db = .ok info db ∧ info.id = o.id := by
  obtain ⟨hname, htype, herdate⟩ := hlive
  obtain ⟨obj, ct, h, clr, crr, hjoined⟩ := hc.contactRows o ho ⟨rfl, htype, herdate⟩
  have hrow : infoContactRow localTime db o = some (infoContactOf localTime db o obj ct h clr crr) :=
    infoContactRow_eq_some.mpr ⟨obj, ct, h, clr, crr, hjoined, rfl⟩
  refine ⟨infoContactOf localTime db o obj ct h clr crr, run_bind_eq_ok.mpr ⟨db, db, rfl, ?_⟩, rfl⟩
  rw [Table.filterMap_select_eq_singleton.mpr ⟨o, ho, hname, hrow, fun o' ho' hname' hsome => ?_⟩]
  · rfl
  · obtain ⟨info, hinfo⟩ := Option.isSome_iff_exists.mp hsome
    obtain ⟨_, _, _, _, _, hjoined', -⟩ := infoContactRow_eq_some.mp hinfo
    exact hc.contactName o' ho' o ho ⟨rfl, hjoined'.type, hjoined'.erdate⟩
      ⟨hname.trans hname'.symm, htype, herdate⟩

/-- A contact that does not exist is not. -/
theorem run_infoContactByHandle_unknown
    (h : ∀ o ∈ db.objectRegistry, ¬ LiveContact (upper handle) o) :
    (infoContactByHandle localTime handle).run db = .error (.unknownContactHandle handle) db := by
  refine run_bind_eq_error.mpr (.inr ⟨db, db, rfl, ?_⟩)
  rw [List.filterMap_eq_nil_iff.mpr fun o ho => ?_]
  · rfl
  · obtain ⟨ho, hname⟩ := Table.mem_select.mp ho
    by_contra hne
    obtain ⟨info, hinfo⟩ := Option.ne_none_iff_exists'.mp hne
    obtain ⟨_, _, _, _, _, hjoined, -⟩ := infoContactRow_eq_some.mp hinfo
    exact h o ho ⟨hname, hjoined.type, hjoined.erdate⟩

/-- The handle is that of a contact whose authinfo the password fits. -/
def AuthorizedBy (storage : PasswordStorage) (op : TransferObject) (db : Database)
    (handle : String) : Prop :=
  ∃ o ∈ db.objectRegistry, LiveContact (upper handle) o ∧
    PasswordFits storage op.authinfopw db o.id

theorem ends_authorizes {R : Db.Exception → Prop} (hw : WellStored storage db)
    (hc : Consistent db) (hs : Checking storage op db s) (hhandle : handle ∈ op.enabledContacts) :
    Ends (authorizes storage localTime op.authinfopw handle) s
      (fun authorized s' => (authorized = true ↔ AuthorizedBy storage op s handle) ∧
        Checking storage op db s' ∧ (authorized = true ∨ s = s')) R := by
  by_cases hexists : ∃ o ∈ s.objectRegistry, LiveContact (upper handle) o
  · obtain ⟨o, ho, hlive⟩ := hexists
    obtain ⟨info, hinfo, hid⟩ := run_infoContactByHandle localTime (hs.consistent hc) ho hlive
    have hauthorized : AuthorizedBy storage op s handle ↔
        PasswordFits storage op.authinfopw s o.id := by
      constructor
      · rintro ⟨o', ho', hlive', hfits⟩
        have heq : o = o' := (hs.consistent hc).contactName o ho o' ho' ⟨rfl, hlive.2⟩
          ⟨hlive'.1.trans hlive.1.symm, hlive'.2⟩
        rwa [heq]
      · exact fun hfits => ⟨o, ho, hlive, hfits⟩
    have hregistered : isRegistered s o.id :=
      ⟨o, Table.lookup_eq_some.mpr ⟨ho, rfl⟩, hlive.2.2⟩
    have henabled : EnabledContact op db o.id := by
      obtain ⟨t, -, rfl⟩ := hs
      exact ⟨handle, hhandle, o, ho, hlive, rfl⟩
    refine ends_tryCatch (ends_bind (ends_of_run (Q := fun a s' => info = a ∧ s = s') hinfo ⟨rfl, rfl⟩) ?_)
    rintro _ _ ⟨rfl, rfl⟩
    rw [hid]
    refine ends_bind (ends_checkAuthinfo_incrementUsage hw hs hregistered henabled) ?_
    rintro n s' ⟨hcount, hs', hused⟩
    refine ends_pure ⟨?_, hs', hused.imp_left decide_eq_true⟩
    rw [hauthorized, decide_eq_true_iff, hcount]
  · have hnone : ∀ o ∈ s.objectRegistry, ¬ LiveContact (upper handle) o :=
      fun o ho hlive => hexists ⟨o, ho, hlive⟩
    have hrun : (authorizes storage localTime op.authinfopw handle).run s = .ok false s := by
      refine run_tryCatch_eq_ok.mpr (.inr ⟨.unknownContactHandle handle, s, ?_, rfl⟩)
      exact run_bind_of_error (run_infoContactByHandle_unknown hnone)
    refine ends_of_run hrun ⟨⟨nofun, ?_⟩, hs, .inr rfl⟩
    rintro ⟨o, ho, hlive, -⟩
    exact absurd hlive (hnone o ho)

theorem ends_getAuthorizedContacts (localTime : Timestamp → Ptime) {R : Db.Exception → Prop} (hw : WellStored storage db)
    (hc : Consistent db) {contacts : List String} (hs : Checking storage op db s)
    (hcontacts : ∀ handle ∈ contacts, handle ∈ op.enabledContacts) :
    Ends (getAuthorizedContacts storage localTime op.authinfopw contacts) s
      (fun authorized s' => (authorized ≠ [] ↔ ∃ handle ∈ contacts, AuthorizedBy storage op s handle) ∧
        Checking storage op db s' ∧ (authorized ≠ [] ∨ s = s')) R := by
  induction contacts generalizing s with
  | nil => exact ends_pure ⟨by simp, hs, .inr rfl⟩
  | cons handle contacts ih =>
    have hrest := fun h hh => hcontacts h (List.mem_cons_of_mem _ hh)
    refine ends_bind (ends_authorizes hw hc hs (hcontacts handle List.mem_cons_self)) ?_
    rintro authorized s₁ ⟨hauthorized, hs₁, hfirst⟩
    refine ends_bind (ih hs₁ hrest) ?_
    rintro rest s₂ ⟨hothers, hs₂, hlater⟩
    refine ends_pure ?_
    cases authorized with
    | true =>
      have hby : AuthorizedBy storage op s handle := hauthorized.mp rfl
      exact ⟨by simp [hby], hs₂, .inl (by simp)⟩
    | false =>
      have hby : ¬ AuthorizedBy storage op s handle := fun h => by simpa using hauthorized.mpr h
      obtain rfl : s = s₁ := by simpa using hfirst
      exact ⟨by simp [hby, hothers], hs₂, hlater⟩

theorem run_newRegistrarId (hc : Consistent db) {r : Db.Registrar} (hr : r ∈ db.registrar)
    (hhandle : r.handle = upper handle) : (newRegistrarId handle).run db = .ok r.id db := by
  have hselect : db.registrar.select (·.handle = upper handle) = [r] :=
    Table.select_eq_of_unique hc.registrarHandle hr hhandle
  refine run_bind_eq_ok.mpr ⟨db, db, rfl, ?_⟩
  rw [hselect]
  rfl

theorem run_newRegistrarId_unknown (h : ∀ r ∈ db.registrar, r.handle ≠ upper handle) :
    (newRegistrarId handle).run db = .error .unknownRegistrar db := by
  have hselect : db.registrar.select (·.handle = upper handle) = [] :=
    List.filter_eq_nil_iff.mpr fun r hr => by simpa using h r hr
  refine run_bind_eq_error.mpr (.inr ⟨db, db, rfl, ?_⟩)
  rw [hselect]
  rfl

theorem run_getLockedSponsoringRegistrar {o : Db.Object} (ho : db.object.lookup objectId = some o) :
    (getLockedSponsoringRegistrar objectId).run db = .ok o.clid db := by
  refine run_bind_eq_ok.mpr ⟨db, db, rfl, ?_⟩
  rw [ho]
  rfl

theorem run_getLockedSponsoringRegistrar_unknown (ho : db.object.lookup objectId = none) :
    (getLockedSponsoringRegistrar objectId).run db = .error .unknownObjectId db := by
  refine run_bind_eq_error.mpr (.inr ⟨db, db, rfl, ?_⟩)
  rw [ho]
  rfl

theorem run_cleanAuthinfo : (cleanAuthinfo objectId).run s =
    .ok (activeAuthinfos s objectId).length { s with
      objectAuthinfo := s.objectAuthinfo.update
        (fun a => a.objectId = objectId ∧ Usable a ∧ s.now < a.expiresAt)
        (ObjectAuthinfo.cancel s.now) fun _ => rfl } := rfl

theorem ends_cleanUnlessUsed {R : Db.Exception → Prop} (hs : Checking storage op db s) (own : Nat) :
    Ends (cleanUnlessUsed op.objectId own) s (fun _ s' => Checking storage op db s') R := by
  unfold cleanUnlessUsed
  split
  · refine ends_bind (ends_of_run (Q := fun _ s' => Checking storage op db s') run_cleanAuthinfo
      (hs.update _ ?_)) fun _ _ hs' => ends_pure hs'
    rintro a ha a' hchange ⟨hobject, hu, hexpires⟩
    rw [hs.now] at hexpires ⊢
    obtain ⟨-, n, rfl, -⟩ := hchange.usable hu
    exact hchange.cancel hu hexpires hobject le_rfl
  · exact ends_pure hs

theorem run_setNewSponsoringRegistrar {registrarId : Nat} (ho : (db.object.lookup objectId).isSome) :
    (setNewSponsoringRegistrar objectId registrarId).run db = .ok () { db with
      object := db.object.update (·.id = objectId)
        fun o => { o with trdate := some db.now, clid := registrarId } } :=
  if_pos ho

theorem run_setHistoryId {what : String} {historyId : Nat}
    (ho : (db.objectRegistry.lookup objectId).isSome) :
    (setHistoryId what objectId historyId).run db = .ok () { db with
      objectRegistry := db.objectRegistry.update (·.id = objectId)
        fun o => { o with historyid := some historyId } } :=
  if_pos ho

theorem run_insertHistory {requestId : Option Nat} {t : Table Db.History}
    (h : db.history.insert? ⟨db.historySeq, db.historyUuid db.historySeq, requestId⟩ = some t) :
    (insertHistory requestId objectId).run db = .ok db.historySeq { db with
      objectHistory := copyToObjectHistory db db.historySeq objectId
      history := t
      historySeq := db.historySeq + 1 } := by
  simp only [insertHistory, EStateM.run, h]

/-- The history gets the object as the transfer has changed it. -/
theorem copyToObjectHistory_update {registrarId historyId : Nat} :
    copyToObjectHistory { db with
        object := db.object.update (·.id = objectId)
          fun o => { o with trdate := some db.now, clid := registrarId } } historyId objectId =
      db.objectHistory ++ (db.object.select (·.id = objectId)).map
        fun o => ⟨historyId, { o with trdate := some db.now, clid := registrarId }⟩ := by
  have hkey (o : Db.Object) :
      Keyed.key { o with trdate := some db.now, clid := registrarId } = Keyed.key o := rfl
  have hselect := Table.select_updated (t := db.object) (p := (·.id = objectId)) hkey fun _ h => h
  simp only [copyToObjectHistory, hselect, List.map_map, Function.comp_def]

theorem ends_recordTransfer {R : Db.Exception → Prop} (hc : Consistent db)
    (hr : isRegistered db op.objectId) {o : Db.Object} (ho : db.object.lookup op.objectId = some o)
    (hs : Checking storage op db s) (registrarId : Nat) :
    Ends (recordTransfer op.objectId registrarId op.logdRequestId) s
      (fun historyId s' => Transferred storage op db registrarId historyId s') R := by
  obtain ⟨t, ht, rfl⟩ := hs
  obtain ⟨reg, hreg, -⟩ := hr
  obtain ⟨history, hinsert⟩ := Table.exists_insert? (t := db.history)
    (r := ⟨db.historySeq, db.historyUuid db.historySeq, op.logdRequestId⟩)
    fun h hh => (hc.historyId h hh).ne
  refine ends_bind (ends_of_run (Q := fun _ s' => _ = s')
    (run_setNewSponsoringRegistrar (Option.isSome_of_eq_some ho)) rfl) ?_
  rintro _ _ rfl
  refine ends_bind (ends_of_run (Q := fun id s' => db.historySeq = id ∧ _ = s')
    (run_insertHistory hinsert) ⟨rfl, rfl⟩) ?_
  rintro _ _ ⟨rfl, rfl⟩
  refine ends_bind (ends_of_run (Q := fun _ s' => _ = s')
    (run_setHistoryId (Option.isSome_of_eq_some hreg)) rfl) ?_
  rintro _ _ rfl
  exact ends_pure ⟨history, t, hinsert, ht, rfl, by rw [copyToObjectHistory_update]⟩

/-- The object itself or an enabled contact authorises the transfer. -/
theorem authorized_iff : (∃ handle ∈ op.enabledContacts, AuthorizedBy storage op db handle) ↔
    ∃ id, EnabledContact op db id ∧ PasswordFits storage op.authinfopw db id := by
  constructor
  · rintro ⟨handle, hhandle, o, ho, hlive, hfits⟩
    exact ⟨o.id, ⟨handle, hhandle, o, ho, hlive, rfl⟩, hfits⟩
  · rintro ⟨_, ⟨handle, hhandle, o, ho, hlive, rfl⟩, hfits⟩
    exact ⟨handle, hhandle, o, ho, hlive, hfits⟩

/-- The password check of a transfer, before the decision. -/
theorem run_checks (localTime : Timestamp → Ptime) (hw : WellStored storage db) (hc : Consistent db)
    (hr : isRegistered db op.objectId) :
    ∃ own authorized s₁ s₂,
      (checkAuthinfo storage op.objectId op.authinfopw incrementUsageAndCancel).run db = .ok own s₁ ∧
      (getAuthorizedContacts storage localTime op.authinfopw op.enabledContacts).run s₁ =
        .ok authorized s₂ ∧
      Checking storage op db s₂ ∧ (own = 0 ∧ authorized = [] → db = s₂) ∧
      (own = 0 ∧ authorized = [] ↔ ¬ (PasswordFits storage op.authinfopw db op.objectId ∨
        ∃ id, EnabledContact op db id ∧ PasswordFits storage op.authinfopw db id)) := by
  obtain ⟨own, s₁, hown, hfits, hs₁, hused⟩ :=
    (ends_checkAuthinfo_incrementUsageAndCancel (R := fun _ => False) hw hr).exists_ok fun _ => not_false
  obtain ⟨authorized, s₂, hauth, hby, hs₂, hlater⟩ := (ends_getAuthorizedContacts localTime
    (R := fun _ => False) hw hc hs₁ fun _ h => h).exists_ok fun _ => not_false
  refine ⟨own, authorized, s₁, s₂, hown, hauth, hs₂, ?_, ?_⟩
  · rintro ⟨rfl, rfl⟩
    obtain rfl : db = s₁ := by simpa using hused
    simpa using hlater
  · rcases Nat.eq_zero_or_pos own with rfl | hpos
    · obtain rfl : db = s₁ := by simpa using hused
      have hnot : ¬ PasswordFits storage op.authinfopw db op.objectId := by simpa using hfits
      rw [← authorized_iff, ← hby]
      simp [hnot]
    · simp [hpos.ne', hfits.mp hpos]

theorem run_of_transferable (localTime : Timestamp → Ptime) {registrarId : Nat} (hw : WellStored storage db) (hc : Consistent db)
    (h : Transferable storage op db registrarId) :
    ∃ historyId db', (op.exec storage localTime).run db = .ok historyId db' ∧
      Transferred storage op db registrarId historyId db' := by
  obtain ⟨r, hr, hhandle, rfl⟩ := h.registrar
  obtain ⟨o, ho, hclid⟩ := h.sponsor
  obtain ⟨own, authorized, s₁, s₂, hown, hauth, hs₂, -, hdecision⟩ :=
    run_checks localTime hw hc h.object
  obtain ⟨_, s₃, hclean, hs₃⟩ :=
    (ends_cleanUnlessUsed (R := fun _ => False) hs₂ own).exists_ok fun _ => not_false
  obtain ⟨historyId, db', hrecord, hdone⟩ := (ends_recordTransfer (R := fun _ => False) hc h.object ho
    hs₃ r.id).exists_ok fun _ => not_false
  have hauthorized : ¬ (own = 0 ∧ authorized = []) := fun hnone => hdecision.mp hnone h.password
  refine ⟨historyId, db', ?_, hdone⟩
  rw [TransferObject.exec, run_bind_of_ok (run_newRegistrarId hc hr hhandle),
    run_bind_of_ok (run_getLockedSponsoringRegistrar ho), run_bind_of_ok (run_raiseIf_of_neg hclid),
    run_bind_of_ok hown, run_bind_of_ok hauth, run_bind_of_ok (run_raiseIf_of_neg hauthorized),
    run_bind_of_ok hclean, hrecord]

theorem run_of_not_transferable (localTime : Timestamp → Ptime) (hw : WellStored storage db) (hc : Consistent db)
    (h : ¬ ∃ registrarId, Transferable storage op db registrarId) :
    ∃ e, (op.exec storage localTime).run db = .error e db := by
  rw [TransferObject.exec]
  by_cases hregistrar : ∃ r ∈ db.registrar, r.handle = upper op.newRegistrarHandle
  swap
  · have hnone : ∀ r ∈ db.registrar, r.handle ≠ upper op.newRegistrarHandle :=
      fun r hr hhandle => hregistrar ⟨r, hr, hhandle⟩
    exact ⟨_, run_bind_of_error (run_newRegistrarId_unknown hnone)⟩
  obtain ⟨r, hr, hhandle⟩ := hregistrar
  rw [run_bind_of_ok (run_newRegistrarId hc hr hhandle)]
  cases ho : db.object.lookup op.objectId with
  | none => exact ⟨_, run_bind_of_error (run_getLockedSponsoringRegistrar_unknown ho)⟩
  | some o =>
    rw [run_bind_of_ok (run_getLockedSponsoringRegistrar ho)]
    by_cases hclid : o.clid = r.id
    · exact ⟨_, run_bind_of_error (run_raiseIf_of_pos hclid)⟩
    rw [run_bind_of_ok (run_raiseIf_of_neg hclid)]
    by_cases hobject : isRegistered db op.objectId
    swap
    · refine ⟨.unknownObjectId, run_bind_of_error ?_⟩
      rw [checkAuthinfo, run_bind_of_ok (run_get_eq_ok.mpr ⟨rfl, rfl⟩), run_bind_of_error (run_raiseIf_of_pos hobject)]
    obtain ⟨own, authorized, s₁, s₂, hown, hauth, -, hsame, hdecision⟩ :=
      run_checks localTime hw hc hobject
    have hnone : own = 0 ∧ authorized = [] := by
      refine hdecision.mpr fun hpassword => h ⟨r.id, ?_⟩
      exact ⟨⟨r, hr, hhandle, rfl⟩, hobject, ⟨o, ho, hclid⟩, hpassword⟩
    obtain rfl := hsame hnone
    rw [run_bind_of_ok hown, run_bind_of_ok hauth]
    exact ⟨_, run_bind_of_error (run_raiseIf_of_pos hnone)⟩

/-- A transfer succeeds exactly when it may be done. Otherwise nothing has changed, and on success
only who sponsors the object, its version, its authinfos, and how often authinfos of enabled contacts
were used. -/
theorem transfer_outcome (hw : WellStored storage db) (hc : Consistent db) :
    ((∃ historyId db', (op.exec storage localTime).run db = .ok historyId db') ↔
        ∃ registrarId, Transferable storage op db registrarId) ∧
      (∀ e db', (op.exec storage localTime).run db = .error e db' → db' = db) ∧
      ∀ historyId db', (op.exec storage localTime).run db = .ok historyId db' →
        ∃ registrarId, Transferable storage op db registrarId ∧
          Transferred storage op db registrarId historyId db' := by
  by_cases h : ∃ registrarId, Transferable storage op db registrarId
  · obtain ⟨registrarId, htransferable⟩ := h
    obtain ⟨historyId, db', hrun, hdone⟩ := run_of_transferable localTime hw hc htransferable
    refine ⟨⟨fun _ => ⟨registrarId, htransferable⟩, fun _ => ⟨historyId, db', hrun⟩⟩,
      fun e s herror => ?_, fun historyId' s hok => ?_⟩
    · rw [hrun] at herror
      cases herror
    · rw [hrun] at hok
      obtain ⟨rfl, rfl⟩ := EStateM.Result.ok.inj hok
      exact ⟨registrarId, htransferable, hdone⟩
  · obtain ⟨e, hrun⟩ := run_of_not_transferable localTime hw hc h
    refine ⟨⟨fun ⟨historyId, s, hok⟩ => ?_, fun hex => absurd hex h⟩, fun e' s herror => ?_,
      fun historyId s hok => ?_⟩
    · rw [hrun] at hok
      cases hok
    · rw [hrun] at herror
      exact (EStateM.Result.error.inj herror).2.symm
    · rw [hrun] at hok
      cases hok

/-- A domain and a contact with an authinfo, both of the first registrar. -/
def friendlyDb : Database :=
  { Database.empty with
    registrar := ⟨[⟨1, "REG-FIRST"⟩, ⟨2, "REG-SECOND"⟩], by decide⟩
    objectRegistry := ⟨[⟨5, 0, "D5-CZ", "first.cz", .domain, 1, 0, none, some 1, some 1⟩,
      ⟨6, 0, "C6-CZ", "FRIEND", .contact, 1, 0, none, some 2, some 2⟩], by decide⟩
    object := ⟨[⟨5, 1, none, none, none⟩, ⟨6, 1, none, none, none⟩], by decide⟩
    history := ⟨[⟨1, 0, none⟩, ⟨2, 0, none⟩], by decide⟩
    historySeq := 3
    contact := ⟨[⟨6, none, none, none, none, none, none, none, none, none, none, none, none, none,
      none, none, none, none, none, none, none, none, none, none, none, none, none⟩], by decide⟩
    objectAuthinfo := ⟨[⟨1, 6, 1, some "$plaintext$friendly", 0, 100, none, 0⟩], by decide⟩
    objectAuthinfoSeq := 2 }

theorem wellStored_friendlyDb : WellStored plaintextStorage friendlyDb := by
  intro a ha
  obtain rfl := List.mem_singleton.mp ha
  exact ⟨by decide, fun _ => ⟨"", "friendly", by decide⟩⟩

theorem consistent_friendlyDb : Consistent friendlyDb where
  registrarHandle := (by decide : ∀ r ∈ friendlyDb.registrar.rows, ∀ r' ∈ friendlyDb.registrar.rows,
    r.handle = r'.handle → r = r')
  contactName o ho o' ho' hlive hlive' :=
    (by decide : ∀ o ∈ friendlyDb.objectRegistry.rows, ∀ o' ∈ friendlyDb.objectRegistry.rows,
      o.type = .contact → o'.type = .contact → o = o') o ho o' ho' hlive.2.1 hlive'.2.1
  contactRows o ho hlive := by
    have hid : o.type = .contact → o = ⟨6, 0, "C6-CZ", "FRIEND", .contact, 1, 0, none, some 2, some 2⟩ :=
      (by decide : ∀ o ∈ friendlyDb.objectRegistry.rows, o.type = .contact →
        o = ⟨6, 0, "C6-CZ", "FRIEND", .contact, 1, 0, none, some 2, some 2⟩) o ho
    rw [hid hlive.2.1]
    exact ⟨_, _, _, _, _, rfl, rfl, rfl, rfl, rfl, rfl, rfl⟩
  historyId := (by decide : ∀ h ∈ friendlyDb.history.rows, h.id < friendlyDb.historySeq)

def friendlyTransfer : TransferObject := ⟨5, "REG-SECOND", "friendly", ["FRIEND"], none⟩

theorem transfer_outcome_friendly :
    ((∃ historyId db', (friendlyTransfer.exec plaintextStorage (fun n => .time n)).run friendlyDb =
        .ok historyId db') ↔
        ∃ registrarId, Transferable plaintextStorage friendlyTransfer friendlyDb registrarId) ∧
      (∀ e db', (friendlyTransfer.exec plaintextStorage (fun n => .time n)).run friendlyDb =
        .error e db' → db' = friendlyDb) ∧
      ∀ historyId db', (friendlyTransfer.exec plaintextStorage (fun n => .time n)).run friendlyDb =
        .ok historyId db' →
          ∃ registrarId, Transferable plaintextStorage friendlyTransfer friendlyDb registrarId ∧
            Transferred plaintextStorage friendlyTransfer friendlyDb registrarId historyId db' :=
  transfer_outcome wellStored_friendlyDb consistent_friendlyDb

/-- A transfer that the password of a contact authorises counts that its authinfo was used. -/
theorem not_transfer_outcome :
    ¬ ∀ (storage : PasswordStorage) (localTime : Timestamp → Ptime) (op : TransferObject)
      (db db' : Database) (historyId : Nat), WellStored storage db → Consistent db →
        (op.exec storage localTime).run db = .ok historyId db' →
          ∀ a ∈ db.objectAuthinfo, a.objectId ≠ op.objectId → a ∈ db'.objectAuthinfo := by
  intro h
  have hkept := h plaintextStorage (fun n => .time n) friendlyTransfer friendlyDb
    ((⟨false, .transfer friendlyTransfer⟩ : Call).next plaintextStorage (fun n => .time n) friendlyDb)
    3 wellStored_friendlyDb consistent_friendlyDb rfl
    ⟨1, 6, 1, some "$plaintext$friendly", 0, 100, none, 0⟩ (List.mem_singleton.mpr rfl) (by decide)
  exact absurd (List.mem_singleton.mp hkept) (by decide)

end LibFred.Object
