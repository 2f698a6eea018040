import LibFred.Object.TransferObject
import LibFred.Sql.Moves

/-! How authinfos change: they lose their passwords, and no old one gets a password again. -/
namespace LibFred.Object

open Sql
open LibFred.Db (Database ObjectAuthinfo Timestamp Exec)
open LibFred.RegistrableObject.Contact (infoContactByHandle)

variable {storage : PasswordStorage} {localTime : Timestamp → Ptime} {db db' db'' : Database}
  {a a' : ObjectAuthinfo} {objectId n : Nat} {plaintext : String} {rows : List ObjectAuthinfo}

/-- What may become of an authinfo: it loses its password, but never gets another one. -/
structure Ages (a a' : ObjectAuthinfo) : Prop where
  id : a'.id = a.id
  objectId : a'.objectId = a.objectId
  expiresAt : a'.expiresAt = a.expiresAt
  usable : Usable a' → Usable a ∧ a'.password = a.password

theorem ages_refl (a : ObjectAuthinfo) : Ages a a := ⟨rfl, rfl, rfl, fun h => ⟨h, rfl⟩⟩

theorem Ages.trans {a'' : ObjectAuthinfo} (h : Ages a a') (h' : Ages a' a'') : Ages a a'' where
  id := h'.id.trans h.id
  objectId := h'.objectId.trans h.objectId
  expiresAt := h'.expiresAt.trans h.expiresAt
  usable hu := by
    obtain ⟨hu', hp'⟩ := h'.usable hu
    obtain ⟨hu, hp⟩ := h.usable hu'
    exact ⟨hu, hp'.trans hp⟩

/-- Old authinfos age; new ones get new ids. -/
structure Evolves (db db' : Database) : Prop where
  seq : db.objectAuthinfoSeq ≤ db'.objectAuthinfoSeq
  rows : ∀ a' ∈ db'.objectAuthinfo,
    (∃ a ∈ db.objectAuthinfo, Ages a a') ∨ db.objectAuthinfoSeq ≤ a'.id

theorem evolves_refl (db : Database) : Evolves db db :=
  ⟨le_rfl, fun a ha => .inl ⟨a, ha, ages_refl a⟩⟩

theorem Evolves.trans (h : Evolves db db') (h' : Evolves db' db'') : Evolves db db'' where
  seq := h.seq.trans h'.seq
  rows a'' ha'' := by
    rcases h'.rows a'' ha'' with ⟨a', ha', hages'⟩ | hnew
    · rcases h.rows a' ha' with ⟨a, ha, hages⟩ | hnew
      · exact .inl ⟨a, ha, hages.trans hages'⟩
      · exact .inr (hages'.id ▸ hnew)
    · exact .inr (h.seq.trans hnew)

/-- Ids were taken from the sequence, and every usable password was encrypted. -/
def WellStored (storage : PasswordStorage) (db : Database) : Prop :=
  ∀ a ∈ db.objectAuthinfo, a.id < db.objectAuthinfoSeq ∧
    (Usable a → ∃ salt plaintext, a.password = some (storage.encrypt salt plaintext))

/-- What statements of one transaction do to the authinfos. -/
structure Progress (storage : PasswordStorage) (db db' : Database) : Prop where
  now : db'.now = db.now
  registered : ∀ objectId, isRegistered db objectId → isRegistered db' objectId
  evolves : Evolves db db'
  wellStored : WellStored storage db → WellStored storage db'

instance : Std.Refl (Progress storage) := ⟨fun db => ⟨rfl, fun _ h => h, evolves_refl db, id⟩⟩

instance : IsTrans Database (Progress storage) :=
  ⟨fun _ _ _ h h' => ⟨h'.now.trans h.now, fun id hr => h'.registered id (h.registered id hr),
    h.evolves.trans h'.evolves, h'.wellStored ∘ h.wellStored⟩⟩

/-- Statements that write to other tables. -/
theorem progress_of_same (hnow : db'.now = db.now)
    (hregistered : ∀ objectId, isRegistered db objectId → isRegistered db' objectId) (hrows : db'.objectAuthinfo = db.objectAuthinfo)
    (hseq : db'.objectAuthinfoSeq = db.objectAuthinfoSeq) : Progress storage db db' where
  now := hnow
  registered := hregistered
  evolves := ⟨hseq.ge, fun a ha => .inl ⟨a, hrows ▸ ha, ages_refl a⟩⟩
  wellStored h a ha := hseq ▸ h a (hrows ▸ ha)

theorem updateAuthinfo_ok {p : Database → ObjectAuthinfo → Prop} [∀ db, DecidablePred (p db)]
    {f : Database → ObjectAuthinfo → ObjectAuthinfo} {hf : ∀ db a, (f db a).id = a.id}
    (h : (updateAuthinfo p f hf).run db = .ok rows db') :
    rows = db.objectAuthinfo.select (p db) ∧ db'.now = db.now ∧
      db'.objectRegistry = db.objectRegistry ∧
      ∀ a', a' ∈ db'.objectAuthinfo ↔
        ∃ a ∈ db.objectAuthinfo, (if p db a then f db a else a) = a' := by
  obtain ⟨rfl, rfl⟩ := EStateM.Result.ok.inj h
  exact ⟨rfl, rfl, rfl, fun a' => Table.mem_update (hf db)⟩

theorem moves_updateAuthinfo {p : Database → ObjectAuthinfo → Prop} [∀ db, DecidablePred (p db)]
    {f : Database → ObjectAuthinfo → ObjectAuthinfo} {hf : ∀ db a, (f db a).id = a.id}
    (hages : ∀ db a, p db a → Ages a (f db a)) :
    Moves (Progress storage) (updateAuthinfo p f hf) := by
  refine moves_of_run (fun db rows db' h => ?_) (fun db e db' h => by cases h)
  obtain ⟨-, rfl⟩ := EStateM.Result.ok.inj h
  have hrows : ∀ a' ∈ db.objectAuthinfo.update (p db) (f db) (hf db),
      ∃ a ∈ db.objectAuthinfo, Ages a a' := by
    intro a' ha'
    obtain ⟨a, ha, rfl⟩ := (Table.mem_update (hf db)).mp ha'
    by_cases hp : p db a
    · exact ⟨a, ha, by simpa [hp] using hages db a hp⟩
    · exact ⟨a, ha, by simpa [hp] using ages_refl a⟩
  refine ⟨rfl, fun _ h => h, ⟨le_rfl, fun a' ha' => .inl (hrows a' ha')⟩, fun hw a' ha' => ?_⟩
  obtain ⟨a, ha, hage⟩ := hrows a' ha'
  refine ⟨hage.id ▸ (hw a ha).1, fun hu => ?_⟩
  obtain ⟨hu, hpassword⟩ := hage.usable hu
  rw [hpassword]
  exact (hw a ha).2 hu

theorem moves_insertAuthinfos {newRows : Database → List (Nat → ObjectAuthinfo)}
    (hid : ∀ db, ∀ row ∈ newRows db, ∀ id, (row id).id = id)
    (hpassword : ∀ db, WellStored storage db → ∀ row ∈ newRows db, ∀ id,
      ∃ salt plaintext, (row id).password = some (storage.encrypt salt plaintext)) :
    Moves (Progress storage) (insertAuthinfos newRows) := by
  refine moves_of_run (fun db u db' h => ?_) (fun db e db' h => ?_)
  · simp only [insertAuthinfos] at h
    split at h
    · rename_i t ht
      obtain ⟨-, rfl⟩ := EStateM.Result.ok.inj h
      have hmem : ∀ a' ∈ t, a' ∈ db.objectAuthinfo ∨ ∃ i < (newRows db).length,
          ∃ row ∈ newRows db, a' = row (db.objectAuthinfoSeq + i) := by
        intro a' ha'
        rcases (Table.mem_of_insertAll? ht).mp ha' with h | h
        · exact .inl h
        · obtain ⟨i, hi, rfl⟩ := List.mem_mapIdx.mp h
          exact .inr ⟨i, hi, _, List.getElem_mem hi, rfl⟩
      refine ⟨rfl, fun _ h => h, ⟨Nat.le_add_right _ _, fun a' ha' => ?_⟩, fun hw a' ha' => ?_⟩
      · rcases hmem a' ha' with h | ⟨i, -, row, hrow, rfl⟩
        · exact .inl ⟨a', h, ages_refl a'⟩
        · exact .inr (by simp [hid db row hrow])
      · rcases hmem a' ha' with h | ⟨i, hi, row, hrow, rfl⟩
        · exact ⟨(hw a' h).1.trans_le (Nat.le_add_right _ _), (hw a' h).2⟩
        · refine ⟨?_, fun _ => hpassword db hw row hrow _⟩
          simpa [hid db row hrow] using hi
    · cases h
  · simp only [insertAuthinfos] at h
    split at h
    · cases h
    · obtain ⟨-, rfl⟩ := EStateM.Result.error.inj h
      exact refl_of _ db

theorem not_usable_cancel {now : Timestamp} : ¬ Usable (ObjectAuthinfo.cancel now a) := by
  simp [Usable, ObjectAuthinfo.cancel]

theorem ages_cancel {now : Timestamp} : Ages a (ObjectAuthinfo.cancel now a) :=
  ⟨rfl, rfl, rfl, fun h => (not_usable_cancel h).elim⟩

theorem moves_incrementUsage (authinfoId : Nat) :
    Moves (Progress storage) (incrementUsage authinfoId) :=
  moves_bind (moves_updateAuthinfo fun _ _ _ => ⟨rfl, rfl, rfl, fun h => ⟨h, rfl⟩⟩)
    fun _ => readOnly_pure.moves

theorem moves_incrementUsageAndCancel (authinfoId : Nat) :
    Moves (Progress storage) (incrementUsageAndCancel authinfoId) := by
  refine moves_bind (moves_updateAuthinfo fun db a _ => ?_) fun _ => readOnly_raiseIf.moves
  exact ⟨rfl, rfl, rfl, fun h => (not_usable_cancel h).elim⟩

section Visits

variable {R : Database → Database → Prop} [Std.Refl R] [IsTrans Database R]
  {onMatch : Nat → Exec Unit}

theorem moves_visitAuthinfos (h : ∀ id, Moves R (onMatch id)) :
    Moves R (visitAuthinfos storage plaintext onMatch rows) := by
  induction rows with
  | nil => exact readOnly_pure.moves
  | cons a rows ih =>
    rw [visitAuthinfos]
    split
    · exact moves_bind (h a.id) fun _ => moves_bind ih fun _ => readOnly_pure.moves
    · exact ih
    · exact readOnly_throw.moves

theorem moves_checkAuthinfo (h : ∀ id, Moves R (onMatch id)) :
    Moves R (checkAuthinfo storage objectId plaintext onMatch) :=
  moves_bind readOnly_get.moves fun _ => moves_bind readOnly_raiseIf.moves fun _ =>
    moves_visitAuthinfos h

theorem readOnly_infoContactByHandle {handle : String} :
    ReadOnly (infoContactByHandle localTime handle) := by
  refine readOnly_bind readOnly_get fun db => ?_
  split
  · exact readOnly_throw
  · exact readOnly_pure
  · exact readOnly_throw

theorem moves_authorizes (h : ∀ id, Moves R (incrementUsage id)) {handle : String} :
    Moves R (authorizes storage localTime plaintext handle) := by
  refine moves_tryCatch ?_ fun e => ?_
  · exact moves_bind readOnly_infoContactByHandle.moves fun _ =>
      moves_bind (moves_checkAuthinfo h) fun _ => readOnly_pure.moves
  · split
    · exact readOnly_pure.moves
    · exact readOnly_pure.moves
    · exact readOnly_throw.moves

theorem moves_getAuthorizedContacts (h : ∀ id, Moves R (incrementUsage id))
    {contacts : List String} :
    Moves R (getAuthorizedContacts storage localTime plaintext contacts) := by
  induction contacts with
  | nil => exact readOnly_pure.moves
  | cons handle contacts ih =>
    exact moves_bind (moves_authorizes h) fun _ => moves_bind ih fun _ => readOnly_pure.moves

end Visits

theorem moves_cleanAuthinfo : Moves (Progress storage) (cleanAuthinfo objectId) :=
  moves_bind (moves_updateAuthinfo fun _ _ _ => ages_cancel) fun _ => readOnly_pure.moves

theorem moves_cleanExpiredAuthinfos : Moves (Progress storage) cleanExpiredAuthinfos :=
  moves_bind (moves_updateAuthinfo fun _ _ _ => ages_cancel) fun _ => readOnly_pure.moves

theorem moves_storeAuthinfo {op : StoreAuthinfo} {salt : String} :
    Moves (Progress storage) (op.exec storage salt plaintext) := by
  refine moves_bind readOnly_raiseIf.moves fun _ => moves_bind readOnly_get.moves fun _ =>
    moves_bind readOnly_raiseIf.moves fun _ => moves_bind readOnly_raiseIf.moves fun _ =>
    moves_bind (moves_updateAuthinfo fun _ a _ => ?_) fun _ => moves_insertAuthinfos ?_ ?_
  · exact ⟨rfl, rfl, rfl, fun h => absurd h.2 (by simp)⟩
  · intro db row hrow id
    obtain rfl := List.mem_singleton.mp hrow
    rfl
  · intro db _ row hrow id
    obtain rfl := List.mem_singleton.mp hrow
    exact ⟨salt, plaintext, rfl⟩

theorem mem_activeAuthinfos : a ∈ activeAuthinfos db objectId ↔
    a ∈ db.objectAuthinfo ∧ a.objectId = objectId ∧ Usable a ∧ db.now < a.expiresAt :=
  Table.mem_select

theorem moves_copyAuthinfos {srcId dstId : Nat} :
    Moves (Progress storage) (copyAuthinfos srcId dstId) := by
  refine moves_insertAuthinfos ?_ ?_
  · intro db row hrow id
    obtain ⟨a, -, rfl⟩ := List.mem_map.mp hrow
    rfl
  · intro db hw row hrow id
    obtain ⟨a, ha, rfl⟩ := List.mem_map.mp hrow
    obtain ⟨ha, -, hu, -⟩ := mem_activeAuthinfos.mp ha
    exact (hw a ha).2 hu

theorem moves_setNewSponsoringRegistrar {registrarId : Nat} :
    Moves (Progress storage) (setNewSponsoringRegistrar objectId registrarId) := by
  refine moves_of_run (fun db u db' h => ?_) (fun db e db' h => ?_)
  all_goals
    simp only [setNewSponsoringRegistrar] at h
    split at h <;> cases h
    exact progress_of_same rfl (fun _ h => h) rfl rfl

theorem moves_insertHistory {requestId : Option Nat} :
    Moves (Progress storage) (insertHistory requestId objectId) := by
  refine moves_of_run (fun db u db' h => ?_) (fun db e db' h => ?_)
  all_goals
    simp only [insertHistory] at h
    split at h <;> cases h
    exact progress_of_same rfl (fun _ h => h) rfl rfl

theorem moves_setHistoryId {what : String} {historyId : Nat} :
    Moves (Progress storage) (setHistoryId what objectId historyId) := by
  refine moves_of_run (fun db u db' h => ?_) (fun db e db' h => ?_)
  · simp only [setHistoryId] at h
    split at h
    · obtain ⟨-, rfl⟩ := EStateM.Result.ok.inj h
      refine progress_of_same rfl (fun id ho => ?_) rfl rfl
      obtain ⟨o, ho, herdate⟩ := ho
      obtain ⟨ho, hid⟩ := Table.lookup_eq_some.mp ho
      refine ⟨_, Table.lookup_eq_some.mpr ⟨(Table.mem_update (by intro _; rfl)).mpr ⟨o, ho, rfl⟩, ?_⟩,
        ?_⟩
      all_goals
        split
        · assumption
        · assumption
    · cases h
  · simp only [setHistoryId] at h
    split at h <;> cases h
    exact refl_of _ db

theorem readOnly_newRegistrarId {handle : String} : ReadOnly (newRegistrarId handle) := by
  refine readOnly_bind readOnly_get fun db => ?_
  split
  · exact readOnly_throw
  · exact readOnly_pure
  · exact readOnly_throw

theorem readOnly_getLockedSponsoringRegistrar : ReadOnly (getLockedSponsoringRegistrar objectId) := by
  refine readOnly_bind readOnly_get fun db => ?_
  split
  · exact readOnly_pure
  · exact readOnly_throw

variable {op : TransferObject}

theorem moves_cleanUnlessUsed : Moves (Progress storage) (cleanUnlessUsed objectId n) := by
  unfold cleanUnlessUsed
  split
  · exact moves_bind moves_cleanAuthinfo fun _ => readOnly_pure.moves
  · exact readOnly_pure.moves

theorem moves_recordTransfer {registrarId : Nat} {requestId : Option Nat} :
    Moves (Progress storage) (recordTransfer objectId registrarId requestId) :=
  moves_bind moves_setNewSponsoringRegistrar fun _ => moves_bind moves_insertHistory fun _ =>
    moves_bind moves_setHistoryId fun _ => readOnly_pure.moves

theorem moves_transfer : Moves (Progress storage) (op.exec storage localTime) :=
  moves_bind readOnly_newRegistrarId.moves fun _ =>
    moves_bind readOnly_getLockedSponsoringRegistrar.moves fun _ =>
    moves_bind readOnly_raiseIf.moves fun _ =>
    moves_bind (moves_checkAuthinfo moves_incrementUsageAndCancel) fun _ =>
    moves_bind (moves_getAuthorizedContacts moves_incrementUsage) fun _ =>
    moves_bind readOnly_raiseIf.moves fun _ => moves_bind moves_cleanUnlessUsed fun _ => moves_recordTransfer

end LibFred.Object
