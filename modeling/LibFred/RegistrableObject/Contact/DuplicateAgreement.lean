import LibFred.RegistrableObject.Contact.DiffContacts
import LibFred.Util.Printable

/-! The difference of two contacts and the search for duplicates agree unless one contact lacks
something that the other has. -/
namespace LibFred.RegistrableObject.Contact

open Sql
open LibFred.Db (Database Registrar getObjectStates knownObjectStates)

variable {db : Database} {src dst r : ContactRow} {srcHandle dstHandle : String}
  {registrar : Registrar}

/-- Neither state nor identity stands in the way of a merge. -/
structure Mergeable (db : Database) (src dst : ContactRow) : Prop where
  srcKnown : ∀ state ∈ getObjectStates db src.contact.id, state ∈ knownObjectStates
  dstKnown : ∀ state ∈ getObjectStates db dst.contact.id, state ∈ knownObjectStates
  srcFree : ∀ state ∈ srcBlockingStates, state ∉ getObjectStates db src.contact.id
  dstFree : ∀ state ∈ dstBlockingStates, state ∉ getObjectStates db dst.contact.id
  identity : isAttachedToIdentity db src.contact.id = false

/-- Some value that both contacts have differs; a missing text is empty, a missing type 0. -/
def DiffersWhereBothHave (db : Database) (src dst : ContactRow) : Prop :=
  (∃ col ∈ textColumns, squeezed (col src.contact) ≠ squeezed (col dst.contact)) ∨
    src.contact.ssntype.getD 0 ≠ dst.contact.ssntype.getD 0 ∨
    (∃ col ∈ discloseColumns, ∃ x ∈ col src.contact, ∃ y ∈ col dst.contact, x ≠ y) ∨
    src.contact.warningLetter ≠ dst.contact.warningLetter ∨
    ∃ type, ∃ x ∈ addressRow db src.contact.id type, ∃ y ∈ addressRow db dst.contact.id type, x ≠ y

/-- Both contacts have the same of the disclose flags, the ssn type and the addresses. -/
def SameShape (db : Database) (src dst : ContactRow) : Prop :=
  (∀ col ∈ discloseColumns, (col src.contact).isSome = (col dst.contact).isSome) ∧
    src.contact.ssntype.isSome = dst.contact.ssntype.isSome ∧
    ∀ type, (addressRow db src.contact.id type).isSome = (addressRow db dst.contact.id type).isSome

theorem warningText_injective {a b : Option Bool}
    (h : (a.map boolText).getD "" = (b.map boolText).getD "") : a = b := by
  rcases a with _ | _ | _ <;> rcases b with _ | _ | _ <;> first | rfl | exact absurd h (by decide)

theorem ssntypeText_injective {a b : Option Nat}
    (h : (a.map Nat.repr).getD "" = (b.map Nat.repr).getD "") : a = b := by
  cases a with
  | none =>
    cases b with
    | none => rfl
    | some n => exact absurd h.symm Nat.repr_ne_empty
  | some m =>
    cases b with
    | none => exact absurd h Nat.repr_ne_empty
    | some n => exact congrArg some (Util.repr_injective h)

theorem eq_of_isSome_eq {α : Type*} {a b : Option α} (h : a.isSome = b.isSome)
    (heq : ∀ x ∈ a, ∀ y ∈ b, x = y) : a = b := by
  cases a with
  | none =>
    cases b with
    | none => rfl
    | some y => simp at h
  | some x =>
    cases b with
    | none => simp at h
    | some y => exact congrArg some (heq x rfl y rfl)

theorem holds_differ (hclid : src.object.clid = dst.object.clid) :
    (differ db src dst).holds ↔ DiffersWhereBothHave db src dst := by
  simp only [differ, Truth.holds_any, List.mem_append, or_and_right, exists_or, List.mem_map,
    List.mem_singleton, exists_eq_left, exists_exists_and_eq_and, or_assoc, holds_ne_some, hclid,
    ne_eq, not_true_eq_false, or_false, DiffersWhereBothHave]
  refine or_congr_right (or_congr_right (or_congr ?_ (or_congr ?_ ?_)))
  · exact exists_congr fun col => and_congr_right fun _ => holds_ne_iff
  · exact not_congr ⟨warningText_injective, fun h => by rw [h]⟩
  · refine exists_congr fun type => ?_
    rw [holds_ne_iff, and_iff_right (mem_contactAddressTypes type)]

/-- Both searches compare the same texts. -/
theorem mem_groupTextColumns {col : Db.Contact → Option String} :
    col ∈ groupTextColumns ↔ col ∈ textColumns := by
  simp only [groupTextColumns, textColumns, List.mem_cons, List.not_mem_nil, or_false]
  grind

theorem groupKey_eq_iff : groupKey db src = groupKey db dst ↔
    (∀ col ∈ textColumns, squeezed (col src.contact) = squeezed (col dst.contact)) ∧
      src.contact.ssntype = dst.contact.ssntype ∧ src.object.clid = dst.object.clid ∧
      (∀ col ∈ discloseColumns, col src.contact = col dst.contact) ∧
      src.contact.warningLetter = dst.contact.warningLetter ∧
      ∀ type, addressRow db src.contact.id type = addressRow db dst.contact.id type := by
  simp only [groupKey, GroupKey.mk.injEq, List.map_inj_left, mem_groupTextColumns,
    mem_contactAddressTypes, true_imp_iff]
  refine and_congr_right fun _ => and_congr ?_ (and_congr_right fun _ => and_congr_right fun _ =>
    and_congr_left fun _ => ?_)
  · exact ⟨ssntypeText_injective, fun h => by rw [h]⟩
  · exact ⟨warningText_injective, fun h => by rw [h]⟩

/-- Duplicates have no difference and the same shape, and nothing else can keep contacts of one
registrar apart. -/
theorem groupKey_eq_iff_shape (hclid : src.object.clid = dst.object.clid) :
    groupKey db src = groupKey db dst ↔
      ¬ DiffersWhereBothHave db src dst ∧ SameShape db src dst := by
  rw [groupKey_eq_iff]
  constructor
  · rintro ⟨htexts, hssn, -, hdisclose, hwarning, haddr⟩
    refine ⟨?_, fun col hcol => by rw [hdisclose col hcol], by rw [hssn],
      fun type => by rw [haddr type]⟩
    rintro (⟨col, hcol, hne⟩ | hne | ⟨col, hcol, x, hx, y, hy, hne⟩ | hne | ⟨type, x, hx, y, hy, hne⟩)
    · exact hne (htexts col hcol)
    · exact hne (by rw [hssn])
    · exact hne (Option.mem_unique hx (hdisclose col hcol ▸ hy))
    · exact hne hwarning
    · exact hne (Option.mem_unique hx (haddr type ▸ hy))
  · rintro ⟨hsame, hdisclose, hssn, haddr⟩
    simp only [DiffersWhereBothHave, not_or, not_exists, not_and, not_not] at hsame
    obtain ⟨htexts, hssnEq, hdiscloseEq, hwarning, haddrEq⟩ := hsame
    refine ⟨htexts, ?_, hclid, ?_, hwarning, ?_⟩
    · refine eq_of_isSome_eq hssn fun x hx y hy => ?_
      simpa [Option.mem_def.mp hx, Option.mem_def.mp hy] using hssnEq
    · intro col hcol
      exact eq_of_isSome_eq (hdisclose col hcol) (hdiscloseEq col hcol)
    · intro type
      exact eq_of_isSome_eq (haddr type) (haddrEq type)

theorem mem_liveContacts {handle : String} (h : r ∈ liveContacts db handle) :
    r ∈ db.objectRegistry.rows.filterMap (contactRow db) := by
  obtain ⟨oreg, horeg, hr⟩ := List.mem_filterMap.mp h
  exact List.mem_filterMap.mpr ⟨oreg, (Table.mem_select.mp horeg).1, hr⟩

/-- A live contact of the registrar is among the contacts that are searched for duplicates. -/
theorem mem_rows {handle : String} (h : r ∈ liveContacts db handle)
    (hreg : registrar ∈ db.registrar) (hclid : r.object.clid = registrar.id) :
    r ∈ (⟨some registrar.handle, []⟩ : FindContactDuplicates).rows db := by
  have hlookup : db.registrar.lookup r.object.clid = some registrar :=
    Table.lookup_eq_some.mpr ⟨hreg, hclid.symm⟩
  refine List.mem_filter.mpr ⟨mem_liveContacts h, ?_⟩
  simp [hlookup]

theorem one_lt_length {α : Type*} {l : List α} {a b : α} (ha : a ∈ l) (hb : b ∈ l) (hne : a ≠ b) :
    1 < l.length := by
  rcases l with _ | ⟨x, _ | ⟨y, l⟩⟩
  · cases ha
  · exact absurd ((List.mem_singleton.mp ha).trans (List.mem_singleton.mp hb).symm) hne
  · simp

theorem groups_iff (hne : src ≠ dst)
    (hsrc : src ∈ (⟨some registrar.handle, []⟩ : FindContactDuplicates).rows db)
    (hdst : dst ∈ (⟨some registrar.handle, []⟩ : FindContactDuplicates).rows db) :
    (∃ group ∈ (⟨some registrar.handle, []⟩ : FindContactDuplicates).groups db,
      src ∈ group ∧ dst ∈ group) ↔ groupKey db src = groupKey db dst := by
  rw [← exists_mem_groupBy hsrc hdst]
  constructor
  · rintro ⟨group, hgroup, hmem⟩
    exact ⟨group, (List.mem_filter.mp hgroup).1, hmem⟩
  · rintro ⟨group, hgroup, hmem⟩
    refine ⟨group, List.mem_filter.mpr ⟨hgroup, ?_⟩, hmem⟩
    simpa using one_lt_length hmem.1 hmem.2 hne

/-- Of all groups some one is found, if there is any. -/
theorem exec_eq_group {anyOrder : Sorting fun _ _ : List ContactRow => false}
    {op : FindContactDuplicates} (h : op.groups db ≠ []) :
    ∃ group ∈ op.groups db, op.exec anyOrder db = (group.map (·.oreg.name)).toFinset := by
  cases hsort : anyOrder.sort (op.groups db) with
  | nil => exact absurd (List.perm_nil.mp (hsort ▸ (anyOrder.perm (op.groups db)).symm)) h
  | cons group groups =>
    refine ⟨group, (anyOrder.perm _).mem_iff.mp (by simp [hsort]), ?_⟩
    simp [FindContactDuplicates.exec, hsort]

theorem defaultDiffContacts_eq (hsrc : liveContacts db srcHandle = [src])
    (hdst : liveContacts db dstHandle = [dst]) (hne : src ≠ dst) (hm : Mergeable db src dst) :
    defaultDiffContacts db srcHandle dstHandle = .ok ((differ db src dst).getD false) := by
  have hhandle : upper srcHandle ≠ upper dstHandle := by
    intro h
    have hsame : liveContacts db srcHandle = liveContacts db dstHandle := by
      rw [liveContacts, h, liveContacts]
    rw [hsrc, hdst] at hsame
    exact hne (List.singleton_inj.mp hsame)
  have hstates : objectStatesInfo db src.contact.id = .ok (getObjectStates db src.contact.id) :=
    if_pos hm.srcKnown
  have hstates' : objectStatesInfo db dst.contact.id = .ok (getObjectStates db dst.contact.id) :=
    if_pos hm.dstKnown
  have hdstFree : ¬ dstBlockingStates.any (· ∈ getObjectStates db dst.contact.id) := by
    simpa using hm.dstFree
  have hsrcFree : ¬ srcBlockingStates.any (· ∈ getObjectStates db src.contact.id) := by
    simpa using hm.srcFree
  rw [defaultDiffContacts, if_neg hhandle, hsrc, hdst]
  simp only [List.product, List.map_cons, List.map_nil, List.flatMap_cons, List.flatMap_nil,
    List.append_nil, hstates, hstates', hm.identity, bind, Except.bind, pure, Except.pure,
    if_neg hdstFree, Bool.or_false, if_neg hsrcFree]

/-- Of two contacts of a registrar that may be merged the difference is told by the one operation
exactly when the other does not find them to be duplicates: this holds exactly of the contacts that
differ in a value that both have or have the same of the flags, ssn types and addresses. -/
theorem diff_agrees_with_duplicates (hsrc : liveContacts db srcHandle = [src])
    (hdst : liveContacts db dstHandle = [dst]) (hne : src ≠ dst)
    (hreg : registrar ∈ db.registrar) (hsrcClid : src.object.clid = registrar.id)
    (hdstClid : dst.object.clid = registrar.id) (hm : Mergeable db src dst) :
    ∃ differs, defaultDiffContacts db srcHandle dstHandle = .ok differs ∧
      ((differs = false ↔
          ∃ group ∈ (⟨some registrar.handle, []⟩ : FindContactDuplicates).groups db,
            src ∈ group ∧ dst ∈ group) ↔
        DiffersWhereBothHave db src dst ∨ SameShape db src dst) := by
  have hclid : src.object.clid = dst.object.clid := hsrcClid.trans hdstClid.symm
  have hgroups := groups_iff hne (mem_rows (hsrc ▸ List.mem_singleton_self src) hreg hsrcClid)
    (mem_rows (hdst ▸ List.mem_singleton_self dst) hreg hdstClid)
  refine ⟨_, defaultDiffContacts_eq hsrc hdst hne hm, ?_⟩
  rw [hgroups, groupKey_eq_iff_shape hclid, ← Bool.not_eq_true, Truth.getD_false_eq_true,
    holds_differ hclid]
  by_cases hdiffers : DiffersWhereBothHave db src dst
  · simp [hdiffers]
  · simp [hdiffers]

/-- A contact with a name only. -/
def namedContact (id : Nat) : Db.Contact :=
  ⟨id, some "Petr", none, none, none, none, none, none, none, none, none, none, none, none, none,
    none, none, none, none, none, none, none, none, none, none, none, none⟩

def namedContactRow (id : Nat) (handle : String) : ContactRow where
  oreg := ⟨id, 0, handle, handle, .contact, 1, 0, none, none, none⟩
  object := ⟨id, 1, none, none, none⟩
  contact := namedContact id

/-- Two contacts of one registrar, the first of which has a mailing address. -/
def mailingDb : Database :=
  { Database.empty with
    registrar := ⟨[⟨1, "REG-A"⟩], by decide⟩
    objectRegistry := ⟨[(namedContactRow 5 "FIRST").oreg, (namedContactRow 6 "SECOND").oreg],
      by decide⟩
    object := ⟨[(namedContactRow 5 "FIRST").object, (namedContactRow 6 "SECOND").object], by decide⟩
    contact := ⟨[namedContact 5, namedContact 6], by decide⟩
    contactAddress := ⟨[⟨5, .mailing, none, some "Street 1", none, none, some "Praha", none,
      some "11150", some "CZ"⟩], by decide⟩ }

theorem mergeable_mailingDb :
    Mergeable mailingDb (namedContactRow 5 "FIRST") (namedContactRow 6 "SECOND") := by
  constructor <;> decide

theorem diff_agrees_with_duplicates_mailingDb :
    ∃ differs, defaultDiffContacts mailingDb "first" "second" = .ok differs ∧
      ((differs = false ↔
          ∃ group ∈ (⟨some "REG-A", []⟩ : FindContactDuplicates).groups mailingDb,
            namedContactRow 5 "FIRST" ∈ group ∧ namedContactRow 6 "SECOND" ∈ group) ↔
        DiffersWhereBothHave mailingDb (namedContactRow 5 "FIRST") (namedContactRow 6 "SECOND") ∨
          SameShape mailingDb (namedContactRow 5 "FIRST") (namedContactRow 6 "SECOND")) :=
  diff_agrees_with_duplicates (by decide) (by decide) (by decide)
    (show (⟨1, "REG-A"⟩ : Registrar) ∈ mailingDb.registrar by simp [mailingDb, ← Table.mem_rows]) rfl rfl mergeable_mailingDb

/-- An address that only one contact has is no difference, and yet they are no duplicates. -/
theorem not_diff_agrees_with_duplicates :
    ¬ ∀ (db : Database) (srcHandle dstHandle : String) (src dst : ContactRow)
      (registrar : Registrar), liveContacts db srcHandle = [src] → liveContacts db dstHandle = [dst] →
        src ≠ dst → registrar ∈ db.registrar → src.object.clid = registrar.id →
        dst.object.clid = registrar.id → Mergeable db src dst →
        (defaultDiffContacts db srcHandle dstHandle = .ok false ↔
          ∃ group ∈ (⟨some registrar.handle, []⟩ : FindContactDuplicates).groups db,
            src ∈ group ∧ dst ∈ group) := by
  intro h
  have hagree := h mailingDb "first" "second" (namedContactRow 5 "FIRST")
    (namedContactRow 6 "SECOND") ⟨1, "REG-A"⟩ (by decide) (by decide) (by decide)
    (by simp [mailingDb, ← Table.mem_rows]) rfl rfl mergeable_mailingDb
  have hgroups : (⟨some "REG-A", []⟩ : FindContactDuplicates).groups mailingDb = [] := by decide
  obtain ⟨group, hgroup, -⟩ := hagree.mp (by rfl)
  simp [hgroups] at hgroup

end LibFred.RegistrableObject.Contact
