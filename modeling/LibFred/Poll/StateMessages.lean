import LibFred.Poll.CreateStateMessages
import LibFred.Transition

/-! Every open state that registrars are to be told of is announced to them once. -/
namespace LibFred.Poll

open Sql

def ObjectType.idleDelete : ObjectType → MessageType
  | contact => .idleDeleteContact
  | nsset => .idleDeleteNsset
  | domain => .idleDeleteDomain
  | keyset => .idleDeleteKeyset

/-- The messages about states: of objects of any type, but idle objects have one for each. -/
inductive Announces : String → Option String → MessageType → Prop
  | impExpiration {type : Option String} : Announces "expirationWarning" type .impExpiration
  | expiration {type : Option String} : Announces "expired" type .expiration
  | impValidation {type : Option String} : Announces "validationWarning1" type .impValidation
  | validation {type : Option String} : Announces "notValidated" type .validation
  | outzone {type : Option String} : Announces "outzoneUnguarded" type .outzone
  | idleDelete (type : ObjectType) :
      Announces "deleteCandidate" (some type.toDbHandle) type.idleDelete

theorem MessageType.toDbHandle_inj {a b : MessageType} : a.toDbHandle = b.toDbHandle ↔ a = b := by
  constructor
  · intro h
    cases a <;> cases b <;> first | rfl | simp [toDbHandle] at h
  · exact congrArg toDbHandle

def EnumTables.typeName (enums : EnumTables) (type : Nat) : Option String :=
  (enums.enumObjectType.lookup type).map (·.name)

theorem EnumTables.typeName_eq_some {enums : EnumTables} {type : Nat} {eot : EnumObjectType}
    (heot : eot ∈ enums.enumObjectType) (hid : eot.id = type) :
    enums.typeName type = some eot.name := by
  rw [typeName, Table.lookup_eq_some.mpr ⟨heot, hid⟩, Option.map_some]

namespace CreateStateMessages

variable {op : CreateStateMessages} {enums : EnumTables} {db db' : Database}

theorem mem_sfilter {f : NameFilter} :
    f ∈ op.sfilter ↔ f ∈ pfilter ∧ ∀ mt ∈ op.exceptList, mt.toDbHandle ≠ f.msgtypename := by
  unfold sfilter
  split
  · rename_i h
    simp [h]
  · simp

theorem pfilter_type {f : NameFilter} {name : String} (hf : f ∈ pfilter)
    (hname : f.registrytypename = some name) : ∃ type : ObjectType, type.toDbHandle = name := by
  simp only [pfilter, List.mem_cons, List.not_mem_nil, or_false] at hf
  rcases hf with rfl | rfl | rfl | rfl | rfl | rfl | rfl | rfl | rfl <;> cases hname
  · exact ⟨.contact, rfl⟩
  · exact ⟨.nsset, rfl⟩
  · exact ⟨.domain, rfl⟩
  · exact ⟨.keyset, rfl⟩

/-- Entries for one state with a type in common are the same. -/
theorem pfilter_unique {f f' : NameFilter} {type : Option String} (hf : f ∈ pfilter)
    (hf' : f' ∈ pfilter) (hstate : f.stateidname = f'.stateidname)
    (htype : f.registrytypename = none ∨ f.registrytypename = type)
    (htype' : f'.registrytypename = none ∨ f'.registrytypename = type) : f = f' := by
  have h : ∀ a ∈ pfilter, ∀ b ∈ pfilter, a.stateidname = b.stateidname →
      a = b ∨ a.registrytypename ≠ none ∧ b.registrytypename ≠ none ∧
        a.registrytypename ≠ b.registrytypename := by decide
  rcases h f hf f' hf' hstate with heq | ⟨hnone, hnone', hne⟩
  · exact heq
  · exact absurd ((htype.resolve_left hnone).trans (htype'.resolve_left hnone').symm) hne

theorem announces_iff {state : String} {type : Option String} {name : String} :
    (∃ f ∈ op.sfilter, f.stateidname = state ∧
      (f.registrytypename = none ∨ f.registrytypename = type) ∧ f.msgtypename = name) ↔
      ∃ mt, Announces state type mt ∧ mt ∉ op.exceptList ∧ mt.toDbHandle = name := by
  constructor
  · rintro ⟨f, hf, rfl, htype, rfl⟩
    obtain ⟨hf, hexcept⟩ := mem_sfilter.mp hf
    have hann : ∃ mt, Announces f.stateidname type mt ∧ mt.toDbHandle = f.msgtypename := by
      simp only [pfilter, List.mem_cons, List.not_mem_nil, or_false] at hf
      rcases hf with rfl | rfl | rfl | rfl | rfl | rfl | rfl | rfl | rfl
      · exact ⟨_, .impExpiration, rfl⟩
      · exact ⟨_, .expiration, rfl⟩
      · exact ⟨_, .impValidation, rfl⟩
      · exact ⟨_, .validation, rfl⟩
      · exact ⟨_, .outzone, rfl⟩
      · obtain rfl := htype.resolve_left (by simp)
        exact ⟨_, .idleDelete .contact, rfl⟩
      · obtain rfl := htype.resolve_left (by simp)
        exact ⟨_, .idleDelete .nsset, rfl⟩
      · obtain rfl := htype.resolve_left (by simp)
        exact ⟨_, .idleDelete .domain, rfl⟩
      · obtain rfl := htype.resolve_left (by simp)
        exact ⟨_, .idleDelete .keyset, rfl⟩
    obtain ⟨mt, hann, hmt⟩ := hann
    exact ⟨mt, hann, fun hmem => hexcept mt hmem hmt, hmt⟩
  · rintro ⟨mt, hann, hexcept, rfl⟩
    have hkept : ∀ mt' ∈ op.exceptList, mt'.toDbHandle ≠ mt.toDbHandle := by
      intro mt' hmt' heq
      rw [MessageType.toDbHandle_inj] at heq
      exact hexcept (heq ▸ hmt')
    have hentry : ∃ f ∈ pfilter, f.stateidname = state ∧
        (f.registrytypename = none ∨ f.registrytypename = type) ∧ f.msgtypename = mt.toDbHandle := by
      cases hann with
      | idleDelete type => cases type <;> exact ⟨⟨_, some _, _⟩, by decide, rfl, .inr rfl, rfl⟩
      | _ => exact ⟨⟨_, none, _⟩, by decide, rfl, .inl rfl, rfl⟩
    obtain ⟨f, hf, hstate, htype, hname⟩ := hentry
    exact ⟨f, mem_sfilter.mpr ⟨hf, by rwa [hname]⟩, hstate, htype, hname⟩

/-- The object type of an entry is found, so that NULL is left for entries of any type. -/
theorem mem_namedFilters {f : NamedFilter} :
    f ∈ op.namedFilters enums ↔ f.1.1.1 ∈ op.sfilter ∧
      (f.1.1.2 ∈ enums.enumObjectStates ∧ f.1.1.2.name = f.1.1.1.stateidname) ∧
      ((∀ eot ∈ f.1.2, eot ∈ enums.enumObjectType) ∧
        f.1.2.map (·.name) = f.1.1.1.registrytypename) ∧
      f.2 ∈ enums.messagetype ∧ f.2.name = f.1.1.1.msgtypename := by
  obtain ⟨⟨⟨f, eos⟩, eot⟩, mt⟩ := f
  simp only [namedFilters, mem_join]
  cases eot with
  | some eot =>
    simp only [mem_leftJoin_some, mem_join, Table.mem_rows, holds_eq, Option.some.injEq,
      Option.map_some, forall_eq', Option.mem_def]
    constructor
    · rintro ⟨⟨⟨hf, heos⟩, heot, _, rfl, htype⟩, hmt⟩
      exact ⟨hf, heos, ⟨heot, htype.symm⟩, hmt⟩
    · rintro ⟨hf, heos, ⟨heot, htype⟩, hmt⟩
      exact ⟨⟨⟨hf, heos⟩, heot, _, rfl, htype.symm⟩, hmt⟩
  | none =>
    simp only [mem_leftJoin_none, mem_join, Table.mem_rows, Option.map_none]
    constructor
    · rintro ⟨⟨⟨hf, heos⟩, hnone⟩, hmt⟩
      refine ⟨hf, heos, ⟨fun eot heot => absurd heot (by simp), ?_⟩, hmt⟩
      cases hname : f.registrytypename with
      | none => rfl
      | some name =>
        obtain ⟨type, rfl⟩ := pfilter_type (mem_sfilter.mp hf).1 hname
        obtain ⟨eot, heot, htype⟩ := enums.objectType_filled type
        exact absurd (by simp [hname, htype]) (hnone eot heot)
    · rintro ⟨hf, heos, ⟨-, htype⟩, hmt⟩
      exact ⟨⟨⟨hf, heos⟩, fun eot _ => by simp [← htype]⟩, hmt⟩

/-- The rows of an entry are for the objects of the types that the entry is for. -/
theorem namedFilter_type {f : NamedFilter} {type : Nat} (hf : f ∈ op.namedFilters enums)
    (htype : f.1.2.map (·.id) = none ∨ f.1.2.map (·.id) = some type) :
    f.1.1.1.registrytypename = none ∨ f.1.1.1.registrytypename = enums.typeName type := by
  obtain ⟨-, -, ⟨heot, hname⟩, -⟩ := mem_namedFilters.mp hf
  rw [← hname]
  cases hf : f.1.2 with
  | none => exact .inl rfl
  | some eot =>
    have hid : eot.id = type := by simpa [hf] using htype
    exact .inr (EnumTables.typeName_eq_some (heot eot hf) hid).symm

/-- No state of an object is chosen by two entries. -/
theorem namedFilter_unique {f f' : NamedFilter} {type : Nat} (hf : f ∈ op.namedFilters enums)
    (hf' : f' ∈ op.namedFilters enums) (hstate : f.1.1.2.id = f'.1.1.2.id)
    (htype : f.1.2.map (·.id) = none ∨ f.1.2.map (·.id) = some type)
    (htype' : f'.1.2.map (·.id) = none ∨ f'.1.2.map (·.id) = some type) : f = f' := by
  have hentryType := namedFilter_type hf htype
  have hentryType' := namedFilter_type hf' htype'
  obtain ⟨⟨⟨entry, eos⟩, eot⟩, mt⟩ := f
  obtain ⟨⟨⟨entry', eos'⟩, eot'⟩, mt'⟩ := f'
  obtain ⟨hentry, ⟨heos, heosName⟩, ⟨heot, heotName⟩, hmt, hmtName⟩ := mem_namedFilters.mp hf
  obtain ⟨hentry', ⟨heos', heosName'⟩, ⟨heot', heotName'⟩, hmt', hmtName'⟩ := mem_namedFilters.mp hf'
  obtain rfl : eos = eos' := Table.eq_of_key_eq heos heos' hstate
  obtain rfl : entry = entry' := pfilter_unique (mem_sfilter.mp hentry).1 (mem_sfilter.mp hentry').1
    (heosName.symm.trans heosName') hentryType hentryType'
  obtain rfl : mt = mt' := enums.messagetype_unique mt hmt mt' hmt' (hmtName.trans hmtName'.symm)
  obtain rfl : eot = eot' := by
    have hnames := heotName.trans heotName'.symm
    cases eot <;> cases eot'
    · rfl
    · cases hnames
    · cases hnames
    · exact congrArg some (enums.objectType_unique _ (heot _ rfl) _ (heot' _ rfl)
        (Option.some.inj hnames))
  rfl

theorem nodup_tfilter : (op.tfilter enums).Nodup := by
  have hpfilter : pfilter.Nodup := by decide
  have hsfilter : op.sfilter.Nodup := by
    unfold sfilter
    split
    · exact hpfilter
    · exact hpfilter.filter _
  have hnodup : (op.namedFilters enums).Nodup :=
    nodup_join (nodup_leftJoin (nodup_join hsfilter enums.enumObjectStates.nodup_rows)
      enums.enumObjectType.nodup_rows) enums.messagetype.nodup_rows
  refine hnodup.map_on fun f hf f' hf' heq => ?_
  obtain ⟨hstate, htype, -⟩ := Filter.mk.inj heq
  cases hid : f.1.2.map (·.id) with
  | none =>
    have hany : f.1.2.map (·.id) = none ∨ f.1.2.map (·.id) = some 0 := .inl hid
    exact namedFilter_unique hf hf' hstate hany (htype ▸ hany)
  | some type => exact namedFilter_unique hf hf' hstate (.inr hid) (.inr (htype ▸ hid))

/-- The filter that is for a state of objects of the type. -/
def Filter.Chooses (f : Filter) (stateId type : Nat) : Prop :=
  f.stateid = stateId ∧ (f.registrytype = none ∨ f.registrytype = some type)

theorem tfilter_unique {f f' : Filter} {stateId type : Nat} (hf : f ∈ op.tfilter enums)
    (hf' : f' ∈ op.tfilter enums) (hchooses : f.Chooses stateId type)
    (hchooses' : f'.Chooses stateId type) : f = f' := by
  obtain ⟨n, hn, rfl⟩ := List.mem_map.mp hf
  obtain ⟨n', hn', rfl⟩ := List.mem_map.mp hf'
  rw [namedFilter_unique hn hn' (hchooses.1.trans hchooses'.1.symm) hchooses.2 hchooses'.2]

theorem tfilter_chooses {stateId type msgtype : Nat} :
    (∃ f ∈ op.tfilter enums, f.Chooses stateId type ∧ f.msgtype = msgtype) ↔
      ∃ eos ∈ enums.enumObjectStates, eos.id = stateId ∧
        ∃ mt, Announces eos.name (enums.typeName type) mt ∧ mt ∉ op.exceptList ∧
          ∃ row ∈ enums.messagetype, row.name = mt.toDbHandle ∧ row.id = msgtype := by
  constructor
  · rintro ⟨f, hf, ⟨rfl, htype⟩, rfl⟩
    obtain ⟨n, hn, rfl⟩ := List.mem_map.mp hf
    have hentryType := namedFilter_type hn htype
    obtain ⟨hentry, ⟨heos, heosName⟩, -, hmt, hmtName⟩ := mem_namedFilters.mp hn
    obtain ⟨mt, hann, hexcept, hname⟩ :=
      announces_iff.mp ⟨_, hentry, heosName.symm, hentryType, rfl⟩
    exact ⟨_, heos, rfl, mt, hann, hexcept, _, hmt, hmtName.trans hname.symm, rfl⟩
  · rintro ⟨eos, heos, rfl, mt, hann, hexcept, row, hrow, hname, rfl⟩
    obtain ⟨entry, hentry, hstate, htype, hmsgtype⟩ := announces_iff.mpr ⟨mt, hann, hexcept, rfl⟩
    have heot : ∃ eot : Option EnumObjectType, (∀ t ∈ eot, t ∈ enums.enumObjectType) ∧
        eot.map (·.name) = entry.registrytypename ∧
        (eot.map (·.id) = none ∨ eot.map (·.id) = some type) := by
      rcases htype with hnone | htype
      · exact ⟨none, nofun, hnone.symm, .inl rfl⟩
      · refine ⟨enums.enumObjectType.lookup type, fun t ht => ?_, htype.symm, ?_⟩
        · exact (Table.lookup_eq_some.mp ht).1
        · cases hlookup : enums.enumObjectType.lookup type with
          | none => exact .inl rfl
          | some t => exact .inr (congrArg some (Table.lookup_eq_some.mp hlookup).2)
    obtain ⟨eot, hmem, htypeName, hid⟩ := heot
    have hn : (((entry, eos), eot), row) ∈ op.namedFilters enums :=
      mem_namedFilters.mpr ⟨hentry, ⟨heos, hstate.symm⟩, ⟨hmem, htypeName⟩, hrow, hname.trans hmsgtype.symm⟩
    exact ⟨_, List.mem_map.mpr ⟨_, hn, rfl⟩, ⟨rfl, hid⟩, rfl⟩

theorem mem_chosenStates {s : ChosenState} :
    s ∈ op.chosenStates db ↔ (s.1.1.1 ∈ db.objectRegistry ∧ s.1.1.2 ∈ db.objectState ∧
        s.1.1.2.objectId = s.1.1.1.id) ∧
      (s.1.2 ∈ db.objectHistory ∧ s.1.1.2.ohidFrom = some s.1.2.historyid) ∧
      s.2 ∈ op.tfilter db.enums ∧ s.2.Chooses s.1.1.2.stateId s.1.1.1.type := by
  obtain ⟨⟨⟨ob, os⟩, oh⟩, f⟩ := s
  simp only [chosenStates, mem_join, Table.mem_rows, holds_eq, Truth.holds_or, holds_isNull,
    Filter.Chooses]
  constructor
  · rintro ⟨⟨hos, hoh, _, hid, hfrom⟩, hf, hstate, htype⟩
    obtain rfl := Option.some.inj hid
    refine ⟨hos, ⟨hoh, hfrom⟩, hf, hstate, htype.imp_right ?_⟩
    rintro ⟨_, hregistrytype, he⟩
    rw [hregistrytype, he]
  · rintro ⟨hos, ⟨hoh, hfrom⟩, hf, hstate, htype⟩
    exact ⟨⟨hos, hoh, _, rfl, hfrom⟩, hf, hstate, htype.imp_right fun h => ⟨_, h, rfl⟩⟩

/-- The joins do not multiply a state. -/
theorem chosenState_unique {s s' : ChosenState} (hs : s ∈ op.chosenStates db)
    (hs' : s' ∈ op.chosenStates db) (hid : s.1.1.2.id = s'.1.1.2.id) : s = s' := by
  obtain ⟨⟨⟨ob, os⟩, oh⟩, f⟩ := s
  obtain ⟨⟨⟨ob', os'⟩, oh'⟩, f'⟩ := s'
  obtain ⟨⟨hob, hos, hobject⟩, ⟨hoh, hfrom⟩, hf, hchooses⟩ := mem_chosenStates.mp hs
  obtain ⟨⟨hob', hos', hobject'⟩, ⟨hoh', hfrom'⟩, hf', hchooses'⟩ := mem_chosenStates.mp hs'
  obtain rfl : os = os' := Table.eq_of_key_eq hos hos' hid
  obtain rfl : ob = ob' := Table.eq_of_key_eq hob hob' (hobject.symm.trans hobject')
  obtain rfl : oh = oh' := Table.eq_of_key_eq hoh hoh' (Option.some.inj (hfrom.symm.trans hfrom'))
  exact congrArg (Prod.mk _) (tfilter_unique hf hf' hchooses hchooses')

theorem nodup_chosenStates : (op.chosenStates db).Nodup :=
  nodup_join (nodup_join (nodup_join db.objectRegistry.nodup_rows db.objectState.nodup_rows)
    db.objectHistory.nodup_rows) nodup_tfilter

/-- An open state that was not announced yet, with the message that tells the sponsoring registrar
of the version in which it began. -/
structure Due (op : CreateStateMessages) (db : Database) (os : ObjectState) (clid msgtype : Nat) :
    Prop where
  mem : os ∈ db.objectState
  opened : os.validTo = none
  fresh : ∀ ps ∈ db.pollStatechange, ps.stateid ≠ os.id
  watched : ∃ ob ∈ db.objectRegistry, ob.id = os.objectId ∧
    ∃ eos ∈ db.enums.enumObjectStates, eos.id = os.stateId ∧
      ∃ mt, Announces eos.name (db.enums.typeName ob.type) mt ∧ mt ∉ op.exceptList ∧
        ∃ row ∈ db.enums.messagetype, row.name = mt.toDbHandle ∧ row.id = msgtype
  addressed : ∃ oh ∈ db.objectHistory, os.ohidFrom = some oh.historyid ∧ oh.clid = clid

/-- The rows before ORDER BY. -/
def unordered (op : CreateStateMessages) (db : Database) : List StateChange :=
  ((leftJoin (fun s (ps : PollStatechange) => ps.stateid = s.1.1.2.id)
    (op.chosenStates db) db.pollStatechange.rows).filter
      fun s => s.1.1.1.2.validTo.isNone ∧ s.2.isNone).map
        fun s => ⟨s.1.1.2.clid, s.1.2.msgtype, s.1.1.1.2.id⟩

theorem stateChanges_perm : (op.stateChanges db).Perm (op.unordered db) :=
  (Sorting.byKey StateChange.stateid).perm _

theorem mem_unordered {row : StateChange} :
    row ∈ op.unordered db ↔ ∃ s ∈ op.chosenStates db, s.1.1.2.validTo = none ∧
      (∀ ps ∈ db.pollStatechange, ps.stateid ≠ s.1.1.2.id) ∧
      ⟨s.1.2.clid, s.2.msgtype, s.1.1.2.id⟩ = row := by
  simp only [unordered, List.mem_map, List.mem_filter, decide_eq_true_eq, Option.isNone_iff_eq_none]
  constructor
  · rintro ⟨⟨s, ps⟩, ⟨hs, hopen, rfl⟩, hrow⟩
    obtain ⟨hs, hfresh⟩ := mem_leftJoin_none.mp hs
    exact ⟨s, hs, hopen, hfresh, hrow⟩
  · rintro ⟨s, hs, hopen, hfresh, hrow⟩
    exact ⟨(s, none), ⟨mem_leftJoin_none.mpr ⟨hs, hfresh⟩, hopen, rfl⟩, hrow⟩

theorem mem_stateChanges {row : StateChange} :
    row ∈ op.stateChanges db ↔ ∃ os, os.id = row.stateid ∧ op.Due db os row.reg row.msgtype := by
  rw [stateChanges_perm.mem_iff, mem_unordered]
  constructor
  · rintro ⟨s, hs, hopen, hfresh, rfl⟩
    obtain ⟨⟨hob, hos, hobject⟩, ⟨hoh, hfrom⟩, hf, hchooses⟩ := mem_chosenStates.mp hs
    obtain ⟨eos, heos, hstate, hmt⟩ := tfilter_chooses.mp ⟨_, hf, hchooses, rfl⟩
    exact ⟨_, rfl, hos, hopen, hfresh, ⟨_, hob, hobject.symm, eos, heos, hstate, hmt⟩,
      _, hoh, hfrom, rfl⟩
  · obtain ⟨reg, msgtype, stateid⟩ := row
    rintro ⟨os, rfl, hdue⟩
    obtain ⟨ob, hob, hobject, eos, heos, hstate, hmt⟩ := hdue.watched
    obtain ⟨oh, hoh, hfrom, rfl⟩ := hdue.addressed
    obtain ⟨f, hf, hchooses, rfl⟩ := tfilter_chooses.mpr ⟨eos, heos, hstate, hmt⟩
    exact ⟨(((ob, os), oh), f),
      mem_chosenStates.mpr ⟨⟨hob, hdue.mem, hobject.symm⟩, ⟨hoh, hfrom⟩, hf, hchooses⟩,
      hdue.opened, hdue.fresh, rfl⟩

theorem nodup_stateids : ((op.stateChanges db).map (·.stateid)).Nodup := by
  rw [(stateChanges_perm.map _).nodup_iff, unordered, List.map_map]
  refine ((nodup_leftJoin nodup_chosenStates db.pollStatechange.nodup_rows).filter _).map_on ?_
  rintro ⟨s, ps⟩ hs ⟨s', ps'⟩ hs' hid
  obtain ⟨hs, hnone⟩ := List.mem_filter.mp hs
  obtain ⟨hs', hnone'⟩ := List.mem_filter.mp hs'
  obtain rfl : ps = none := by simpa using (of_decide_eq_true hnone).2
  obtain rfl : ps' = none := by simpa using (of_decide_eq_true hnone').2
  rw [chosenState_unique (mem_leftJoin_none.mp hs).1 (mem_leftJoin_none.mp hs').1 hid]

theorem stateChanges_ordered : (op.stateChanges db).Pairwise fun a b => a.stateid < b.stateid := by
  have hle := (Sorting.byKey StateChange.stateid).ordered (op.unordered db)
  refine (hle.and (List.pairwise_map.mp nodup_stateids)).imp ?_
  rintro a b ⟨hab, hne⟩
  exact lt_of_le_of_ne (by simpa using hab) hne

theorem limited_initial {rows : List StateChange} : op.limited rows <+: rows := by
  unfold limited
  split
  · exact List.prefix_rfl
  · exact List.take_prefix _ _

theorem map_snd_tmpTable {id : Nat} {rows : List StateChange} :
    (tmpTable id rows).map (·.2) = rows := by
  induction rows generalizing id with
  | nil => rfl
  | cons row rows ih => simp [tmpTable, ih]

theorem map_fst_tmpTable {id : Nat} {rows : List StateChange} :
    (tmpTable id rows).map (·.1) = List.range' id rows.length := by
  induction rows generalizing id with
  | nil => rfl
  | cons row rows ih => simp [tmpTable, ih, List.range'_succ]

theorem length_tmpTable {id : Nat} {rows : List StateChange} :
    (tmpTable id rows).length = rows.length := by
  rw [← List.length_map (f := (·.2)), map_snd_tmpTable]

/-- The sequence is ahead of the ids that were taken from it. -/
def MessageSequence (db : Database) : Prop :=
  (∀ m ∈ db.message, m.id < db.messageIdSeq) ∧
    ∀ ps ∈ db.pollStatechange, ps.msgid < db.messageIdSeq

/-- What a call writes when it announces the states `sent`. -/
structure Tells (op : CreateStateMessages) (db db' : Database) (sent : List StateChange) : Prop where
  due : ∃ due, due.Pairwise (fun a b => a.stateid < b.stateid) ∧
    (∀ row, row ∈ due ↔ ∃ os, os.id = row.stateid ∧ op.Due db os row.reg row.msgtype) ∧
    sent = op.limited due
  written : ∃ messages changes, db'.message.rows = db.message.rows ++ messages ∧
    db'.pollStatechange.rows = db.pollStatechange.rows ++ changes ∧
    List.Forall₂ (fun row m => m.clid = row.reg ∧ m.msgtype = row.msgtype ∧ m.crdate = db.now ∧
      m.exdate = db.now + expiration ∧ m.seen = false) sent messages ∧
    changes.map (·.msgid) = messages.map (·.id) ∧ changes.map (·.stateid) = sent.map (·.stateid)
  unchanged : db'.toObjectTables = db.toObjectTables ∧ db'.now = db.now ∧ db'.enums = db.enums

theorem forall₂_newMessage {now : Timestamp} {id : Nat} {rows : List StateChange} :
    List.Forall₂ (fun row m => m.clid = row.reg ∧ m.msgtype = row.msgtype ∧ m.crdate = now ∧
      m.exdate = now + expiration ∧ m.seen = false) rows ((tmpTable id rows).map (newMessage now)) := by
  induction rows generalizing id with
  | nil => exact .nil
  | cons row rows ih => exact .cons ⟨rfl, rfl, rfl, rfl, rfl⟩ ih

theorem exec_of_negative (h : ∃ limit ∈ op.limit, limit < 0) :
    op.exec.run db = .error .sqlError db := by
  obtain ⟨limit, hlimit, hneg⟩ := h
  have hcond : (lt op.limit (some 0)).holds := holds_lt.mpr ⟨limit, 0, hlimit, rfl, hneg⟩
  unfold exec
  rw [run_bind_of_ok (EStateM.run_get db)]
  exact run_bind_of_error (run_raiseIf_of_pos hcond)

theorem exec_of_insert {message : Table Message} {pollStatechange : Table PollStatechange}
    {rows : List (Nat × StateChange)} (hlimit : ∀ limit ∈ op.limit, 0 ≤ limit)
    (hrows : tmpTable db.messageIdSeq (op.limited (op.stateChanges db)) = rows)
    (hm : db.message.insertAll? (rows.map (newMessage db.now)) = some message)
    (hps : db.pollStatechange.insertAll? (rows.map newStatechange) = some pollStatechange) :
    op.exec.run db = .ok rows.length { db with
      message := message
      messageIdSeq := db.messageIdSeq + rows.length
      pollStatechange := pollStatechange } := by
  have hcond : ¬ (lt op.limit (some 0)).holds := by
    rintro h
    obtain ⟨limit, zero, hsome, hzero, hneg⟩ := holds_lt.mp h
    obtain rfl := Option.some.inj hzero
    exact absurd hneg (not_lt.mpr (hlimit limit hsome))
  subst hrows
  unfold exec
  rw [run_bind_of_ok (EStateM.run_get db), run_bind_of_ok (run_raiseIf_of_neg hcond)]
  simp only [hm, hps]
  rfl

theorem exec_of_none_due (hlimit : ∀ limit ∈ op.limit, 0 ≤ limit) (hdue : op.stateChanges db = []) :
    op.exec.run db = .ok 0 db := by
  have hrows : tmpTable db.messageIdSeq (op.limited (op.stateChanges db)) = [] := by
    have hnil : op.limited (op.stateChanges db) = [] := by
      rw [hdue]
      exact List.prefix_nil.mp limited_initial
    rw [hnil]
    rfl
  exact exec_of_insert hlimit hrows rfl rfl

/-- A call is refused for a negative limit only. -/
theorem exec_tells (hseq : MessageSequence db) (hlimit : ∀ limit ∈ op.limit, 0 ≤ limit) :
    ∃ sent db', op.exec.run db = .ok sent.length db' ∧ op.Tells db db' sent ∧ MessageSequence db' := by
  obtain ⟨rows, hrows⟩ : ∃ rows, tmpTable db.messageIdSeq (op.limited (op.stateChanges db)) = rows :=
    ⟨_, rfl⟩
  have hids : rows.map (·.1) = List.range' db.messageIdSeq rows.length := by
    rw [← hrows, map_fst_tmpTable, length_tmpTable]
  have hid : ∀ row ∈ rows, db.messageIdSeq ≤ row.1 ∧ row.1 < db.messageIdSeq + rows.length := by
    intro row hrow
    have hmem := List.mem_map_of_mem (f := (·.1)) hrow
    rw [hids] at hmem
    simpa using List.mem_range'_1.mp hmem
  have hnodup : (rows.map (·.1)).Nodup := hids ▸ List.nodup_range'
  obtain ⟨message, hm⟩ : ∃ message,
      db.message.insertAll? (rows.map (newMessage db.now)) = some message := by
    refine Table.exists_insertAll? (fun m hm m' hm' => ?_) (by rw [List.map_map]; exact hnodup)
    obtain ⟨row, hrow, rfl⟩ := List.mem_map.mp hm'
    exact (lt_of_lt_of_le (hseq.1 m hm) (hid row hrow).1).ne
  obtain ⟨pollStatechange, hps⟩ : ∃ pollStatechange,
      db.pollStatechange.insertAll? (rows.map newStatechange) = some pollStatechange := by
    refine Table.exists_insertAll? (fun ps hps ps' hps' => ?_) (by rw [List.map_map]; exact hnodup)
    obtain ⟨row, hrow, rfl⟩ := List.mem_map.mp hps'
    exact (lt_of_lt_of_le (hseq.2 ps hps) (hid row hrow).1).ne
  have hrun := exec_of_insert hlimit hrows hm hps
  let db' : Database := { db with
    message := message
    messageIdSeq := db.messageIdSeq + rows.length
    pollStatechange := pollStatechange }
  refine ⟨op.limited (op.stateChanges db), db', ?_, ⟨?_, ?_, rfl, rfl, rfl⟩, ?_, ?_⟩
  · have hlength : rows.length = (op.limited (op.stateChanges db)).length := hrows ▸ length_tmpTable
    exact hlength ▸ hrun
  · exact ⟨_, stateChanges_ordered, fun _ => mem_stateChanges, rfl⟩
  · refine ⟨_, _, Table.rows_of_insertAll? hm, Table.rows_of_insertAll? hps, ?_, ?_, ?_⟩
    · rw [← hrows]
      exact forall₂_newMessage
    · rw [List.map_map, List.map_map]
      rfl
    · have hsnd : rows.map (·.2) = op.limited (op.stateChanges db) := hrows ▸ map_snd_tmpTable
      rw [← hsnd, List.map_map, List.map_map]
      rfl
  · intro m hm'
    rcases (Table.mem_of_insertAll? hm).mp hm' with hold | hnew
    · exact Nat.lt_add_right _ (hseq.1 m hold)
    · obtain ⟨row, hrow, rfl⟩ := List.mem_map.mp hnew
      exact (hid row hrow).2
  · intro ps hps'
    rcases (Table.mem_of_insertAll? hps).mp hps' with hold | hnew
    · exact Nat.lt_add_right _ (hseq.2 ps hold)
    · obtain ⟨row, hrow, rfl⟩ := List.mem_map.mp hnew
      exact (hid row hrow).2

/-- Every state that a call without a limit found is announced after it. -/
theorem exec_again {sent : List StateChange} {now : Timestamp} (h : op.Tells db db' sent)
    (hlimit : op.limit = none) :
    op.exec.run { db' with now := now } = .ok 0 { db' with now := now } := by
  obtain ⟨due, -, hdue, rfl⟩ := h.due
  obtain ⟨messages, changes, -, hps, -, -, hstateids⟩ := h.written
  obtain ⟨hobjects, -, henums⟩ := h.unchanged
  have hsent : op.limited due = due := by rw [limited, hlimit]
  refine exec_of_none_due (by simp [hlimit]) (List.eq_nil_iff_forall_not_mem.mpr fun row hrow => ?_)
  obtain ⟨os, hos, hrow⟩ := mem_stateChanges.mp hrow
  have hbefore : op.Due db os row.reg row.msgtype := by
    refine ⟨?_, hrow.opened, fun ps hmem => hrow.fresh ps ?_, ?_, ?_⟩
    · exact hobjects ▸ hrow.mem
    · rw [← Table.mem_rows, hps]
      exact List.mem_append_left _ hmem
    · have hwatched := hrow.watched
      rwa [hobjects, henums] at hwatched
    · have haddressed := hrow.addressed
      rwa [hobjects] at haddressed
  have hmem : row.stateid ∈ changes.map (·.stateid) := by
    rw [hstateids, hsent]
    exact List.mem_map_of_mem ((hdue row).mpr ⟨os, hos, hbefore⟩)
  obtain ⟨ps, hchange, hid⟩ := List.mem_map.mp hmem
  refine hrow.fresh ps ?_ (hid.trans hos.symm)
  rw [← Table.mem_rows, hps]
  exact List.mem_append_right _ hchange

/-- A call of a run, or objects whose states were opened and closed in the meantime. -/
inductive Event
  | exec (op : CreateStateMessages)
  | change (objects : ObjectTables) (now : Timestamp)

def next : Event → Database → Database
  | .exec op, db => transaction op.exec db
  | .change objects now, db => { db with toObjectTables := objects, now := now }

/-- What was written since `start`: no state has two messages. -/
structure Announced (start db : Database) (messages : List Message) (changes : List PollStatechange) :
    Prop where
  message : db.message.rows = start.message.rows ++ messages
  pollStatechange : db.pollStatechange.rows = start.pollStatechange.rows ++ changes
  ids : changes.map (·.msgid) = messages.map (·.id)
  once : (changes.map (·.stateid)).Nodup
  new : ∀ ps ∈ changes, ∀ ps' ∈ start.pollStatechange, ps'.stateid ≠ ps.stateid

theorem Announced.tells {start : Database} {messages : List Message} {changes : List PollStatechange}
    {sent : List StateChange} (h : Announced start db messages changes) (htells : op.Tells db db' sent) :
    ∃ messages changes, Announced start db' messages changes := by
  obtain ⟨due, hordered, hdue, rfl⟩ := htells.due
  obtain ⟨messages', changes', hm, hps, -, hids, hstateids⟩ := htells.written
  have hfresh : ∀ ps ∈ changes', ∀ ps' ∈ db.pollStatechange, ps'.stateid ≠ ps.stateid := by
    intro ps hmem ps' hmem'
    have hsent : ps.stateid ∈ (op.limited due).map (·.stateid) :=
      hstateids ▸ List.mem_map_of_mem hmem
    obtain ⟨row, hrow, hid⟩ := List.mem_map.mp hsent
    obtain ⟨os, hos, hos'⟩ := (hdue row).mp (limited_initial.subset hrow)
    rw [← hid, ← hos]
    exact hos'.fresh ps' hmem'
  have hold : ∀ ps ∈ start.pollStatechange, ps ∈ db.pollStatechange := by
    intro ps hmem
    rw [← Table.mem_rows, h.pollStatechange]
    exact List.mem_append_left _ hmem
  refine ⟨messages ++ messages', changes ++ changes', ?_, ?_, ?_, ?_, ?_⟩
  · rw [hm, h.message, List.append_assoc]
  · rw [hps, h.pollStatechange, List.append_assoc]
  · rw [List.map_append, List.map_append, h.ids, hids]
  · have hnodup : ((op.limited due).map (·.stateid)).Nodup :=
      List.pairwise_map.mpr ((hordered.sublist limited_initial.sublist).imp ne_of_lt)
    rw [List.map_append, List.nodup_append]
    refine ⟨h.once, hstateids ▸ hnodup, fun a ha b hb => ?_⟩
    obtain ⟨ps, hmem, rfl⟩ := List.mem_map.mp ha
    obtain ⟨ps', hmem', rfl⟩ := List.mem_map.mp hb
    refine hfresh ps' hmem' ps ?_
    rw [← Table.mem_rows, h.pollStatechange]
    exact List.mem_append_right _ hmem
  · intro ps hmem ps' hmem'
    rcases List.mem_append.mp hmem with hmem | hmem
    · exact h.new ps hmem ps' hmem'
    · exact hfresh ps hmem ps' (hold ps' hmem')

theorem transaction_exec (hseq : MessageSequence db) :
    transaction op.exec db = db ∨
      ∃ sent, op.Tells db (transaction op.exec db) sent ∧ MessageSequence (transaction op.exec db) := by
  by_cases hlimit : ∀ limit ∈ op.limit, 0 ≤ limit
  · obtain ⟨sent, db', hrun, htells, hseq'⟩ := exec_tells hseq hlimit
    rw [transaction_of_ok hrun]
    exact .inr ⟨sent, htells, hseq'⟩
  · have hneg : ∃ limit ∈ op.limit, limit < 0 := by simpa using hlimit
    left
    rw [transaction, outcome, exec_of_negative hneg]
    rfl

theorem run_announces {start : Database} (hstart : MessageSequence start)
    (h : Transition.Reachable next (fun _ _ => True) (· = start) db) :
    MessageSequence db ∧ ∃ messages changes, Announced start db messages changes := by
  refine h.invariant (I := fun db => MessageSequence db ∧ ∃ messages changes,
    Announced start db messages changes) ?_ ?_
  · rintro _ rfl
    exact ⟨hstart, [], [], by simp, by simp, rfl, List.nodup_nil, nofun⟩
  · rintro event db - ⟨hseq, messages, changes, hann⟩
    cases event with
    | change objects now =>
      exact ⟨hseq, messages, changes, hann.message, hann.pollStatechange, hann.ids, hann.once, hann.new⟩
    | exec op =>
      simp only [next]
      have hexec : transaction op.exec db = db ∨ _ := transaction_exec hseq
      rcases hexec with heq | ⟨sent, htells, hseq'⟩
      · rw [heq]
        exact ⟨hseq, messages, changes, hann⟩
      · exact ⟨hseq', hann.tells htells⟩

/-- State messages are sent exactly once: a run announces no state twice, and a call announces
those that are due, which an immediate repetition finds announced. -/
theorem exec_announces_once {start : Database} (hstart : MessageSequence start)
    (h : Transition.Reachable next (fun _ _ => True) (· = start) db) :
    (∃ messages changes, Announced start db messages changes) ∧
      ∀ op : CreateStateMessages,
        ((∀ limit ∈ op.limit, 0 ≤ limit) → ∃ sent db', op.exec.run db = .ok sent.length db' ∧
          op.Tells db db' sent ∧ (op.limit = none → ∀ now,
            op.exec.run { db' with now := now } = .ok 0 { db' with now := now })) ∧
        ((∃ limit ∈ op.limit, limit < 0) → op.exec.run db = .error .sqlError db) := by
  obtain ⟨hseq, hann⟩ := run_announces hstart h
  refine ⟨hann, fun op => ⟨fun hlimit => ?_, exec_of_negative⟩⟩
  obtain ⟨sent, db', hrun, htells, -⟩ := exec_tells hseq hlimit
  exact ⟨sent, db', hrun, htells, fun hnone now => exec_again htells hnone⟩

def sampleEnums : EnumTables where
  enumObjectStates := ⟨[⟨2617, "deleteCandidate", [], false⟩], by decide⟩
  enumObjectType := ⟨[⟨2601, "contact"⟩, ⟨2602, "nsset"⟩, ⟨2603, "domain"⟩, ⟨2604, "keyset"⟩], by decide⟩
  messagetype := ⟨[⟨2611, "idle_delete_contact"⟩, ⟨2612, "idle_delete_domain"⟩], by decide⟩
  objectState_unique _ ha _ hb h := List.inj_on_of_nodup_map (by decide) ha hb h
  objectType_unique _ ha _ hb h := List.inj_on_of_nodup_map (by decide) ha hb h
  messagetype_unique _ ha _ hb h := List.inj_on_of_nodup_map (by decide) ha hb h
  objectType_filled
    | .contact => ⟨_, .head _, rfl⟩
    | .nsset => ⟨_, .tail _ (.head _), rfl⟩
    | .domain => ⟨_, .tail _ (.tail _ (.head _)), rfl⟩
    | .keyset => ⟨_, .tail _ (.tail _ (.tail _ (.head _))), rfl⟩

/-- An idle contact and an idle domain. -/
def sampleDatabase : Database where
  objectRegistry := ⟨[⟨2651, 2601⟩, ⟨2652, 2603⟩], by decide⟩
  objectState := ⟨[⟨2673, 2652, 2617, none, some 2692⟩, ⟨2671, 2651, 2617, none, some 2691⟩], by decide⟩
  objectHistory := ⟨[⟨2691, 2681⟩, ⟨2692, 2682⟩], by decide⟩
  now := 0
  enums := sampleEnums
  message := ∅
  messageIdSeq := 1
  pollStatechange := ∅

def firstMessage : CreateStateMessages := ⟨∅, some 1⟩

def allMessages : CreateStateMessages := ⟨∅, none⟩

theorem exec_announces_the_rest :
    (∃ messages changes,
      Announced sampleDatabase (next (.exec firstMessage) sampleDatabase) messages changes) ∧
    ∃ (sent : List StateChange) (db' : Database),
      allMessages.exec.run (next (.exec firstMessage) sampleDatabase) = .ok sent.length db' ∧
        ∀ now, allMessages.exec.run { db' with now := now } = .ok 0 { db' with now := now } := by
  have hreach : Transition.Reachable next (fun _ _ => True) (· = sampleDatabase)
      (next (.exec firstMessage) sampleDatabase) := .step _ (.init rfl) trivial
  have hseq : MessageSequence sampleDatabase :=
    ⟨fun _ h => absurd h Table.not_mem_empty, fun _ h => absurd h Table.not_mem_empty⟩
  obtain ⟨hann, hcalls⟩ := exec_announces_once hseq hreach
  obtain ⟨sent, db', hrun, -, hagain⟩ := (hcalls allMessages).1 nofun
  exact ⟨hann, sent, db', hrun, hagain rfl⟩

example : returns allMessages.exec (next (.exec firstMessage) sampleDatabase) 1 := by
  decide +kernel

end CreateStateMessages

end LibFred.Poll
