import LibFred.RegistrableObject.Domain.CheckDomain
import LibFred.RegistrableObject.Domain.LetterCase
import LibFred.Zone.ZoneSearch

/-! The verdict on the syntax of a name, and what the checkers of its zone are given. -/
namespace LibFred.RegistrableObject.Domain

open Cpp (StdString)

variable {s fqdn : StdString} {zone : Zone.Data} {names : List String}

/-- Every checker that is configured for a zone is one that the factory makes. -/
def KnownCheckers (rowOrder : RowOrder String) (db : Tables) : Prop :=
  ∀ zone ∈ db.zones, ∀ name ∈ getDomainNameValidationConfigForZone rowOrder db zone.name,
    defaultFactory.lookup name ≠ none

/-- A checker of this name is configured for the zone. -/
def Configured (db : Tables) (zoneName : StdString) (name : String) : Prop :=
  ∃ ch ∈ db.nameCheckers, ch.name = name ∧ ∃ cfg ∈ db.zoneCheckers, cfg.checkerId = ch.id ∧
    ∃ z ∈ db.zones, z.id = cfg.zoneId ∧ z.name = zoneName

theorem mem_getDomainNameValidationConfigForZone {rowOrder : RowOrder String} {db : Tables}
    {zoneName : StdString} {name : String} :
    name ∈ getDomainNameValidationConfigForZone rowOrder db zoneName ↔
      Configured db (Cpp.toLowerCopy zoneName) name := by
  unfold getDomainNameValidationConfigForZone Configured
  rw [(rowOrder.perm _).mem_iff]
  simp only [List.mem_flatMap, List.mem_filter, List.mem_map, decide_eq_true_eq]
  constructor
  · rintro ⟨ch, hch, cfg, ⟨hcfg, hchecker⟩, z, ⟨hz, hid, hname⟩, rfl⟩
    exact ⟨ch, hch, rfl, cfg, hcfg, hchecker, z, hz, hid, hname⟩
  · rintro ⟨ch, hch, rfl, cfg, hcfg, hchecker, z, hz, hid, hname⟩
    exact ⟨ch, hch, cfg, ⟨hcfg, hchecker⟩, z, ⟨hz, hid, hname⟩, rfl⟩

/-- The checker of this name lets the labels before those of the zone pass. -/
def Passes (zoneName relative : DomainName) (name : String) : Prop :=
  ∃ checker ∈ defaultFactory.lookup name, checker.validate (some zoneName) true relative = true

instance (zoneName relative : DomainName) : DecidablePred (Passes zoneName relative) := fun name => by
  unfold Passes
  infer_instance

theorem characters_of_isRfc1123 (h : isRfc1123CompliantHostName s = true) :
    ∀ c ∈ s, c ∈ letterDigitHyphenDot := by
  have hname := (isRfc1123_iff.mp h).1
  rcases eq_or_eq_remTrailingDot s with heq | heq
  · rw [heq]
    exact hname.characters
  · rw [heq, List.forall_mem_append]
    exact ⟨hname.characters, by decide⟩

theorem cStr_of_isRfc1123 (h : isRfc1123CompliantHostName s = true) : Cpp.cStr s = s := by
  refine Cpp.cStr_eq_self fun hnul => ?_
  exact absurd (characters_of_isRfc1123 h Cpp.nul hnul) (by decide)

theorem new_of_isRfc1123 (h : isRfc1123CompliantHostName s = true) :
    ∃ name, DomainName.new s = .ok name ∧ name.labels = (Zone.remTrailingDot s).splitOn '.' := by
  unfold DomainName.new DomainName.init
  simp only [cStr_of_isRfc1123 h, dif_pos h]
  exact ⟨_, rfl, rfl⟩

/-- What a name is made of is what it prints. -/
theorem getString_of_new {name : DomainName} (h : DomainName.new s = .ok name) :
    name.getString = Zone.remTrailingDot (Cpp.cStr s) := by
  unfold DomainName.new DomainName.init at h
  dsimp only at h
  split at h
  · cases h
    exact join_splitOn _
  · cases h

theorem isRfc1123_of_dottedLabels (h : DottedLabels s) (hlength : s.length ≤ 253) :
    isRfc1123CompliantHostName s = true := by
  rw [isRfc1123_iff, remTrailingDot_eq_self h.last]
  exact ⟨h, hlength⟩

theorem new_of_dottedLabels (h : DottedLabels s) (hlength : s.length ≤ 253) :
    ∃ name, DomainName.new s = .ok name ∧ name.labels = s.splitOn '.' := by
  have hnew := new_of_isRfc1123 (isRfc1123_of_dottedLabels h hlength)
  rwa [remTrailingDot_eq_self h.last] at hnew

theorem length_splitOn (s : StdString) : (s.splitOn '.').length = s.count '.' + 1 := by
  induction s with
  | nil => rfl
  | cons c s ih =>
    rw [List.splitOn_cons_eq_if_modifyHead]
    split
    · rename_i hdot
      rw [beq_iff_eq] at hdot
      rw [hdot, List.length_cons, ih, List.count_cons_self]
    · rename_i hdot
      rw [beq_iff_eq] at hdot
      rw [List.length_modifyHead, ih, List.count_cons_of_ne hdot]

/-- The name without its final dot, taken apart where its zone begins. -/
theorem exists_eq_of_liesIn (h : Zone.LiesIn (Cpp.toLowerCopy s) zone.name) :
    ∃ relative ending, s = relative ++ '.' :: ending ∧ relative ≠ [] ∧
      Cpp.toLowerCopy ending = zone.name := by
  obtain ⟨p, hne, hp⟩ := h
  obtain ⟨relative, rest, rfl, hrelative, hrest⟩ := List.map_eq_append_iff.mp hp
  obtain ⟨c, ending, rfl, hdot, hending⟩ := List.map_eq_cons_iff.mp hrest
  rw [toLower_eq_dot] at hdot
  refine ⟨relative, ending, by rw [hdot], ?_, hending⟩
  rintro rfl
  exact hne hrelative.symm

theorem check_eq (validator : DomainNameValidator) (zoneName relative : DomainName)
    (hzone : validator.zoneName = some zoneName) (hctx : validator.ctx = true)
    (hknown : ∀ name ∈ names, defaultFactory.lookup name ≠ none) :
    validator.check relative names = .ok (names.all fun name => Passes zoneName relative name) := by
  induction names with
  | nil => rfl
  | cons name names ih =>
    obtain ⟨hname, hnames⟩ := List.forall_mem_cons.mp hknown
    cases hlookup : defaultFactory.lookup name with
    | none => exact absurd hlookup hname
    | some checker =>
      have hpasses : Passes zoneName relative name ↔
          checker.validate (some zoneName) true relative = true := by
        unfold Passes
        rw [hlookup]
        simp
      rw [DomainNameValidator.check, hlookup, List.all_cons, decide_eq_decide.mpr hpasses]
      dsimp only
      rw [hzone, hctx, if_neg (by simp), if_neg (by simp)]
      by_cases hvalidate : checker.validate (some zoneName) true relative = true
      · rw [if_neg (by simp [hvalidate]), decide_eq_true hvalidate, Bool.true_and]
        exact ih hnames
      · rw [if_pos (by simpa using hvalidate), decide_eq_false hvalidate, Bool.false_and]
        rfl

theorem ok_bind {ε α β : Type} (a : α) (f : α → Except ε β) : (Except.ok a >>= f) = f a := rfl

theorem setCheckerNames_of_system {validator : DomainNameValidator}
    (h : validator.isSystemRegistrar = true) : validator.setCheckerNames names = .ok validator := by
  rw [DomainNameValidator.setCheckerNames, if_pos h]
  rfl

theorem setCheckerNames_of_known {validator : DomainNameValidator}
    (h : validator.isSystemRegistrar = false)
    (hknown : ∀ name ∈ names, defaultFactory.lookup name ≠ none) :
    validator.setCheckerNames names = .ok { validator with checkerNames := names } := by
  have hnone : ¬ ∃ name ∈ names, defaultFactory.lookup name = none := by
    rintro ⟨name, hname, hnone⟩
    exact hknown name hname hnone
  rw [DomainNameValidator.setCheckerNames, if_neg (by simp [h]), if_neg hnone]
  rfl

theorem exec_of_getSubdomains {validator : DomainNameValidator} {fqdn relative : DomainName}
    {topLabelsToSkip : Int} (h : fqdn.getSubdomains topLabelsToSkip = .ok relative) :
    validator.exec fqdn topLabelsToSkip = if validator.isSystemRegistrar then .ok true
      else validator.check relative validator.checkerNames := by
  rw [DomainNameValidator.exec, h]
  rfl

theorem validate_eq {check : CheckDomain} {rowOrder : RowOrder String} {db : Tables}
    {validator : DomainNameValidator} {zoneName fqdn : DomainName}
    (hvalidator : ({ isSystemRegistrar := check.isSystemRegistrar } : DomainNameValidator).setCheckerNames
      (getDomainNameValidationConfigForZone rowOrder db zone.name) = .ok validator)
    (hzone : DomainName.new zone.name = .ok zoneName) (hfqdn : DomainName.new check.fqdn = .ok fqdn) :
    check.validate rowOrder db zone = ({ validator with zoneName := some zoneName, ctx := true }).exec fqdn
      (Cpp.toInt (zone.name.count '.' + 1)) := by
  rw [CheckDomain.validate, hvalidator, ok_bind, hzone, ok_bind, hfqdn, ok_bind]

/-- What the validation of a name in a zone consists of: the labels before those of the zone, and the
checkers that they have to pass. -/
structure Validated (check : CheckDomain) (rowOrder : RowOrder String) (db : Tables)
    (zone : Zone.Data) (zoneName relative : DomainName) (ending : List StdString) : Prop where
  made : DomainName.new zone.name = .ok zoneName
  labels : (Zone.remTrailingDot check.fqdn).splitOn '.' = relative.labels ++ ending
  lower : ending.map Cpp.toLowerCopy = zone.name.splitOn '.'
  given : ∃ fqdn, DomainName.new check.fqdn = .ok fqdn ∧
    fqdn.getSubdomains (Cpp.toInt (zone.name.count '.' + 1)) = .ok relative
  verdict : check.validate rowOrder db zone = .ok (check.isSystemRegistrar ||
    (getDomainNameValidationConfigForZone rowOrder db zone.name).all fun name =>
      Passes zoneName relative name)

theorem exists_validated {check : CheckDomain} {rowOrder : RowOrder String} {db : Tables}
    (hfqdn : isRfc1123CompliantHostName check.fqdn = true) (hzone : zone ∈ db.zones)
    (hlies : Zone.LiesIn (Cpp.toLowerCopy (Zone.remTrailingDot check.fqdn)) zone.name)
    (hknown : KnownCheckers rowOrder db) :
    ∃ zoneName relative ending, Validated check rowOrder db zone zoneName relative ending := by
  obtain ⟨hlabels, hlength⟩ := isRfc1123_iff.mp hfqdn
  obtain ⟨before, ending, heq, hne, hending⟩ := exists_eq_of_liesIn hlies
  rw [heq, dottedLabels_append] at hlabels
  obtain ⟨hbefore, hend⟩ := hlabels
  have hbeforeLength : before.length ≤ 253 ∧ ending.length ≤ 253 := by
    rw [heq, List.length_append, List.length_cons] at hlength
    omega
  have hzoneLabels : DottedLabels zone.name := by
    rw [← hending]
    exact dottedLabels_toLowerCopy.mpr hend
  have hzoneLength : zone.name.length ≤ 253 := by
    rw [← hending, Cpp.length_toLowerCopy]
    exact hbeforeLength.2
  obtain ⟨zoneName, hzoneName, -⟩ := new_of_dottedLabels hzoneLabels hzoneLength
  obtain ⟨relative, hrelative, hrelativeLabels⟩ := new_of_dottedLabels hbefore hbeforeLength.1
  obtain ⟨fqdn, hnew, hfqdnLabels⟩ := new_of_isRfc1123 hfqdn
  have hsplit : (Zone.remTrailingDot check.fqdn).splitOn '.' = relative.labels ++ ending.splitOn '.' := by
    rw [heq, List.splitOn_append_cons_self, hrelativeLabels]
  have hendingSplit : (ending.splitOn '.').map Cpp.toLowerCopy = zone.name.splitOn '.' := by
    rw [← hending, splitOn_toLowerCopy]
  have hcount : Cpp.toInt (zone.name.count '.' + 1) = (ending.splitOn '.').length := by
    have hle : zone.name.count '.' ≤ 253 := List.count_le_length.trans hzoneLength
    rw [Cpp.toInt_of_lt (by omega) (by omega), ← List.length_map Cpp.toLowerCopy, hendingSplit,
      length_splitOn]
    omega
  have hgiven : fqdn.getSubdomains (Cpp.toInt (zone.name.count '.' + 1)) = .ok relative := by
    unfold DomainName.getSubdomains
    rw [hcount, hfqdnLabels, hsplit, List.length_append, if_neg (by omega), Int.toNat_natCast,
      Nat.add_sub_cancel, List.take_left, hrelativeLabels, join_splitOn]
    exact hrelative
  refine ⟨zoneName, relative, ending.splitOn '.', hzoneName, hsplit, hendingSplit, ⟨fqdn, hnew, hgiven⟩, ?_⟩
  cases hsystem : check.isSystemRegistrar with
  | true =>
    rw [validate_eq (setCheckerNames_of_system hsystem) hzoneName hnew, exec_of_getSubdomains hgiven,
      Bool.true_or, if_pos hsystem]
  | false =>
    rw [validate_eq (setCheckerNames_of_known hsystem (hknown zone hzone)) hzoneName hnew,
      exec_of_getSubdomains hgiven, Bool.false_or, if_neg (by simp [hsystem])]
    exact check_eq _ zoneName relative rfl rfl (hknown zone hzone)

section

variable {check : CheckDomain} {order : Zone.LongestFirst} {rowOrder : RowOrder String} {db : Tables}

theorem findZone_cases (hfqdn : isRfc1123CompliantHostName check.fqdn = true) (hne : db.zones ≠ [])
    (hlower : ∀ z ∈ db.zones, Cpp.toLowerCopy z.name = z.name) :
    (∃ zone ∈ db.zones, Zone.LiesIn (Cpp.toLowerCopy (Zone.remTrailingDot check.fqdn)) zone.name ∧
        Zone.findZoneInFqdn order db.zones (Zone.remTrailingDot check.fqdn) = .ok zone) ∨
      Zone.findZoneInFqdn order db.zones (Zone.remTrailingDot check.fqdn) =
        .error (.unknownZoneInFqdn (Zone.remTrailingDot check.fqdn)) := by
  refine (Zone.findZoneInFqdn_outcome order hne hlower _).imp_left ?_
  rintro ⟨zone, hzone, hfound, heq⟩
  have hshort : (Cpp.toLowerCopy (Zone.remTrailingDot check.fqdn)).length ≤ 2 ^ 31 := by
    rw [Cpp.length_toLowerCopy]
    exact (isRfc1123_iff.mp hfqdn).2.trans (by omega)
  exact ⟨zone, hzone, (Zone.foundIn_iff_liesIn hshort).mp hfound, heq⟩

theorem isInvalidSyntax_of_zone {valid : Bool} (hfqdn : isRfc1123CompliantHostName check.fqdn = true)
    (hzone : Zone.findZoneInFqdn order db.zones (Zone.remTrailingDot check.fqdn) = .ok zone)
    (hvalid : check.validate rowOrder db zone = .ok valid) :
    check.isInvalidSyntax order rowOrder db = .ok (!valid) := by
  rw [CheckDomain.isInvalidSyntax, if_neg (by simp [hfqdn])]
  dsimp only
  rw [hzone]
  dsimp only
  rw [hvalid]
  rfl

theorem isInvalidSyntax_of_unknownZone (hfqdn : isRfc1123CompliantHostName check.fqdn = true)
    (hzone : Zone.findZoneInFqdn order db.zones (Zone.remTrailingDot check.fqdn) =
      .error (.unknownZoneInFqdn (Zone.remTrailingDot check.fqdn))) :
    check.isInvalidSyntax order rowOrder db = .ok true := by
  rw [CheckDomain.isInvalidSyntax, if_neg (by simp [hfqdn])]
  dsimp only
  rw [hzone]
  dsimp only
  rw [if_pos rfl]
  rfl

theorem isInvalidSyntax_of_not_isRfc1123 (hfqdn : isRfc1123CompliantHostName check.fqdn = false) :
    check.isInvalidSyntax order rowOrder db = .ok true := by
  rw [CheckDomain.isInvalidSyntax, if_pos hfqdn]
  rfl

theorem exists_getString (h : isRfc1123CompliantHostName s = true) :
    ∃ name, DomainName.new s = .ok name ∧ name.getString = Zone.remTrailingDot s := by
  obtain ⟨name, hnew, -⟩ := new_of_isRfc1123 h
  refine ⟨name, hnew, ?_⟩
  rw [getString_of_new hnew, cStr_of_isRfc1123 h]

/-- The check of the syntax ends with a verdict. The checkers of the zone that was found see the labels
before those of the zone, and a name that was accepted prints as it was given but for its final dot. -/
theorem invalid_syntax_verdict (check : CheckDomain) (order : Zone.LongestFirst)
    (rowOrder : RowOrder String) (db : Tables) (hne : db.zones ≠ [])
    (hlower : ∀ z ∈ db.zones, Cpp.toLowerCopy z.name = z.name) (hknown : KnownCheckers rowOrder db) :
    (∃ verdict, check.isInvalidSyntax order rowOrder db = .ok verdict) ∧
      (∀ zone, isRfc1123CompliantHostName check.fqdn = true →
        Zone.findZoneInFqdn order db.zones (Zone.remTrailingDot check.fqdn) = .ok zone →
        ∃ zoneName relative ending, Validated check rowOrder db zone zoneName relative ending ∧
          check.isInvalidSyntax order rowOrder db = .ok !(check.isSystemRegistrar ||
            (getDomainNameValidationConfigForZone rowOrder db zone.name).all fun name =>
              Passes zoneName relative name) ∧
          (check.isInvalidSyntax order rowOrder db = .ok false ↔ check.isSystemRegistrar ∨
            ∀ name, Configured db zone.name name → Passes zoneName relative name)) ∧
      (check.isInvalidSyntax order rowOrder db = .ok false →
        isRfc1123CompliantHostName check.fqdn = true) ∧
      ∀ s, isRfc1123CompliantHostName s = true →
        ∃ name, DomainName.new s = .ok name ∧ name.getString = Zone.remTrailingDot s := by
  have hzone (zone : Zone.Data) (hfqdn : isRfc1123CompliantHostName check.fqdn = true)
      (hfind : Zone.findZoneInFqdn order db.zones (Zone.remTrailingDot check.fqdn) = .ok zone) :
      ∃ zoneName relative ending, Validated check rowOrder db zone zoneName relative ending ∧
        check.isInvalidSyntax order rowOrder db = .ok !(check.isSystemRegistrar ||
          (getDomainNameValidationConfigForZone rowOrder db zone.name).all fun name =>
            Passes zoneName relative name) ∧
        (check.isInvalidSyntax order rowOrder db = .ok false ↔ check.isSystemRegistrar ∨
          ∀ name, Configured db zone.name name → Passes zoneName relative name) := by
    rcases findZone_cases hfqdn hne hlower with ⟨zone', hmem, hlies, heq⟩ | heq
    · rw [hfind] at heq
      cases heq
      obtain ⟨zoneName, relative, ending, hvalidated⟩ := exists_validated hfqdn hmem hlies hknown
      have hverdict := isInvalidSyntax_of_zone hfqdn hfind hvalidated.verdict
      refine ⟨zoneName, relative, ending, hvalidated, hverdict, ?_⟩
      simp only [hverdict, Except.ok.injEq, Bool.not_eq_false', Bool.or_eq_true, List.all_eq_true,
        decide_eq_true_eq, mem_getDomainNameValidationConfigForZone, hlower zone hmem]
    · rw [hfind] at heq
      cases heq
  refine ⟨?_, hzone, ?_, fun s => exists_getString⟩
  · cases hfqdn : isRfc1123CompliantHostName check.fqdn with
    | false => exact ⟨true, isInvalidSyntax_of_not_isRfc1123 hfqdn⟩
    | true =>
      rcases findZone_cases hfqdn hne hlower with ⟨zone, -, -, heq⟩ | heq
      · obtain ⟨zoneName, relative, ending, -, hverdict, -⟩ := hzone zone hfqdn heq
        exact ⟨_, hverdict⟩
      · exact ⟨true, isInvalidSyntax_of_unknownZone hfqdn heq⟩
  · intro hok
    by_contra hfqdn
    rw [isInvalidSyntax_of_not_isRfc1123 (by simpa using hfqdn)] at hok
    cases hok

end

/-- A zone whose names must not have two hyphens in a row. -/
def exampleTables : Tables where
  zones := [Zone.exampleZone]
  nameCheckers := [⟨1, "dncheck_no_consecutive_hyphens"⟩]
  zoneCheckers := [⟨1, 1⟩]

theorem knownCheckers_example : KnownCheckers (storedOrder String) exampleTables := by
  intro zone hzone
  rw [List.mem_singleton.mp hzone]
  decide

theorem invalid_syntax_verdict_example :
    ∃ verdict, CheckDomain.isInvalidSyntax { fqdn := ['a', '-', 'b', '.', 'C', 'Z', '.'] }
      Zone.stableOrder (storedOrder String) exampleTables = .ok verdict :=
  (invalid_syntax_verdict { fqdn := ['a', '-', 'b', '.', 'C', 'Z', '.'] } Zone.stableOrder
    (storedOrder String) exampleTables (by decide) (by decide) knownCheckers_example).1

end LibFred.RegistrableObject.Domain
