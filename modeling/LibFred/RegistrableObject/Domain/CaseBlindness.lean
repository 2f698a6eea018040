import LibFred.RegistrableObject.Domain.SyntaxVerdict

/-! The verdict on the syntax of a name and letter case. -/
namespace LibFred.RegistrableObject.Domain

open Cpp (StdString)

/-- Two outcomes: one exception or related results. -/
inductive Alike {ε α : Type} (r : α → α → Prop) : Except ε α → Except ε α → Prop
  | error (e : ε) : Alike r (.error e) (.error e)
  | ok {a b : α} : r a b → Alike r (.ok a) (.ok b)

/-- Texts that differ in letter case only. -/
def SameLower (s s' : StdString) : Prop := Cpp.toLowerCopy s = Cpp.toLowerCopy s'

/-- Names of labels that differ in letter case only. -/
def SameNames (name name' : DomainName) : Prop :=
  name.labels.map Cpp.toLowerCopy = name'.labels.map Cpp.toLowerCopy

/-- The labels of a name before those of a zone. -/
def relativeName (fqdn : StdString) (zone : Zone.Data) : Except NameException DomainName := do
  let name ← DomainName.new fqdn
  name.getSubdomains (Cpp.toInt (zone.name.count '.' + 1))

/-- No label begins with the prefix in any letter case. -/
def Plain (name : DomainName) : Prop :=
  ∀ label ∈ name.labels, ¬ idnPunycodePrefix <+: Cpp.toLowerCopy label

variable {s s' : StdString} {name name' : DomainName} {ε α β : Type} {r : α → α → Prop}
  {q : β → β → Prop} {x y : Except ε α} {f g : α → Except ε β}

theorem Alike.bind (h : Alike r x y) (hfg : ∀ a b, r a b → Alike q (f a) (g b)) :
    Alike q (x >>= f) (y >>= g) := by
  cases h with
  | error e => exact .error e
  | ok hab => exact hfg _ _ hab

theorem toLowerCopy_cStr (s : StdString) : Cpp.toLowerCopy (Cpp.cStr s) = Cpp.cStr (Cpp.toLowerCopy s) := by
  have hnul (c : Char) : c.toLower = Cpp.nul ↔ c = Cpp.nul := toLower_eq_iff (by decide) (by decide)
  unfold Cpp.toLowerCopy Cpp.cStr
  rw [List.takeWhile_map]
  congr 2
  funext c
  simp only [Function.comp_apply, ne_eq, hnul]

theorem toLowerCopy_join (labels : List StdString) :
    Cpp.toLowerCopy (join labels) = join (labels.map Cpp.toLowerCopy) := by
  induction labels with
  | nil => rfl
  | cons label labels ih =>
    by_cases hnil : labels = []
    · rw [hnil, List.map_singleton, join_singleton, join_singleton]
    · have hmap : labels.map Cpp.toLowerCopy ≠ [] := fun h => hnil (List.map_eq_nil_iff.mp h)
      rw [List.map_cons, join_cons label hnil, join_cons _ hmap, ← ih]
      exact List.map_append

theorem new_alike (h : SameLower s s') : Alike SameNames (DomainName.new s) (DomainName.new s') := by
  have hcStr : Cpp.toLowerCopy (Cpp.cStr s) = Cpp.toLowerCopy (Cpp.cStr s') := by
    rw [toLowerCopy_cStr, toLowerCopy_cStr, h]
  have hcheck : isRfc1123CompliantHostName (Cpp.cStr s) = isRfc1123CompliantHostName (Cpp.cStr s') := by
    rw [← isRfc1123_toLowerCopy, hcStr, isRfc1123_toLowerCopy]
  unfold DomainName.new DomainName.init
  dsimp only
  split
  · rename_i hok
    rw [dif_pos (hcheck.symm.trans hok)]
    refine .ok ?_
    unfold SameNames
    dsimp only
    rw [← splitOn_toLowerCopy, ← splitOn_toLowerCopy, ← remTrailingDot_toLowerCopy,
      ← remTrailingDot_toLowerCopy, hcStr]
  · rename_i hok
    rw [dif_neg fun hok' => hok (hcheck.trans hok')]
    exact .error _

theorem SameNames.length (h : SameNames name name') : name.labels.length = name'.labels.length := by
  have hlength := congrArg List.length h
  rwa [List.length_map, List.length_map] at hlength

theorem getSubdomains_alike (h : SameNames name name') (topLabelsToSkip : Int) :
    Alike SameNames (name.getSubdomains topLabelsToSkip) (name'.getSubdomains topLabelsToSkip) := by
  unfold DomainName.getSubdomains
  rw [h.length]
  split
  · exact .error _
  · refine new_alike ?_
    unfold SameLower
    rw [toLowerCopy_join, toLowerCopy_join, List.map_take, List.map_take, h]

theorem relativeName_alike (h : SameLower s s') (zone : Zone.Data) :
    Alike SameNames (relativeName s zone) (relativeName s' zone) :=
  (new_alike h).bind fun _ _ hnames => getSubdomains_alike hnames _

theorem SameNames.getString (h : SameNames name name') :
    SameLower name.getString name'.getString := by
  unfold SameLower DomainName.getString
  rw [toLowerCopy_join, toLowerCopy_join, h]

theorem SameLower.eq_nil (h : SameLower s s') : s = [] ↔ s' = [] := by
  rw [← List.length_eq_zero_iff, ← List.length_eq_zero_iff, ← Cpp.length_toLowerCopy, h,
    Cpp.length_toLowerCopy]

/-- Letter case does not decide what matches an expression whose classes do not tell it apart. -/
theorem SameLower.matches_iff {r : Regex Char} (hr : r.Invariant Char.toLower) (h : SameLower s s') :
    r.Matches s ↔ r.Matches s' := by
  rw [← hr.matches_map, ← hr.matches_map (l := s')]
  exact iff_of_eq (congrArg r.Matches h)

theorem invariant_preferredLabel : preferredLabel.Invariant Char.toLower := by
  have hletter : letter.Invariant Char.toLower := isAlpha_toLower
  have hinner : (Regex.cls fun c : Char => decide (c = '-' ∨ c.isAlphanum = true)).Invariant
      Char.toLower := by
    intro c
    refine decide_eq_decide.mpr (or_congr toLower_eq_hyphen ?_)
    rw [isAlphanum_toLower]
  exact ⟨hletter, hletter, hinner.upTo 61, isAlphanum_toLower⟩

theorem invariant_dotted {label : Regex Char} (h : label.Invariant Char.toLower) :
    (dotted label).Invariant Char.toLower := by
  have hdot : (character '.').Invariant Char.toLower := fun c =>
    decide_eq_decide.mpr toLower_eq_dot
  exact ⟨⟨h, hdot⟩, h⟩

theorem invariant_consecutiveHyphensSyntax : consecutiveHyphensSyntax.Invariant Char.toLower := by
  have hhyphen : (character '-').Invariant Char.toLower := fun c =>
    decide_eq_decide.mpr toLower_eq_hyphen
  exact ⟨hhyphen, hhyphen⟩

/-- Of the checkers all but one fold case. -/
theorem validate_eq_of_sameNames {checker : Checker} (hne : checker ≠ .noIdnPunycode)
    (h : SameNames name name') (zoneName : Option DomainName) (ctx : Bool) :
    checker.validate zoneName ctx name = checker.validate zoneName ctx name' := by
  have hstring := h.getString
  cases checker with
  | notEmptyDomainName =>
    refine decide_eq_decide.mpr ?_
    rw [ne_eq, ne_eq, hstring.eq_nil]
  | rfc1035PreferredSyntax =>
    refine decide_eq_decide.mpr ?_
    exact hstring.matches_iff (invariant_dotted invariant_preferredLabel)
  | noConsecutiveHyphens =>
    refine decide_eq_decide.mpr (not_congr ?_)
    exact hstring.matches_iff invariant_consecutiveHyphensSyntax.somewhere
  | singleDigitLabelsOnly =>
    refine decide_eq_decide.mpr ?_
    exact hstring.matches_iff (invariant_dotted isDigit_toLower)
  | noIdnPunycode => exact absurd rfl hne

theorem Plain.validate (h : Plain name) (zoneName : Option DomainName) (ctx : Bool) :
    Checker.noIdnPunycode.validate zoneName ctx name = true := by
  refine decide_eq_true ?_
  rintro ⟨label, hlabel, hprefix⟩
  have hlower : idnPunycodePrefix = Cpp.toLowerCopy idnPunycodePrefix := by decide
  refine h label hlabel ?_
  rw [hlower]
  exact hprefix.map Char.toLower

theorem SameNames.plain (h : SameNames name name') : Plain name ↔ Plain name' := by
  have hmap (name : DomainName) : Plain name ↔
      ∀ label ∈ name.labels.map Cpp.toLowerCopy, ¬ idnPunycodePrefix <+: label := by
    rw [List.forall_mem_map]
    rfl
  rw [hmap, hmap, h]

/-- All checkers agree on names without the prefix. -/
theorem SameNames.validate_eq (h : SameNames name name') (hplain : Plain name) (checker : Checker)
    (zoneName : Option DomainName) (ctx : Bool) :
    checker.validate zoneName ctx name = checker.validate zoneName ctx name' := by
  by_cases hchecker : checker = .noIdnPunycode
  · rw [hchecker, hplain.validate, (h.plain.mp hplain).validate]
  · exact validate_eq_of_sameNames hchecker h zoneName ctx

theorem check_eq_of_sameNames (validator : DomainNameValidator) (h : SameNames name name')
    (hplain : Plain name) (names : List String) :
    validator.check name names = validator.check name' names := by
  induction names with
  | nil => rfl
  | cons checkerName names ih =>
    rw [DomainNameValidator.check, DomainNameValidator.check, ih]
    cases defaultFactory.lookup checkerName with
    | none => rfl
    | some checker =>
      dsimp only
      rw [h.validate_eq hplain]

theorem mem_join {c : Char} (hc : c ≠ '.') {labels : List StdString} :
    c ∈ join labels ↔ ∃ label ∈ labels, c ∈ label := by
  induction labels with
  | nil => simp [join, List.intercalate]
  | cons label labels ih =>
    rw [List.exists_mem_cons_iff]
    by_cases hnil : labels = []
    · simp [hnil, join_singleton]
    · rw [join_cons label hnil, List.mem_append, List.mem_cons, or_iff_right hc, ih]

/-- A letter of a label is one of the text. -/
theorem mem_of_new {c : Char} (hc : c ≠ '.') (h : DomainName.new s = .ok name)
    (hlabel : ∃ label ∈ name.labels, c ∈ label) : c ∈ s := by
  have hmem := (mem_join hc).mpr hlabel
  have hstring := getString_of_new h
  rw [DomainName.getString] at hstring
  rw [hstring] at hmem
  have hcStr : c ∈ Cpp.cStr s := by
    unfold Zone.remTrailingDot at hmem
    split at hmem
    · exact List.mem_of_mem_dropLast hmem
    · exact hmem
  exact (List.takeWhile_sublist _).subset hcStr

theorem mem_of_relativeName {c : Char} (hc : c ≠ '.') {zone : Zone.Data}
    (h : relativeName s zone = .ok name) (hlabel : ∃ label ∈ name.labels, c ∈ label) : c ∈ s := by
  unfold relativeName at h
  cases hnew : DomainName.new s with
  | error e =>
    rw [hnew] at h
    cases h
  | ok fqdn =>
    rw [hnew, ok_bind, DomainName.getSubdomains] at h
    split at h
    · cases h
    · obtain ⟨label, htake, hmem⟩ := (mem_join hc).mp (mem_of_new hc h hlabel)
      exact mem_of_new hc hnew ⟨label, List.mem_of_mem_take htake, hmem⟩

section

variable {check : CheckDomain} {order : Zone.LongestFirst} {rowOrder : RowOrder String} {db : Tables}
  {fqdn fqdn' : StdString} {zone : Zone.Data}

theorem findZoneInFqdn_of_sameLower (h : SameLower fqdn fqdn') :
    (∃ zone, Zone.findZoneInFqdn order db.zones fqdn = .ok zone ∧
        Zone.findZoneInFqdn order db.zones fqdn' = .ok zone) ∨
      (Zone.findZoneInFqdn order db.zones fqdn = .error (.unknownZoneInFqdn fqdn) ∧
        Zone.findZoneInFqdn order db.zones fqdn' = .error (.unknownZoneInFqdn fqdn')) ∨
      Zone.findZoneInFqdn order db.zones fqdn = .error (.internalError "missing zone configuration") ∧
        Zone.findZoneInFqdn order db.zones fqdn' = .error (.internalError "missing zone configuration") := by
  unfold Zone.findZoneInFqdn
  dsimp only
  rw [show Cpp.toLowerCopy fqdn = Cpp.toLowerCopy fqdn' from h]
  split
  · exact .inr (.inr ⟨rfl, rfl⟩)
  · split
    · split
      · exact .inl ⟨_, rfl, rfl⟩
      · exact .inr (.inl ⟨rfl, rfl⟩)
    · exact .inr (.inl ⟨rfl, rfl⟩)

theorem remTrailingDot_sameLower (h : SameLower fqdn fqdn') :
    SameLower (Zone.remTrailingDot fqdn) (Zone.remTrailingDot fqdn') := by
  unfold SameLower
  rw [← remTrailingDot_toLowerCopy, ← remTrailingDot_toLowerCopy, h]

theorem validate_eq_bind : check.validate rowOrder db zone = (do
    let validator ← ({ isSystemRegistrar := check.isSystemRegistrar } : DomainNameValidator).setCheckerNames
      (getDomainNameValidationConfigForZone rowOrder db zone.name)
    let zoneName ← DomainName.new zone.name
    let relative ← relativeName check.fqdn zone
    if validator.isSystemRegistrar then return true
    else
      DomainNameValidator.check { validator with zoneName := some zoneName, ctx := true } relative
        validator.checkerNames) := by
  simp only [CheckDomain.validate, DomainNameValidator.exec, relativeName, bind_assoc]

theorem validate_eq_of_sameLower (h : SameLower check.fqdn fqdn')
    (hplain : ∀ relative, relativeName check.fqdn zone = .ok relative → Plain relative) :
    check.validate rowOrder db zone = { check with fqdn := fqdn' }.validate rowOrder db zone := by
  have halike := relativeName_alike h zone
  rw [validate_eq_bind, validate_eq_bind]
  dsimp only
  refine bind_congr fun validator => bind_congr fun zoneName => ?_
  generalize relativeName fqdn' zone = outcome' at halike ⊢
  cases hrelative : relativeName check.fqdn zone with
  | error e =>
    rw [hrelative] at halike
    cases halike
    rfl
  | ok relative =>
    rw [hrelative] at halike
    cases halike with
    | ok hnames => rw [ok_bind, ok_bind, check_eq_of_sameNames _ hnames (hplain relative hrelative)]

/-- Letter case plays no part: neither in the verdict nor for a checker, and the prefix is refused. -/
structure CaseBlind (check : CheckDomain) (order : Zone.LongestFirst) (rowOrder : RowOrder String)
    (db : Tables) : Prop where
  verdict : ∀ fqdn', SameLower check.fqdn fqdn' →
    { check with fqdn := fqdn' }.isInvalidSyntax order rowOrder db =
      check.isInvalidSyntax order rowOrder db
  checkers : ∀ fqdn', SameLower check.fqdn fqdn' → ∀ zone,
    Zone.findZoneInFqdn order db.zones (Zone.remTrailingDot check.fqdn) = .ok zone →
    ∀ relative relative', relativeName check.fqdn zone = .ok relative →
    relativeName fqdn' zone = .ok relative' → ∀ (checker : Checker) zoneName ctx,
    checker.validate zoneName ctx relative' = checker.validate zoneName ctx relative
  punycode : ∀ zone, Zone.findZoneInFqdn order db.zones (Zone.remTrailingDot check.fqdn) = .ok zone →
    ∀ relative, relativeName check.fqdn zone = .ok relative → ∀ zoneName ctx,
    Checker.noIdnPunycode.validate zoneName ctx relative = true → Plain relative

theorem isInvalidSyntax_of_sameLower (h : SameLower check.fqdn fqdn')
    (hplain : ∀ zone, Zone.findZoneInFqdn order db.zones (Zone.remTrailingDot check.fqdn) = .ok zone →
      ∀ relative, relativeName check.fqdn zone = .ok relative → Plain relative) :
    { check with fqdn := fqdn' }.isInvalidSyntax order rowOrder db =
      check.isInvalidSyntax order rowOrder db := by
  have hcheck : isRfc1123CompliantHostName check.fqdn = isRfc1123CompliantHostName fqdn' := by
    rw [← isRfc1123_toLowerCopy, h, isRfc1123_toLowerCopy]
  unfold CheckDomain.isInvalidSyntax
  dsimp only
  rw [hcheck]
  split
  · rfl
  · rcases findZoneInFqdn_of_sameLower (remTrailingDot_sameLower h) with
      ⟨zone, hzone, hzone'⟩ | ⟨hzone, hzone'⟩ | ⟨hzone, hzone'⟩
    · rw [hzone, hzone']
      dsimp only
      rw [validate_eq_of_sameLower h (hplain zone hzone)]
    · rw [hzone, hzone']
      dsimp only
      rw [if_pos rfl, if_pos rfl]
    · rw [hzone, hzone']

/-- In upper case no label has the prefix as the checker spells it. -/
theorem validate_upper {relative : DomainName}
    (h : relativeName (fqdn.map Char.toUpper) zone = .ok relative) (zoneName : Option DomainName)
    (ctx : Bool) : Checker.noIdnPunycode.validate zoneName ctx relative = true := by
  refine decide_eq_true ?_
  rintro ⟨label, hlabel, hprefix⟩
  have hmem : 'x' ∈ label := hprefix.subset (by decide)
  obtain ⟨c, -, hc⟩ := List.mem_map.mp (mem_of_relativeName (by decide) h ⟨label, hlabel, hmem⟩)
  have hupper := Sql.toUpper_not_lowercase c
  rw [hc] at hupper
  exact hupper (by decide)

/-- Letter case plays no part exactly when no label before the zone begins with the prefix. -/
theorem case_blind_iff (check : CheckDomain) (order : Zone.LongestFirst) (rowOrder : RowOrder String)
    (db : Tables) : CaseBlind check order rowOrder db ↔
      ∀ zone, Zone.findZoneInFqdn order db.zones (Zone.remTrailingDot check.fqdn) = .ok zone →
        ∀ relative, relativeName check.fqdn zone = .ok relative → Plain relative := by
  constructor
  · intro hblind zone hzone relative hrelative
    have hlower : SameLower check.fqdn (check.fqdn.map Char.toUpper) := by
      simp only [SameLower, Cpp.toLowerCopy, List.map_map, List.map_inj_left, Function.comp_apply,
        Sql.toLower_toUpper, implies_true]
    have halike := relativeName_alike hlower zone
    rw [hrelative] at halike
    generalize hupper : relativeName (check.fqdn.map Char.toUpper) zone = outcome at halike
    cases halike with
    | ok hnames =>
      refine hblind.punycode zone hzone relative hrelative none true ?_
      rw [← hblind.checkers _ hlower zone hzone relative _ hrelative hupper]
      exact validate_upper hupper none true
  · intro hplain
    refine ⟨fun fqdn' h => isInvalidSyntax_of_sameLower h hplain, ?_, ?_⟩
    · intro fqdn' h zone hzone relative relative' hrelative hrelative' checker zoneName ctx
      have halike := relativeName_alike h zone
      rw [hrelative, hrelative'] at halike
      cases halike with
      | ok hnames =>
        exact (hnames.validate_eq (hplain zone hzone relative hrelative) checker zoneName ctx).symm
    · intro zone hzone relative hrelative zoneName ctx hvalid
      exact hplain zone hzone relative hrelative

end

/-- A zone whose names must have no punycode. -/
def punycodeTables : Tables where
  zones := [Zone.exampleZone]
  nameCheckers := [⟨1, "dncheck_no_idn_punycode"⟩]
  zoneCheckers := [⟨1, 1⟩]

/-- The same name is refused in lower case and accepted in upper case. -/
theorem not_case_blind :
    CheckDomain.isInvalidSyntax { fqdn := ['x', 'n', '-', '-', 'a', '.', 'c', 'z'] } Zone.stableOrder
        (storedOrder String) punycodeTables = .ok true ∧
      CheckDomain.isInvalidSyntax { fqdn := ['X', 'N', '-', '-', 'a', '.', 'c', 'z'] } Zone.stableOrder
        (storedOrder String) punycodeTables = .ok false ∧
      ¬ CaseBlind { fqdn := ['x', 'n', '-', '-', 'a', '.', 'c', 'z'] } Zone.stableOrder
        (storedOrder String) punycodeTables := by
  have hlower : CheckDomain.isInvalidSyntax { fqdn := ['x', 'n', '-', '-', 'a', '.', 'c', 'z'] }
      Zone.stableOrder (storedOrder String) punycodeTables = .ok true := by decide +kernel
  have hupper : CheckDomain.isInvalidSyntax { fqdn := ['X', 'N', '-', '-', 'a', '.', 'c', 'z'] }
      Zone.stableOrder (storedOrder String) punycodeTables = .ok false := by decide +kernel
  refine ⟨hlower, hupper, fun h => ?_⟩
  have hverdict := h.verdict ['X', 'N', '-', '-', 'a', '.', 'c', 'z'] rfl
  rw [hlower] at hverdict
  rw [hupper] at hverdict
  cases hverdict

end LibFred.RegistrableObject.Domain
