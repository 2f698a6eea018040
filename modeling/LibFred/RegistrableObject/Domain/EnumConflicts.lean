import LibFred.RegistrableObject.Domain.CheckDomain
import LibFred.RegistrableObject.Domain.LetterCase
import LibFred.Zone.ZoneSearch

/-! Conflicts of a name with the registered domains of an ENUM zone. -/
namespace LibFred.RegistrableObject.Domain

open Cpp (StdString)

variable {fqdn name : StdString} {a b : StdString}

/-- All labels of the first name end the second one, which has more of them. -/
def IsAncestor (a b : StdString) : Prop := ∃ labels ≠ [], b.splitOn '.' = labels ++ a.splitOn '.'

/-- The name and a domain cannot both be delegated. -/
def Conflicting (fqdn name : StdString) : Prop :=
  name = fqdn ∨ IsAncestor name fqdn ∨ IsAncestor fqdn name

/-- The patterns of the query tell letter cases apart. -/
def MissedName (fqdn name : StdString) : Prop :=
  (IsAncestor name (Cpp.toLowerCopy fqdn) ∧ ¬ name <:+ fqdn) ∨
    IsAncestor (Cpp.toLowerCopy fqdn) name ∧ Cpp.toLowerCopy fqdn ≠ fqdn

/-- Wildcards in the name that is checked match a domain that has nothing to do with it. -/
def StrayedName (fqdn name : StdString) : Prop :=
  ¬ Conflicting (Cpp.toLowerCopy fqdn) name ∧ Sql.like name ('%' :: '.' :: fqdn) = some true

/-- The domains of an ENUM zone as they are created, and a name in the zone. -/
structure EnumZone (db : Tables) (fqdn : StdString) (zone : Zone.Data) : Prop where
  isEnum : zone.isEnum = true
  liesIn : Zone.LiesIn (Cpp.toLowerCopy fqdn) zone.name
  noEscape : zone.name.getLast? ≠ some '\\'
  names : ∀ name ∈ liveDomains db zone.id, DottedLabels name ∧ Cpp.toLowerCopy name = name

/-- The check ends, and it reports a domain exactly when there is a conflicting one. -/
def ReportsConflict (check : CheckDomain) (order : Zone.LongestFirst) (rowOrder : RowOrder StdString)
    (db : Tables) (zone : Zone.Data) : Prop :=
  ∃ conflict, check.isRegistered order rowOrder db = .ok conflict ∧
    (conflict.isSome ↔ ∃ name ∈ liveDomains db zone.id,
      Conflicting (Cpp.toLowerCopy (Zone.remTrailingDot check.fqdn)) name)

theorem isAncestor_iff : IsAncestor a b ↔ ∃ p, b = p ++ '.' :: a := by
  constructor
  · rintro ⟨labels, hne, hlabels⟩
    refine ⟨join labels, ?_⟩
    rw [← join_splitOn b, hlabels, join_append hne (List.splitOn_ne_nil _ _), join_splitOn]
  · rintro ⟨p, rfl⟩
    exact ⟨p.splitOn '.', List.splitOn_ne_nil _ _, List.splitOn_append_cons_self p a⟩

theorem IsAncestor.length (h : IsAncestor a b) : a.length < b.length := by
  obtain ⟨p, rfl⟩ := isAncestor_iff.mp h
  rw [List.length_append, List.length_cons]
  omega

theorem toLowerCopy_eq_self : Cpp.toLowerCopy a = a ↔ ∀ c ∈ a, c.toLower = c := by
  have hmap := List.map_inj_left (l := a) (f := Char.toLower) (g := id)
  rw [List.map_id] at hmap
  exact hmap

theorem literal_of_mem_letterDigitHyphenDot {c : Char} (h : c ∈ letterDigitHyphenDot) :
    Sql.Literal c := by
  have hall : ∀ c ∈ letterDigitHyphenDot, c ≠ '%' ∧ c ≠ '_' ∧ c ≠ '\\' := by decide
  exact hall c h

/-- The ending that the pattern of a name asks for. -/
theorem dot_suffix_iff (hlower : Cpp.toLowerCopy name = name) :
    '.' :: name <:+ fqdn ↔ IsAncestor name (Cpp.toLowerCopy fqdn) ∧ name <:+ fqdn := by
  have happend (p q : StdString) :
      Cpp.toLowerCopy (p ++ '.' :: q) = Cpp.toLowerCopy p ++ '.' :: Cpp.toLowerCopy q := List.map_append
  rw [isAncestor_iff]
  constructor
  · rintro ⟨p, rfl⟩
    refine ⟨⟨Cpp.toLowerCopy p, by rw [happend, hlower]⟩, p ++ ['.'], ?_⟩
    rw [List.append_assoc, List.singleton_append]
  · rintro ⟨⟨p, hp⟩, q, rfl⟩
    obtain ⟨relative, rest, heq, -, hrest⟩ := List.map_eq_append_iff.mp hp
    obtain ⟨c, ending, rfl, hdot, hending⟩ := List.map_eq_cons_iff.mp hrest
    have hlength : ending.length = name.length := by rw [← hending, List.length_map]
    have hsuffix : ending <:+ q ++ name := by
      rw [heq]
      exact ⟨relative ++ [c], by rw [List.append_assoc, List.singleton_append]⟩
    have hname : ending = name :=
      (List.suffix_of_suffix_length_le hsuffix ⟨q, rfl⟩ hlength.le).eq_of_length hlength
    rw [heq, toLower_eq_dot.mp hdot, hname]
    exact ⟨relative, rfl⟩

/-- The three conditions of the query, for a name that is made of letters, digits, hyphens and dots. -/
theorem enumConflict_eq (hname : DottedLabels name)
    (hescape : Sql.likeTokens ('%' :: '.' :: fqdn) ≠ none) :
    ∃ descendant, Sql.like name ('%' :: '.' :: fqdn) = some descendant ∧
      enumConflict fqdn name =
        some (decide ('.' :: name <:+ fqdn) || descendant || decide (name = Cpp.toLowerCopy fqdn)) := by
  have hliteral : ∀ c ∈ '.' :: name, Sql.Literal c := by
    refine List.forall_mem_cons.mpr ⟨⟨by decide, by decide, by decide⟩, fun c hc => ?_⟩
    exact literal_of_mem_letterDigitHyphenDot (hname.characters c hc)
  obtain ⟨tokens, htokens⟩ := Option.ne_none_iff_exists'.mp hescape
  have hlike : Sql.like name ('%' :: '.' :: fqdn) = some (Sql.likeMatches tokens name) := by
    rw [Sql.like, htokens]
    rfl
  refine ⟨_, hlike, ?_⟩
  rw [enumConflict, Sql.like_percent hliteral, hlike]
  rfl

/-- A pattern with a letter in upper case matches no name in lower case. -/
theorem toLowerCopy_of_like (hlower : Cpp.toLowerCopy name = name)
    (h : Sql.like name ('%' :: '.' :: fqdn) = some true) : Cpp.toLowerCopy fqdn = fqdn := by
  rw [toLowerCopy_eq_self] at hlower ⊢
  intro c hc
  by_cases hliteral : Sql.Literal c
  · exact hlower c (Sql.mem_of_like h hliteral (List.mem_cons_of_mem _ (List.mem_cons_of_mem _ hc)))
  · refine Sql.toLower_of_not_uppercase fun hupper => hliteral ⟨?_, ?_, ?_⟩ <;>
      (rintro rfl; exact absurd hupper (by decide))

theorem like_of_isAncestor (hname : DottedLabels name) (h : IsAncestor fqdn name) :
    Sql.like name ('%' :: '.' :: fqdn) = some true := by
  obtain ⟨p, rfl⟩ := isAncestor_iff.mp h
  have hliteral : ∀ c ∈ '.' :: fqdn, Sql.Literal c := fun c hc =>
    literal_of_mem_letterDigitHyphenDot (hname.characters c (List.mem_append_right _ hc))
  rw [Sql.like_percent hliteral, Option.some.injEq, decide_eq_true_iff]
  exact ⟨p, rfl⟩

theorem MissedName.conflicting (h : MissedName fqdn name) : Conflicting (Cpp.toLowerCopy fqdn) name := by
  rcases h with ⟨hancestor, -⟩ | ⟨hdescendant, -⟩
  · exact .inr (.inl hancestor)
  · exact .inr (.inr hdescendant)

/-- What the query selects: the conflicting names but for those that letter case hides, and what
matches by accident. -/
theorem enumConflict_iff (hname : DottedLabels name) (hlower : Cpp.toLowerCopy name = name)
    (hescape : Sql.likeTokens ('%' :: '.' :: fqdn) ≠ none) :
    enumConflict fqdn name = some true ↔ StrayedName fqdn name ∨
      Conflicting (Cpp.toLowerCopy fqdn) name ∧ ¬ MissedName fqdn name := by
  obtain ⟨descendant, hlike, heq⟩ := enumConflict_eq hname hescape
  rw [heq, Option.some.injEq, Bool.or_eq_true, Bool.or_eq_true, decide_eq_true_iff,
    decide_eq_true_iff]
  constructor
  · rintro ((hsuffix | rfl) | hname)
    · obtain ⟨hancestor, hends⟩ := (dot_suffix_iff hlower).mp hsuffix
      refine .inr ⟨.inr (.inl hancestor), ?_⟩
      rintro (⟨-, hnot⟩ | ⟨hdescendant, -⟩)
      · exact hnot hends
      · have hlt := hancestor.length
        have hgt := hdescendant.length
        omega
    · by_cases hconflict : Conflicting (Cpp.toLowerCopy fqdn) name
      · have hfqdn := toLowerCopy_of_like hlower hlike
        refine .inr ⟨hconflict, ?_⟩
        rintro (⟨hancestor, hnot⟩ | ⟨-, hne⟩)
        · rw [hfqdn] at hancestor
          obtain ⟨p, hp⟩ := isAncestor_iff.mp hancestor
          exact hnot ⟨p ++ ['.'], by rw [hp, List.append_assoc, List.singleton_append]⟩
        · exact hne hfqdn
      · exact .inl ⟨hconflict, hlike⟩
    · refine .inr ⟨.inl hname, ?_⟩
      rintro (⟨hancestor, -⟩ | ⟨hdescendant, -⟩)
      · have hlt := hancestor.length
        rw [hname] at hlt
        exact lt_irrefl _ hlt
      · have hlt := hdescendant.length
        rw [hname] at hlt
        exact lt_irrefl _ hlt
  · rintro (⟨-, hstrayed⟩ | ⟨hname | hancestor | hdescendant, hnot⟩)
    · rw [hlike] at hstrayed
      exact .inl (.inr (Option.some.inj hstrayed))
    · exact .inr hname
    · refine .inl (.inl ((dot_suffix_iff hlower).mpr ⟨hancestor, ?_⟩))
      by_contra hends
      exact hnot (.inl ⟨hancestor, hends⟩)
    · have hfqdn : Cpp.toLowerCopy fqdn = fqdn := by
        by_contra hne
        exact hnot (.inr ⟨hdescendant, hne⟩)
      rw [hfqdn] at hdescendant
      rw [like_of_isAncestor hname hdescendant] at hlike
      exact .inl (.inr (Option.some.inj hlike).symm)

theorem EnumZone.escape {db : Tables} {zone : Zone.Data} (h : EnumZone db fqdn zone) :
    Sql.likeTokens ('%' :: '.' :: fqdn) ≠ none := by
  refine Sql.likeTokens_ne_none fun hlast => ?_
  obtain ⟨p, -, hp⟩ := h.liesIn
  have hfqdn : fqdn.getLast? = some '\\' := by
    cases fqdn with
    | nil => exact absurd hlast (by decide)
    | cons c fqdn => rwa [List.getLast?_cons_cons, List.getLast?_cons_cons] at hlast
  rw [← getLast?_toLowerCopy fun _ => toLower_eq_iff (by decide) (by decide), hp,
    List.getLast?_append_of_ne_nil _ (List.cons_ne_nil _ _)] at hfqdn
  cases hzone : zone.name with
  | nil =>
    rw [hzone] at hfqdn
    exact absurd hfqdn (by decide)
  | cons c name =>
    rw [hzone, List.getLast?_cons_cons, ← hzone] at hfqdn
    exact h.noEscape hfqdn

theorem isRegistered_of_enum {check : CheckDomain} {order : Zone.LongestFirst}
    {rowOrder : RowOrder StdString} {db : Tables} {zone : Zone.Data}
    (h : EnumZone db (Zone.remTrailingDot check.fqdn) zone)
    (hfind : Zone.findZoneInFqdn order db.zones (Zone.remTrailingDot check.fqdn) = .ok zone) :
    ∃ conflict, check.isRegistered order rowOrder db = .ok conflict ∧
      (conflict.isSome ↔ ∃ name ∈ liveDomains db zone.id,
        enumConflict (Zone.remTrailingDot check.fqdn) name = some true) := by
  have hnone : ¬ ∃ name ∈ liveDomains db zone.id,
      enumConflict (Zone.remTrailingDot check.fqdn) name = none := by
    rintro ⟨name, hname, hnone⟩
    obtain ⟨descendant, -, heq⟩ := enumConflict_eq (h.names name hname).1 h.escape
    rw [heq] at hnone
    cases hnone
  rw [CheckDomain.isRegistered]
  dsimp only
  rw [hfind]
  dsimp only
  rw [if_pos h.isEnum, if_neg hnone]
  refine ⟨_, rfl, ?_⟩
  rw [List.isSome_head?, ← List.isEmpty_eq_false_iff,
    List.isEmpty_eq_false_iff_exists_mem]
  simp only [rowOrder.mem_sort, List.mem_filter, decide_eq_true_iff]

/-- The check reports a conflict exactly when there is one, unless letter case hides all conflicting
domains or wildcards match when there is none. -/
theorem reports_conflict_iff (check : CheckDomain) (order : Zone.LongestFirst)
    (rowOrder : RowOrder StdString) (db : Tables) (zone : Zone.Data)
    (h : EnumZone db (Zone.remTrailingDot check.fqdn) zone)
    (hfind : Zone.findZoneInFqdn order db.zones (Zone.remTrailingDot check.fqdn) = .ok zone) :
    ReportsConflict check order rowOrder db zone ↔
      (∀ name ∈ liveDomains db zone.id, MissedName (Zone.remTrailingDot check.fqdn) name →
        ∃ name' ∈ liveDomains db zone.id, StrayedName (Zone.remTrailingDot check.fqdn) name' ∨
          Conflicting (Cpp.toLowerCopy (Zone.remTrailingDot check.fqdn)) name' ∧
            ¬ MissedName (Zone.remTrailingDot check.fqdn) name') ∧
      ∀ name ∈ liveDomains db zone.id, StrayedName (Zone.remTrailingDot check.fqdn) name →
        ∃ name' ∈ liveDomains db zone.id,
          Conflicting (Cpp.toLowerCopy (Zone.remTrailingDot check.fqdn)) name' := by
  obtain ⟨conflict, heq, hsome⟩ : ∃ conflict, check.isRegistered order rowOrder db = .ok conflict ∧
      (conflict.isSome ↔ ∃ name ∈ liveDomains db zone.id,
        enumConflict (Zone.remTrailingDot check.fqdn) name = some true) := isRegistered_of_enum h hfind
  have hselected (name : StdString) (hname : name ∈ liveDomains db zone.id) :=
    enumConflict_iff (h.names name hname).1 (h.names name hname).2 h.escape
  have hreports : ReportsConflict check order rowOrder db zone ↔ (conflict.isSome ↔
      ∃ name ∈ liveDomains db zone.id,
        Conflicting (Cpp.toLowerCopy (Zone.remTrailingDot check.fqdn)) name) := by
    constructor
    · rintro ⟨conflict', heq', hiff⟩
      rw [heq] at heq'
      cases heq'
      exact hiff
    · intro hiff
      exact ⟨conflict, heq, hiff⟩
  rw [hreports, hsome]
  constructor
  · intro hiff
    refine ⟨fun name hname hmissed => ?_, fun name hname hstrayed => ?_⟩
    · obtain ⟨name', hname', hconflict⟩ := hiff.mpr ⟨name, hname, hmissed.conflicting⟩
      exact ⟨name', hname', (hselected name' hname').mp hconflict⟩
    · exact hiff.mp ⟨name, hname, (hselected name hname).mpr (.inl hstrayed)⟩
  · rintro ⟨hmissed, hstrayed⟩
    constructor
    · rintro ⟨name, hname, hconflict⟩
      rcases (hselected name hname).mp hconflict with hstray | ⟨hconflicting, -⟩
      · exact hstrayed name hname hstray
      · exact ⟨name, hname, hconflicting⟩
    · rintro ⟨name, hname, hconflicting⟩
      by_cases hmiss : MissedName (Zone.remTrailingDot check.fqdn) name
      · obtain ⟨name', hname', hselect⟩ := hmissed name hname hmiss
        exact ⟨name', hname', (hselected name' hname').mpr hselect⟩
      · exact ⟨name, hname, (hselected name hname).mpr (.inr ⟨hconflicting, hmiss⟩)⟩

/-- A name in lower case without wildcards is neither missed nor does it stray. -/
theorem not_missed_or_strayed (hlower : Cpp.toLowerCopy fqdn = fqdn)
    (hliteral : ∀ c ∈ fqdn, Sql.Literal c) : ¬ MissedName fqdn name ∧ ¬ StrayedName fqdn name := by
  have hpattern : ∀ c ∈ '.' :: fqdn, Sql.Literal c :=
    List.forall_mem_cons.mpr ⟨⟨by decide, by decide, by decide⟩, hliteral⟩
  constructor
  · rintro (⟨hancestor, hnot⟩ | ⟨-, hne⟩)
    · rw [hlower] at hancestor
      obtain ⟨p, hp⟩ := isAncestor_iff.mp hancestor
      exact hnot ⟨p ++ ['.'], by rw [hp, List.append_assoc, List.singleton_append]⟩
    · exact hne hlower
  · rintro ⟨hnot, hlike⟩
    rw [Sql.like_percent hpattern, Option.some.injEq, decide_eq_true_iff] at hlike
    obtain ⟨p, hp⟩ := hlike
    rw [hlower] at hnot
    exact hnot (.inr (.inr (isAncestor_iff.mpr ⟨p, hp.symm⟩)))

def exampleEnumZone : Zone.Data where
  id := 2
  isEnum := true
  name := ['e', '1', '6', '4', '.', 'a', 'r', 'p', 'a']
  dotsMax := 9
  exPeriodMin := 12
  exPeriodMax := 120
  enumValidationPeriod := 6

/-- One domain is registered in the zone. -/
def enumTables : Tables where
  zones := [exampleEnumZone]
  objectRegistry := [⟨7, .domain, ['2', '.', 'e', '1', '6', '4', '.', 'a', 'r', 'p', 'a'], none⟩]
  domains := [⟨7, 2⟩]

theorem enumTables_names : ∀ name ∈ liveDomains enumTables exampleEnumZone.id,
    DottedLabels name ∧ Cpp.toLowerCopy name = name := by
  have hnames : liveDomains enumTables exampleEnumZone.id =
      [['2', '.', 'e', '1', '6', '4', '.', 'a', 'r', 'p', 'a']] := by decide
  rw [hnames, List.forall_mem_singleton]
  exact ⟨dottedLabels_of_compliant (by decide) (by decide), by decide⟩

/-- The name of a number below the registered one. -/
def exampleNumber : StdString := ['1', '.', '2', '.', 'e', '1', '6', '4', '.', 'a', 'r', 'p', 'a']

theorem enumZone_example : EnumZone enumTables (Zone.remTrailingDot exampleNumber) exampleEnumZone where
  isEnum := rfl
  liesIn := ⟨['1', '.', '2'], by decide, by decide⟩
  noEscape := by decide
  names := enumTables_names

theorem reports_conflict_iff_example :
    ReportsConflict { fqdn := exampleNumber } Zone.stableOrder (storedOrder StdString) enumTables
      exampleEnumZone := by
  have hplain (name : StdString) : ¬ MissedName exampleNumber name ∧ ¬ StrayedName exampleNumber name :=
    not_missed_or_strayed (by decide) fun c hc => literal_of_mem_letterDigitHyphenDot
      ((by decide : ∀ c ∈ exampleNumber, c ∈ letterDigitHyphenDot) c hc)
  refine (reports_conflict_iff { fqdn := exampleNumber } Zone.stableOrder (storedOrder StdString)
    enumTables exampleEnumZone enumZone_example (by decide +kernel)).mpr ⟨?_, ?_⟩
  · intro name _ hmissed
    exact absurd hmissed (hplain name).1
  · intro name _ hstrayed
    exact absurd hstrayed (hplain name).2

/-- The same name with the letters of the zone in upper case. -/
def upperNumber : StdString := ['1', '.', '2', '.', 'E', '1', '6', '4', '.', 'A', 'R', 'P', 'A']

theorem not_reports_conflict :
    EnumZone enumTables (Zone.remTrailingDot upperNumber) exampleEnumZone ∧
      Zone.findZoneInFqdn Zone.stableOrder enumTables.zones (Zone.remTrailingDot upperNumber) =
        .ok exampleEnumZone ∧
      ¬ ReportsConflict { fqdn := upperNumber } Zone.stableOrder (storedOrder StdString) enumTables
        exampleEnumZone := by
  have hzone : EnumZone enumTables (Zone.remTrailingDot upperNumber) exampleEnumZone :=
    ⟨rfl, ⟨['1', '.', '2'], by decide, by decide⟩, by decide, enumTables_names⟩
  refine ⟨hzone, by decide +kernel, ?_⟩
  rintro ⟨conflict, heq, hiff⟩
  have hrun : CheckDomain.isRegistered { fqdn := upperNumber } Zone.stableOrder (storedOrder StdString)
      enumTables = .ok none := by decide +kernel
  rw [hrun] at heq
  cases heq
  have hmem : ['2', '.', 'e', '1', '6', '4', '.', 'a', 'r', 'p', 'a'] ∈
      liveDomains enumTables exampleEnumZone.id := by decide
  refine absurd (hiff.mpr ⟨_, hmem, .inr (.inl ⟨[['1']], by decide, ?_⟩)⟩) (by decide)
  decide +kernel

end LibFred.RegistrableObject.Domain
