import LibFred.Order.Span
import LibFred.RegistrableObject.Domain.CreateDomainNameBlacklistId
import LibFred.RegistrableObject.Domain.LetterCase

/-! Which records of the blacklist exclude each other, and which names and instants one stands for. -/
namespace LibFred.RegistrableObject.Domain

open Cpp (StdString)

variable {fqdn name : StdString} {create : CreateDomainNameBlacklistId} {db db' : Tables} {now t : Int}
  {b : BlacklistRow} {row : RegistryRow} {op : Sql.RegexpOperator}

/-- The record was made for the name in some letter case. -/
def OfName (fqdn : StdString) (b : BlacklistRow) : Prop :=
  ∃ name, b.regexp = fqdnToRegexp name ∧ Cpp.toLowerCopy name = Cpp.toLowerCopy fqdn

/-- The instants at which a record is valid. -/
def BlacklistRow.validity (b : BlacklistRow) : Set Int := Span.ico b.validFrom b.validTo

/-- The instants at which the record to be created is valid. -/
def CreateDomainNameBlacklistId.validity (create : CreateDomainNameBlacklistId) (now : Int) : Set Int :=
  Span.ico (create.start now) create.validTo

/-- The record is refused when it shares an instant with one of the same name. An accepted record
puts the name, in any letter case, on the blacklist at its instants, and nothing else. -/
structure BlacklistsExactly (op : Sql.RegexpOperator) (create : CreateDomainNameBlacklistId)
    (db : Tables) (now : Int) (fqdn : StdString) : Prop where
  refuses : create.exec db now = .error (.alreadyBlacklistedDomain create.objectId) ↔
    ∃ b ∈ db.domainBlacklist, OfName fqdn b ∧ ¬ Disjoint (create.validity now) b.validity
  accepts : ∀ db', create.exec db now = .ok db' →
    ∃ b, db' = { db with domainBlacklist := db.domainBlacklist ++ [b] } ∧
      ∀ (check : CheckDomain) (t : Int),
        check.isBlacklisted op { db with domainBlacklist := [b] } t = true ↔
          Cpp.toLowerCopy (Zone.remTrailingDot check.fqdn) = Cpp.toLowerCopy fqdn ∧
            t ∈ create.validity now

/-- The ends of the new record and of an old one are such that the query selects the old one, but the
two share no instant: one ends where the other one begins, or one is empty. -/
def OnlyTouches (create : CreateDomainNameBlacklistId) (now : Int) (b : BlacklistRow) : Prop :=
  (∀ validTo ∈ b.validTo, create.start now < validTo) ∧
    (∀ validTo ∈ create.validTo, b.validFrom ≤ validTo) ∧ Disjoint (create.validity now) b.validity

theorem regexpOf_of_ne {c : Char} (hc : c ≠ '.') : regexpOf c = [c] := by
  unfold regexpOf
  split
  · exact absurd rfl hc
  · rfl

theorem toLowerCopy_flatMap_regexpOf (s : StdString) :
    Cpp.toLowerCopy (s.flatMap regexpOf) = (Cpp.toLowerCopy s).flatMap regexpOf := by
  have hletter (c : Char) : (regexpOf c).map Char.toLower = regexpOf c.toLower := by
    by_cases hc : c = '.'
    · rw [hc]
      rfl
    · rw [regexpOf_of_ne hc, regexpOf_of_ne (mt toLower_eq_dot.mp hc)]
      rfl
  unfold Cpp.toLowerCopy
  rw [List.map_flatMap, List.flatMap_map]
  simp only [hletter]

theorem toLowerCopy_fqdnToRegexp (s : StdString) :
    Cpp.toLowerCopy (fqdnToRegexp s) = fqdnToRegexp (Cpp.toLowerCopy s) := by
  have hends : Cpp.toLowerCopy (fqdnToRegexp s) =
      '^' :: (Cpp.toLowerCopy (s.flatMap regexpOf) ++ ['$']) := by
    simp [Cpp.toLowerCopy, fqdnToRegexp]
  rw [hends, toLowerCopy_flatMap_regexpOf, fqdnToRegexp]

/-- Letter case aside, only a name gives its expression. -/
theorem exists_of_toLowerCopy {body : StdString}
    (h : Cpp.toLowerCopy body = fqdn.flatMap regexpOf) :
    ∃ name, body = name.flatMap regexpOf ∧ Cpp.toLowerCopy name = fqdn := by
  induction fqdn generalizing body with
  | nil => exact ⟨[], List.map_eq_nil_iff.mp h, rfl⟩
  | cons c fqdn ih =>
    rw [List.flatMap_cons] at h
    obtain ⟨first, rest, rfl, hfirst, hrest⟩ := List.map_eq_append_iff.mp h
    obtain ⟨name, rfl, hname⟩ := ih hrest
    by_cases hc : c = '.'
    · rw [hc] at hfirst
      have hdot : first = regexpOf '.' := by
        obtain ⟨a, first, rfl, ha, hfirst⟩ := List.map_eq_cons_iff.mp hfirst
        obtain ⟨d, first, rfl, hd, hfirst⟩ := List.map_eq_cons_iff.mp hfirst
        have hescape : a.toLower = '\\' ↔ a = '\\' := toLower_eq_iff (by decide) (by decide)
        rw [hescape.mp ha, toLower_eq_dot.mp hd, List.map_eq_nil_iff.mp hfirst]
        rfl
      refine ⟨'.' :: name, by rw [hdot, List.flatMap_cons], ?_⟩
      rw [hc, ← hname]
      rfl
    · rw [regexpOf_of_ne hc] at hfirst
      obtain ⟨a, first, rfl, ha, hfirst⟩ := List.map_eq_cons_iff.mp hfirst
      have hne : a ≠ '.' := by
        rintro rfl
        exact hc ha.symm
      refine ⟨a :: name, ?_, ?_⟩
      · rw [List.map_eq_nil_iff.mp hfirst, List.flatMap_cons, regexpOf_of_ne hne]
      · rw [← ha, ← hname]
        rfl

theorem ofName_iff :
    OfName fqdn b ↔ Cpp.toLowerCopy b.regexp = Cpp.toLowerCopy (fqdnToRegexp fqdn) := by
  constructor
  · rintro ⟨name, hregexp, hname⟩
    rw [hregexp, toLowerCopy_fqdnToRegexp, toLowerCopy_fqdnToRegexp, hname]
  · intro h
    rw [toLowerCopy_fqdnToRegexp, fqdnToRegexp] at h
    obtain ⟨first, rest, hregexp, hfirst, hrest⟩ := List.map_eq_cons_iff.mp h
    obtain ⟨body, last, rfl, hbody, hlast⟩ := List.map_eq_append_iff.mp hrest
    obtain ⟨name, rfl, hname⟩ := exists_of_toLowerCopy hbody
    obtain ⟨last, tail, rfl, hlast, htail⟩ := List.map_eq_cons_iff.mp hlast
    have hcaret : first.toLower = '^' ↔ first = '^' := toLower_eq_iff (by decide) (by decide)
    have hdollar : last.toLower = '$' ↔ last = '$' := toLower_eq_iff (by decide) (by decide)
    refine ⟨name, ?_, hname⟩
    rw [hregexp, hcaret.mp hfirst, hdollar.mp hlast, List.map_eq_nil_iff.mp htail, fqdnToRegexp]

/-- What stands for a character in the expression. -/
def atomOf : Char → Sql.RegexpAtom
  | '.' => .escaped '.'
  | c => .plain c

/-- The expression of a host name stands for the name in any letter case. -/
theorem hits_fqdnToRegexp (hname : DottedLabels name) (text : StdString) :
    op.hits text (fqdnToRegexp name) = true ↔ Cpp.toLowerCopy text = Cpp.toLowerCopy name := by
  have hchar (c : Char) : (atomOf c).char = c ∧ (atomOf c).text = regexpOf c := by
    by_cases hc : c = '.'
    · rw [hc]
      exact ⟨rfl, rfl⟩
    · rw [regexpOf_of_ne hc, atomOf]
      · exact ⟨rfl, rfl⟩
      · exact hc
  have hregexp : fqdnToRegexp name = Sql.anchored (name.map atomOf) := by
    rw [fqdnToRegexp, Sql.anchored, List.flatMap_map]
    simp only [hchar]
  have hproper : ∀ a ∈ name.map atomOf, a.Proper := by
    rw [List.forall_mem_map]
    intro c hc
    unfold atomOf
    split
    · exact ⟨by decide, rfl⟩
    · rename_i hdot
      have hall : ∀ c ∈ letterDigitHyphenDot, c ≠ '.' → c.toNat < 128 ∧ c ∉ Sql.regexpSpecials := by
        decide
      exact hall c (hname.characters c hc) hdot
  rw [hregexp, op.hits_anchored text _ hproper, List.forall₂_map_right_iff, Cpp.toLowerCopy,
    Cpp.toLowerCopy, ← List.forall₂_eq_eq_eq, List.forall₂_map_left_iff, List.forall₂_map_right_iff]
  simp only [hchar]

theorem exec_of_outOfTurn (h : ∃ validTo ∈ create.validTo, validTo < create.start now) :
    ∃ validTo, create.exec db now = .error (.outOfTurn create.validFrom validTo) := by
  obtain ⟨validTo, hvalidTo, hlt⟩ := h
  refine ⟨validTo, ?_⟩
  have hcheck : create.checkTime now = .error (.outOfTurn create.validFrom validTo) := by
    rw [CreateDomainNameBlacklistId.checkTime, Option.mem_def.mp hvalidTo]
    exact if_pos hlt
  rw [CreateDomainNameBlacklistId.exec, hcheck]
  rfl

theorem exec_of_row (hturn : ¬ ∃ validTo ∈ create.validTo, validTo < create.start now)
    (hrow : (db.objectRegistry.find? fun obr => obr.id = create.objectId ∧ obr.erdate = none) = some row) :
    create.exec db now = if create.isBlacklisted db now (fqdnToRegexp row.name) then
        .error (.alreadyBlacklistedDomain create.objectId)
      else .ok { db with domainBlacklist := db.domainBlacklist ++
        [⟨fqdnToRegexp row.name, create.reason, create.start now, create.validTo⟩] } := by
  have hcheck : create.checkTime now = .ok () := by
    rw [CreateDomainNameBlacklistId.checkTime]
    cases hvalidTo : create.validTo with
    | none => rfl
    | some validTo => exact if_neg fun hlt => hturn ⟨validTo, hvalidTo, hlt⟩
  rw [CreateDomainNameBlacklistId.exec, hcheck, hrow]
  rfl

theorem isBlacklisted_iff : create.isBlacklisted db now (fqdnToRegexp fqdn) ↔
    ∃ b ∈ db.domainBlacklist, OfName fqdn b ∧
      (OnlyTouches create now b ∨ ¬ Disjoint (create.validity now) b.validity) := by
  unfold CreateDomainNameBlacklistId.isBlacklisted
  refine exists_congr fun b => and_congr_right fun _ => and_congr ofName_iff.symm ?_
  unfold OnlyTouches CreateDomainNameBlacklistId.validity BlacklistRow.validity
  constructor
  · rintro ⟨hbefore, hafter⟩
    by_cases hdisjoint : Disjoint (Span.ico (create.start now) create.validTo)
        (Span.ico b.validFrom b.validTo)
    · exact .inl ⟨hbefore, hafter, hdisjoint⟩
    · exact .inr hdisjoint
  · rintro (⟨hbefore, hafter, -⟩ | hmeet)
    · exact ⟨hbefore, hafter⟩
    · obtain ⟨-, hbefore, hafter, -⟩ := Span.not_disjoint_ico_iff.mp hmeet
      exact ⟨hbefore, fun validTo hvalidTo => (hafter validTo hvalidTo).le⟩

theorem refuses_iff (hturn : ¬ ∃ validTo ∈ create.validTo, validTo < create.start now)
    (hrow : (db.objectRegistry.find? fun obr => obr.id = create.objectId ∧ obr.erdate = none) = some row) :
    create.exec db now = .error (.alreadyBlacklistedDomain create.objectId) ↔
      create.isBlacklisted db now (fqdnToRegexp row.name) := by
  rw [exec_of_row hturn hrow]
  split
  · rename_i h
    exact ⟨fun _ => h, fun _ => rfl⟩
  · rename_i h
    exact ⟨nofun, fun h' => absurd h' h⟩

/-- An interval that ends before it begins shares no instant with another one. -/
theorem disjoint_of_outOfTurn (hturn : ∃ validTo ∈ create.validTo, validTo < create.start now) :
    Disjoint (create.validity now) b.validity := by
  obtain ⟨validTo, hvalidTo, hlt⟩ := hturn
  by_contra hmeet
  exact absurd ((Span.not_disjoint_ico_iff.mp hmeet).1 validTo hvalidTo) (not_lt.mpr hlt.le)

/-- A record that is accepted stands for the name at its instants. -/
theorem accepts_of_exec (op : Sql.RegexpOperator) (hname : DottedLabels row.name)
    (hrow : (db.objectRegistry.find? fun obr => obr.id = create.objectId ∧ obr.erdate = none) = some row)
    (hok : create.exec db now = .ok db') :
    ∃ b, db' = { db with domainBlacklist := db.domainBlacklist ++ [b] } ∧
      ∀ (check : CheckDomain) (t : Int),
        check.isBlacklisted op { db with domainBlacklist := [b] } t = true ↔
          Cpp.toLowerCopy (Zone.remTrailingDot check.fqdn) = Cpp.toLowerCopy row.name ∧
            t ∈ create.validity now := by
  by_cases hturn : ∃ validTo ∈ create.validTo, validTo < create.start now
  · obtain ⟨validTo, herror⟩ : ∃ validTo, create.exec db now = .error (.outOfTurn create.validFrom validTo) :=
      exec_of_outOfTurn hturn
    rw [herror] at hok
    cases hok
  · rw [exec_of_row hturn hrow] at hok
    split at hok
    · cases hok
    · cases hok
      refine ⟨_, rfl, fun check t => ?_⟩
      rw [CheckDomain.isBlacklisted]
      dsimp only
      rw [List.any_cons, List.any_nil, Bool.or_false, Bool.and_eq_true, Bool.and_eq_true,
        decide_eq_true_iff, decide_eq_true_iff, hits_fqdnToRegexp hname, and_assoc]
      rfl

/-- The blacklist works as it should exactly when no record of the name that only touches the new one
is the reason for refusing it. -/
theorem blacklists_exactly_iff (op : Sql.RegexpOperator) (create : CreateDomainNameBlacklistId)
    (db : Tables) (now : Int) (row : RegistryRow)
    (hrow : (db.objectRegistry.find? fun obr => obr.id = create.objectId ∧ obr.erdate = none) = some row)
    (hname : DottedLabels row.name) :
    BlacklistsExactly op create db now row.name ↔
      (∃ validTo ∈ create.validTo, validTo < create.start now) ∨
        ∀ b ∈ db.domainBlacklist, OfName row.name b → OnlyTouches create now b →
          ∃ b' ∈ db.domainBlacklist, OfName row.name b' ∧
            ¬ Disjoint (create.validity now) b'.validity := by
  have haccepts (db' : Tables) (hok : create.exec db now = .ok db') :=
    accepts_of_exec op hname hrow hok
  by_cases hturn : ∃ validTo ∈ create.validTo, validTo < create.start now
  · refine ⟨fun _ => .inl hturn, fun _ => ⟨?_, haccepts⟩⟩
    obtain ⟨validTo, herror⟩ : ∃ validTo, create.exec db now = .error (.outOfTurn create.validFrom validTo) :=
      exec_of_outOfTurn hturn
    rw [herror]
    constructor
    · nofun
    · rintro ⟨b, -, -, hmeet⟩
      exact absurd (disjoint_of_outOfTurn hturn) hmeet
  · rw [or_iff_right hturn]
    constructor
    · rintro ⟨hrefuses, -⟩ b hb hof htouches
      refine hrefuses.mp ((refuses_iff hturn hrow).mpr (isBlacklisted_iff.mpr ?_))
      exact ⟨b, hb, hof, .inl htouches⟩
    · intro hcond
      refine ⟨?_, haccepts⟩
      rw [refuses_iff hturn hrow, isBlacklisted_iff]
      constructor
      · rintro ⟨b, hb, hof, htouches | hmeet⟩
        · exact hcond b hb hof htouches
        · exact ⟨b, hb, hof, hmeet⟩
      · rintro ⟨b, hb, hof, hmeet⟩
        exact ⟨b, hb, hof, .inr hmeet⟩

/-- The domain a.cz, whose name was on the blacklist until the instant 10. -/
def blacklistTables : Tables where
  zones := []
  objectRegistry := [⟨7, .domain, ['a', '.', 'c', 'z'], none⟩]
  domainBlacklist := [⟨fqdnToRegexp ['a', '.', 'c', 'z'], "", 0, some 10⟩]

theorem blacklists_exactly_iff_example :
    BlacklistsExactly Sql.literalOperator { objectId := 7, reason := "" } blacklistTables 20
      ['a', '.', 'c', 'z'] := by
  refine (blacklists_exactly_iff Sql.literalOperator { objectId := 7, reason := "" } blacklistTables 20
    ⟨7, .domain, ['a', '.', 'c', 'z'], none⟩ (by decide)
    (dottedLabels_of_compliant (by decide) (by decide))).mpr (.inr fun b hb _ htouches => ?_)
  rw [List.mem_singleton.mp hb] at htouches
  exact absurd (htouches.1 10 rfl) (by decide)

/-- A record that ends where the one on the blacklist begins is refused. -/
theorem not_blacklists_exactly :
    ¬ BlacklistsExactly Sql.literalOperator
      { objectId := 7, reason := "", validFrom := some (-5), validTo := some 0 } blacklistTables 20
      ['a', '.', 'c', 'z'] := by
  intro h
  have hrun : CreateDomainNameBlacklistId.exec
      { objectId := 7, reason := "", validFrom := some (-5), validTo := some 0 } blacklistTables 20 =
        .error (.alreadyBlacklistedDomain 7) := by decide +kernel
  obtain ⟨b, hb, -, hmeet⟩ := h.refuses.mp hrun
  rw [List.mem_singleton.mp hb] at hmeet
  obtain ⟨-, -, hlt, -⟩ := Span.not_disjoint_ico_iff.mp hmeet
  exact absurd (hlt 0 rfl) (by decide)

end LibFred.RegistrableObject.Domain
