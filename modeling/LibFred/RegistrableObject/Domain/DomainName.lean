import LibFred.Regex
import LibFred.Zone.Zone

/-! Names of domains and the checkers of their syntax. -/
namespace LibFred.RegistrableObject.Domain

open Cpp (StdString)

def letterDigitHyphenDot : StdString :=
  "ABCDEFGHIJKLMNOPQRSTUVWXYZzabcdefghijklmnopqrstuvwxyz0123456789-.".toList

/-- A label of 1 to 63 characters that neither begins nor ends with a hyphen. -/
def isCompliantLabel (label : StdString) : Bool :=
  ¬ (label.length < 1 ∨ 63 < label.length ∨ label.head? = some '-' ∨ label.getLast? = some '-')

def isRfc1123CompliantHostName (fqdn : StdString) : Bool :=
  let fqdn := Zone.remTrailingDot fqdn
  if fqdn.length < 1 ∨ 253 < fqdn.length then false
  else if ∃ c ∈ fqdn, c ∉ letterDigitHyphenDot then false
  else (fqdn.splitOn '.').all isCompliantLabel

def join (labels : List StdString) : StdString := ['.'].intercalate labels

theorem join_singleton (label : StdString) : join [label] = label := by simp [join]

theorem join_cons (label : StdString) {labels : List StdString} (hne : labels ≠ []) :
    join (label :: labels) = label ++ '.' :: join labels := by
  cases labels with
  | nil => exact absurd rfl hne
  | cons label' labels => simp [join, List.intercalate_cons_cons]

theorem join_append {labels labels' : List StdString} (hne : labels ≠ []) (hne' : labels' ≠ []) :
    join (labels ++ labels') = join labels ++ '.' :: join labels' := by
  induction labels with
  | nil => exact absurd rfl hne
  | cons label labels ih =>
    by_cases h : labels = []
    · rw [h, List.singleton_append, join_cons label hne', join_singleton]
    · rw [List.cons_append, join_cons label (List.append_ne_nil_of_left_ne_nil h _), ih h,
        join_cons label h, List.append_assoc, List.cons_append]

theorem join_splitOn (s : StdString) : join (s.splitOn '.') = s := List.intercalate_splitOn '.'

inductive NameException
  | invalidFqdn
  | invalidLabelCount
  | zoneNameNotSet
  | ctxNotSet
  | runtimeError (what : String)
  | outOfRange (what : String)
  deriving DecidableEq

/-- The labels of a name that was checked. -/
structure DomainName where
  labels : List StdString
  split : (join labels).splitOn '.' = labels
  compliant : isRfc1123CompliantHostName (join labels) = true

theorem remTrailingDot_eq_self {s : StdString} (h : s.getLast? ≠ some '.') :
    Zone.remTrailingDot s = s := if_neg h

theorem splitOn_concat_dot (s : StdString) : (s ++ ['.']).splitOn '.' = s.splitOn '.' ++ [[]] :=
  List.splitOn_append_cons_self s []

/-- What is left of a name without its final dot does not end with a dot again. -/
theorem isRfc1123_remTrailingDot {s : StdString} (h : isRfc1123CompliantHostName s = true) :
    isRfc1123CompliantHostName (Zone.remTrailingDot s) = true := by
  unfold isRfc1123CompliantHostName at h ⊢
  by_cases hlast : (Zone.remTrailingDot s).getLast? = some '.'
  · obtain ⟨t, ht⟩ := List.getLast?_eq_some_iff.mp hlast
    rw [ht] at h
    simp [splitOn_concat_dot, isCompliantLabel] at h
  · rw [remTrailingDot_eq_self hlast]
    exact h

namespace DomainName

/-- DomainName::init; there is no text behind a null pointer. -/
def init (fqdn : Option StdString) : Except NameException DomainName :=
  match fqdn with
  | none => throw .invalidFqdn
  | some tempFqdn =>
    if h : isRfc1123CompliantHostName tempFqdn = true then
      return ⟨(Zone.remTrailingDot tempFqdn).splitOn '.', by rw [join_splitOn],
        by rw [join_splitOn]; exact isRfc1123_remTrailingDot h⟩
    else throw .invalidFqdn

/-- The constructor from a std::string. -/
def new (fqdn : StdString) : Except NameException DomainName := init (some (Cpp.cStr fqdn))

def getString (name : DomainName) : StdString := join name.labels

def getSubdomains (name : DomainName) (topLabelsToSkip : Int) : Except NameException DomainName :=
  if topLabelsToSkip < 0 ∨ name.labels.length < topLabelsToSkip then throw .invalidLabelCount
  else new (join (name.labels.take (name.labels.length - topLabelsToSkip.toNat)))

end DomainName

inductive Checker
  | notEmptyDomainName
  | rfc1035PreferredSyntax
  | noConsecutiveHyphens
  | singleDigitLabelsOnly
  | noIdnPunycode
  deriving DecidableEq

/-- The factory of checkers. -/
def defaultFactory : List (String × Checker) :=
  [("dncheck_not_empty_domain_name", .notEmptyDomainName),
    ("dncheck_rfc1035_preferred_syntax", .rfc1035PreferredSyntax),
    ("dncheck_no_consecutive_hyphens", .noConsecutiveHyphens),
    ("dncheck_single_digit_labels_only", .singleDigitLabelsOnly),
    ("dncheck_no_idn_punycode", .noIdnPunycode)]

def letter : Regex Char := .cls Char.isAlpha

def digit : Regex Char := .cls Char.isDigit

def character (c : Char) : Regex Char := .cls fun a => a = c

/-- ([A-Za-z]|[A-Za-z][-A-Za-z0-9]{0,61}[A-Za-z0-9]) -/
def preferredLabel : Regex Char :=
  .alt letter (.seq letter (.seq (Regex.upTo (.cls fun c => c = '-' ∨ c.isAlphanum) 61)
    (.cls Char.isAlphanum)))

/-- Labels, each but the last one followed by a dot. -/
def dotted (label : Regex Char) : Regex Char := .seq (.star (.seq label (character '.'))) label

def rfc1035NameSyntax : Regex Char := dotted preferredLabel

def consecutiveHyphensSyntax : Regex Char := .seq (character '-') (character '-')

def singleDigitLabelsSyntax : Regex Char := dotted digit

def idnPunycodePrefix : StdString := "xn--".toList

/-- What the checker needs besides the name: the name of the zone and the operation context. -/
def Checker.needsZoneAndCtx (checker : Checker) : Bool := checker = .notEmptyDomainName

/-- DomainNameChecker::validate. -/
def Checker.validate (checker : Checker) (zoneName : Option DomainName) (ctx : Bool)
    (relative : DomainName) : Bool :=
  match checker with
  | .notEmptyDomainName =>
    (∃ zone ∈ zoneName, zone.getString ≠ []) ∧ relative.getString ≠ [] ∧ ctx
  | .rfc1035PreferredSyntax => rfc1035NameSyntax.Matches relative.getString
  | .noConsecutiveHyphens => ¬ consecutiveHyphensSyntax.somewhere.Matches relative.getString
  | .singleDigitLabelsOnly => singleDigitLabelsSyntax.Matches relative.getString
  | .noIdnPunycode => ¬ ∃ label ∈ relative.labels, idnPunycodePrefix <+: label

structure DomainNameValidator where
  isSystemRegistrar : Bool := false
  zoneName : Option DomainName := none
  ctx : Bool := false
  checkerNames : List String := []

namespace DomainNameValidator

variable (validator : DomainNameValidator)

/-- The checks of a system registrar stay as they are. -/
def setCheckerNames (checkerNames : List String) : Except NameException DomainNameValidator :=
  if validator.isSystemRegistrar then return validator
  else if ∃ name ∈ checkerNames, defaultFactory.lookup name = none then
    throw (.runtimeError
      "FactoryHaveSupersetOfKeys: at least one key from a subset not found in a Factory")
  else return { validator with checkerNames := checkerNames }

def check (labelsToCheck : DomainName) : List String → Except NameException Bool
  | [] => return true
  | checkerName :: checkerNames =>
    match defaultFactory.lookup checkerName with
    | none => throw (.outOfRange "producer not registered")
    | some checker =>
      if checker.needsZoneAndCtx ∧ validator.zoneName.isNone then throw .zoneNameNotSet
      else if checker.needsZoneAndCtx ∧ validator.ctx = false then throw .ctxNotSet
      else if checker.validate validator.zoneName validator.ctx labelsToCheck = false then return false
      else check labelsToCheck checkerNames

def exec (fqdn : DomainName) (topLabelsToSkip : Int) : Except NameException Bool := do
  let labelsToCheck ← fqdn.getSubdomains topLabelsToSkip
  if validator.isSystemRegistrar then return true
  else validator.check labelsToCheck validator.checkerNames

end DomainNameValidator

end LibFred.RegistrableObject.Domain
