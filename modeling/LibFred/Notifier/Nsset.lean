import LibFred.Order.Sorting
import LibFred.Notifier.EmailContent
import LibFred.RegistrableObject.Nsset.InfoNssetDiff

/-! What the notification of an nsset update tells. -/
namespace LibFred.Notifier.Nsset

open RegistrableObject RegistrableObject.Nsset

def sortByHostname (lhs rhs : DnsHost) : Bool := lhs.fqdn < rhs.fqdn

def equal (lhs rhs : DnsHost) : Bool := lhs.fqdn == rhs.fqdn && lhs.inetAddr == rhs.inetAddr

/-- Comparison of lists: the sizes agree and so do the elements. -/
def equalLists : List DnsHost → List DnsHost → Bool
  | [], [] => true
  | host :: lhs, host' :: rhs => equal host host' && equalLists lhs rhs
  | _, _ => false

/-- The order of addresses: version 4 first, then by value and scope. -/
def addressKey : IpAddress → Nat ×ₗ Nat ×ₗ Nat
  | .v4 bytes => toLex (4, toLex (bytes.val, 0))
  | .v6 bytes scopeId => toLex (6, toLex (bytes.val, scopeId))

/-- `ipToString` prints an address. -/
def dnsHostToString (ipToString : IpAddress → String) (host : DnsHost) : String :=
  let sorted := host.inetAddr.insertionSort fun a b => addressKey a ≤ addressKey b
  host.fqdn ++
    (if sorted = [] then "" else " (" ++ " ".intercalate (sorted.map ipToString) ++ ")")

def techCheckLevelText (level : Option Int16) : String :=
  match level with
  | none => ""
  | some level => Util.intToString level.toInt

def addTechCheckLevel (target : Parameters) (techCheckLevel : DiffMember (Option Int16)) :
    Except Exception Parameters :=
  match techCheckLevel with
  | some (first, second) =>
    addOldNewChangesPairIfDifferent target "nsset.check_level" (techCheckLevelText first)
      (techCheckLevelText second)
  | none => .ok target

variable (ipToString : IpAddress → String) (sort : Sorting sortByHostname)
  (before after : InfoNssetData)

/-- A change of the hosts is told by the sorted lists, unless they are equal. -/
def setDnsHosts (target : Parameters) (dnsHosts : DiffMember (List DnsHost)) : Parameters :=
  match dnsHosts with
  | some (first, second) =>
    if equalLists (sort.sort first) (sort.sort second) then target
    else setListChange target "nsset.dns" ((sort.sort first).map (dnsHostToString ipToString))
      ((sort.sort second).map (dnsHostToString ipToString))
  | none => target

def gatherNssetUpdateDataChange : Except Exception Parameters := do
  let diff := diffNssetData before after
  let result ← addTechCheckLevel ∅ diff.techCheckLevel
  let result ← addTechContacts result "nsset.tech_c" diff.techContacts
  return setChanges (setDnsHosts ipToString sort result diff.dnsHosts)

/-- A message tells about the check level, the technical contacts or the names of the hosts. -/
def Reported : Prop :=
  before.techCheckLevel ≠ after.techCheckLevel ∨
    TechContactsReported before.techContacts after.techContacts ∨
    ¬ SameHostNames before.dnsHosts after.dnsHosts

/-- The check level, the technical contacts or the hosts with their addresses differ. -/
def ContentDiffers : Prop :=
  before.techCheckLevel ≠ after.techCheckLevel ∨
    ¬ SameReferences before.techContacts after.techContacts ∨
    ¬ SameHosts before.dnsHosts after.dnsHosts

variable {ipToString sort before after} {target : Parameters} {first second : List DnsHost}

theorem Reported.contentDiffers (h : Reported before after) : ContentDiffers before after :=
  h.imp id (Or.imp And.left (mt SameHosts.sameHostNames))

theorem techCheckLevelText_injective {level level' : Option Int16}
    (h : techCheckLevelText level = techCheckLevelText level') : level = level' := by
  cases level with
  | none =>
    cases level' with
    | none => rfl
    | some level' => exact (Util.intToString_ne_empty h.symm).elim
  | some level =>
    cases level' with
    | none => exact (Util.intToString_ne_empty h).elim
    | some level' => rw [Int16.toInt_inj.mp (Util.intToString_injective h)]

theorem addTechCheckLevel_ok {level level' : Option Int16} :
    ∃ result, addTechCheckLevel ∅ (diffMember (isEqual (· == ·)) level level') = .ok result ∧
      OnlyChanges result ∧ (result = ∅ ↔ level = level') ∧
      ∀ rest, "changes." ++ "nsset.tech_c" ++ rest ∉ result := by
  unfold addTechCheckLevel diffMember
  by_cases hsame : level = level'
  · rw [if_pos (isEqual_iff.mpr hsame)]
    exact ⟨∅, rfl, onlyChanges_empty, by simp [hsame], fun _ => Finmap.notMem_empty⟩
  · rw [if_neg (hsame ∘ isEqual_iff.mp)]
    obtain ⟨result, hok, honly, hempty, hkeys⟩ := addOldNewChangesPairIfDifferent_ok
      onlyChanges_empty fun _ => Finmap.notMem_empty
    refine ⟨result, hok, honly, by simp [hempty, mt techCheckLevelText_injective hsame, hsame], ?_⟩
    intro rest hmem
    rcases hkeys _ hmem with h | ⟨tail, h⟩
    · exact Finmap.notMem_empty h
    · simp at h

theorem mem_of_equalLists (h : equalLists first second) : first = second := by
  induction first generalizing second with
  | nil => cases second <;> simp_all [equalLists]
  | cons host first ih =>
    cases second with
    | nil => simp [equalLists] at h
    | cons host' second =>
      simp only [equalLists, equal, Bool.and_eq_true, beq_iff_eq] at h
      rw [ih h.2]
      cases host
      cases host'
      simp_all

/-- Lists that sort alike have hosts of the same names. -/
theorem sameHostNames_of_equalLists (h : equalLists (sort.sort first) (sort.sort second)) :
    SameHostNames first second := by
  have hperm : first.Perm second :=
    (sort.perm first).symm.trans (mem_of_equalLists h ▸ sort.perm second)
  exact fun x => (hperm.map _).mem_iff

theorem onlyChanges_setDnsHosts {dnsHosts : DiffMember (List DnsHost)} (h : OnlyChanges target) :
    OnlyChanges (setDnsHosts ipToString sort target dnsHosts) := by
  unfold setDnsHosts
  split
  · split
    · exact h
    · exact h.setListChange
  · exact h

theorem setDnsHosts_eq_empty :
    setDnsHosts ipToString sort target (diffMember equalHostNames first second) = ∅ ↔
      target = ∅ ∧ SameHostNames first second := by
  unfold setDnsHosts diffMember
  by_cases hsame : SameHostNames first second
  · rw [if_pos (equalHostNames_iff.mpr hsame)]
    simp [hsame]
  · rw [if_neg (hsame ∘ equalHostNames_iff.mp)]
    have hequal : ¬ equalLists (sort.sort first) (sort.sort second) :=
      fun h => hsame (sameHostNames_of_equalLists h)
    simp [hsame, hequal, setListChange_ne_empty]

/-- The data is always gathered, and it is flagged as a change exactly when it tells one. -/
theorem gatherNssetUpdateDataChange_ok (ipToString : IpAddress → String)
    (sort : Sorting sortByHostname) (before after : InfoNssetData) :
    ∃ result, gatherNssetUpdateDataChange ipToString sort before after =
        .ok (setChanges result) ∧
      OnlyChanges result ∧ (result = ∅ ↔ ¬ Reported before after) := by
  obtain ⟨level, hlevel, honly, hempty, hfresh⟩ := addTechCheckLevel_ok
  obtain ⟨contacts, hcontacts, honly', hempty'⟩ := addTechContacts_ok honly hfresh
  refine ⟨setDnsHosts ipToString sort contacts (diffNssetData before after).dnsHosts, ?_,
    onlyChanges_setDnsHosts honly', ?_⟩
  · rw [gatherNssetUpdateDataChange]
    change addTechCheckLevel ∅ (diffMember _ _ _) >>= _ = _
    rw [hlevel]
    change addTechContacts level "nsset.tech_c" (diffMember _ _ _) >>= _ = _
    rw [hcontacts]
    rfl
  · change setDnsHosts ipToString sort contacts (diffMember _ _ _) = ∅ ↔ _
    rw [setDnsHosts_eq_empty, hempty', hempty, Reported]
    simp [and_assoc]

end LibFred.Notifier.Nsset
