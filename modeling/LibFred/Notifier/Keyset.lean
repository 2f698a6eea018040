import LibFred.Order.Sorting
import LibFred.Notifier.EmailContent
import LibFred.RegistrableObject.Keyset.InfoKeysetDiff

/-! What the notification of a keyset update tells. -/
namespace LibFred.Notifier.Keyset

open RegistrableObject RegistrableObject.Keyset

def sortByKey (lhs rhs : DnsKey) : Bool := lhs.key < rhs.key

/-- The algorithm is compared twice and the flags are not. -/
def equal (lhs rhs : DnsKey) : Bool :=
  lhs.alg == rhs.alg && lhs.protocol == rhs.protocol && lhs.alg == rhs.alg && lhs.key == rhs.key

/-- Comparison of lists: the sizes agree and so do the elements. -/
def equalLists : List DnsKey → List DnsKey → Bool
  | [], [] => true
  | key :: lhs, key' :: rhs => equal key key' && equalLists lhs rhs
  | _, _ => false

def dnsKeyToString (key : DnsKey) : String :=
  "(flags: " ++ key.flags.toNat.repr ++ " protocol: " ++ key.protocol.toNat.repr ++
    " algorithm: " ++ key.alg.toNat.repr ++ " key: " ++ key.key ++ ")"

variable (sort : Sorting sortByKey) (before after : InfoKeysetData)

/-- A change of the keys is told by the sorted lists, unless they are equal. -/
def setDnsKeys (target : Parameters) (dnsKeys : DiffMember (List DnsKey)) : Parameters :=
  match dnsKeys with
  | some (first, second) =>
    if equalLists (sort.sort first) (sort.sort second) then target
    else setListChange target "keyset.dnskey" ((sort.sort first).map dnsKeyToString)
      ((sort.sort second).map dnsKeyToString)
  | none => target

def gatherKeysetUpdateDataChange : Except Exception Parameters := do
  let diff := diffKeysetData before after
  let result ← addTechContacts ∅ "keyset.tech_c" diff.techContacts
  return setChanges (setDnsKeys sort result diff.dnsKeys)

/-- A key without its flags. -/
def withoutFlags (key : DnsKey) : UInt16 × UInt16 × String := (key.protocol, key.alg, key.key)

/-- Sorting puts two keys of one text, but of different protocols or algorithms, at one place. -/
def TiesApart (first second : List DnsKey) : Prop :=
  ∃ (i : Nat) (key key' : DnsKey), (sort.sort first)[i]? = some key ∧ (sort.sort second)[i]? = some key' ∧
    key.key = key'.key ∧ (key.protocol ≠ key'.protocol ∨ key.alg ≠ key'.alg)

/-- The keys that a message tells about: others than before, and not only by their flags, unless
sorting takes keys of one text in another order. -/
def DnsKeysReported (first second : List DnsKey) : Prop :=
  (¬ ∀ key, key ∈ first ↔ key ∈ second) ∧
    (¬ (first.map withoutFlags).Perm (second.map withoutFlags) ∨ TiesApart sort first second)

/-- A message tells about the technical contacts or the keys. -/
def Reported : Prop :=
  TechContactsReported before.techContacts after.techContacts ∨
    DnsKeysReported sort before.dnsKeys after.dnsKeys

/-- The technical contacts or the keys differ. -/
def ContentDiffers : Prop :=
  ¬ SameReferences before.techContacts after.techContacts ∨
    ¬ ∀ key, key ∈ before.dnsKeys ↔ key ∈ after.dnsKeys

variable {sort before after} {target : Parameters} {first second : List DnsKey}

theorem Reported.contentDiffers (h : Reported sort before after) : ContentDiffers before after :=
  h.imp And.left And.left

theorem equalLists_iff : equalLists first second ↔ first.map withoutFlags = second.map withoutFlags := by
  induction first generalizing second with
  | nil => cases second <;> simp [equalLists]
  | cons key first ih =>
    cases second with
    | nil => simp [equalLists]
    | cons key' second =>
      simp only [equalLists, equal, Bool.and_eq_true, beq_iff_eq, ih, List.map_cons, List.cons.injEq,
        withoutFlags, Prod.mk.injEq]
      tauto

/-- Rearrangements of the same keys have the same texts when they are sorted. -/
theorem map_key_sort (sort : Sorting sortByKey)
    (h : (first.map withoutFlags).Perm (second.map withoutFlags)) :
    (sort.sort first).map (·.key) = (sort.sort second).map (·.key) := by
  have hsorted : ∀ keys : List DnsKey, ((sort.sort keys).map (·.key)).Pairwise (· ≤ ·) := fun keys =>
    List.pairwise_map.mpr ((sort.ordered keys).imp fun hnot => not_lt.mp fun hlt => hnot (decide_eq_true hlt))
  have hperm : ((sort.sort first).map (·.key)).Perm ((sort.sort second).map (·.key)) := by
    have htexts := h.map fun parts => parts.2.2
    rw [List.map_map, List.map_map] at htexts
    exact ((sort.perm first).map _).trans (htexts.trans ((sort.perm second).map _).symm)
  exact hperm.eq_of_pairwise (fun _ _ _ _ => le_antisymm) (hsorted first) (hsorted second)

/-- The sorted lists are told apart by what is compared of the keys, or by the order of ties. -/
theorem not_equalLists_sort_iff : ¬ equalLists (sort.sort first) (sort.sort second) ↔
    ¬ (first.map withoutFlags).Perm (second.map withoutFlags) ∨ TiesApart sort first second := by
  rw [equalLists_iff]
  constructor
  · intro hne
    by_contra hboth
    obtain ⟨hperm, hties⟩ := not_or.mp hboth
    refine hne (List.ext_getElem? fun i => ?_)
    have htext := congrArg (·[i]?) (map_key_sort sort (not_not.mp hperm))
    simp only [List.getElem?_map] at htext ⊢
    cases hfirst : (sort.sort first)[i]? with
    | none =>
      rw [hfirst] at htext
      rw [Option.map_eq_none_iff.mp htext.symm]
    | some key =>
      rw [hfirst] at htext
      obtain ⟨key', hsecond, hkey⟩ := Option.map_eq_some_iff.mp htext.symm
      have hparts : key.protocol = key'.protocol ∧ key.alg = key'.alg := by
        by_contra hparts
        exact hties ⟨i, key, key', hfirst, hsecond, hkey.symm, not_and_or.mp hparts⟩
      simp [hsecond, withoutFlags, hparts, hkey]
  · rintro (hperm | ⟨i, key, key', hfirst, hsecond, -, hparts⟩) heq
    · refine hperm (((sort.perm first).map withoutFlags).symm.trans ?_)
      rw [heq]
      exact (sort.perm second).map withoutFlags
    · have hplace := congrArg (·[i]?) heq
      simp only [List.getElem?_map, hfirst, hsecond, Option.map_some, Option.some.injEq, withoutFlags,
        Prod.mk.injEq] at hplace
      exact hparts.elim (absurd hplace.1) (absurd hplace.2.1)

theorem onlyChanges_setDnsKeys {dnsKeys : DiffMember (List DnsKey)} (h : OnlyChanges target) :
    OnlyChanges (setDnsKeys sort target dnsKeys) := by
  unfold setDnsKeys
  split
  · split
    · exact h
    · exact h.setListChange
  · exact h

theorem setDnsKeys_eq_empty : setDnsKeys sort target (diffMember equalAsSets first second) = ∅ ↔
    target = ∅ ∧ ¬ DnsKeysReported sort first second := by
  unfold setDnsKeys diffMember
  by_cases hsame : ∀ key, key ∈ first ↔ key ∈ second
  · rw [if_pos (equalAsSets_iff.mpr hsame)]
    simp [DnsKeysReported, hsame]
  · rw [if_neg (hsame ∘ equalAsSets_iff.mp)]
    rw [DnsKeysReported, ← not_equalLists_sort_iff]
    by_cases hequal : equalLists (sort.sort first) (sort.sort second) <;>
      simp [hsame, hequal, setListChange_ne_empty]

/-- The data is always gathered, and it is flagged as a change exactly when it tells one. -/
theorem gatherKeysetUpdateDataChange_ok (sort : Sorting sortByKey)
    (before after : InfoKeysetData) :
    ∃ result, gatherKeysetUpdateDataChange sort before after = .ok (setChanges result) ∧
      OnlyChanges result ∧ (result = ∅ ↔ ¬ Reported sort before after) := by
  obtain ⟨result, hok, honly, hempty⟩ := addTechContacts_ok onlyChanges_empty
    (fun _ => Finmap.notMem_empty)
  refine ⟨setDnsKeys sort result (diffKeysetData before after).dnsKeys, ?_,
    onlyChanges_setDnsKeys honly, ?_⟩
  · rw [gatherKeysetUpdateDataChange]
    change addTechContacts ∅ "keyset.tech_c" (diffMember _ _ _) >>= _ = _
    rw [hok]
    rfl
  · change setDnsKeys sort result (diffMember _ _ _) = ∅ ↔ _
    rw [setDnsKeys_eq_empty, hempty, Reported]
    simp

end LibFred.Notifier.Keyset
