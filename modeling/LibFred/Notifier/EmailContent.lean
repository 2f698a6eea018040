import LibFred.RegistrableObject.DiffMember
import LibFred.RegistrableObject.Reference
import LibFred.Util.Printable
import Mathlib.Data.Finmap

/-! Parameters of notification e-mails and the flag that tells whether an update is notified. -/
namespace LibFred.Notifier

open RegistrableObject

/-- A std::map of the values that the e-mail template is filled with. -/
abbrev Parameters := Finmap fun _ : String => String

inductive Exception
  | invalidNotificationContent
  | dataLoss
  | missingChangesFlagInUpdateNotificationContent
  deriving DecidableEq

/-- std::map::insert where an existing value is not expected. -/
def insertNew (target : Parameters) (key value : String) : Except Exception Parameters :=
  if key ∈ target then .error .invalidNotificationContent else .ok (target.insert key value)

def addOldNewChangesPairIfDifferent (target : Parameters) (key old new : String) :
    Except Exception Parameters :=
  if old = new then .ok target else do
    let target ← insertNew target ("changes." ++ key ++ ".old") old
    let target ← insertNew target ("changes." ++ key ++ ".new") new
    insertNew target ("changes." ++ key) "1"

/-- The texts under `stem` and their positions. -/
def setIndexed (target : Parameters) (stem : String) (texts : List String) : Parameters :=
  texts.zipIdx.foldl (fun target text => target.insert (stem ++ text.2.repr) text.1) target

/-- A change of a list: the flag, the old and the new elements. -/
def setListChange (target : Parameters) (key : String) (old new : List String) : Parameters :=
  setIndexed (setIndexed (target.insert ("changes." ++ key) "1") ("changes." ++ key ++ ".old.") old)
    ("changes." ++ key ++ ".new.") new

/-- `result["changes"] = result.empty() ? "0" : "1"`. -/
def setChanges (result : Parameters) : Parameters :=
  result.insert "changes" (if result = ∅ then "0" else "1")

/-- The sorted handles, joined by spaces. -/
def handlesText (references : List ContactReference) : String :=
  " ".intercalate ((references.map (·.handle)).insertionSort (· ≤ ·))

/-- A change of the technical contacts is told by the texts of their handles. -/
def addTechContacts (target : Parameters) (key : String)
    (techContacts : DiffMember (List ContactReference)) : Except Exception Parameters :=
  match techContacts with
  | some (first, second) =>
    addOldNewChangesPairIfDifferent target key (handlesText first) (handlesText second)
  | none => .ok target

/-- What every notification tells. -/
structure CommonContent where
  ticket : String
  registrarName : Option String
  registrarUrl : Option String
  handle : String
  type : String

def gatherCommonEmailContent (common : CommonContent) : Parameters :=
  ((((∅ : Parameters).insert "ticket" common.ticket).insert "registrar"
    (common.registrarName.getD "" ++ " (" ++ common.registrarUrl.getD "" ++ ")")).insert "handle"
    common.handle).insert "type" common.type

/-- The specific data must not hide a common value. -/
def gatherEmailContent (common : CommonContent) (specific : Except Exception Parameters) :
    Except Exception Parameters := do
  let specific ← specific
  let data := gatherCommonEmailContent common
  if ∃ key ∈ specific.keys, key ∈ data then .error .dataLoss else .ok (data ∪ specific)

/-- Whether the e-mail about an update is sent. -/
def isUpdateSent (parameters : Parameters) : Except Exception Bool :=
  match parameters.lookup "changes" with
  | none => .error .missingChangesFlagInUpdateNotificationContent
  | some changes => .ok (changes ≠ "0")

/-- Every key tells about a change. -/
def OnlyChanges (target : Parameters) : Prop :=
  ∀ key ∈ target, "changes".toList <+: key.toList

variable {target : Parameters} {key old new value : String}

theorem onlyChanges_empty : OnlyChanges ∅ := fun _ h => (Finmap.notMem_empty h).elim

theorem OnlyChanges.insert (h : OnlyChanges target) (hkey : "changes".toList <+: key.toList) :
    OnlyChanges (target.insert key value) := by
  intro k hk
  rcases Finmap.mem_insert.mp hk with rfl | hk
  · exact hkey
  · exact h k hk

theorem startsWith_changes {rest : String} :
    "changes".toList <+: ("changes." ++ rest).toList := by
  rw [String.toList_append]
  exact (by decide : "changes".toList <+: "changes.".toList).trans ⟨_, rfl⟩

theorem OnlyChanges.setIndexed {texts : List String} (h : OnlyChanges target) :
    OnlyChanges (setIndexed target ("changes." ++ key) texts) := by
  unfold Notifier.setIndexed
  generalize texts.zipIdx = pairs
  induction pairs generalizing target with
  | nil => exact h
  | cons pair pairs ih =>
    rw [List.foldl_cons, String.append_assoc]
    exact ih (h.insert startsWith_changes)

theorem insert_ne_empty : target.insert key value ≠ ∅ := by
  intro h
  have hmem : key ∈ target.insert key value := Finmap.mem_insert.mpr (.inl rfl)
  rw [h] at hmem
  exact Finmap.notMem_empty hmem

theorem setIndexed_ne_empty {texts : List String} (h : target ≠ ∅) :
    setIndexed target key texts ≠ ∅ := by
  unfold setIndexed
  generalize texts.zipIdx = pairs
  induction pairs generalizing target with
  | nil => exact h
  | cons pair pairs ih => exact ih insert_ne_empty

theorem OnlyChanges.setListChange {oldTexts newTexts : List String} (h : OnlyChanges target) :
    OnlyChanges (setListChange target key oldTexts newTexts) := by
  have hkeys : ∀ rest, "changes." ++ key ++ rest = "changes." ++ (key ++ rest) := by
    intro rest
    rw [String.append_assoc]
  unfold Notifier.setListChange
  rw [hkeys, hkeys]
  exact (h.insert startsWith_changes).setIndexed.setIndexed

theorem setListChange_ne_empty {oldTexts newTexts : List String} :
    setListChange target key oldTexts newTexts ≠ ∅ :=
  setIndexed_ne_empty (setIndexed_ne_empty insert_ne_empty)

theorem insertNew_ok (h : key ∉ target) :
    insertNew target key value = .ok (target.insert key value) := if_neg h

/-- Keys with different endings differ. -/
theorem append_ne_append (stem : String) {a b : String} (h : a.toList ≠ b.toList) :
    stem ++ a ≠ stem ++ b := by
  intro he
  have hlist := congrArg String.toList he
  rw [String.toList_append, String.toList_append] at hlist
  exact h (List.append_cancel_left hlist)

/-- What telling a changed pair of texts leaves. -/
def withPair (target : Parameters) (stem old new : String) : Parameters :=
  ((target.insert (stem ++ ".old") old).insert (stem ++ ".new") new).insert stem "1"

theorem addOldNewChangesPairIfDifferent_of_ne (hne : old ≠ new)
    (hkey : "changes." ++ key ∉ target) (hold : "changes." ++ key ++ ".old" ∉ target)
    (hnew : "changes." ++ key ++ ".new" ∉ target) :
    addOldNewChangesPairIfDifferent target key old new =
      .ok (withPair target ("changes." ++ key) old new) := by
  have hself : ∀ rest : String, rest.toList ≠ [] → "changes." ++ key ≠ "changes." ++ key ++ rest := by
    intro rest hrest
    have hne := append_ne_append ("changes." ++ key) (a := "") (b := rest)
    simpa using hne (by simpa using hrest.symm)
  have hsecond : "changes." ++ key ++ ".new" ∉ target.insert ("changes." ++ key ++ ".old") old := by
    rw [Finmap.mem_insert, not_or]
    exact ⟨append_ne_append _ (by decide), hnew⟩
  have hlast : "changes." ++ key ∉ (target.insert ("changes." ++ key ++ ".old") old).insert
      ("changes." ++ key ++ ".new") new := by
    rw [Finmap.mem_insert, Finmap.mem_insert, not_or, not_or]
    exact ⟨hself _ (by decide), hself _ (by decide), hkey⟩
  rw [addOldNewChangesPairIfDifferent, if_neg hne, insertNew_ok hold]
  change insertNew _ ("changes." ++ key ++ ".new") new >>= _ = _
  rw [insertNew_ok hsecond]
  exact insertNew_ok hlast

theorem OnlyChanges.withPair (h : OnlyChanges target) :
    OnlyChanges (withPair target ("changes." ++ key) old new) := by
  refine ((h.insert ?_).insert ?_).insert startsWith_changes
  all_goals
    rw [String.append_assoc]
    exact startsWith_changes

theorem mem_withPair {stem k : String} (h : k ∈ withPair target stem old new) :
    k ∈ target ∨ stem.toList <+: k.toList := by
  simp only [withPair, Finmap.mem_insert] at h
  rcases h with rfl | rfl | rfl | h
  · exact .inr List.prefix_rfl
  · exact .inr ⟨_, String.toList_append.symm⟩
  · exact .inr ⟨_, String.toList_append.symm⟩
  · exact .inl h

/-- A pair of texts is told exactly when they differ, if its key is new. -/
theorem addOldNewChangesPairIfDifferent_ok (honly : OnlyChanges target)
    (hfresh : ∀ rest, "changes." ++ key ++ rest ∉ target) :
    ∃ result, addOldNewChangesPairIfDifferent target key old new = .ok result ∧
      OnlyChanges result ∧ (result = ∅ ↔ target = ∅ ∧ old = new) ∧
      ∀ k ∈ result, k ∈ target ∨ ("changes." ++ key).toList <+: k.toList := by
  by_cases heq : old = new
  · exact ⟨target, if_pos heq, honly, by simp [heq], fun k hk => .inl hk⟩
  · have hkey : "changes." ++ key ∉ target := by simpa using hfresh ""
    refine ⟨_, addOldNewChangesPairIfDifferent_of_ne heq hkey (hfresh _) (hfresh _), honly.withPair,
      ?_, ?_⟩
    · exact iff_of_false insert_ne_empty fun h => heq h.2
    · exact fun k hk => mem_withPair hk

/-- The words of the handles in alphabetical order: the handles themselves, if they have no spaces. -/
def handleWords (references : List ContactReference) : List (List Char) :=
  if references = [] then [[]]
  else ((references.map (·.handle)).insertionSort (· ≤ ·)).flatMap fun handle => handle.toList.splitOn ' '

theorem splitOn_intercalate_space {texts : List (List Char)} (h : texts ≠ []) :
    ([' '].intercalate texts).splitOn ' ' = texts.flatMap (List.splitOn ' ') := by
  induction texts with
  | nil => exact absurd rfl h
  | cons text texts ih =>
    cases texts with
    | nil => simp
    | cons text' texts =>
      rw [List.intercalate_cons_cons, List.flatMap_cons, ← ih (List.cons_ne_nil _ _),
        ← List.splitOn_append_cons_self]
      simp

theorem splitOn_handlesText (references : List ContactReference) :
    (handlesText references).toList.splitOn ' ' = handleWords references := by
  by_cases h : references = []
  · subst h
    rfl
  · have hsorted : ((references.map (·.handle)).insertionSort (· ≤ ·)).map String.toList ≠ [] := by
      simpa [← List.length_eq_zero_iff] using h
    rw [handlesText, String.toList_intercalate, handleWords, if_neg h]
    exact (splitOn_intercalate_space hsorted).trans (List.flatMap_map _ _ _)

/-- The texts of handles differ exactly if their words do. -/
theorem handlesText_ne_iff {first second : List ContactReference} :
    handlesText first ≠ handlesText second ↔ handleWords first ≠ handleWords second := by
  rw [← splitOn_handlesText, ← splitOn_handlesText, Ne, Ne, not_iff_not, ← String.toList_inj]
  refine ⟨congrArg (List.splitOn ' '), fun h => ?_⟩
  have hjoined := congrArg [' '].intercalate h
  rwa [List.intercalate_splitOn, List.intercalate_splitOn] at hjoined

/-- The contacts that a message tells about: others than before, of other handles. -/
def TechContactsReported (first second : List ContactReference) : Prop :=
  ¬ SameReferences first second ∧ handleWords first ≠ handleWords second

theorem addTechContacts_ok {first second : List ContactReference} (honly : OnlyChanges target)
    (hfresh : ∀ rest, "changes." ++ key ++ rest ∉ target) :
    ∃ result, addTechContacts target key (diffMember equalAsSets first second) = .ok result ∧
      OnlyChanges result ∧ (result = ∅ ↔ target = ∅ ∧ ¬ TechContactsReported first second) := by
  unfold addTechContacts diffMember
  by_cases hsame : SameReferences first second
  · rw [if_pos (equalAsSets_iff.mpr hsame)]
    exact ⟨target, rfl, honly, by simp [TechContactsReported, hsame]⟩
  · rw [if_neg (hsame ∘ equalAsSets_iff.mp)]
    obtain ⟨result, hok, hresult, hempty, -⟩ := addOldNewChangesPairIfDifferent_ok honly hfresh
    refine ⟨result, hok, hresult, hempty.trans (and_congr_right fun _ => ?_)⟩
    rw [TechContactsReported, ← handlesText_ne_iff]
    simp [hsame]

theorem lookup_setChanges {result : Parameters} :
    (setChanges result).lookup "changes" = some (if result = ∅ then "0" else "1") :=
  Finmap.lookup_insert _

/-- The common values are not hidden, and the flag is the one of the specific data. -/
theorem gatherEmailContent_ok {common : CommonContent} (h : OnlyChanges target) :
    ∃ parameters, gatherEmailContent common (.ok target) = .ok parameters ∧
      parameters.lookup "changes" = target.lookup "changes" := by
  have hcommon : ∀ k ∈ gatherCommonEmailContent common, ¬ "changes".toList <+: k.toList := by
    intro k hk
    simp only [gatherCommonEmailContent, Finmap.mem_insert, Finmap.notMem_empty, or_false] at hk
    rcases hk with rfl | rfl | rfl | rfl <;> decide
  refine ⟨gatherCommonEmailContent common ∪ target, ?_, ?_⟩
  · refine if_neg ?_
    rintro ⟨k, hk, hmem⟩
    exact hcommon k hmem (h k (Finmap.mem_keys.mp hk))
  · exact Finmap.lookup_union_right fun hmem => hcommon _ hmem (by decide)

end LibFred.Notifier
