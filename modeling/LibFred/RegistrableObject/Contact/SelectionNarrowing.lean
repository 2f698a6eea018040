import Mathlib.Data.Prod.Lex
import LibFred.RegistrableObject.Contact.MergeContactSelection

/-! The filters of MergeContactSelection narrow the contacts that are left. -/
namespace LibFred.RegistrableObject.Contact

open Sql
open LibFred.Db

variable {order : SelectionOrder} {db : ObjectDatabase} {handles filters before : List String}
  {handle name : String} {oreg : Db.ObjectRegistry} {f : ContactSelectionFilter}
  {rows : List (String × Int)} {row : String × Int}

/-- The handle is one of the live contact. -/
def Denotes (db : ObjectDatabase) (handle : String) (oreg : Db.ObjectRegistry) : Prop :=
  oreg ∈ db.objectRegistry ∧ IsCurrent db oreg ∧ oreg.name = upper handle

/-- The live contacts of the handles. -/
def Denoted (db : ObjectDatabase) (handles : List String) (oreg : Db.ObjectRegistry) : Prop :=
  ∃ handle ∈ handles, Denotes db handle oreg

/-- All handles are handles of live contacts. -/
def AllLive (db : ObjectDatabase) (handles : List String) : Prop :=
  ∀ handle ∈ handles, ∃ oreg, Denotes db handle oreg

theorem mem_currentContacts (hne : handles ≠ []) :
    oreg ∈ currentContacts db handles ↔ Denoted db handles oreg := by
  simp only [currentContacts, Table.mem_select, IsNamed, hne, false_or, Denoted, Denotes]
  constructor
  · rintro ⟨hmem, hcur, handle, hhandle, hname⟩
    exact ⟨handle, hhandle, hmem, hcur, hname⟩
  · rintro ⟨handle, hhandle, hmem, hcur, hname⟩
    exact ⟨hmem, hcur, handle, hhandle, hname⟩

theorem currentContacts_ne_nil (hne : handles ≠ []) (hlive : AllLive db handles) :
    currentContacts db handles ≠ [] := by
  obtain ⟨handle, hhandle⟩ := List.exists_mem_of_ne_nil handles hne
  obtain ⟨oreg, hdenotes⟩ := hlive handle hhandle
  exact List.ne_nil_of_mem ((mem_currentContacts hne).mpr ⟨handle, hhandle, hdenotes⟩)

/-- Handles are stored in upper case. -/
theorem Denotes.upper_name (h : Denotes db handle oreg) : upper oreg.name = upper handle := by
  rw [h.2.2, upper_upper]

theorem Denotes.of_upper_eq {handle' : String} (h : Denotes db handle oreg)
    (heq : upper handle = upper handle') : Denotes db handle' oreg :=
  ⟨h.1, h.2.1, h.2.2.trans heq⟩

/-- The rows of the greatest key are those that the scan keeps. -/
theorem firstRows_eq : firstRows order rows =
    ((order.descending.sort rows).filter fun row => ∀ row' ∈ rows, row'.2 ≤ row.2).map (·.1) := by
  have hperm := order.descending.perm rows
  have hsorted := order.descending.ordered rows
  unfold firstRows
  cases hl : order.descending.sort rows with
  | nil => rfl
  | cons first rest =>
    rw [hl] at hperm hsorted
    have hle : ∀ row ∈ first :: rest, row.2 ≤ first.2 := by
      intro row hrow
      rcases List.mem_cons.mp hrow with rfl | hrow
      · exact le_rfl
      · simpa using (List.pairwise_cons.mp hsorted).1 row hrow
    have hfirst : ∀ row ∈ first :: rest, row.2 = first.2 ↔ ∀ row' ∈ rows, row'.2 ≤ row.2 := by
      intro row hrow
      constructor
      · intro heq row' hrow'
        rw [heq]
        exact hle row' (hperm.mem_iff.mpr hrow')
      · intro hgreatest
        exact le_antisymm (hle row hrow) (hgreatest first (hperm.mem_iff.mp List.mem_cons_self))
    have hprefix : (first :: rest).Pairwise fun a b =>
        decide (b.2 = first.2) = true → decide (a.2 = first.2) = true := by
      refine List.Pairwise.imp_of_mem (fun {a b} ha hb hab => ?_) hsorted
      have hba : b.2 ≤ a.2 := by simpa using hab
      have hale := hle a ha
      simp only [decide_eq_true_eq]
      intro heq
      exact le_antisymm hale (heq ▸ hba)
    change ((first :: rest).takeWhile fun row => decide (row.2 = first.2)).map (·.1) = _
    rw [takeWhile_eq_filter hprefix]
    refine congrArg (List.map _) (List.filter_congr fun row hrow => ?_)
    exact decide_eq_decide.mpr (hfirst row hrow)

theorem mem_firstRows : handle ∈ firstRows order rows ↔
    ∃ row ∈ rows, row.1 = handle ∧ ∀ row' ∈ rows, row'.2 ≤ row.2 := by
  rw [firstRows_eq]
  simp only [List.mem_map, List.mem_filter, decide_eq_true_iff, (order.descending.perm rows).mem_iff]
  constructor
  · rintro ⟨row, ⟨hrow, hgreatest⟩, rfl⟩
    exact ⟨row, hrow, rfl, hgreatest⟩
  · rintro ⟨row, hrow, rfl, hgreatest⟩
    exact ⟨row, ⟨hrow, hgreatest⟩, rfl⟩

theorem firstRows_ne_nil (h : rows ≠ []) : firstRows order rows ≠ [] := by
  have hperm := order.descending.perm rows
  unfold firstRows
  cases hl : order.descending.sort rows with
  | nil =>
    rw [hl] at hperm
    exact absurd hperm.symm.eq_nil h
  | cons first rest => simp

/-- The result names the contacts denoted by the handles that a measure has greatest. -/
def KeepsMaxima {κ : Type} [LinearOrder κ] (db : ObjectDatabase)
    (measure : Db.ObjectRegistry → Option κ) (handles result : List String) : Prop :=
  ∀ handle, handle ∈ result ↔ ∃ oreg, Denoted db handles oreg ∧ oreg.name = handle ∧
    ∃ k ∈ measure oreg, ∀ oreg', Denoted db handles oreg' → ∀ k' ∈ measure oreg', k' ≤ k

theorem firstRows_keepsMaxima (order : SelectionOrder) (db : ObjectDatabase)
    (measure : Db.ObjectRegistry → Option Int) (hne : handles ≠ []) :
    KeepsMaxima db measure handles (firstRows order
      ((currentContacts db handles).filterMap fun oreg => (measure oreg).map (oreg.name, ·))) := by
  intro handle
  rw [mem_firstRows]
  simp only [List.mem_filterMap, Option.map_eq_some_iff, mem_currentContacts hne]
  constructor
  · rintro ⟨_, ⟨oreg, hdenoted, k, hk, rfl⟩, rfl, hgreatest⟩
    exact ⟨oreg, hdenoted, rfl, k, hk, fun oreg' h' k' hk' =>
      hgreatest (oreg'.name, k') ⟨oreg', h', k', hk', rfl⟩⟩
  · rintro ⟨oreg, hdenoted, rfl, k, hk, hgreatest⟩
    refine ⟨(oreg.name, k), ⟨oreg, hdenoted, k, hk, rfl⟩, rfl, ?_⟩
    rintro _ ⟨oreg', h', k', hk', rfl⟩
    exact hgreatest oreg' h' k' hk'

/-- Of the contacts that have a measure some have it greatest. -/
theorem exists_greatest {κ : Type} [LinearOrder κ] {measure : Db.ObjectRegistry → Option κ}
    (hne : handles ≠ []) (hdenoted : Denoted db handles oreg) (hmeasure : measure oreg ≠ none) :
    ∃ greatest, Denoted db handles greatest ∧ ∃ k ∈ measure greatest,
      ∀ oreg', Denoted db handles oreg' → ∀ k' ∈ measure oreg', k' ≤ k := by
  have hmeasures : (currentContacts db handles).filterMap measure ≠ [] := by
    obtain ⟨k, hk⟩ := Option.ne_none_iff_exists'.mp hmeasure
    exact List.ne_nil_of_mem (List.mem_filterMap.mpr ⟨oreg, (mem_currentContacts hne).mpr hdenoted, hk⟩)
  obtain ⟨k, hmax⟩ := Option.ne_none_iff_exists'.mp (mt List.max?_eq_none_iff.mp hmeasures)
  obtain ⟨hmem, hle⟩ := List.max?_eq_some_iff.mp hmax
  obtain ⟨greatest, hgreatest, hk⟩ := List.mem_filterMap.mp hmem
  refine ⟨greatest, (mem_currentContacts hne).mp hgreatest, k, hk, fun oreg' h' k' hk' => ?_⟩
  exact hle k' (List.mem_filterMap.mpr ⟨oreg', (mem_currentContacts hne).mpr h', hk'⟩)

theorem filterMaxDomainsBound_keepsMaxima (hne : handles ≠ []) :
    KeepsMaxima db (fun oreg => some (domainsBound db oreg.id)) handles
      (filterMaxDomainsBound order db handles) := by
  have h := firstRows_keepsMaxima order db (fun oreg => some (domainsBound db oreg.id)) hne
  rw [filterMaxDomainsBound, if_neg hne, ← List.filterMap_eq_map]
  exact h

theorem filterMaxObjectsBound_keepsMaxima (hne : handles ≠ []) :
    KeepsMaxima db (fun oreg => some (objectsBound db oreg.id)) handles
      (filterMaxObjectsBound order db handles) := by
  have h := firstRows_keepsMaxima order db (fun oreg => some (objectsBound db oreg.id)) hne
  rw [filterMaxObjectsBound, if_neg hne, ← List.filterMap_eq_map]
  exact h

theorem filterRecentlyUpdated_keepsMaxima (hne : handles ≠ []) :
    KeepsMaxima db (fun oreg => lastUpdate db oreg.id) handles
      (filterRecentlyUpdated order db handles) := by
  rw [filterRecentlyUpdated, if_neg hne]
  exact firstRows_keepsMaxima order db _ hne

theorem createdDesc_iff {a b : Db.ObjectRegistry} :
    createdDesc a b ↔ toLex (b.crdate, b.id) ≤ toLex (a.crdate, a.id) := by
  rw [createdDesc, Prod.Lex.toLex_le_toLex]

instance createdDesc_total : Std.Total createdDesc :=
  ⟨fun a b => by simpa only [createdDesc_iff] using le_total _ _⟩

instance createdDesc_trans : IsTrans Db.ObjectRegistry createdDesc :=
  ⟨fun a b c hab hbc => by
    rw [createdDesc_iff] at hab hbc ⊢
    exact hbc.trans hab⟩

/-- Of contacts created at the same time the one of the greatest id is kept. -/
theorem filterRecentlyCreated_keepsMaxima (hne : handles ≠ []) :
    KeepsMaxima db (fun oreg => some (toLex (oreg.crdate, oreg.id))) handles
      (filterRecentlyCreated db handles) := by
  intro handle
  rw [filterRecentlyCreated, if_neg hne]
  cases hfirst : firstBy createdDesc 0 (currentContacts db handles) with
  | none =>
    have hnil := firstBy_eq_none.mp hfirst
    simp only [Option.map_none, Option.toList_none, List.not_mem_nil, false_iff, not_exists, not_and]
    intro oreg hdenoted
    rw [← mem_currentContacts hne, hnil] at hdenoted
    cases hdenoted
  | some first =>
    obtain ⟨hmem, hgreatest⟩ := of_firstBy_eq_some hfirst
    simp only [Option.map_some, Option.toList_some, List.mem_singleton]
    have hle : ∀ oreg, Denoted db handles oreg →
        toLex (oreg.crdate, oreg.id) ≤ toLex (first.crdate, first.id) := by
      intro oreg hdenoted
      exact createdDesc_iff.mp (hgreatest oreg ((mem_currentContacts hne).mpr hdenoted))
    constructor
    · rintro rfl
      refine ⟨first, (mem_currentContacts hne).mp hmem, rfl, _, rfl, ?_⟩
      rintro oreg' h' _ ⟨⟩
      exact hle oreg' h'
    · rintro ⟨oreg, hdenoted, rfl, _, ⟨⟩, hgreatest'⟩
      have heq := le_antisymm (hle oreg hdenoted)
        (hgreatest' first ((mem_currentContacts hne).mp hmem) _ rfl)
      have hid : oreg.id = first.id := congrArg (fun k => (ofLex k).2) heq
      obtain ⟨_, -, hdenotes⟩ := hdenoted
      rw [Table.eq_of_key_eq hdenotes.1 (Table.mem_select.mp hmem).1 hid]

theorem filterRecentlyCreated_eq (hne : handles ≠ []) (hlive : AllLive db handles) :
    ∃ handle, filterRecentlyCreated db handles = [handle] := by
  rw [filterRecentlyCreated, if_neg hne]
  cases hfirst : firstBy createdDesc 0 (currentContacts db handles) with
  | none => exact absurd (firstBy_eq_none.mp hfirst) (currentContacts_ne_nil hne hlive)
  | some first => exact ⟨first.name, rfl⟩

theorem KeepsMaxima.exists_upper {κ : Type} [LinearOrder κ]
    {measure : Db.ObjectRegistry → Option κ} {result : List String}
    (h : KeepsMaxima db measure handles result) (hmem : handle ∈ result) :
    ∃ handle' ∈ handles, upper handle' = upper handle := by
  obtain ⟨oreg, ⟨handle', hhandle', hdenotes⟩, rfl, -⟩ := (h handle).mp hmem
  exact ⟨handle', hhandle', hdenotes.upper_name.symm⟩

/-- What a filter returns are given handles, up to letter case. -/
theorem exists_upper_of_mem_apply (hne : handles ≠ []) (hmem : handle ∈ f.apply order db handles) :
    ∃ handle' ∈ handles, upper handle' = upper handle := by
  cases f with
  | identifiedContact => exact ⟨handle, (List.mem_filter.mp hmem).1, rfl⟩
  | identityAttached => exact ⟨handle, (List.mem_filter.mp hmem).1, rfl⟩
  | conditionallyIdentifiedContact => exact ⟨handle, (List.mem_filter.mp hmem).1, rfl⟩
  | handleMojeIDSyntax => exact ⟨handle, (List.mem_filter.mp hmem).1, rfl⟩
  | maxDomainsBound => exact (filterMaxDomainsBound_keepsMaxima hne).exists_upper hmem
  | maxObjectsBound => exact (filterMaxObjectsBound_keepsMaxima hne).exists_upper hmem
  | recentlyUpdated => exact (filterRecentlyUpdated_keepsMaxima hne).exists_upper hmem
  | notRegCzNic =>
    have hsorted := ((order.unordered.perm _).mem_iff).mp hmem
    obtain ⟨oreg, horeg, rfl⟩ := List.mem_map.mp hsorted
    obtain ⟨handle', hhandle', hdenotes⟩ :=
      (mem_currentContacts hne).mp (List.mem_filter.mp horeg).1
    exact ⟨handle', hhandle', hdenotes.upper_name.symm⟩
  | recentlyCreated => exact (filterRecentlyCreated_keepsMaxima hne).exists_upper hmem

/-- The handles that are left after a filter. -/
def next (order : SelectionOrder) (db : ObjectDatabase) (handles : List String) (filterName : String) :
    List String :=
  match ContactSelectionFilter.ofKey filterName with
  | none => handles
  | some filter =>
    match filter.apply order db handles with
    | [] => handles
    | result => result

/-- The handles that are left after some filters. -/
def handlesAfter (order : SelectionOrder) (db : ObjectDatabase) (handles filters : List String) :
    List String :=
  filters.foldl (next order db) handles

theorem next_ne_nil (hne : handles ≠ []) : next order db handles name ≠ [] := by
  unfold next
  split
  · exact hne
  · split
    · exact hne
    · assumption

theorem exists_upper_of_mem_next (hne : handles ≠ []) (hmem : handle ∈ next order db handles name) :
    ∃ handle' ∈ handles, upper handle' = upper handle := by
  unfold next at hmem
  split at hmem
  · exact ⟨handle, hmem, rfl⟩
  · split at hmem
    · exact ⟨handle, hmem, rfl⟩
    · exact exists_upper_of_mem_apply hne hmem

theorem handlesAfter_ne_nil (hne : handles ≠ []) : handlesAfter order db handles filters ≠ [] := by
  induction filters generalizing handles with
  | nil => exact hne
  | cons name filters ih => exact ih (next_ne_nil hne)

theorem exists_upper_of_mem_handlesAfter (hne : handles ≠ [])
    (hmem : handle ∈ handlesAfter order db handles filters) :
    ∃ handle' ∈ handles, upper handle' = upper handle := by
  induction filters generalizing handles with
  | nil => exact ⟨handle, hmem, rfl⟩
  | cons name filters ih =>
    obtain ⟨handle₁, hmem₁, heq₁⟩ := ih (next_ne_nil hne) hmem
    obtain ⟨handle₂, hmem₂, heq₂⟩ := exists_upper_of_mem_next hne hmem₁
    exact ⟨handle₂, hmem₂, heq₂.trans heq₁⟩

theorem AllLive.of_upper {handles' : List String} (hlive : AllLive db handles)
    (h : ∀ handle ∈ handles', ∃ handle' ∈ handles, upper handle' = upper handle) :
    AllLive db handles' := by
  intro handle hmem
  obtain ⟨handle', hmem', heq⟩ := h handle hmem
  obtain ⟨oreg, hdenotes⟩ := hlive handle' hmem'
  exact ⟨oreg, hdenotes.of_upper_eq heq⟩

theorem Denoted.of_upper {handles' : List String}
    (h : ∀ handle ∈ handles', ∃ handle' ∈ handles, upper handle' = upper handle)
    (hdenoted : Denoted db handles' oreg) : Denoted db handles oreg := by
  obtain ⟨handle, hmem, hdenotes⟩ := hdenoted
  obtain ⟨handle', hmem', heq⟩ := h handle hmem
  exact ⟨handle', hmem', hdenotes.of_upper_eq heq.symm⟩

theorem ofKey_key (f : ContactSelectionFilter) : ContactSelectionFilter.ofKey f.key = some f := by
  cases f <;> rfl

theorem key_of_ofKey (h : ContactSelectionFilter.ofKey name = some f) : f.key = name := by
  simpa using List.find?_some h

/-- After a filter that orders contacts by a measure those are left that have it greatest, or all if
none of them has one. -/
def LeavesGreatest {κ : Type} [LinearOrder κ] (order : SelectionOrder) (db : ObjectDatabase)
    (op : MergeContactSelection) (f : ContactSelectionFilter)
    (measure : Db.ObjectRegistry → Option κ) : Prop :=
  ∀ before, before ++ [f.key] <+: op.filters →
    ((∃ oreg, Denoted db (handlesAfter order db op.contactHandles before) oreg ∧ measure oreg ≠ none) →
      KeepsMaxima db measure (handlesAfter order db op.contactHandles before)
        (handlesAfter order db op.contactHandles (before ++ [f.key]))) ∧
    ((∀ oreg, Denoted db (handlesAfter order db op.contactHandles before) oreg → measure oreg = none) →
      handlesAfter order db op.contactHandles (before ++ [f.key]) =
        handlesAfter order db op.contactHandles before)

/-- A filter that leaves nothing has found no contact with a measure. -/
theorem leavesGreatest_of_apply {κ : Type} [LinearOrder κ] {op : MergeContactSelection}
    {measure : Db.ObjectRegistry → Option κ} (hne : op.contactHandles ≠ [])
    (h : ∀ handles, handles ≠ [] → KeepsMaxima db measure handles (f.apply order db handles)) :
    LeavesGreatest order db op f measure := by
  intro before _
  have hleft : handlesAfter order db op.contactHandles before ≠ [] := handlesAfter_ne_nil hne
  have hmaxima := h _ hleft
  have hnext : handlesAfter order db op.contactHandles (before ++ [f.key]) =
      next order db (handlesAfter order db op.contactHandles before) f.key := by
    rw [handlesAfter, List.foldl_append]
    rfl
  rw [hnext]
  generalize handlesAfter order db op.contactHandles before = handles at hleft hmaxima
  cases happly : f.apply order db handles with
  | nil =>
    have hsame : next order db handles f.key = handles := by
      simp only [next, ofKey_key, happly]
    rw [happly] at hmaxima
    refine ⟨fun ⟨oreg, hdenoted, hmeasure⟩ => ?_, fun _ => hsame⟩
    obtain ⟨greatest, hgreatest⟩ := exists_greatest hleft hdenoted hmeasure
    exact absurd ((hmaxima greatest.name).mpr ⟨greatest, hgreatest.1, rfl, hgreatest.2⟩) List.not_mem_nil
  | cons handle rest =>
    have hresult : next order db handles f.key = handle :: rest := by
      simp only [next, ofKey_key, happly]
    rw [hresult, ← happly]
    refine ⟨fun _ => hmaxima, fun hnone => ?_⟩
    obtain ⟨oreg, hdenoted, -, k, hk, -⟩ := (hmaxima handle).mp (happly ▸ List.mem_cons_self)
    rw [hnone oreg hdenoted] at hk
    cases hk

namespace MergeContactSelection

/-- The loop goes on with the handles that a filter leaves, unless that is a single one. -/
theorem loop_cons (order : SelectionOrder) (db : ObjectDatabase) (handles : List String)
    (name : String) (filters : List String) :
    loop order db handles (name :: filters) =
      loop order db (next order db handles name) filters ∨
    ∃ handle, next order db handles name = [handle] ∧
      loop order db handles (name :: filters) = .ok ⟨handle, name⟩ := by
  cases hf : ContactSelectionFilter.ofKey name with
  | none => exact .inl (by simp only [loop, next, hf])
  | some f =>
    cases happly : f.apply order db handles with
    | nil => exact .inl (by simp only [loop, next, hf, happly])
    | cons first rest =>
      cases rest with
      | nil => exact .inr ⟨first, by simp only [next, hf, happly], by simp only [loop, hf, happly]⟩
      | cons second rest => exact .inl (by simp only [loop, next, hf, happly])

/-- The chosen handle is the only one left after some filter, which is named. -/
theorem handlesAfter_of_loop_eq_ok {out : MergeContactSelectionOutput}
    (h : loop order db handles filters = .ok out) :
    ∃ before, before ++ [out.filter] <+: filters ∧
      handlesAfter order db handles (before ++ [out.filter]) = [out.handle] := by
  induction filters generalizing handles with
  | nil =>
    rw [loop] at h
    split at h <;> cases h
  | cons name filters ih =>
    rcases loop_cons order db handles name filters with heq | ⟨handle, hnext, heq⟩
    · rw [heq] at h
      obtain ⟨before, hprefix, hafter⟩ := ih h
      exact ⟨name :: before, List.cons_prefix_cons.mpr ⟨rfl, hprefix⟩, hafter⟩
    · rw [heq] at h
      cases h
      exact ⟨[], ⟨filters, rfl⟩, hnext⟩

theorem loop_ne_noContactHandles : loop order db handles filters ≠ .error .noContactHandles := by
  induction filters generalizing handles with
  | nil =>
    rw [loop]
    split <;> simp
  | cons name filters ih =>
    rcases loop_cons order db handles name filters with heq | ⟨handle, -, heq⟩
    · rw [heq]
      exact ih
    · rw [heq]
      simp

theorem loop_ne_noContactHandlesLeft (hne : handles ≠ []) :
    loop order db handles filters ≠ .error .noContactHandlesLeft := by
  induction filters generalizing handles with
  | nil =>
    rw [loop, if_neg hne]
    simp
  | cons name filters ih =>
    rcases loop_cons order db handles name filters with heq | ⟨handle, -, heq⟩
    · rw [heq]
      exact ih (next_ne_nil hne)
    · rw [heq]
      simp

theorem loop_ne_tooManyContactHandlesLeft (hne : handles ≠ []) (hlive : AllLive db handles)
    (hmem : ContactSelectionFilter.recentlyCreated.key ∈ filters) :
    loop order db handles filters ≠ .error .tooManyContactHandlesLeft := by
  induction filters generalizing handles with
  | nil => cases hmem
  | cons name filters ih =>
    rcases List.mem_cons.mp hmem with rfl | hmem
    · obtain ⟨handle, hcreated⟩ := filterRecentlyCreated_eq hne hlive
      have happly : ContactSelectionFilter.recentlyCreated.apply order db handles = [handle] :=
        hcreated
      rw [loop, ofKey_key]
      simp only [happly]
      simp
    · rcases loop_cons order db handles name filters with heq | ⟨handle, -, heq⟩
      · rw [heq]
        exact ih (next_ne_nil hne)
          (hlive.of_upper fun _ h => exists_upper_of_mem_next hne h) hmem
      · rw [heq]
        simp

end MergeContactSelection

/-- While contacts are chosen by filters, known or not, some handle is always left and no filter
brings a contact back; the chosen handle is that of a given contact and the only one left; what
orders contacts by a count or a time keeps those that have it greatest, and one of them is found
when the filter for recently created contacts is applied. -/
theorem selection_narrows (order : SelectionOrder) (db : ObjectDatabase) (op : MergeContactSelection)
    (hne : op.contactHandles ≠ []) (hlive : AllLive db op.contactHandles) :
    (∀ before, before <+: op.filters → handlesAfter order db op.contactHandles before ≠ []) ∧
    (∀ before filterName, before ++ [filterName] <+: op.filters → ∀ oreg,
      Denoted db (handlesAfter order db op.contactHandles (before ++ [filterName])) oreg →
        Denoted db (handlesAfter order db op.contactHandles before) oreg) ∧
    (∀ e, op.exec order db = .error e → e = .tooManyContactHandlesLeft) ∧
    (∀ out, op.exec order db = .ok out →
      (∃ oreg, Denotes db out.handle oreg) ∧
      (∀ oreg, Denotes db out.handle oreg → Denoted db op.contactHandles oreg) ∧
      ∃ before, before ++ [out.filter] <+: op.filters ∧
        handlesAfter order db op.contactHandles (before ++ [out.filter]) = [out.handle]) ∧
    (LeavesGreatest order db op .maxDomainsBound (fun oreg => some (domainsBound db oreg.id)) ∧
      LeavesGreatest order db op .maxObjectsBound (fun oreg => some (objectsBound db oreg.id)) ∧
      LeavesGreatest order db op .recentlyUpdated (fun oreg => lastUpdate db oreg.id) ∧
      LeavesGreatest order db op .recentlyCreated (fun oreg => some (toLex (oreg.crdate, oreg.id)))) ∧
    (ContactSelectionFilter.recentlyCreated.key ∈ op.filters →
      op.exec order db ≠ .error .tooManyContactHandlesLeft) := by
  have hexec : op.exec order db = MergeContactSelection.loop order db op.contactHandles op.filters :=
    if_neg hne
  have hgiven : ∀ {filters handle}, handle ∈ handlesAfter order db op.contactHandles filters →
      ∃ handle' ∈ op.contactHandles, upper handle' = upper handle :=
    fun hmem => exists_upper_of_mem_handlesAfter hne hmem
  refine ⟨fun _ _ => handlesAfter_ne_nil hne, fun before filterName _ oreg hdenoted => ?_,
    fun e he => ?_, fun out hout => ?_, ?_, fun hmem => ?_⟩
  · rw [handlesAfter, List.foldl_append] at hdenoted
    exact hdenoted.of_upper fun handle hmem =>
      exists_upper_of_mem_next (handlesAfter_ne_nil hne) hmem
  · rw [hexec] at he
    cases e with
    | noContactHandles => exact absurd he MergeContactSelection.loop_ne_noContactHandles
    | noContactHandlesLeft =>
      exact absurd he (MergeContactSelection.loop_ne_noContactHandlesLeft hne)
    | tooManyContactHandlesLeft => rfl
  · rw [hexec] at hout
    obtain ⟨before, hprefix, hafter⟩ := MergeContactSelection.handlesAfter_of_loop_eq_ok hout
    obtain ⟨handle, hmem, heq⟩ := hgiven (hafter ▸ List.mem_singleton_self out.handle)
    obtain ⟨oreg, hdenotes⟩ := hlive handle hmem
    exact ⟨⟨oreg, hdenotes.of_upper_eq heq⟩,
      fun oreg' h => ⟨handle, hmem, h.of_upper_eq heq.symm⟩, before, hprefix, hafter⟩
  · exact ⟨leavesGreatest_of_apply hne fun _ h => filterMaxDomainsBound_keepsMaxima h,
      leavesGreatest_of_apply hne fun _ h => filterMaxObjectsBound_keepsMaxima h,
      leavesGreatest_of_apply hne fun _ h => filterRecentlyUpdated_keepsMaxima h,
      leavesGreatest_of_apply hne fun _ h => filterRecentlyCreated_keepsMaxima h⟩
  · rw [hexec]
    exact MergeContactSelection.loop_ne_tooManyContactHandlesLeft hne hlive hmem

def selectableContact (id : Nat) : Db.Contact :=
  ⟨id, some "A", none, none, none, none, none, none, none, none, none, none, none, none, none, none,
    none, none, none, none, none, none, none, none, none, none, none⟩

/-- One contact of REG-CZNIC, identified in every way and never updated. -/
def soleContactDatabase : Database :=
  { Database.empty with
    registrar := ⟨[⟨1, "REG-CZNIC"⟩], by decide⟩
    objectRegistry := ⟨[⟨1, 0, "C1-CZ", "A", .contact, 1, 0, none, some 1, some 1⟩], by decide⟩
    object := ⟨[⟨1, 1, none, none, none⟩], by decide⟩
    contact := ⟨[selectableContact 1], by decide⟩
    contactIdentity := ⟨[⟨1, 1, none⟩], by decide⟩
    objectState := ⟨[⟨1, 1, 11, 0, none⟩, ⟨2, 1, 12, 0, none⟩], by decide⟩
    enumObjectStates := ⟨[⟨11, "identifiedContact", [1], false⟩,
      ⟨12, "conditionallyIdentifiedContact", [1], false⟩], by decide⟩ }

def soleContactDb : ObjectDatabase := ObjectDatabase.ofDatabase soleContactDatabase

def stableOrder : SelectionOrder where
  descending := ⟨fun l => l.insertionSort fun a b => b.2 ≤ a.2,
    fun l => List.perm_insertionSort _ l, fun l => by
      have h := List.pairwise_insertionSort (fun a b : String × Int => b.2 ≤ a.2) l
      exact h.imp fun hab => by simpa using hab⟩
  unordered := ⟨id, List.Perm.refl, fun _ => List.pairwise_of_forall (by simp)⟩

theorem soleContactDb_live {handles : List String} (h : ∀ handle ∈ handles, upper handle = "A") :
    AllLive soleContactDb handles := by
  intro handle hmem
  refine ⟨⟨1, 0, "C1-CZ", "A", .contact, 1, 0, none, some 1, some 1⟩, ?_, ?_, (h handle hmem).symm⟩
  · exact List.mem_cons_self
  · decide

/-- Three contacts, of which two are registrants of one domain each and were created at one time. -/
def tiedContactsDatabase : Database :=
  { Database.empty with
    registrar := ⟨[⟨4, "REG-TIED"⟩], by decide⟩
    objectRegistry := ⟨[⟨31, 0, "C31-CZ", "A", .contact, 4, 60, none, some 31, some 31⟩,
      ⟨32, 0, "C32-CZ", "B", .contact, 4, 60, none, some 32, some 32⟩,
      ⟨33, 0, "C33-CZ", "C", .contact, 4, 70, none, some 33, some 33⟩,
      ⟨34, 0, "D34-CZ", "a.cz", .domain, 4, 80, none, some 34, some 34⟩,
      ⟨35, 0, "D35-CZ", "b.cz", .domain, 4, 80, none, some 35, some 35⟩], by decide⟩
    contact := ⟨[selectableContact 31, selectableContact 32, selectableContact 33], by decide⟩ }

def tiedContactsDb : ObjectDatabase :=
  { ObjectDatabase.ofDatabase tiedContactsDatabase with
    domain := ⟨[⟨34, 9, 31, none, 990, none⟩, ⟨35, 9, 32, none, 990, none⟩], by decide⟩ }

def selectTied : MergeContactSelection :=
  ⟨["a", "b", "C"], ["unknown", "mcs_filter_max_domains_bound", "mcs_filter_recently_updated",
    "mcs_filter_recently_created"]⟩

theorem tiedContactsDb_live : AllLive tiedContactsDb selectTied.contactHandles := by
  have hlive : ∀ handle ∈ selectTied.contactHandles, ∃ oreg ∈ tiedContactsDb.objectRegistry.rows,
      IsCurrent tiedContactsDb oreg ∧ oreg.name = upper handle := by
    decide +kernel
  intro handle hmem
  obtain ⟨oreg, horeg, hdenotes⟩ := hlive handle hmem
  exact ⟨oreg, horeg, hdenotes⟩

/-- The two registrants are left, none of whom was ever updated, and the later id is chosen. -/
theorem selection_narrows_tied :
    handlesAfter stableOrder tiedContactsDb ["a", "b", "C"] ["unknown", "mcs_filter_max_domains_bound"] =
      ["A", "B"] ∧
    KeepsMaxima tiedContactsDb (fun oreg => some (domainsBound tiedContactsDb oreg.id)) ["a", "b", "C"]
      ["A", "B"] ∧
    selectTied.exec stableOrder tiedContactsDb = .ok ⟨"B", "mcs_filter_recently_created"⟩ ∧
    selectTied.exec stableOrder tiedContactsDb ≠ .error .tooManyContactHandlesLeft := by
  obtain ⟨-, -, -, -, ⟨hdomains, -⟩, hcreated⟩ :=
    selection_narrows stableOrder tiedContactsDb selectTied (by decide) tiedContactsDb_live
  have hafter : handlesAfter stableOrder tiedContactsDb selectTied.contactHandles
      ["unknown", "mcs_filter_max_domains_bound"] = ["A", "B"] := by
    decide +kernel
  refine ⟨hafter, ?_, by decide +kernel, hcreated (by decide)⟩
  obtain ⟨oreg, hdenotes⟩ := tiedContactsDb_live "a" (by decide)
  have hmaxima := (hdomains ["unknown"] ⟨_, rfl⟩).1 ⟨oreg, ⟨"a", by decide, hdenotes⟩, nofun⟩
  exact hafter ▸ hmaxima

end LibFred.RegistrableObject.Contact
