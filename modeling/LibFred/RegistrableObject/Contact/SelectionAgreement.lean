import LibFred.RegistrableObject.Contact.SelectionNarrowing

/-! Whether the contact chosen by MergeContactSelection depends on how the contacts are given. -/
namespace LibFred.RegistrableObject.Contact

open Sql
open LibFred.Db

variable {order order' : SelectionOrder} {db : ObjectDatabase} {handles handles' filters : List String}
  {handle name : String} {oreg : Db.ObjectRegistry} {f : ContactSelectionFilter}
  {rows : List (String × Int)}

namespace ContactSelectionFilter

/-- The filters that return given handles as they are given. -/
def Echoes (f : ContactSelectionFilter) : Prop :=
  f ∈ [identifiedContact, identityAttached, conditionallyIdentifiedContact, handleMojeIDSyntax]

/-- The filters that look for handles as they are given. -/
def ReadsSpelling (f : ContactSelectionFilter) : Prop :=
  f ∈ [identifiedContact, conditionallyIdentifiedContact]

/-- The filters that some contact always passes. -/
def AlwaysAnswers (f : ContactSelectionFilter) : Prop :=
  f ∈ [maxDomainsBound, maxObjectsBound, recentlyCreated]

instance : DecidablePred Echoes := fun _ => inferInstanceAs (Decidable (_ ∈ _))
instance : DecidablePred ReadsSpelling := fun _ => inferInstanceAs (Decidable (_ ∈ _))
instance : DecidablePred AlwaysAnswers := fun _ => inferInstanceAs (Decidable (_ ∈ _))

end ContactSelectionFilter

/-- The same handles up to order and letter case. -/
def Alike (handles handles' : List String) : Prop := (handles.map upper).Perm (handles'.map upper)

/-- The handles are spelled as they are stored. -/
def AsStored (handles : List String) : Prop := ∀ handle ∈ handles, upper handle = handle

theorem Alike.filter {p q : String → Bool} (h : Alike handles handles')
    (hp : ∀ handle, p handle = q (upper handle)) : Alike (handles.filter p) (handles'.filter p) := by
  have hmap : ∀ l : List String, (l.filter p).map upper = (l.map upper).filter q := by
    intro l
    rw [List.filter_map]
    exact congrArg (List.map upper) (List.filter_congr fun handle _ => hp handle)
  rw [Alike, hmap, hmap]
  exact List.Perm.filter q h

theorem AsStored.map (h : AsStored handles) : handles.map upper = handles :=
  (List.map_congr_left (g := id) h).trans (List.map_id handles)

theorem AsStored.filter {p : String → Bool} (h : AsStored handles) : AsStored (handles.filter p) :=
  fun handle hmem => h handle (List.mem_filter.mp hmem).1

theorem Alike.filter_of_asStored {p : String → Bool} (h : Alike handles handles')
    (hs : AsStored handles) (hs' : AsStored handles') : Alike (handles.filter p) (handles'.filter p) := by
  rw [Alike, hs.map, hs'.map] at h
  rw [Alike, hs.filter.map, hs'.filter.map]
  exact h.filter p

theorem Alike.length_eq (h : Alike handles handles') : handles.length = handles'.length := by
  simpa using List.Perm.length_eq h

/-- The same names, however often and in whichever letter case. -/
def SameNames (handles handles' : List String) : Prop :=
  ∀ name, name ∈ handles.map upper ↔ name ∈ handles'.map upper

theorem Alike.sameNames (h : Alike handles handles') : SameNames handles handles' :=
  fun _ => List.Perm.mem_iff h

theorem SameNames.currentContacts_eq (h : SameNames handles handles') :
    currentContacts db handles = currentContacts db handles' := by
  have hnil : handles = [] ↔ handles' = [] := by
    rw [← List.map_eq_nil_iff (f := upper), ← List.map_eq_nil_iff (f := upper) (l := handles')]
    constructor <;> intro hnil <;> refine List.eq_nil_iff_forall_not_mem.mpr fun name hname => ?_
    · rw [← h, hnil] at hname
      cases hname
    · rw [h, hnil] at hname
      cases hname
  refine List.filter_congr fun oreg _ => decide_eq_decide.mpr (and_congr_right fun _ => ?_)
  refine or_congr hnil ?_
  have hname := h oreg.name
  simp only [List.mem_map] at hname
  simpa only [eq_comm] using hname

theorem firstRows_perm : (firstRows order rows).Perm (firstRows order' rows) := by
  rw [firstRows_eq, firstRows_eq]
  exact (((order.descending.perm rows).trans (order'.descending.perm rows).symm).filter _).map _

/-- What queries return depends on the names only. -/
theorem SameNames.apply_perm (h : SameNames handles handles') (hne : handles ≠ [])
    (hne' : handles' ≠ []) (hf : ¬ f.Echoes) :
    (f.apply order db handles).Perm (f.apply order' db handles') := by
  have heq : currentContacts db handles = currentContacts db handles' := h.currentContacts_eq
  cases f with
  | identifiedContact => exact absurd (by decide) hf
  | identityAttached => exact absurd (by decide) hf
  | conditionallyIdentifiedContact => exact absurd (by decide) hf
  | handleMojeIDSyntax => exact absurd (by decide) hf
  | maxDomainsBound =>
    simp only [ContactSelectionFilter.apply, filterMaxDomainsBound, if_neg hne, if_neg hne', heq]
    exact firstRows_perm
  | maxObjectsBound =>
    simp only [ContactSelectionFilter.apply, filterMaxObjectsBound, if_neg hne, if_neg hne', heq]
    exact firstRows_perm
  | recentlyUpdated =>
    simp only [ContactSelectionFilter.apply, filterRecentlyUpdated, if_neg hne, if_neg hne', heq]
    exact firstRows_perm
  | notRegCzNic =>
    simp only [ContactSelectionFilter.apply, filterNotRegCzNic, heq]
    exact (order.unordered.perm _).trans (order'.unordered.perm _).symm
  | recentlyCreated =>
    simp only [ContactSelectionFilter.apply, filterRecentlyCreated, if_neg hne, if_neg hne', heq]
    exact List.Perm.refl _

theorem identityRows_upper : identityRows db (upper handle) = identityRows db handle := by
  have hselect : (db.objectRegistry.select fun obr =>
      obr.erdate = none ∧ obr.name = upper (upper handle) ∧ obr.type = .contact) =
      db.objectRegistry.select fun obr =>
        obr.erdate = none ∧ obr.name = upper handle ∧ obr.type = .contact :=
    List.filter_congr fun obr _ => decide_eq_decide.mpr (by rw [upper_upper])
  rw [identityRows, hselect, identityRows]

/-- Filters that fold letter case return alike handles for alike handles. -/
theorem Alike.apply (h : Alike handles handles') (hne : handles ≠ []) (hne' : handles' ≠ [])
    (hf : ¬ f.ReadsSpelling ∨ AsStored handles ∧ AsStored handles') :
    Alike (f.apply order db handles) (f.apply order' db handles') := by
  have hquery (hecho : ¬ f.Echoes) :
      Alike (f.apply order db handles) (f.apply order' db handles') :=
    (h.sameNames.apply_perm hne hne' hecho).map upper
  cases f with
  | identifiedContact =>
    rcases hf with hf | ⟨hs, hs'⟩
    · exact absurd (by decide) hf
    · exact h.filter_of_asStored hs hs'
  | conditionallyIdentifiedContact =>
    rcases hf with hf | ⟨hs, hs'⟩
    · exact absurd (by decide) hf
    · exact h.filter_of_asStored hs hs'
  | identityAttached =>
    refine h.filter (q := fun handle => (identityRows db handle).length = 1) fun handle => ?_
    simp only [identityRows_upper]
  | handleMojeIDSyntax =>
    refine h.filter (q := fun handle =>
      matchesMojeIDSyntax (lower handle) ∧ handle.utf8ByteSize ≤ 30) fun handle => ?_
    simp only [lower_upper, utf8ByteSize_upper]
  | maxDomainsBound => exact hquery (by decide)
  | maxObjectsBound => exact hquery (by decide)
  | recentlyUpdated => exact hquery (by decide)
  | notRegCzNic => exact hquery (by decide)
  | recentlyCreated => exact hquery (by decide)

/-- Queries return handles as they are stored, and the other filters as they are given. -/
theorem asStored_apply (hne : handles ≠ []) (h : ¬ f.Echoes ∨ AsStored handles) :
    AsStored (f.apply order db handles) := by
  have hmaxima {κ : Type} [LinearOrder κ] {measure : Db.ObjectRegistry → Option κ}
      {result : List String} (hkeeps : KeepsMaxima db measure handles result) : AsStored result := by
    intro handle hmem
    obtain ⟨oreg, ⟨_, -, hdenotes⟩, rfl, -⟩ := (hkeeps handle).mp hmem
    rw [hdenotes.upper_name, hdenotes.2.2]
  cases f with
  | identifiedContact => exact (h.resolve_left (absurd (by decide))).filter
  | identityAttached => exact (h.resolve_left (absurd (by decide))).filter
  | conditionallyIdentifiedContact => exact (h.resolve_left (absurd (by decide))).filter
  | handleMojeIDSyntax => exact (h.resolve_left (absurd (by decide))).filter
  | maxDomainsBound => exact hmaxima (filterMaxDomainsBound_keepsMaxima hne)
  | maxObjectsBound => exact hmaxima (filterMaxObjectsBound_keepsMaxima hne)
  | recentlyUpdated => exact hmaxima (filterRecentlyUpdated_keepsMaxima hne)
  | notRegCzNic =>
    intro handle hmem
    obtain ⟨oreg, horeg, rfl⟩ := List.mem_map.mp (((order.unordered.perm _).mem_iff).mp hmem)
    obtain ⟨_, -, hdenotes⟩ := (mem_currentContacts hne).mp (List.mem_filter.mp horeg).1
    rw [hdenotes.upper_name, hdenotes.2.2]
  | recentlyCreated => exact hmaxima (filterRecentlyCreated_keepsMaxima hne)

/-- Two outcomes that differ in the spelling of the handle at most. -/
def Agree : Except MergeContactSelectionException MergeContactSelectionOutput →
    Except MergeContactSelectionException MergeContactSelectionOutput → Prop
  | .ok out, .ok out' => upper out.handle = upper out'.handle ∧ out.filter = out'.filter
  | .error e, .error e' => e = e'
  | _, _ => False

namespace MergeContactSelection

theorem loop_of_unknown (hf : ContactSelectionFilter.ofKey name = none) :
    loop order db handles (name :: filters) = loop order db handles filters := by
  simp only [loop, hf]

theorem loop_of_nil (hf : ContactSelectionFilter.ofKey name = some f)
    (happly : f.apply order db handles = []) :
    loop order db handles (name :: filters) = loop order db handles filters := by
  simp only [loop, hf, happly]

theorem loop_of_singleton (hf : ContactSelectionFilter.ofKey name = some f)
    (happly : f.apply order db handles = [handle]) :
    loop order db handles (name :: filters) = .ok ⟨handle, name⟩ := by
  simp only [loop, hf, happly]

theorem loop_of_two {first second : String} {rest : List String}
    (hf : ContactSelectionFilter.ofKey name = some f)
    (happly : f.apply order db handles = first :: second :: rest) :
    loop order db handles (name :: filters) =
      loop order db (first :: second :: rest) filters := by
  simp only [loop, hf, happly]

/-- Two lists that a filter has made alike have alike outcomes if the outcomes for all further
filters are. -/
theorem agree_of_alike_apply (hf : ContactSelectionFilter.ofKey name = some f)
    (halike : Alike (f.apply order db handles) (f.apply order' db handles'))
    (hnil : f.apply order db handles = [] →
      Agree (loop order db handles filters) (loop order' db handles' filters))
    (hmore : f.apply order db handles ≠ [] → Agree (loop order db (f.apply order db handles) filters)
      (loop order' db (f.apply order' db handles') filters)) :
    Agree (loop order db handles (name :: filters)) (loop order' db handles' (name :: filters)) := by
  have hlength := halike.length_eq
  match happly : f.apply order db handles, happly' : f.apply order' db handles' with
  | [], [] =>
    rw [loop_of_nil hf happly, loop_of_nil hf happly']
    exact hnil happly
  | [handle], [handle'] =>
    rw [loop_of_singleton hf happly, loop_of_singleton hf happly']
    rw [happly, happly'] at halike
    exact ⟨by simpa [Alike] using halike, rfl⟩
  | first :: second :: rest, first' :: second' :: rest' =>
    rw [happly, happly'] at hmore
    rw [loop_of_two hf happly, loop_of_two hf happly']
    exact hmore (by simp)
  | [], _ :: _ => simp [happly, happly'] at hlength
  | [_], [] => simp [happly, happly'] at hlength
  | [_], _ :: _ :: _ => simp [happly, happly'] at hlength
  | _ :: _ :: _, [] => simp [happly, happly'] at hlength
  | _ :: _ :: _, [_] => simp [happly, happly'] at hlength

theorem agree_of_alike (h : Alike handles handles') (hne : handles ≠ []) (hne' : handles' ≠ [])
    (hspelling : (∀ f, ContactSelectionFilter.ReadsSpelling f → f.key ∉ filters) ∨
      AsStored handles ∧ AsStored handles') :
    Agree (loop order db handles filters) (loop order' db handles' filters) := by
  induction filters generalizing handles handles' with
  | nil =>
    rw [loop, loop, if_neg hne, if_neg hne']
    exact rfl
  | cons name filters ih =>
    have hrest : (∀ f, ContactSelectionFilter.ReadsSpelling f → f.key ∉ filters) ∨
        AsStored handles ∧ AsStored handles' :=
      hspelling.imp_left fun hno f hf hmem => hno f hf (List.mem_cons_of_mem name hmem)
    cases hf : ContactSelectionFilter.ofKey name with
    | none =>
      rw [loop_of_unknown hf, loop_of_unknown hf]
      exact ih h hne hne' hrest
    | some f =>
      have hf' : ¬ f.ReadsSpelling ∨ AsStored handles ∧ AsStored handles' :=
        hspelling.imp_left fun hno hreads => hno f hreads (key_of_ofKey hf ▸ List.mem_cons_self)
      have halike : Alike (f.apply order db handles) (f.apply order' db handles') :=
        h.apply hne hne' hf'
      refine agree_of_alike_apply hf halike (fun _ => ih h hne hne' hrest) fun hsome => ?_
      have hsome' : f.apply order' db handles' ≠ [] := by
        intro hnil
        have hlength := halike.length_eq
        rw [hnil, List.length_nil] at hlength
        exact hsome (List.length_eq_zero_iff.mp hlength)
      refine ih halike hsome hsome' (hrest.imp_right fun hs => ?_)
      exact ⟨asStored_apply hne (.inr hs.1), asStored_apply hne' (.inr hs.2)⟩

/-- After a query the handles are as stored, and no filter tells the lists apart. -/
theorem agree_of_sameNames (h : SameNames handles handles') (hne : handles ≠ [])
    (hne' : handles' ≠ []) (hf : ContactSelectionFilter.ofKey name = some f) (hecho : ¬ f.Echoes)
    (hnil : f.apply order db handles = [] →
      Agree (loop order db handles filters) (loop order' db handles' filters)) :
    Agree (loop order db handles (name :: filters)) (loop order' db handles' (name :: filters)) := by
  have hperm : (f.apply order db handles).Perm (f.apply order' db handles') :=
    h.apply_perm hne hne' hecho
  refine agree_of_alike_apply hf (hperm.map upper) hnil fun hsome => ?_
  have hsome' : f.apply order' db handles' ≠ [] := fun hnil => hsome (hnil ▸ hperm).eq_nil
  exact agree_of_alike (hperm.map upper) hsome hsome'
    (.inr ⟨asStored_apply hne (.inl hecho), asStored_apply hne' (.inl hecho)⟩)

end MergeContactSelection

/-- Before any filter that returns handles as they are given there is one that some contact always
passes and that returns handles as they are stored. -/
def NormalizesFirst (filters : List String) : Prop :=
  ∀ before f after, filters = before ++ ContactSelectionFilter.key f :: after → f.Echoes →
    ∃ g, ContactSelectionFilter.AlwaysAnswers g ∧ g.key ∈ before

theorem NormalizesFirst.tail (h : NormalizesFirst (name :: filters))
    (hname : ∀ g, ContactSelectionFilter.AlwaysAnswers g → g.key ≠ name) :
    NormalizesFirst filters := by
  intro before f after heq hf
  obtain ⟨g, hg, hmem⟩ := h (name :: before) f after (by rw [heq, List.cons_append]) hf
  rcases List.mem_cons.mp hmem with hkey | hmem
  · exact absurd hkey (hname g hg)
  · exact ⟨g, hg, hmem⟩

theorem alwaysAnswers_apply (hne : handles ≠ []) (hlive : AllLive db handles)
    (hf : f.AlwaysAnswers) : f.apply order db handles ≠ [] := by
  have hcurrent := currentContacts_ne_nil hne hlive
  cases f with
  | maxDomainsBound =>
    simp only [ContactSelectionFilter.apply, filterMaxDomainsBound, if_neg hne]
    exact firstRows_ne_nil (by simpa using hcurrent)
  | maxObjectsBound =>
    simp only [ContactSelectionFilter.apply, filterMaxObjectsBound, if_neg hne]
    exact firstRows_ne_nil (by simpa using hcurrent)
  | recentlyCreated =>
    obtain ⟨handle, happly⟩ := filterRecentlyCreated_eq hne hlive
    simp only [ContactSelectionFilter.apply, happly]
    simp
  | _ => exact absurd hf (by decide)

theorem ofKey_eq_none (h : ContactSelectionFilter.ofKey name = none) (f : ContactSelectionFilter) :
    f.key ≠ name := by
  rintro rfl
  rw [ofKey_key] at h
  cases h

theorem key_injective {f g : ContactSelectionFilter} (h : f.key = g.key) : f = g := by
  have hsome := ofKey_key f
  rw [h, ofKey_key] at hsome
  exact (Option.some.inj hsome).symm

theorem NormalizesFirst.agree (h : NormalizesFirst filters) (hsame : SameNames handles handles')
    (hne : handles ≠ []) (hne' : handles' ≠ []) (hlive : AllLive db handles) :
    Agree (MergeContactSelection.loop order db handles filters)
      (MergeContactSelection.loop order' db handles' filters) := by
  induction filters with
  | nil =>
    rw [MergeContactSelection.loop, MergeContactSelection.loop, if_neg hne, if_neg hne']
    exact rfl
  | cons name filters ih =>
    cases hf : ContactSelectionFilter.ofKey name with
    | none =>
      rw [MergeContactSelection.loop_of_unknown hf, MergeContactSelection.loop_of_unknown hf]
      exact ih (h.tail fun g _ => ofKey_eq_none hf g)
    | some f =>
      obtain rfl := key_of_ofKey hf
      have hecho : ¬ f.Echoes := by
        intro hecho
        obtain ⟨g, -, hmem⟩ := h [] f filters rfl hecho
        cases hmem
      refine MergeContactSelection.agree_of_sameNames hsame hne hne' hf hecho fun hnil => ?_
      refine ih (h.tail fun g hg hkey => ?_)
      obtain rfl := key_injective hkey
      exact alwaysAnswers_apply hne hlive hg hnil

/-- What the filters return of the contact of `soleContactDb` when it is given once. -/
theorem apply_once : f.apply stableOrder soleContactDb ["A"] =
    if f.Echoes ∨ f.AlwaysAnswers then ["A"] else [] := by
  cases f <;> decide +kernel

/-- What they return when it is given twice. -/
theorem apply_twice : f.apply stableOrder soleContactDb ["A", "A"] =
    if f.Echoes then ["A", "A"] else if f.AlwaysAnswers then ["A"] else [] := by
  cases f <;> decide +kernel

namespace MergeContactSelection

/-- A contact given once is chosen by the first filter that returns the handle as it is given. -/
theorem loop_once (before after : List String) (hf : f.Echoes)
    (hbefore : ∀ g, ContactSelectionFilter.AlwaysAnswers g → g.key ∉ before) :
    ∃ g, ContactSelectionFilter.Echoes g ∧
      loop stableOrder soleContactDb ["A"] (before ++ f.key :: after) = .ok ⟨"A", g.key⟩ := by
  induction before with
  | nil =>
    have happly : f.apply stableOrder soleContactDb ["A"] = ["A"] := by
      rw [apply_once, if_pos (.inl hf)]
    exact ⟨f, hf, loop_of_singleton (ofKey_key f) happly⟩
  | cons name before ih =>
    have htail := ih fun g hg hmem => hbefore g hg (List.mem_cons_of_mem name hmem)
    rw [List.cons_append]
    cases hname : ContactSelectionFilter.ofKey name with
    | none =>
      rw [loop_of_unknown hname]
      exact htail
    | some g =>
      obtain rfl := key_of_ofKey hname
      by_cases hg : g.Echoes
      · have happly : g.apply stableOrder soleContactDb ["A"] = ["A"] := by
          rw [apply_once, if_pos (.inl hg)]
        exact ⟨g, hg, loop_of_singleton hname happly⟩
      · have happly : g.apply stableOrder soleContactDb ["A"] = [] := by
          rw [apply_once, if_neg]
          rintro (hecho | hanswers)
          · exact hg hecho
          · exact hbefore g hanswers List.mem_cons_self
        rw [loop_of_nil hname happly]
        exact htail

/-- A contact given twice is never chosen by such a filter. -/
theorem loop_twice {out : MergeContactSelectionOutput} (hf : f.Echoes)
    (h : loop stableOrder soleContactDb ["A", "A"] filters = .ok out) : out.filter ≠ f.key := by
  induction filters with
  | nil =>
    rw [loop, if_neg (by simp)] at h
    cases h
  | cons name filters ih =>
    cases hname : ContactSelectionFilter.ofKey name with
    | none =>
      rw [loop_of_unknown hname] at h
      exact ih h
    | some g =>
      obtain rfl := key_of_ofKey hname
      have happly := apply_twice (f := g)
      by_cases hecho : g.Echoes
      · rw [if_pos hecho] at happly
        rw [loop_of_two hname happly] at h
        exact ih h
      · rw [if_neg hecho] at happly
        by_cases hanswers : g.AlwaysAnswers
        · rw [if_pos hanswers] at happly
          rw [loop_of_singleton hname happly] at h
          cases h
          intro hkey
          exact hecho (key_injective hkey ▸ hf)
        · rw [if_neg hanswers] at happly
          rw [loop_of_nil hname happly] at h
          exact ih h

theorem live_of_loop_eq_ok {out : MergeContactSelectionOutput} (hne : handles ≠ [])
    (hlive : AllLive db handles) (h : loop order db handles filters = .ok out) :
    ∃ oreg, Denotes db out.handle oreg := by
  obtain ⟨before, -, hafter⟩ := handlesAfter_of_loop_eq_ok h
  obtain ⟨handle, hmem, heq⟩ :=
    exists_upper_of_mem_handlesAfter hne (hafter ▸ List.mem_singleton_self out.handle)
  obtain ⟨oreg, hdenotes⟩ := hlive handle hmem
  exact ⟨oreg, hdenotes.of_upper_eq heq⟩

end MergeContactSelection

/-- The lists denote the same contacts. -/
def SameContacts (db : ObjectDatabase) (handles handles' : List String) : Prop :=
  ∀ oreg, Denoted db handles oreg ↔ Denoted db handles' oreg

theorem SameContacts.sameNames (h : SameContacts db handles handles') (hlive : AllLive db handles)
    (hlive' : AllLive db handles') : SameNames handles handles' := by
  have hsub : ∀ {l l' : List String}, AllLive db l → (∀ oreg, Denoted db l oreg → Denoted db l' oreg) →
      ∀ name ∈ l.map upper, name ∈ l'.map upper := by
    intro l l' hl hsub name hname
    obtain ⟨handle, hmem, rfl⟩ := List.mem_map.mp hname
    obtain ⟨oreg, hdenotes⟩ := hl handle hmem
    obtain ⟨handle', hmem', hdenotes'⟩ := hsub oreg ⟨handle, hmem, hdenotes⟩
    exact List.mem_map.mpr ⟨handle', hmem', hdenotes'.2.2.symm.trans hdenotes.2.2⟩
  exact fun name => ⟨hsub hlive (fun oreg => (h oreg).mp) name,
    hsub hlive' (fun oreg => (h oreg).mpr) name⟩

/-- The same contact is chosen and by the same filter, or none in both cases. -/
def SameChoice (db : ObjectDatabase) :
    Except MergeContactSelectionException MergeContactSelectionOutput →
      Except MergeContactSelectionException MergeContactSelectionOutput → Prop
  | .ok out, .ok out' =>
    (∃ oreg, Denotes db out.handle oreg ∧ Denotes db out'.handle oreg) ∧ out.filter = out'.filter
  | .error e, .error e' => e = .tooManyContactHandlesLeft ∧ e' = .tooManyContactHandlesLeft
  | _, _ => False

theorem Agree.sameChoice (hne : handles ≠ []) (hne' : handles' ≠ []) (hlive : AllLive db handles)
    (h : Agree (MergeContactSelection.loop order db handles filters)
      (MergeContactSelection.loop order' db handles' filters)) :
    SameChoice db ((MergeContactSelection.mk handles filters).exec order db)
      ((MergeContactSelection.mk handles' filters).exec order' db) := by
  rw [MergeContactSelection.exec, MergeContactSelection.exec, if_neg hne, if_neg hne']
  cases hloop : MergeContactSelection.loop order db handles filters with
  | ok out =>
    cases hloop' : MergeContactSelection.loop order' db handles' filters with
    | ok out' =>
      rw [hloop, hloop'] at h
      obtain ⟨oreg, hdenotes⟩ := MergeContactSelection.live_of_loop_eq_ok hne hlive hloop
      exact ⟨⟨oreg, hdenotes, hdenotes.of_upper_eq h.1⟩, h.2⟩
    | error e =>
      rw [hloop, hloop'] at h
      exact h.elim
  | error e =>
    cases hloop' : MergeContactSelection.loop order' db handles' filters with
    | ok out' =>
      rw [hloop, hloop'] at h
      exact h.elim
    | error e' =>
      rw [hloop, hloop'] at h
      obtain rfl : e = e' := h
      have hmany : e = .tooManyContactHandlesLeft := by
        cases e with
        | noContactHandles => exact absurd hloop MergeContactSelection.loop_ne_noContactHandles
        | noContactHandlesLeft =>
          exact absurd hloop (MergeContactSelection.loop_ne_noContactHandlesLeft hne)
        | tooManyContactHandlesLeft => rfl
      exact ⟨hmany, hmany⟩

/-- Whatever the database, the choice by these filters depends on the given contacts only. -/
def ChoosesByContacts (filters : List String) : Prop :=
  ∀ (order order' : SelectionOrder) (db : ObjectDatabase) (handles handles' : List String),
    handles ≠ [] → handles' ≠ [] → AllLive db handles → AllLive db handles' →
      SameContacts db handles handles' →
        SameChoice db ((MergeContactSelection.mk handles filters).exec order db)
          ((MergeContactSelection.mk handles' filters).exec order' db)

/-- Filters choose alike for all lists of the same contacts exactly when a query comes before those
that return handles as they are given; any filters do so for lists that name no contact twice and,
if they read spellings, spell the handles as they are stored. -/
theorem chooses_by_contacts (filters : List String) :
    (ChoosesByContacts filters ↔ NormalizesFirst filters) ∧
    ∀ (order order' : SelectionOrder) (db : ObjectDatabase) (handles handles' : List String),
      handles ≠ [] → handles' ≠ [] → AllLive db handles → AllLive db handles' →
        SameContacts db handles handles' →
          (handles.map upper).Nodup → (handles'.map upper).Nodup →
            ((∀ f, ContactSelectionFilter.ReadsSpelling f → f.key ∉ filters) ∨
              AsStored handles ∧ AsStored handles') →
                SameChoice db ((MergeContactSelection.mk handles filters).exec order db)
                  ((MergeContactSelection.mk handles' filters).exec order' db) := by
  refine ⟨⟨fun h => ?_, fun h => ?_⟩, ?_⟩
  · intro before f after heq hf
    by_contra hno
    obtain ⟨g, hg, honce⟩ := MergeContactSelection.loop_once before after hf
      fun g hg hmem => hno ⟨g, hg, hmem⟩
    have hsame : SameContacts soleContactDb ["A"] ["A", "A"] := by
      intro oreg
      simp [Denoted]
    have hchoice := h stableOrder stableOrder soleContactDb ["A"] ["A", "A"] (by simp) (by simp)
      (soleContactDb_live (by decide)) (soleContactDb_live (by decide)) hsame
    rw [MergeContactSelection.exec, MergeContactSelection.exec, if_neg (by simp),
      if_neg (by simp), heq, honce] at hchoice
    cases htwice : MergeContactSelection.loop stableOrder soleContactDb ["A", "A"]
      (before ++ f.key :: after) with
    | ok out =>
      rw [htwice] at hchoice
      exact MergeContactSelection.loop_twice hg htwice hchoice.2.symm
    | error e =>
      rw [htwice] at hchoice
      exact hchoice
  · intro order order' db handles handles' hne hne' hlive hlive' hsame
    exact (h.agree (hsame.sameNames hlive hlive') hne hne' hlive).sameChoice hne hne' hlive
  · intro order order' db handles handles' hne hne' hlive hlive' hsame hnodup hnodup' hspelling
    have halike : Alike handles handles' :=
      (List.perm_ext_iff_of_nodup hnodup hnodup').mpr (hsame.sameNames hlive hlive')
    exact (MergeContactSelection.agree_of_alike halike hne hne' hspelling).sameChoice hne hne' hlive

theorem sameContacts_of_upper (h : upper handle = upper name) :
    SameContacts db [handle] [name] := by
  intro oreg
  simp [Denoted, Denotes, h]

theorem chooses_by_contacts_sample :
    SameChoice soleContactDb
      ((MergeContactSelection.mk ["a"] ["mcs_filter_handle_mojeid_syntax"]).exec stableOrder
        soleContactDb)
      ((MergeContactSelection.mk ["A"] ["mcs_filter_handle_mojeid_syntax"]).exec stableOrder
        soleContactDb) := by
  refine (chooses_by_contacts ["mcs_filter_handle_mojeid_syntax"]).2 stableOrder stableOrder
    soleContactDb ["a"] ["A"] (by simp) (by simp) (soleContactDb_live (by decide))
    (soleContactDb_live (by decide)) (sameContacts_of_upper (by decide)) (by decide) (by decide)
    (.inl fun f hf => ?_)
  cases f with
  | identifiedContact => decide
  | conditionallyIdentifiedContact => decide
  | _ => exact absurd hf (by decide)

/-- The handle a is not found where A is. -/
theorem not_chooses_by_contacts : ¬ ∀ filters, ChoosesByContacts filters := by
  intro h
  have hchoice := h ["mcs_filter_identified_contact"] stableOrder stableOrder soleContactDb ["a"] ["A"]
    (by simp) (by simp) (soleContactDb_live (by decide)) (soleContactDb_live (by decide))
    (sameContacts_of_upper (by decide))
  have hlower : (MergeContactSelection.mk ["a"] ["mcs_filter_identified_contact"]).exec stableOrder
      soleContactDb = .error .tooManyContactHandlesLeft := by
    decide +kernel
  have hstored : (MergeContactSelection.mk ["A"] ["mcs_filter_identified_contact"]).exec stableOrder
      soleContactDb = .ok ⟨"A", "mcs_filter_identified_contact"⟩ := by
    decide +kernel
  rw [hlower, hstored] at hchoice
  exact hchoice

end LibFred.RegistrableObject.Contact
