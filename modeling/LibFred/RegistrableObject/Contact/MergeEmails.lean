import LibFred.Order.Terminal
import LibFred.RegistrableObject.Contact.MergeContactEmailNotificationData

/-! The e-mails tell of all merges that led to their destinations. -/
namespace LibFred.RegistrableObject.Contact

open Relation

inductive ListKind
  | domainRegistrant
  | domainAdmin
  | nssetTech
  | keysetTech
  | removed
  | removedRoid

def SortedContactNotificationEmail.list (email : SortedContactNotificationEmail) :
    ListKind → Finset String
  | .domainRegistrant => email.domainRegistrantList
  | .domainAdmin => email.domainAdminList
  | .nssetTech => email.nssetTechList
  | .keysetTech => email.keysetTechList
  | .removed => email.removedList
  | .removedRoid => email.removedRoidList

def MergeContactNotificationEmail.list (email : MergeContactNotificationEmail) :
    ListKind → List String
  | .domainRegistrant => email.domainRegistrantList
  | .domainAdmin => email.domainAdminList
  | .nssetTech => email.nssetTechList
  | .keysetTech => email.keysetTechList
  | .removed => email.removedList
  | .removedRoid => email.removedRoidList

namespace MergeContactEmailNotificationInput

/-- What one merge has to tell. -/
def told (i : MergeContactEmailNotificationInput) : ListKind → List String
  | .domainRegistrant => i.mergeOutput.updateDomainRegistrant.map (·.fqdn)
  | .domainAdmin => i.mergeOutput.updateDomainAdminContact.map (·.fqdn)
  | .nssetTech => i.mergeOutput.updateNssetTechContact.map (·.handle)
  | .keysetTech => i.mergeOutput.updateKeysetTechContact.map (·.handle)
  | .removed => [i.srcContactHandle]
  | .removedRoid => [i.mergeOutput.contactid.srcContactRoid]

def src (i : MergeContactEmailNotificationInput) : String := i.mergeOutput.contactid.srcContactRoid

def dst (i : MergeContactEmailNotificationInput) : String := i.mergeOutput.contactid.dstContactRoid

end MergeContactEmailNotificationInput

namespace MergeContactEmailNotificationData

variable {merges done : List MergeContactEmailNotificationInput} {i : MergeContactEmailNotificationInput}
  {email : SortedContactNotificationEmail} {m : EmailMap} {d x : String} {kind : ListKind}

/-- A contact was merged into another one. -/
def Merged (merges : List MergeContactEmailNotificationInput) (s d : String) : Prop :=
  ∃ i ∈ merges, i.src = s ∧ i.dst = d

/-- No contact is merged with itself or twice, none is a destination after it was a source, and a
destination has one handle. -/
structure Ordered (merges : List MergeContactEmailNotificationInput) : Prop where
  different : ∀ i ∈ merges, i.src ≠ i.dst
  once : (merges.map (·.src)).Nodup
  before : merges.Pairwise fun i j => j.dst ≠ i.src
  handles : ∀ i ∈ merges, ∀ j ∈ merges, i.dst = j.dst → i.dstContactHandle = j.dstContactHandle

/-- The e-mail has the handle of its destination, and its lists ascend and tell of exactly those
merges whose source came to the destination, directly or through others. -/
structure TellsMerges (merges : List MergeContactEmailNotificationInput)
    (email : MergeContactNotificationEmail) : Prop where
  handle : ∀ i ∈ merges, i.dst = email.dstContactRoid → i.dstContactHandle = email.dstContactHandle
  ascending : ∀ kind, (email.list kind).Pairwise (· < ·)
  merges : ∀ kind x, x ∈ email.list kind ↔
    ∃ i ∈ merges, TransGen (Merged merges) i.src email.dstContactRoid ∧ x ∈ i.told kind

theorem terminal_merged_iff : Terminal (Merged merges) d ↔ ∀ i ∈ merges, i.src ≠ d := by
  constructor
  · intro h i hi heq
    exact h i.dst ⟨i, hi, heq, rfl⟩
  · rintro h e ⟨i, hi, heq, -⟩
    exact h i hi heq

theorem merged_append : Merged (done ++ [i]) =
    fun s d => Merged done s d ∨ s = i.src ∧ d = i.dst := by
  funext s d
  simp only [Merged, List.mem_append, List.mem_singleton, or_and_right, exists_or, eq_iff_iff]
  refine or_congr_right ?_
  constructor
  · rintro ⟨j, rfl, rfl, rfl⟩
    exact ⟨rfl, rfl⟩
  · rintro ⟨rfl, rfl⟩
    exact ⟨i, rfl, rfl, rfl⟩

theorem mem_list_collect : x ∈ (collect i email m).1.list kind ↔
    x ∈ email.list kind ∨ x ∈ i.told kind ∨ ∃ e ∈ OrderedMap.find i.src m, x ∈ e.list kind := by
  unfold collect
  rw [MergeContactEmailNotificationInput.src]
  cases OrderedMap.find i.mergeOutput.contactid.srcContactRoid m with
  | none =>
    cases kind <;> simp [SortedContactNotificationEmail.list, updateEmail, removeSource,
      MergeContactEmailNotificationInput.told, or_comm]
  | some srcEmail =>
    cases kind <;> simp [SortedContactNotificationEmail.list, updateEmail, removeSource, addPrevious,
      MergeContactEmailNotificationInput.told, or_left_comm]

theorem dstContactHandle_collect :
    (collect i email m).1.dstContactHandle = email.dstContactHandle := by
  unfold collect
  cases OrderedMap.find i.mergeOutput.contactid.srcContactRoid m <;> rfl

theorem find_collect : OrderedMap.find d (collect i email m).2 =
    if i.src = d then none else OrderedMap.find d m := by
  unfold collect
  cases h : OrderedMap.find i.mergeOutput.contactid.srcContactRoid m with
  | none =>
    by_cases heq : i.src = d
    · rw [if_pos heq]
      exact heq ▸ h
    · rw [if_neg heq]
  | some srcEmail => exact OrderedMap.find_erase

theorem ascending_collect (h : OrderedMap.Ascending m) :
    OrderedMap.Ascending (collect i email m).2 := by
  unfold collect
  cases OrderedMap.find i.mergeOutput.contactid.srcContactRoid m with
  | none => exact h
  | some srcEmail => exact OrderedMap.ascending_erase h

theorem addMerge_ok (hne : i.src ≠ i.dst)
    (hhandle : ∀ e ∈ OrderedMap.find i.dst m, e.dstContactHandle = i.dstContactHandle) :
    ∃ e m', addMerge m i = .ok m' ∧ (OrderedMap.Ascending m → OrderedMap.Ascending m') ∧
      e.dstContactHandle = i.dstContactHandle ∧
      (∀ kind x, x ∈ e.list kind ↔ (∃ e₀ ∈ OrderedMap.find i.dst m, x ∈ e₀.list kind) ∨
        x ∈ i.told kind ∨ ∃ e₀ ∈ OrderedMap.find i.src m, x ∈ e₀.list kind) ∧
      ∀ d, OrderedMap.find d m' =
        if i.dst = d then some e else if i.src = d then none else OrderedMap.find d m := by
  have hne' : ¬ i.mergeOutput.contactid.dstContactRoid = i.mergeOutput.contactid.srcContactRoid :=
    fun h => hne h.symm
  have hset : ∀ email : SortedContactNotificationEmail, ∀ d,
      OrderedMap.find d (OrderedMap.set i.dst (collect i email m).1 (collect i email m).2) =
        if i.dst = d then some (collect i email m).1
        else if i.src = d then none else OrderedMap.find d m := by
    intro email d
    rw [OrderedMap.find_set, find_collect]
  unfold addMerge
  rw [if_neg hne']
  cases hfind : OrderedMap.find i.mergeOutput.contactid.dstContactRoid m with
  | none =>
    let email : SortedContactNotificationEmail := ⟨i.dstContactHandle, ∅, ∅, ∅, ∅, ∅, ∅⟩
    refine ⟨(collect i email m).1, _, rfl, fun h => ?_, ?_, fun kind x => ?_, hset email⟩
    · exact OrderedMap.ascending_set (ascending_collect h)
    · exact dstContactHandle_collect
    · have hnone : x ∉ email.list kind := by cases kind <;> exact Finset.notMem_empty x
      rw [mem_list_collect]
      have hfind : OrderedMap.find i.dst m = none := hfind
      simp [hfind, hnone]
  | some email =>
    have heq : email.dstContactHandle = i.dstContactHandle := hhandle email hfind
    have hset' := hset email
    refine ⟨(collect i email m).1,
      OrderedMap.set i.dst (collect i email m).1 (collect i email m).2, ?_, fun h => ?_, ?_, fun kind x => ?_, hset'⟩
    · simp [heq]
      rfl
    · exact OrderedMap.ascending_set (ascending_collect h)
    · exact dstContactHandle_collect.trans heq
    · rw [mem_list_collect]
      have hfind : OrderedMap.find i.dst m = some email := hfind
      simp [hfind]

/-- What was collected from the first merges. -/
structure Collected (done : List MergeContactEmailNotificationInput) (m : EmailMap) : Prop where
  ascending : OrderedMap.Ascending m
  found : ∀ d, (∃ e, OrderedMap.find d m = some e) ↔
    (∃ i ∈ done, i.dst = d) ∧ Terminal (Merged done) d
  handle : ∀ d, ∀ e ∈ OrderedMap.find d m, ∀ i ∈ done, i.dst = d →
    i.dstContactHandle = e.dstContactHandle
  told : ∀ d, Terminal (Merged done) d → ∀ kind x,
    (∃ e ∈ OrderedMap.find d m, x ∈ e.list kind) ↔
      ∃ i ∈ done, ReflTransGen (Merged done) i.dst d ∧ x ∈ i.told kind

theorem collected_nil : Collected [] [] where
  ascending := .nil
  found d := by simp [OrderedMap.find]
  handle d e he := by cases he
  told d _ kind x := by simp [OrderedMap.find]

/-- One more merge, whose contacts were no sources before. -/
theorem Collected.addMerge (h : Collected done m) (hne : i.src ≠ i.dst)
    (hsrc : Terminal (Merged done) i.src) (hdst : Terminal (Merged done) i.dst)
    (hhandle : ∀ j ∈ done, j.dst = i.dst → j.dstContactHandle = i.dstContactHandle) :
    ∃ m', MergeContactEmailNotificationData.addMerge m i = .ok m' ∧ Collected (done ++ [i]) m' := by
  have hhandle' : ∀ e ∈ OrderedMap.find i.dst m, e.dstContactHandle = i.dstContactHandle := by
    intro e he
    obtain ⟨⟨j, hj, hjd⟩, -⟩ := (h.found i.dst).mp ⟨e, he⟩
    exact (h.handle i.dst e he j hj hjd).symm.trans (hhandle j hj hjd)
  obtain ⟨e, m', hok, hasc, he, hlist, hfind⟩ := addMerge_ok hne hhandle'
  have hterminal : ∀ d, Terminal (Merged (done ++ [i])) d ↔ Terminal (Merged done) d ∧ i.src ≠ d := by
    intro d
    simp [terminal_merged_iff, or_imp, forall_and]
  have hmem : ∀ {p : MergeContactEmailNotificationInput → Prop},
      (∃ j ∈ done ++ [i], p j) ↔ (∃ j ∈ done, p j) ∨ p i := by
    intro p
    simp [or_and_right, exists_or]
  refine ⟨m', hok, hasc h.ascending, fun d => ?_, fun d e' he' j hj hjd => ?_, fun d hd kind x => ?_⟩
  · rw [hfind, hmem, hterminal]
    by_cases hd : i.dst = d
    · rw [if_pos hd]
      exact iff_of_true ⟨e, rfl⟩ ⟨.inr hd, hd ▸ hdst, hd ▸ hne⟩
    · rw [if_neg hd]
      by_cases hs : i.src = d
      · simp [hs]
      · rw [if_neg hs, h.found]
        simp [hd, hs]
  · rw [hfind] at he'
    by_cases hd : i.dst = d
    · rw [if_pos hd] at he'
      obtain rfl := Option.some.inj he'
      rcases List.mem_append.mp hj with hj | hj
      · exact (hhandle j hj (hjd.trans hd.symm)).trans he.symm
      · rw [List.mem_singleton.mp hj]
        exact he.symm
    · rw [if_neg hd] at he'
      split at he'
      · cases he'
      · rcases List.mem_append.mp hj with hj | hj
        · exact h.handle d e' he' j hj hjd
        · rw [List.mem_singleton.mp hj] at hjd
          exact absurd hjd hd
  · obtain ⟨hd, hs⟩ := (hterminal d).mp hd
    rw [hfind, hmem, merged_append]
    simp only [reflTransGen_add_iff hdst hne]
    by_cases hdd : i.dst = d
    · subst hdd
      -- The merges into the destination before, and those into the source.
      have hold := h.told i.dst hdst kind x
      have hprevious := h.told i.src hsrc kind x
      have hself : ReflTransGen (Merged done) i.dst i.dst := .refl
      have hboth : (∃ j ∈ done, (ReflTransGen (Merged done) j.dst i.dst ∨
          ReflTransGen (Merged done) j.dst i.src ∧ i.dst = i.dst) ∧ x ∈ j.told kind) ↔
          (∃ j ∈ done, ReflTransGen (Merged done) j.dst i.dst ∧ x ∈ j.told kind) ∨
            ∃ j ∈ done, ReflTransGen (Merged done) j.dst i.src ∧ x ∈ j.told kind := by
        simp only [and_true, or_and_right, and_or_left, exists_or]
      rw [if_pos rfl, hboth, ← hold, ← hprevious]
      simp only [Option.mem_def, Option.some.injEq, exists_eq_left', hlist, hself, true_or, true_and]
      rw [or_assoc, or_comm (a := x ∈ i.told kind)]
    · have hne' : d ≠ i.dst := fun heq => hdd heq.symm
      have hno : ¬ ReflTransGen (Merged done) i.dst d := fun hreach => hdd (hdst.eq hreach)
      rw [if_neg hdd, if_neg hs, h.told d hd]
      simp [hne', hno]

theorem collected_foldlM {rest : List MergeContactEmailNotificationInput} (h : Collected done m)
    (hordered : Ordered (done ++ rest)) :
    ∃ m', rest.foldlM MergeContactEmailNotificationData.addMerge m = .ok m' ∧
      Collected (done ++ rest) m' := by
  induction rest generalizing done m with
  | nil => exact ⟨m, rfl, by simpa using h⟩
  | cons i rest ih =>
    have hi : i ∈ done ++ i :: rest := by simp
    have hsrc : Terminal (Merged done) i.src := by
      have honce := hordered.once
      rw [List.map_append, List.map_cons] at honce
      refine terminal_merged_iff.mpr fun j hj heq => ?_
      exact (List.nodup_append.mp honce).2.2 _ (List.mem_map_of_mem hj) _ List.mem_cons_self heq
    have hdst : Terminal (Merged done) i.dst := terminal_merged_iff.mpr fun j hj heq =>
      (List.pairwise_append.mp hordered.before).2.2 j hj i List.mem_cons_self heq.symm
    obtain ⟨m₁, hok, h₁⟩ := h.addMerge (hordered.different i hi) hsrc hdst fun j hj =>
      hordered.handles j (List.mem_append_left _ hj) i hi
    rw [List.append_cons] at hordered ⊢
    obtain ⟨m', hrest, h'⟩ := ih h₁ hordered
    exact ⟨m', by rw [List.foldlM_cons, hok]; exact hrest, h'⟩

theorem rightUnique_merged (h : Ordered merges) : Relator.RightUnique (Merged merges) := by
  rintro s d d' ⟨i, hi, rfl, rfl⟩ ⟨j, hj, hs, rfl⟩
  rw [List.inj_on_of_nodup_map h.once hi hj hs.symm]

theorem transGen_src_iff (h : Ordered merges) (hi : i ∈ merges) :
    TransGen (Merged merges) i.src d ↔ ReflTransGen (Merged merges) i.dst d := by
  rw [TransGen.head'_iff]
  constructor
  · rintro ⟨e, hstep, hreach⟩
    rwa [rightUnique_merged h hstep ⟨i, hi, rfl, rfl⟩] at hreach
  · intro hreach
    exact ⟨i.dst, ⟨i, hi, rfl, rfl⟩, hreach⟩

theorem list_notifemail : (notifemail d email).list kind = (email.list kind).sort := by
  cases kind <;> rfl

/-- The e-mail that was collected for a destination tells of the merges. -/
theorem Collected.tells (h : Collected merges m) (hordered : Ordered merges)
    (hfind : OrderedMap.find d m = some email) : TellsMerges merges (notifemail d email) where
  handle i hi hd := h.handle d email hfind i hi hd
  ascending kind := by
    rw [list_notifemail]
    exact ((email.list kind).sortedLT_sort).pairwise
  merges kind x := by
    have hterminal := ((h.found d).mp ⟨email, hfind⟩).2
    have htold := h.told d hterminal kind x
    simp only [Option.mem_def, hfind, Option.some.injEq, exists_eq_left'] at htold
    rw [list_notifemail, Finset.mem_sort, htold]
    constructor
    · rintro ⟨i, hi, hreach, hx⟩
      exact ⟨i, hi, (transGen_src_iff hordered hi).mpr hreach, hx⟩
    · rintro ⟨i, hi, hreach, hx⟩
      exact ⟨i, hi, (transGen_src_iff hordered hi).mp hreach, hx⟩

/-- A source came to one destination only. -/
theorem Ordered.unique_removed (h : Ordered merges) {e e' : MergeContactNotificationEmail}
    (he : TellsMerges merges e) (he' : TellsMerges merges e')
    (hterminal : Terminal (Merged merges) e.dstContactRoid)
    (hterminal' : Terminal (Merged merges) e'.dstContactRoid)
    (hx : x ∈ e.removedRoidList) (hx' : x ∈ e'.removedRoidList) :
    e.dstContactRoid = e'.dstContactRoid := by
  obtain ⟨i, hi, hreach, hxi⟩ := (he.merges .removedRoid x).mp hx
  obtain ⟨j, hj, hreach', hxj⟩ := (he'.merges .removedRoid x).mp hx'
  have hxi : x = i.src := List.mem_singleton.mp hxi
  have hxj : x = j.src := List.mem_singleton.mp hxj
  rw [← hxi] at hreach
  rw [← hxj] at hreach'
  exact hterminal.unique (rightUnique_merged h) hterminal' hreach.to_reflTransGen
    hreach'.to_reflTransGen

/-- For every destination that is no source one e-mail is returned, which tells of the merges that led
to it, and no source is told of in two of them. -/
theorem exec_tells_merges (hordered : Ordered merges) : ∃ emails, exec merges = .ok emails ∧
    (emails.map (·.dstContactRoid)).Nodup ∧
    (∀ d, d ∈ emails.map (·.dstContactRoid) ↔
      (∃ i ∈ merges, i.dst = d) ∧ ∀ i ∈ merges, i.src ≠ d) ∧
    (∀ email ∈ emails, TellsMerges merges email) ∧
    ∀ email ∈ emails, ∀ email' ∈ emails, email.dstContactRoid ≠ email'.dstContactRoid →
      ∀ x ∈ email.removedRoidList, x ∉ email'.removedRoidList := by
  obtain ⟨m, hok, h⟩ := collected_foldlM collected_nil hordered
  rw [List.nil_append] at h
  have hemail : ∀ email ∈ m.map fun e => notifemail e.1 e.2, ∃ e,
      OrderedMap.find email.dstContactRoid m = some e ∧ email = notifemail email.dstContactRoid e := by
    intro email hemail
    obtain ⟨⟨d, e⟩, hmem, rfl⟩ := List.mem_map.mp hemail
    exact ⟨e, (OrderedMap.mem_iff_find h.ascending).mp hmem, rfl⟩
  have htells : ∀ email ∈ m.map fun e => notifemail e.1 e.2, TellsMerges merges email := by
    intro email hmem
    obtain ⟨e, hfind, heq⟩ := hemail email hmem
    exact heq ▸ h.tells hordered hfind
  have hkeys : (m.map fun e => notifemail e.1 e.2).map (·.dstContactRoid) = m.map (·.1) := by
    rw [List.map_map]
    rfl
  refine ⟨m.map fun e => notifemail e.1 e.2, by rw [exec, hok]; rfl, ?_, fun d => ?_, htells, ?_⟩
  · rw [hkeys]
    exact List.pairwise_map.mpr (h.ascending.imp fun hlt => ne_of_lt hlt)
  · rw [hkeys, ← terminal_merged_iff, ← h.found d, List.mem_map]
    constructor
    · rintro ⟨⟨d, e⟩, hmem, rfl⟩
      exact ⟨e, (OrderedMap.mem_iff_find h.ascending).mp hmem⟩
    · rintro ⟨e, hfind⟩
      exact ⟨(d, e), (OrderedMap.mem_iff_find h.ascending).mpr hfind, rfl⟩
  · intro email hmem email' hmem' hne x hx hx'
    obtain ⟨e, hfind, -⟩ := hemail email hmem
    obtain ⟨e', hfind', -⟩ := hemail email' hmem'
    exact hne (hordered.unique_removed (htells email hmem) (htells email' hmem')
      ((h.found _).mp ⟨e, hfind⟩).2 ((h.found _).mp ⟨e', hfind'⟩).2 hx hx')

/-- LEFT was merged into MIDDLE, and MIDDLE into RIGHT. -/
def chainOfMerges : List MergeContactEmailNotificationInput :=
  [⟨"LEFT", "MIDDLE", ⟨⟨71, 171, "C-LEFT", "REG-ONE", 72, 172, "C-MIDDLE", "REG-ONE"⟩,
      [⟨"left.cz", 81, "REG-ONE", "MIDDLE", some 181⟩], [], [], []⟩⟩,
    ⟨"MIDDLE", "RIGHT", ⟨⟨72, 172, "C-MIDDLE", "REG-ONE", 73, 173, "C-RIGHT", "REG-TWO"⟩,
      [⟨"left.cz", 81, "REG-ONE", "RIGHT", some 182⟩], [], [⟨"NSS", 83, "REG-ONE", "MIDDLE", "RIGHT", none⟩],
      []⟩⟩]

theorem exec_tells_merges_chain : ∃ emails, exec chainOfMerges = .ok emails ∧
    (emails.map (·.dstContactRoid)).Nodup ∧
    (∀ d, d ∈ emails.map (·.dstContactRoid) ↔
      (∃ i ∈ chainOfMerges, i.dst = d) ∧ ∀ i ∈ chainOfMerges, i.src ≠ d) ∧
    (∀ email ∈ emails, TellsMerges chainOfMerges email) ∧
    ∀ email ∈ emails, ∀ email' ∈ emails, email.dstContactRoid ≠ email'.dstContactRoid →
      ∀ x ∈ email.removedRoidList, x ∉ email'.removedRoidList :=
  exec_tells_merges ⟨by decide, by decide, by decide, by decide⟩

end MergeContactEmailNotificationData

end LibFred.RegistrableObject.Contact
