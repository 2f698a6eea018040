import LibFred.Notifier.EmailContent
import Mathlib.Data.List.Induction

/-! Pairs of old and new texts that are told under keys of their own. -/
namespace LibFred.Notifier

/-- The old and the new text under a key. -/
structure TextPair where
  key : String
  old : String
  new : String

/-- The pairs are added one after the other. -/
def addPairs (target : Parameters) (pairs : List TextPair) : Except Exception Parameters :=
  pairs.foldlM (fun target pair => addOldNewChangesPairIfDifferent target pair.key pair.old pair.new)
    target

/-- What is told of a pair whose texts differ. -/
def TextPair.told (pair : TextPair) : List (String × String) :=
  [("changes." ++ pair.key ++ ".old", pair.old), ("changes." ++ pair.key ++ ".new", pair.new),
    ("changes." ++ pair.key, "1")]

/-- The key ends like neither of the endings that are put behind it. -/
def PlainEnd (key : String) : Prop :=
  key.toList.getLast? ≠ some 'd' ∧ key.toList.getLast? ≠ some 'w'

instance (key : String) : Decidable (PlainEnd key) := inferInstanceAs (Decidable (_ ∧ _))

variable {target : Parameters} {pair pair' : TextPair} {pairs : List TextPair} {k v v' : String}

theorem addPairs_append (target : Parameters) (pairs pairs' : List TextPair) :
    addPairs target (pairs ++ pairs') = addPairs target pairs >>= (addPairs · pairs') :=
  List.foldlM_append

theorem ending_of_told (h : (k, v) ∈ pair.told) :
    ∃ ending ∈ ["", ".old", ".new"], k.toList = "changes.".toList ++ (pair.key.toList ++ ending.toList) := by
  simp only [TextPair.told, List.mem_cons, List.not_mem_nil, or_false, Prod.mk.injEq] at h
  rcases h with ⟨rfl, -⟩ | ⟨rfl, -⟩ | ⟨rfl, -⟩
  · exact ⟨".old", by simp, by simp⟩
  · exact ⟨".new", by simp, by simp⟩
  · exact ⟨"", by simp, by simp⟩

/-- The endings are told from each other and from the keys by their last letter. -/
theorem key_eq_of_told (h : (k, v) ∈ pair.told) (h' : (k, v') ∈ pair'.told) (hend : PlainEnd pair.key)
    (hend' : PlainEnd pair'.key) : pair.key = pair'.key := by
  obtain ⟨ending, hmem, hk⟩ := ending_of_told h
  obtain ⟨ending', hmem', hk'⟩ := ending_of_told h'
  have heq := List.append_cancel_left (hk.symm.trans hk')
  have hlast := congrArg List.getLast? heq
  rw [List.getLast?_append, List.getLast?_append] at hlast
  simp only [List.mem_cons, List.not_mem_nil, or_false] at hmem hmem'
  rcases hmem with rfl | rfl | rfl <;> rcases hmem' with rfl | rfl | rfl
  · exact String.toList_inj.mp (by simpa using heq)
  · exact absurd hlast hend.1
  · exact absurd hlast hend.2
  · exact absurd hlast.symm hend'.1
  · exact String.toList_inj.mp (List.append_cancel_right heq)
  · simp at hlast
  · exact absurd hlast.symm hend'.2
  · simp at hlast
  · exact String.toList_inj.mp (List.append_cancel_right heq)

/-- Exactly what is told of the pairs whose texts differ. -/
def Tells (target : Parameters) (pairs : List TextPair) : Prop :=
  ∀ k v, target.lookup k = some v ↔ ∃ pair ∈ pairs, pair.old ≠ pair.new ∧ (k, v) ∈ pair.told

theorem lookup_withPair_of_told (h : (k, v) ∈ pair.told) :
    (withPair target ("changes." ++ pair.key) pair.old pair.new).lookup k = some v := by
  have hne : ∀ ending ending' : String, ending.toList ≠ ending'.toList →
      "changes." ++ pair.key ++ ending ≠ "changes." ++ pair.key ++ ending' :=
    fun _ _ => append_ne_append _
  have hbare : ∀ ending : String, ending.toList ≠ [] →
      "changes." ++ pair.key ++ ending ≠ "changes." ++ pair.key := by
    intro ending hending
    simpa using hne ending "" hending
  simp only [TextPair.told, List.mem_cons, List.not_mem_nil, or_false, Prod.mk.injEq] at h
  rcases h with ⟨rfl, rfl⟩ | ⟨rfl, rfl⟩ | ⟨rfl, rfl⟩
  · rw [withPair, Finmap.lookup_insert_of_ne _ (hbare _ (by decide)),
      Finmap.lookup_insert_of_ne _ (hne _ _ (by decide)), Finmap.lookup_insert]
  · rw [withPair, Finmap.lookup_insert_of_ne _ (hbare _ (by decide)), Finmap.lookup_insert]
  · exact Finmap.lookup_insert _

theorem lookup_withPair_of_not_told (h : ∀ v, (k, v) ∉ pair.told) :
    (withPair target ("changes." ++ pair.key) pair.old pair.new).lookup k = target.lookup k := by
  simp only [TextPair.told, List.mem_cons, List.not_mem_nil, or_false, Prod.mk.injEq, not_or] at h
  have hold : k ≠ "changes." ++ pair.key ++ ".old" := fun hk => (h pair.old).1 ⟨hk, rfl⟩
  have hnew : k ≠ "changes." ++ pair.key ++ ".new" := fun hk => (h pair.new).2.1 ⟨hk, rfl⟩
  have hkey : k ≠ "changes." ++ pair.key := fun hk => (h "1").2.2 ⟨hk, rfl⟩
  rw [withPair, Finmap.lookup_insert_of_ne _ hkey, Finmap.lookup_insert_of_ne _ hnew,
    Finmap.lookup_insert_of_ne _ hold]

/-- A pair is added under keys that are free. -/
theorem addOldNewChangesPairIfDifferent_of_free (hne : pair.old ≠ pair.new)
    (hfree : ∀ k v, (k, v) ∈ pair.told → target.lookup k = none) :
    addOldNewChangesPairIfDifferent target pair.key pair.old pair.new =
      .ok (withPair target ("changes." ++ pair.key) pair.old pair.new) := by
  have hnotMem : ∀ k v, (k, v) ∈ pair.told → k ∉ target := fun k v h =>
    Finmap.lookup_eq_none.mp (hfree k v h)
  refine addOldNewChangesPairIfDifferent_of_ne hne (hnotMem _ "1" ?_) (hnotMem _ pair.old ?_)
    (hnotMem _ pair.new ?_) <;> simp [TextPair.told]

/-- Pairs with keys of their own are all told. The induction is on the pairs from the last one. -/
theorem addPairs_ok (hkeys : (pairs.map TextPair.key).Nodup) (hend : ∀ pair ∈ pairs, PlainEnd pair.key) :
    ∃ result, addPairs ∅ pairs = .ok result ∧ Tells result pairs := by
  induction pairs using List.reverseRecOn with
  | nil => exact ⟨∅, rfl, fun k v => by simp⟩
  | append_singleton pairs pair ih =>
    rw [List.map_append, List.nodup_append] at hkeys
    have hpair : PlainEnd pair.key := hend pair (by simp)
    obtain ⟨result, hok, htells⟩ := ih hkeys.1 fun pair' h => hend pair' (by simp [h])
    have hadd : addPairs ∅ (pairs ++ [pair]) =
        addOldNewChangesPairIfDifferent result pair.key pair.old pair.new := by
      rw [addPairs_append, hok]
      change addPairs result [pair] = _
      simp [addPairs]
    rw [hadd]
    by_cases heq : pair.old = pair.new
    · refine ⟨result, if_pos heq, fun k v => (htells k v).trans ?_⟩
      simp [heq]
    · have hother : ∀ pair' ∈ pairs, ∀ k v v', (k, v) ∈ pair.told → (k, v') ∉ pair'.told := by
        intro pair' hmem k v v' h h'
        have hkey := key_eq_of_told h h' hpair (hend pair' (by simp [hmem]))
        exact hkeys.2.2 pair'.key (List.mem_map_of_mem hmem) pair.key (by simp) hkey.symm
      have hfree : ∀ k v, (k, v) ∈ pair.told → result.lookup k = none := by
        intro k v h
        refine Option.eq_none_iff_forall_ne_some.mpr fun v' hv' => ?_
        obtain ⟨pair', hmem, -, h'⟩ := (htells k v').mp hv'
        exact hother pair' hmem k v v' h h'
      refine ⟨_, addOldNewChangesPairIfDifferent_of_free heq hfree, fun k v => ?_⟩
      by_cases htold : ∃ v', (k, v') ∈ pair.told
      · obtain ⟨v', h'⟩ := htold
        rw [lookup_withPair_of_told h', Option.some.injEq]
        constructor
        · rintro rfl
          exact ⟨pair, by simp, heq, h'⟩
        · rintro ⟨pair', hmem, -, h⟩
          rcases List.mem_append.mp hmem with hmem | hmem
          · exact absurd h (hother pair' hmem k v' v h')
          · obtain rfl := List.mem_singleton.mp hmem
            have hv : (withPair result ("changes." ++ pair'.key) pair'.old pair'.new).lookup k = some v :=
              lookup_withPair_of_told h
            rw [lookup_withPair_of_told h'] at hv
            exact Option.some.inj hv
      · rw [lookup_withPair_of_not_told fun v' h' => htold ⟨v', h'⟩, htells k v]
        constructor
        · rintro ⟨pair', hmem, hne, h⟩
          exact ⟨pair', List.mem_append_left _ hmem, hne, h⟩
        · rintro ⟨pair', hmem, hne, h⟩
          rcases List.mem_append.mp hmem with hmem | hmem
          · exact ⟨pair', hmem, hne, h⟩
          · obtain rfl := List.mem_singleton.mp hmem
            exact absurd ⟨v, h⟩ htold

/-- Nothing is told exactly if no texts differ. -/
theorem Tells.eq_empty_iff (h : Tells target pairs) :
    target = ∅ ↔ ∀ pair ∈ pairs, pair.old = pair.new := by
  constructor
  · rintro rfl pair hpair
    by_contra hne
    have hlookup := (h ("changes." ++ pair.key) "1").mpr ⟨pair, hpair, hne, by simp [TextPair.told]⟩
    rw [Finmap.lookup_empty] at hlookup
    cases hlookup
  · intro hsame
    refine Finmap.ext_lookup fun k => ?_
    rw [Finmap.lookup_empty]
    refine Option.eq_none_iff_forall_ne_some.mpr fun v hv => ?_
    obtain ⟨pair, hpair, hne, -⟩ := (h k v).mp hv
    exact hne (hsame pair hpair)

end LibFred.Notifier
