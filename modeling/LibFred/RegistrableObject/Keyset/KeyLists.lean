import LibFred.Itemwise
import LibFred.RegistrableObject.Keyset.UpdateKeyset
import LibFred.Sql.Ends

/-! What the lists of keys of an update do to a keyset. -/
namespace LibFred.RegistrableObject.Keyset

open Sql
open LibFred.Db
open Itemwise (Change Refused Tally step)

/-- The keys of a keyset. -/
def dnsKeys (keysetId : Nat) (db : ObjectDatabase) : Set DnsKey :=
  {key | ∃ k ∈ db.dnskey, k.keysetid = keysetId ∧ k.dnsKey = key}

/-- A keyset has a key once, and ids come from their sequence. -/
structure KeysConsistent (db : ObjectDatabase) : Prop where
  key : ∀ k ∈ db.dnskey, ∀ k' ∈ db.dnskey, k.keysetid = k'.keysetid → k.dnsKey = k'.dnsKey → k = k'
  id : ∀ k ∈ db.dnskey, k.id < db.dnskeySeq

/-- What a list has made of the keys so far; the keys of other keysets are left alone. -/
structure ListsKeys (keysetId : Nat) (db : ObjectDatabase) (o : Tally DnsKey DnsKey)
    (named : List DnsKey) (s : ObjectDatabase) : Prop where
  named : named = o.refused
  keys : dnsKeys keysetId s = o.set
  state : ∃ t n, s = { db with dnskey := t, dnskeySeq := n }
  others : ∀ k : Dnskey, k.keysetid ≠ keysetId → (k ∈ s.dnskey ↔ k ∈ db.dnskey)
  consistent : KeysConsistent db → KeysConsistent s

variable {keysetId : Nat} {db s : ObjectDatabase} {o : Tally DnsKey DnsKey} {named : List DnsKey}
  {key : DnsKey}

theorem listsKeys_refl : ListsKeys keysetId db ⟨dnsKeys keysetId db, [], []⟩ [] db :=
  ⟨rfl, rfl, ⟨_, _, rfl⟩, fun _ _ => Iff.rfl, fun h => h⟩

theorem mem_dnsKeys : key ∈ dnsKeys keysetId db ↔
    ∃ k ∈ db.dnskey, k.keysetid = keysetId ∧ k.dnsKey = key := Iff.rfl

theorem select_eq_nil_iff : (db.dnskey.select fun k => k.keysetid = keysetId ∧ k.dnsKey = key) = [] ↔
    key ∉ dnsKeys keysetId db := by
  rw [List.eq_nil_iff_forall_not_mem]
  simp only [Table.mem_select, mem_dnsKeys, not_exists, not_and]

theorem dnsKeys_of_deleted {t : Table Dnskey}
    (ht : ∀ k, k ∈ t ↔ k ∈ s.dnskey ∧ ¬ (k.keysetid = keysetId ∧ k.dnsKey = key)) :
    dnsKeys keysetId { s with dnskey := t } = dnsKeys keysetId s \ {key} := by
  ext key'
  simp only [mem_dnsKeys, Set.mem_sdiff, Set.mem_singleton_iff, ht]
  constructor
  · rintro ⟨k, ⟨hk, hne⟩, hid, rfl⟩
    exact ⟨⟨k, hk, hid, rfl⟩, fun he => hne ⟨hid, he⟩⟩
  · rintro ⟨⟨k, hk, hid, rfl⟩, hne⟩
    exact ⟨k, ⟨hk, fun he => hne he.2⟩, hid, rfl⟩

theorem dnsKeys_of_inserted {t : Table Dnskey} {id n : Nat}
    (ht : ∀ k, k ∈ t ↔ k ∈ s.dnskey ∨ k = ⟨id, keysetId, key⟩) :
    dnsKeys keysetId { s with dnskey := t, dnskeySeq := n } = dnsKeys keysetId s ∪ {key} := by
  ext key'
  simp only [mem_dnsKeys, Set.mem_union, Set.mem_singleton_iff, ht]
  constructor
  · rintro ⟨k, hk | rfl, hid, rfl⟩
    · exact .inl ⟨k, hk, hid, rfl⟩
    · exact .inr rfl
  · rintro (⟨k, hk, hid, rfl⟩ | rfl)
    · exact ⟨k, .inl hk, hid, rfl⟩
    · exact ⟨_, .inr rfl, rfl, rfl⟩

theorem KeysConsistent.inserted {t : Table Dnskey} (hc : KeysConsistent s)
    (ht : ∀ k, k ∈ t ↔ k ∈ s.dnskey ∨ k = ⟨s.dnskeySeq, keysetId, key⟩) (hnew : key ∉ dnsKeys keysetId s) :
    KeysConsistent { s with dnskey := t, dnskeySeq := s.dnskeySeq + 1 } := by
  constructor
  · intro k hk k' hk' hkeyset hkey
    rcases (ht k).mp hk with hk | rfl
    · rcases (ht k').mp hk' with hk' | rfl
      · exact hc.key k hk k' hk' hkeyset hkey
      · exact absurd ⟨k, hk, hkeyset, hkey⟩ hnew
    · rcases (ht k').mp hk' with hk' | rfl
      · exact absurd ⟨k', hk', hkeyset.symm, hkey.symm⟩ hnew
      · rfl
  · intro k hk
    change k.id < s.dnskeySeq + 1
    rcases (ht k).mp hk with hk | rfl
    · exact (hc.id k hk).trans (Nat.lt_succ_self _)
    · exact Nat.lt_succ_self _

theorem ends_remDnsKey (hs : ListsKeys keysetId db o named s) (key : DnsKey) :
    Ends (remDnsKey keysetId named key) s (ListsKeys keysetId db (step some .take o key))
      fun _ => ¬ KeysConsistent db := by
  let p : Dnskey → Prop := fun k => k.keysetid = keysetId ∧ k.dnsKey = key
  have hrun : (deleteDnsKey keysetId key).run s =
      .ok (s.dnskey.select p).length { s with dnskey := s.dnskey.delete p } := rfl
  by_cases hmany : 1 < (s.dnskey.select p).length
  · have hnot : ¬ KeysConsistent db := by
      intro hc
      have hp : ∀ a ∈ s.dnskey, ∀ b ∈ s.dnskey, p a → p b → a = b := fun a ha b hb hpa hpb =>
        (hs.consistent hc).key a ha b hb (hpa.1.trans hpb.1.symm) (hpa.2.trans hpb.2.symm)
      rcases Table.select_eq_nil_or_singleton hp with h | ⟨r, h⟩ <;> rw [h] at hmany <;> simp at hmany
    exact ends_of_error ((run_bind_of_ok hrun).trans (run_bind_of_error (run_raiseIf_of_pos hmany))) hnot
  have hstate : ∃ t n, { s with dnskey := s.dnskey.delete p } =
      { db with dnskey := t, dnskeySeq := n } := by
    obtain ⟨t, n, rfl⟩ := hs.state
    exact ⟨_, _, rfl⟩
  have hothers : ∀ k : Dnskey, k.keysetid ≠ keysetId → (k ∈ s.dnskey.delete p ↔ k ∈ db.dnskey) := by
    intro k hk
    rw [Table.mem_delete, ← hs.others k hk]
    exact and_iff_left fun hp => hk hp.1
  have hconsistent : KeysConsistent db → KeysConsistent { s with dnskey := s.dnskey.delete p } := by
    intro hc
    obtain ⟨hkey, hid⟩ := hs.consistent hc
    exact ⟨fun k hk k' hk' => hkey k (Table.mem_delete.mp hk).1 k' (Table.mem_delete.mp hk').1,
      fun k hk => hid k (Table.mem_delete.mp hk).1⟩
  have hkeys : dnsKeys keysetId { s with dnskey := s.dnskey.delete p } = o.set \ {key} := by
    rw [← hs.keys]
    exact dnsKeys_of_deleted fun k => Table.mem_delete
  refine ends_of_run (a := if (s.dnskey.select p).length = 0 then named ++ [key] else named)
    ((run_bind_of_ok hrun).trans (run_bind_of_ok (run_raiseIf_of_neg hmany))) ?_
  by_cases hin : Change.take.Done o.set key
  · have hnone : s.dnskey.select p = [] := select_eq_nil_iff.mpr (hs.keys.symm ▸ hin)
    rw [Itemwise.step_refused rfl hin, hnone, if_pos List.length_nil]
    refine ⟨congrArg (· ++ [key]) hs.named, hkeys.trans ?_, hstate, hothers, hconsistent⟩
    exact Set.sdiff_singleton_eq_self hin
  · have hsome : s.dnskey.select p ≠ [] := fun h => hin (hs.keys ▸ select_eq_nil_iff.mp h)
    rw [Itemwise.step_changes rfl hin, if_neg (hsome ∘ List.length_eq_zero_iff.mp)]
    exact ⟨hs.named, hkeys, hstate, hothers, hconsistent⟩

theorem ends_addDnsKey (hs : ListsKeys keysetId db o named s) (key : DnsKey) :
    Ends (addDnsKey keysetId named key) s (ListsKeys keysetId db (step some .put o key))
      fun _ => ¬ KeysConsistent db := by
  obtain ⟨t, n, hstate⟩ := hs.state
  by_cases hin : Change.put.Done o.set key
  · have hrun : (insertDnsKey keysetId key).run s =
        .ok false { s with dnskeySeq := s.dnskeySeq + 1 } := by
      have hfound : (s.dnskey.select fun k => k.keysetid = keysetId ∧ k.dnsKey = key) ≠ [] :=
        fun h => select_eq_nil_iff.mp h (hs.keys.symm ▸ hin)
      simp only [insertDnsKey, EStateM.run]
      exact if_pos hfound
    refine ends_of_run (a := named ++ [key]) (run_bind_of_ok hrun) ?_
    rw [Itemwise.step_refused rfl hin]
    refine ⟨congrArg (· ++ [key]) hs.named, hs.keys, ⟨t, _, by rw [hstate]⟩, hs.others, fun hc => ?_⟩
    obtain ⟨hkey, hid⟩ := hs.consistent hc
    exact ⟨hkey, fun k hk => (hid k hk).trans (Nat.lt_succ_self _)⟩
  · have hnone : (s.dnskey.select fun k => k.keysetid = keysetId ∧ k.dnsKey = key) = [] :=
      select_eq_nil_iff.mpr fun h => hin (hs.keys ▸ h)
    cases ht : s.dnskey.insert? ⟨s.dnskeySeq, keysetId, key⟩ with
    | none =>
      have hrun : (insertDnsKey keysetId key).run s =
          .error (.database .sqlError) { s with dnskeySeq := s.dnskeySeq + 1 } := by
        simp only [insertDnsKey, EStateM.run]
        rw [if_neg (not_not.mpr hnone), ht]
      refine ends_of_error (run_bind_of_error hrun) fun hc => ?_
      have hfresh : ∀ k ∈ s.dnskey, Keyed.key k ≠ Keyed.key (⟨s.dnskeySeq, keysetId, key⟩ : Dnskey) :=
        fun k hk => ((hs.consistent hc).id k hk).ne
      obtain ⟨t', ht'⟩ := Table.exists_insert? hfresh
      rw [ht] at ht'
      cases ht'
    | some t' =>
      have hrun : (insertDnsKey keysetId key).run s =
          .ok true { s with dnskey := t', dnskeySeq := s.dnskeySeq + 1 } := by
        simp only [insertDnsKey, EStateM.run]
        rw [if_neg (not_not.mpr hnone), ht]
      have hmem : ∀ k, k ∈ t' ↔ k ∈ s.dnskey ∨ k = ⟨s.dnskeySeq, keysetId, key⟩ :=
        fun k => Table.mem_of_insert? ht
      refine ends_of_run (a := named) (run_bind_of_ok hrun) ?_
      rw [Itemwise.step_changes rfl hin]
      refine ⟨hs.named, ?_, ⟨t', _, by rw [hstate]⟩, fun k hk => ?_, fun hc => ?_⟩
      · rw [dnsKeys_of_inserted hmem, hs.keys]
        rfl
      · rw [← hs.others k hk, hmem]
        refine or_iff_left ?_
        rintro rfl
        exact hk rfl
      · exact (hs.consistent hc).inserted hmem (hs.keys ▸ hin)

theorem ends_remDnsKeys (keysetId : Nat) (rem : List DnsKey) (db : ObjectDatabase) :
    Ends (rem.foldlM (remDnsKey keysetId) []) db
      (ListsKeys keysetId db (rem.foldl (step some .take) ⟨dnsKeys keysetId db, [], []⟩))
      fun _ => ¬ KeysConsistent db := by
  refine ends_foldlM (P := fun p => ListsKeys keysetId db
    (p.foldl (step some .take) ⟨dnsKeys keysetId db, [], []⟩)) rem (fun p key named s hs => ?_)
    listsKeys_refl
  rw [List.foldl_append]
  exact ends_remDnsKey hs key

theorem ends_addDnsKeys (keysetId : Nat) (add : List DnsKey) (db : ObjectDatabase) :
    Ends (add.foldlM (addDnsKey keysetId) []) db
      (ListsKeys keysetId db (add.foldl (step some .put) ⟨dnsKeys keysetId db, [], []⟩))
      fun _ => ¬ KeysConsistent db := by
  refine ends_foldlM (P := fun p => ListsKeys keysetId db
    (p.foldl (step some .put) ⟨dnsKeys keysetId db, [], []⟩)) add (fun p key named s hs => ?_)
    listsKeys_refl
  rw [List.foldl_append]
  exact ends_addDnsKey hs key

/-- The keys that are wrong are named, and no others. One that stands in its list twice is wrong
the second time; those to be added may be among those to be removed. -/
structure NamesKeys (keysetId : Nat) (add rem : List DnsKey) (db : ObjectDatabase)
    (alreadySet unassigned : List DnsKey) : Prop where
  alreadySet : ∀ key, key ∈ alreadySet ↔
    Refused some .put (dnsKeys keysetId db \ {key | key ∈ rem}) add key
  unassigned : ∀ key, key ∈ unassigned ↔ Refused some .take (dnsKeys keysetId db) rem key

/-- The set law of keys. -/
structure UpdatesKeys (keysetId : Nat) (add rem : List DnsKey) (db db' : ObjectDatabase) : Prop where
  keys : dnsKeys keysetId db' = dnsKeys keysetId db \ {key | key ∈ rem} ∪ {key | key ∈ add}
  others : ∀ k : Dnskey, k.keysetid ≠ keysetId → (k ∈ db'.dnskey ↔ k ∈ db.dnskey)

variable {add rem unassigned alreadySet : List DnsKey} {s₁ : ObjectDatabase}

/-- The keys to be removed come first. -/
theorem ListsKeys.updates
    (h₁ : ListsKeys keysetId db (rem.foldl (step some .take) ⟨dnsKeys keysetId db, [], []⟩)
      unassigned s₁)
    (h₂ : ListsKeys keysetId s₁ (add.foldl (step some .put) ⟨dnsKeys keysetId s₁, [], []⟩)
      alreadySet s) :
    NamesKeys keysetId add rem db alreadySet unassigned ∧ UpdatesKeys keysetId add rem db s := by
  have hkeys₁ : dnsKeys keysetId s₁ = dnsKeys keysetId db \ {key | key ∈ rem} := by
    rw [h₁.keys, Itemwise.set_foldl, Itemwise.keys_some]
    rfl
  refine ⟨⟨fun key => ?_, fun key => ?_⟩, ?_, fun k hk => (h₂.others k hk).trans (h₁.others k hk)⟩
  · rw [h₂.named, Itemwise.mem_refused_foldl, hkeys₁]
    simp
  · rw [h₁.named, Itemwise.mem_refused_foldl]
    simp
  · rw [h₂.keys, Itemwise.set_foldl, Itemwise.keys_some, hkeys₁]
    rfl

end LibFred.RegistrableObject.Keyset
