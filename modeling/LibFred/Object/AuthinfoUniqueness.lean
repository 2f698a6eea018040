import LibFred.Object.AuthinfoRevocation
import LibFred.Object.ConcurrentAuthinfo

/-! When the authinfo of an object and a registrar that is usable is the last one stored. -/
namespace LibFred.Object.Concurrent

open Sql Transition
open LibFred.Db (Database ObjectAuthinfo Timestamp)

variable {storage : PasswordStorage} {s : Server} {t t' id : Nat} {c c' : Client} {k : Nat × Nat}
  {v v' : Nat → Option ObjectAuthinfo} {a a' : ObjectAuthinfo} {statement : Statement}

/-- Of the authinfos of a pair exactly the last one is usable, if it was not canceled. Ids come from
a sequence, so the greatest one is that of the last INSERT. -/
def LastStored (k : Nat × Nat) (v : Nat → Option ObjectAuthinfo) : Prop :=
  ∀ id a, v id = some a → ObjectAuthinfo.pair a = k →
    (Usable a ↔ a.canceledAt = none ∧ ∀ id' b, v id' = some b → ObjectAuthinfo.pair b = k → id' ≤ id)

/-- What becomes of an authinfo unless StoreAuthinfo deactivates it. -/
structure Spares (a a' : ObjectAuthinfo) : Prop where
  pair : ObjectAuthinfo.pair a' = ObjectAuthinfo.pair a
  usable : a'.canceledAt = none → a.canceledAt = none ∧ (Usable a' ↔ Usable a)

theorem spares_refl (a : ObjectAuthinfo) : Spares a a := ⟨rfl, fun h => ⟨h, Iff.rfl⟩⟩

theorem Spares.trans {a'' : ObjectAuthinfo} (h : Spares a a') (h' : Spares a' a'') : Spares a a'' where
  pair := h'.pair.trans h.pair
  usable hc := by
    obtain ⟨hc', hu'⟩ := h'.usable hc
    obtain ⟨hc, hu⟩ := h.usable hc'
    exact ⟨hc, hu'.trans hu⟩

theorem Spares.of_usable (h : Spares a a') (hu : Usable a') : Usable a := (h.usable hu.1).2.mp hu

theorem spares_cancel (now : Timestamp) (a : ObjectAuthinfo) : Spares a (ObjectAuthinfo.cancel now a) :=
  ⟨rfl, nofun⟩

theorem spares_use (a : ObjectAuthinfo) : Spares a (ObjectAuthinfo.use a) := ⟨rfl, fun h => ⟨h, Iff.rfl⟩⟩

/-- The same authinfos of the pair are there, and they were spared. -/
structure Spared (k : Nat × Nat) (v v' : Nat → Option ObjectAuthinfo) : Prop where
  back : ∀ id a', v' id = some a' → ObjectAuthinfo.pair a' = k → ∃ a, v id = some a ∧ Spares a a'
  forth : ∀ id a, v id = some a → ObjectAuthinfo.pair a = k → ∃ a', v' id = some a' ∧ Spares a a'

theorem spared_of_eq (h : v = v') : Spared k v v' := by
  subst h
  exact ⟨fun _ a ha _ => ⟨a, ha, spares_refl a⟩, fun _ a ha _ => ⟨a, ha, spares_refl a⟩⟩

theorem LastStored.spared (h : LastStored k v) (hs : Spared k v v') : LastStored k v' := by
  intro id a' ha' hk
  obtain ⟨a, ha, hspares⟩ := hs.back id a' ha' hk
  have hlast := h id a ha (hspares.pair ▸ hk)
  have hids : (∀ id' b, v' id' = some b → ObjectAuthinfo.pair b = k → id' ≤ id) ↔
      ∀ id' b, v id' = some b → ObjectAuthinfo.pair b = k → id' ≤ id := by
    constructor
    · intro hmax id' b hb hkb
      obtain ⟨b', hb', hspares'⟩ := hs.forth id' b hb hkb
      exact hmax id' b' hb' (hspares'.pair.trans hkb)
    · intro hmax id' b hb hkb
      obtain ⟨b₀, hb₀, hspares'⟩ := hs.back id' b hb hkb
      exact hmax id' b₀ hb₀ (hspares'.pair ▸ hkb)
  rw [hids]
  constructor
  · intro hu
    exact ⟨hu.1, (hlast.mp (hspares.of_usable hu)).2⟩
  · rintro ⟨hcanceled, hmax⟩
    obtain ⟨hcanceled₀, hu⟩ := hspares.usable hcanceled
    exact hu.mpr (hlast.mpr ⟨hcanceled₀, hmax⟩)

/-- The statement is the UPDATE of StoreAuthinfo for the pair. -/
def Deactivates (k : Nat × Nat) : Statement → Prop
  | .deactivatePassword op _ _ => op.pair = k
  | _ => False

theorem assign_pair {now : Timestamp} :
    ObjectAuthinfo.pair (statement.assign now a) = ObjectAuthinfo.pair a := by
  cases statement with
  | visit op id rest =>
    simp only [Statement.assign]
    split <;> rfl
  | deactivatePassword op salt plaintext => rfl
  | selectForUpdate op => rfl
  | cleanAuthinfo objectId => rfl
  | cleanExpiredAuthinfos => rfl

/-- Other statements spare the authinfos of the pair. -/
theorem spares_assign {now : Timestamp} (hk : ObjectAuthinfo.pair a = k) (hs : statement.Selects now a)
    (hd : ¬ Deactivates k statement) : Spares a (statement.assign now a) := by
  cases statement with
  | deactivatePassword op salt plaintext =>
    obtain ⟨hobject, hregistrar, -⟩ := hs
    exact absurd (hk ▸ Prod.ext hobject.symm hregistrar.symm) hd
  | selectForUpdate op => exact spares_refl a
  | visit op id rest =>
    simp only [Statement.assign]
    split
    · exact (spares_use a).trans (spares_cancel now _)
    · exact spares_use a
  | cleanAuthinfo objectId => exact spares_cancel now a
  | cleanExpiredAuthinfos => exact spares_cancel now a

/-- The UPDATE of StoreAuthinfo selects the usable authinfos of its pair and leaves none usable. -/
theorem selects_of_deactivates {now : Timestamp} (hd : Deactivates k statement)
    (hk : ObjectAuthinfo.pair a = k) (hu : Usable a) : statement.Selects now a := by
  cases statement with
  | deactivatePassword op salt plaintext =>
    have heq : op.pair = ObjectAuthinfo.pair a := hd.trans hk.symm
    exact ⟨(Prod.ext_iff.mp heq).1.symm, (Prod.ext_iff.mp heq).2.symm, hu⟩
  | selectForUpdate op => exact hd.elim
  | visit op id rest => exact hd.elim
  | cleanAuthinfo objectId => exact hd.elim
  | cleanExpiredAuthinfos => exact hd.elim

theorem not_usable_assign {now : Timestamp} (hd : Deactivates k statement) :
    ¬ Usable (statement.assign now a) := by
  cases statement with
  | deactivatePassword op salt plaintext => exact fun hu => absurd hu.2 (by simp [Statement.assign])
  | selectForUpdate op => exact hd.elim
  | visit op id rest => exact hd.elim
  | cleanAuthinfo objectId => exact hd.elim
  | cleanExpiredAuthinfos => exact hd.elim

/-- The transaction is between the UPDATE and the INSERT of StoreAuthinfo for the pair. -/
def Replaces (k : Nat × Nat) : Control → Prop
  | .running statement _ _ => Deactivates k statement
  | .storePassword op _ _ => op.pair = k
  | _ => False

/-- The usable authinfos of the pair that are left to deactivate. -/
def LeftOver (k : Nat × Nat) (v : Nat → Option ObjectAuthinfo) (todo : List Nat) : Prop :=
  ∀ id a, v id = some a → ObjectAuthinfo.pair a = k → Usable a → id ∈ todo

/-- How far a transaction has come with storing a password of the pair, by what it sees. -/
structure Storing (k : Nat × Nat) (v : Nat → Option ObjectAuthinfo) (control : Control) : Prop where
  stored : ¬ Replaces k control → LastStored k v
  running : ∀ statement todo done, control = .running statement todo done → Deactivates k statement →
    LeftOver k v todo
  deactivated : ∀ op salt plaintext, control = .storePassword op salt plaintext → op.pair = k →
    LeftOver k v []

theorem LeftOver.spared {todo : List Nat} (h : LeftOver k v todo) (hs : Spared k v v') :
    LeftOver k v' todo := by
  intro id a' ha' hk hu
  obtain ⟨a, ha, hspares⟩ := hs.back id a' ha' hk
  exact h id a ha (hspares.pair ▸ hk) (hspares.of_usable hu)

theorem Storing.spared {control : Control} (h : Storing k v control) (hs : Spared k v v') :
    Storing k v' control where
  stored hn := (h.stored hn).spared hs
  running statement todo done hc hd := (h.running statement todo done hc hd).spared hs
  deactivated op salt plaintext hc hk := (h.deactivated op salt plaintext hc hk).spared hs

/-- What holds in every state of a run. -/
structure Inv (s : Server) : Prop where
  fresh : ∀ id, s.seq ≤ id → s.rows id = Slot.empty
  committed : ∀ k, LastStored k s.committed
  pending : ∀ id t a, (s.rows id).pending = some (t, a) → ∃ c, s.clients t = some c ∧
    (∀ a₀, s.committed id = some a₀ → ObjectAuthinfo.pair a = ObjectAuthinfo.pair a₀ ∧
      (ObjectAuthinfo.pair a ∉ c.storing → Spares a₀ a)) ∧
    (s.committed id = none → ObjectAuthinfo.pair a ∈ c.storing)
  exclusive : ∀ t t' c c' k, s.clients t = some c → s.clients t' = some c' → k ∈ c.storing →
    k ∈ c'.storing → t = t'
  storing : ∀ t c, s.clients t = some c → ∀ k ∈ c.storing, Storing k (s.view t) c.control
  replacing : ∀ t c, s.clients t = some c → ∀ k, Replaces k c.control → k ∈ c.storing

theorem inv_initial (h : s.Initial) : Inv s := by
  have hcommitted : ∀ id, s.committed id = none := fun id => by simp [Server.committed, h.1, Slot.empty]
  refine ⟨fun id _ => h.1 id, fun k id a ha => ?_, fun id t a ha => ?_, fun t t' c c' k hc => ?_,
    fun t c hc => ?_, fun t c hc => ?_⟩
  · simp [hcommitted] at ha
  · simp [h.1, Slot.empty] at ha
  all_goals simp [h.2] at hc

/-- A transaction sees the committed authinfos of a pair, some of them canceled perhaps, unless it
stores a password of the pair. -/
theorem Inv.spared (hi : Inv s) (hc : s.clients t = some c) (hk : k ∉ c.storing) :
    Spared k s.committed (s.view t) := by
  have hpending : ∀ id a, (s.rows id).pending = some (t, a) →
      (∀ a₀, s.committed id = some a₀ → ObjectAuthinfo.pair a = ObjectAuthinfo.pair a₀ ∧
        (ObjectAuthinfo.pair a ∉ c.storing → Spares a₀ a)) ∧
      (s.committed id = none → ObjectAuthinfo.pair a ∈ c.storing) := by
    intro id a ha
    obtain ⟨c₀, hc₀, h⟩ := hi.pending id t a ha
    obtain rfl : c = c₀ := Option.some.inj (hc.symm.trans hc₀)
    exact h
  constructor
  · intro id a' ha' hpair
    rcases Slot.view_eq_some ha' with hwritten | ⟨-, hcommitted⟩
    · obtain ⟨hold, hnew⟩ := hpending id a' hwritten
      cases ha : s.committed id with
      | none => exact absurd (hpair ▸ hnew ha) hk
      | some a => exact ⟨a, rfl, (hold a ha).2 (hpair ▸ hk)⟩
    · exact ⟨a', hcommitted, spares_refl a'⟩
  · intro id a ha hpair
    by_cases hw : (s.rows id).WrittenBy t
    · obtain ⟨⟨t₀, a'⟩, hp, rfl⟩ := hw
      obtain ⟨hold, -⟩ := hpending id a' hp
      obtain ⟨hpair', hspares⟩ := hold a ha
      refine ⟨a', ?_, hspares (by rwa [hpair', hpair])⟩
      simp [Server.view, Slot.view, Slot.WrittenBy, Option.mem_def.mp hp]
    · exact ⟨a, (Slot.view_of_not_writtenBy hw).trans ha, spares_refl a⟩

/-- Of every pair, a transaction that is between its calls sees the last authinfo usable. -/
theorem Inv.lastStored_view (hi : Inv s) (hc : s.clients t = some c) (hn : ¬ Replaces k c.control) :
    LastStored k (s.view t) := by
  by_cases hk : k ∈ c.storing
  · exact (hi.storing t c hc k hk).stored hn
  · exact (hi.committed k).spared (hi.spared hc hk)

theorem clients_setClient (h : (s.setClient t (some c)).clients t' = some c') :
    t' = t ∧ c' = c ∨ t' ≠ t ∧ s.clients t' = some c' := by
  by_cases ht : t' = t
  · subst ht
    exact .inl ⟨rfl, by simpa [Server.setClient] using h.symm⟩
  · exact .inr ⟨ht, by simpa [Server.setClient, ht] using h⟩

/-- A step that writes to no row. -/
theorem Inv.setClient (hi : Inv s) (hstoring : ∀ c₀, s.clients t = some c₀ → c₀.storing ⊆ c.storing)
    (hexclusive : ∀ t' c', t' ≠ t → s.clients t' = some c' → ∀ k ∈ c.storing, k ∉ c'.storing)
    (hprogress : ∀ k ∈ c.storing, Storing k (s.view t) c.control)
    (hreplacing : ∀ k, Replaces k c.control → k ∈ c.storing) : Inv (s.setClient t (some c)) := by
  refine ⟨hi.fresh, hi.committed, fun id t' a ha => ?_, fun t₁ t₂ c₁ c₂ k h₁ h₂ hk₁ hk₂ => ?_,
    fun t' c' h k hk => ?_, fun t' c' h k hk => ?_⟩
  · obtain ⟨c₀, hc₀, hold, hnew⟩ := hi.pending id t' a ha
    by_cases ht : t' = t
    · subst ht
      have hsub := hstoring c₀ hc₀
      exact ⟨c, by simp [Server.setClient], fun a₀ ha₀ =>
        ⟨(hold a₀ ha₀).1, fun hk => (hold a₀ ha₀).2 fun hk₀ => hk (hsub hk₀)⟩,
        fun hnone => hsub (hnew hnone)⟩
    · exact ⟨c₀, by simpa [Server.setClient, ht] using hc₀, hold, hnew⟩
  · rcases clients_setClient h₁ with ⟨rfl, rfl⟩ | ⟨hne₁, hold₁⟩ <;>
      rcases clients_setClient h₂ with ⟨rfl, rfl⟩ | ⟨hne₂, hold₂⟩
    · rfl
    · exact absurd hk₂ (hexclusive t₂ c₂ hne₂ hold₂ k hk₁)
    · exact absurd hk₁ (hexclusive t₁ c₁ hne₁ hold₁ k hk₂)
    · exact hi.exclusive t₁ t₂ c₁ c₂ k hold₁ hold₂ hk₁ hk₂
  · rcases clients_setClient h with ⟨rfl, rfl⟩ | ⟨-, h⟩
    · exact hprogress k hk
    · exact hi.storing t' c' h k hk
  · rcases clients_setClient h with ⟨rfl, rfl⟩ | ⟨-, h⟩
    · exact hreplacing k hk
    · exact hi.replacing t' c' h k hk

/-- A step of a transaction that only moves on. -/
theorem Inv.setControl {control : Control} (hi : Inv s) (hc : s.clients t = some c)
    (hprogress : ∀ k ∈ c.storing, Storing k (s.view t) control)
    (hreplacing : ∀ k, Replaces k control → k ∈ c.storing) :
    Inv (s.setClient t (some { c with control := control })) := by
  refine hi.setClient (fun c₀ hc₀ => ?_) (fun t' c' hne hc' k hk hk' => ?_) hprogress hreplacing
  · obtain rfl : c = c₀ := Option.some.inj (hc.symm.trans hc₀)
    exact fun _ hk => hk
  · exact hne (hi.exclusive t' t c' c k hc' hc hk' hk)

theorem storing_of_lastStored {control : Control} (h : LastStored k v) (hn : ¬ Replaces k control) :
    Storing k v control where
  stored _ := h
  running _ _ _ hc hd := absurd (by rwa [hc]) hn
  deactivated _ _ _ hc hk := absurd (by rwa [hc]) hn

theorem spared_update (ha : v id = some a) (h : ObjectAuthinfo.pair a = k → Spares a a')
    (hpair : ObjectAuthinfo.pair a' = ObjectAuthinfo.pair a) :
    Spared k v (Function.update v id (some a')) := by
  constructor
  · intro id' b hb hk
    by_cases hid : id' = id
    · subst hid
      obtain rfl : a' = b := by simpa using hb
      exact ⟨a, ha, h (hpair ▸ hk)⟩
    · exact ⟨b, by simpa [hid] using hb, spares_refl b⟩
  · intro id' b hb hk
    by_cases hid : id' = id
    · subst hid
      obtain rfl : a = b := Option.some.inj (ha.symm.trans hb)
      exact ⟨a', by simp, h hk⟩
    · exact ⟨b, by simpa [hid] using hb, spares_refl b⟩

theorem LeftOver.update {todo : List Nat} (h : LeftOver k v todo) (ha' : ¬ Usable a') :
    LeftOver k (Function.update v id (some a')) todo := by
  intro id' b hb hk hu
  by_cases hid : id' = id
  · subst hid
    obtain rfl : a' = b := by simpa using hb
    exact absurd hu ha'
  · exact h id' b (by simpa [hid] using hb) hk hu

theorem committed_write : (s.write t id a).committed = s.committed := by
  funext id'
  by_cases hid : id' = id
  · subst hid
    simp [Server.write, Server.committed, Slot.write]
  · simp [Server.write, Server.committed, hid]

theorem view_write : (s.write t id a).view t = Function.update (s.view t) id (some a) := by
  funext id'
  by_cases hid : id' = id
  · subst hid
    simp [Server.write, Server.view]
  · simp [Server.write, Server.view, hid]

theorem view_write_of_ne (hfree : ¬ (s.rows id).LockedFor t) (hne : t ≠ t') :
    (s.write t id a).view t' = s.view t' := by
  funext id'
  by_cases hid : id' = id
  · subst hid
    simp [Server.write, Server.view, Slot.view_write_of_ne hfree hne]
  · simp [Server.write, Server.view, hid]

theorem pending_write {b : ObjectAuthinfo} {id' : Nat}
    (h : ((s.write t id a).rows id').pending = some (t', b)) :
    id' = id ∧ t' = t ∧ b = a ∨ (s.rows id').pending = some (t', b) := by
  by_cases hid : id' = id
  · subst hid
    obtain ⟨rfl, rfl⟩ : t = t' ∧ a = b := by simpa [Server.write, Slot.write] using h
    exact .inl ⟨rfl, rfl, rfl⟩
  · exact .inr (by simpa [Server.write, hid] using h)

/-- A statement locks a row and writes it. -/
theorem Inv.write {todo : List Nat} {done : List ObjectAuthinfo} (hi : Inv s)
    (hc : s.clients t = some c) (hcontrol : c.control = .running statement todo done)
    (hfree : ¬ (s.rows id).LockedFor t) (ha : s.view t id = some a)
    (hs : statement.Selects c.now a) : Inv (s.write t id (statement.assign c.now a)) := by
  have hseq : id < s.seq := by
    by_contra hle
    simp [Server.view, hi.fresh id (not_lt.mp hle)] at ha
  have hpair : ObjectAuthinfo.pair (statement.assign c.now a) = ObjectAuthinfo.pair a := assign_pair
  refine ⟨fun id' hid' => ?_, fun k => ?_, fun id' t' a' ha' => ?_, hi.exclusive,
    fun t' c' hc' k hk => ?_, hi.replacing⟩
  · have hne : id' ≠ id := (hseq.trans_le hid').ne'
    simpa [Server.write, hne] using hi.fresh id' hid'
  · rw [committed_write]
    exact hi.committed k
  · rw [committed_write]
    rcases pending_write ha' with ⟨rfl, rfl, rfl⟩ | hold
    · refine ⟨c, hc, ?_⟩
      rw [hpair]
      have hspares : ObjectAuthinfo.pair a ∉ c.storing → Spares a (statement.assign c.now a) :=
        fun hk => spares_assign rfl hs fun hd =>
          hk (hi.replacing _ c hc _ (by rw [hcontrol]; exact hd))
      rcases Slot.view_eq_some ha with hwritten | ⟨-, hcommitted⟩
      · obtain ⟨c₀, hc₀, hold, hnew⟩ := hi.pending _ _ a hwritten
        obtain rfl : c = c₀ := Option.some.inj (hc.symm.trans hc₀)
        exact ⟨fun a₀ ha₀ => ⟨(hold a₀ ha₀).1, fun hk => ((hold a₀ ha₀).2 hk).trans (hspares hk)⟩, hnew⟩
      · refine ⟨fun a₀ ha₀ => ?_, fun hnone => ?_⟩
        · obtain rfl : a = a₀ := Option.some.inj (hcommitted.symm.trans ha₀)
          exact ⟨rfl, hspares⟩
        · exact absurd (hnone.symm.trans hcommitted) (by simp)
    · exact hi.pending id' t' a' hold
  · by_cases ht : t = t'
    · subst ht
      obtain rfl : c = c' := Option.some.inj (hc.symm.trans hc')
      have hstoring := hi.storing t c hc k hk
      rw [view_write]
      by_cases hd : Deactivates k statement
      · refine ⟨fun hn => absurd (by rw [hcontrol]; exact hd) hn, fun st todo' done' heq hd' => ?_,
          fun op salt plaintext heq => by rw [hcontrol] at heq; cases heq⟩
        exact (hstoring.running st todo' done' heq hd').update (not_usable_assign hd)
      · exact hstoring.spared (spared_update ha (fun hk => spares_assign hk hs hd) hpair)
    · rw [view_write_of_ne hfree ht]
      exact hi.storing t' c' hc' k hk

/-- A row of the snapshot that is done is not usable any more, should the statement deactivate it. -/
theorem LeftOver.erase {todo : List Nat} (h : LeftOver k v todo)
    (hdone : ∀ a, v id = some a → ObjectAuthinfo.pair a = k → ¬ Usable a) :
    LeftOver k v (todo.erase id) := by
  intro id' a ha hk hu
  have hne : id' ≠ id := by
    rintro rfl
    exact hdone a ha hk hu
  exact (List.mem_erase_of_ne hne).mpr (h id' a ha hk hu)

/-- The row is done: it was written, or it does not meet the condition of the statement. -/
theorem Inv.rowDone {todo : List Nat} {done done' : List ObjectAuthinfo} (hi : Inv s)
    (hc : s.clients t = some c) (hcontrol : c.control = .running statement todo done)
    (hdone : ∀ k a, Deactivates k statement → s.view t id = some a → ObjectAuthinfo.pair a = k →
      ¬ Usable a) :
    Inv (s.setClient t (some { c with control := .running statement (todo.erase id) done' })) := by
  refine hi.setControl hc (fun k hk => ?_) fun k hr => ?_
  · have hstoring := hi.storing t c hc k hk
    refine ⟨fun hn => hstoring.stored (by rwa [hcontrol]), fun st todo' done'' heq hd => ?_, nofun⟩
    obtain ⟨rfl, rfl, rfl⟩ := Control.running.inj heq
    exact (hstoring.running _ todo done hcontrol hd).erase fun a => hdone k a hd
  · exact hi.replacing t c hc k (by rwa [hcontrol])

theorem inv_doRow {todo : List Nat} {done : List ObjectAuthinfo} (hi : Inv s)
    (hc : s.clients t = some c) (hcontrol : c.control = .running statement todo done) :
    Inv (s.doRow t c statement todo done id) := by
  unfold Server.doRow
  split
  · exact hi
  rename_i hfree
  split
  · rename_i hnone
    exact hi.rowDone hc hcontrol fun k a _ ha => absurd (hnone.symm.trans ha) (by simp)
  rename_i a ha
  split
  · rename_i hs
    have hw := hi.write hc hcontrol hfree ha hs
    refine Inv.rowDone hw hc hcontrol fun k b hd hb _ => ?_
    rw [view_write, Function.update_self] at hb
    obtain rfl := Option.some.inj hb
    exact not_usable_assign hd
  · rename_i hs
    refine hi.rowDone hc hcontrol fun k b hd hb hk hu => hs ?_
    obtain rfl : a = b := Option.some.inj (ha.symm.trans hb)
    exact selects_of_deactivates hd hk hu

theorem after_running {done : List ObjectAuthinfo} {st : Statement} {todo : List Nat}
    {done' : List ObjectAuthinfo} : statement.after done ≠ .running st todo done' := by
  cases statement with
  | visit op id rest =>
    simp only [Statement.after]
    split <;> simp
  | deactivatePassword op salt plaintext => simp [Statement.after]
  | selectForUpdate op => simp [Statement.after]
  | cleanAuthinfo objectId => simp [Statement.after]
  | cleanExpiredAuthinfos => simp [Statement.after]

theorem deactivates_of_after {done : List ObjectAuthinfo} :
    Replaces k (statement.after done) ↔ Deactivates k statement := by
  cases statement with
  | visit op id rest =>
    simp only [Statement.after, Deactivates]
    split <;> simp [Replaces]
  | deactivatePassword op salt plaintext => exact Iff.rfl
  | selectForUpdate op => exact Iff.rfl
  | cleanAuthinfo objectId => exact Iff.rfl
  | cleanExpiredAuthinfos => exact Iff.rfl

theorem inv_finish {done : List ObjectAuthinfo} (hi : Inv s) (hc : s.clients t = some c)
    (hcontrol : c.control = .running statement [] done) :
    Inv (s.setClient t (some { c with control := statement.after done })) := by
  refine hi.setControl hc (fun k hk => ?_) fun k hr => ?_
  · have hstoring := hi.storing t c hc k hk
    refine ⟨fun hn => hstoring.stored (by rw [hcontrol]; exact mt deactivates_of_after.mpr hn),
      fun st todo done' heq => absurd heq after_running, fun op salt plaintext heq hpair => ?_⟩
    have hd : Deactivates k statement := by
      rw [← deactivates_of_after, heq]
      exact hpair
    exact hstoring.running statement [] done hcontrol hd
  · refine hi.replacing t c hc k ?_
    rw [hcontrol]
    exact deactivates_of_after.mp hr

theorem view_fresh (hi : Inv s) (hid : s.seq ≤ id) : s.view t id = none := by
  simp [Server.view, hi.fresh id hid]

/-- A row of another pair is inserted. -/
theorem spared_insert (hnone : v id = none) (hpair : ObjectAuthinfo.pair a ≠ k) :
    Spared k v (Function.update v id (some a)) := by
  constructor
  · intro id' b hb hk
    by_cases hid : id' = id
    · subst hid
      obtain rfl : a = b := by simpa using hb
      exact absurd hk hpair
    · exact ⟨b, by simpa [hid] using hb, spares_refl b⟩
  · intro id' b hb hk
    have hid : id' ≠ id := by
      rintro rfl
      exact absurd (hnone.symm.trans hb) (by simp)
    exact ⟨b, by simpa [hid] using hb, spares_refl b⟩

/-- When none is usable, one that is inserted is the last. -/
theorem lastStored_insert (hleft : LeftOver k v []) (hbound : ∀ id' b, v id' = some b → id' < id)
    (hk : ObjectAuthinfo.pair a = k) (hu : Usable a) :
    LastStored k (Function.update v id (some a)) := by
  intro id₁ a₁ ha₁ hk₁
  by_cases hid : id₁ = id
  · subst hid
    obtain rfl : a = a₁ := by simpa using ha₁
    refine ⟨fun _ => ⟨hu.1, fun id' b hb _ => ?_⟩, fun _ => hu⟩
    by_cases hid' : id' = id₁
    · exact hid'.le
    · exact (hbound id' b (by simpa [hid'] using hb)).le
  · have hold : v id₁ = some a₁ := by simpa [hid] using ha₁
    have hnot : ¬ Usable a₁ := fun hu₁ => by simpa using hleft id₁ a₁ hold hk₁ hu₁
    refine ⟨fun hu₁ => absurd hu₁ hnot, fun ⟨_, hmax⟩ => ?_⟩
    have hle : id ≤ id₁ := hmax id a (by simp) hk
    exact absurd (hbound id₁ a₁ hold) (not_lt.mpr hle)

/-- The INSERT of StoreAuthinfo. -/
theorem inv_storePassword {op : StoreAuthinfo} {salt plaintext password : String} (hi : Inv s)
    (hc : s.clients t = some c) (hcontrol : c.control = .storePassword op salt plaintext)
    (hpassword : password ≠ "") : Inv (s.storePassword t c op password) := by
  have hstores : op.pair ∈ c.storing := hi.replacing t c hc op.pair (by rw [hcontrol]; rfl)
  have hslot : s.rows s.seq = Slot.empty := hi.fresh s.seq le_rfl
  have hfree : ¬ (s.rows s.seq).LockedFor t := by simp [hslot, Slot.LockedFor, Slot.empty]
  have hnone : s.committed s.seq = none := by simp [Server.committed, hslot, Slot.empty]
  have hbound : ∀ id a, s.view t id = some a → id < s.seq := by
    intro id a ha
    by_contra hle
    exact absurd ((view_fresh hi (not_lt.mp hle)).symm.trans ha) (by simp)
  -- The row that is inserted.
  obtain ⟨new, hnew⟩ : ∃ new : ObjectAuthinfo, new = ⟨s.seq, op.objectId, op.registrarId, some password,
    c.now, c.now + op.ttl, none, 0⟩ := ⟨_, rfl⟩
  have hpair : ObjectAuthinfo.pair new = op.pair := by rw [hnew]; rfl
  have husable : Usable new := by
    rw [hnew]
    exact ⟨rfl, holds_ne_some.mpr hpassword⟩
  rw [Server.storePassword, ← hnew]
  refine ⟨fun id hid => ?_, fun k => ?_, fun id t' a ha => ?_, fun t₁ t₂ c₁ c₂ k h₁ h₂ hk₁ hk₂ => ?_,
    fun t' c' h k hk => ?_, fun t' c' h k hk => ?_⟩
  · have hid : s.seq + 1 ≤ id := hid
    have hne : id ≠ s.seq := by omega
    simpa [Server.setClient, Server.write, hne] using hi.fresh id (by omega)
  · show LastStored k (s.write t s.seq new).committed
    rw [committed_write]
    exact hi.committed k
  · show ∃ c₁, _ ∧ (∀ a₀, (s.write t s.seq new).committed id = some a₀ → _) ∧
      ((s.write t s.seq new).committed id = none → _)
    rw [committed_write]
    rcases pending_write ha with ⟨rfl, rfl, rfl⟩ | hold
    · exact ⟨{ c with control := .idle }, by simp [Server.setClient],
        fun a₀ ha₀ => absurd (hnone.symm.trans ha₀) (by simp), fun _ => hpair ▸ hstores⟩
    · obtain ⟨c₀, hc₀, hkept⟩ := hi.pending id t' a hold
      by_cases ht : t' = t
      · subst ht
        obtain rfl : c = c₀ := Option.some.inj (hc.symm.trans hc₀)
        exact ⟨{ c with control := .idle }, by simp [Server.setClient], hkept⟩
      · exact ⟨c₀, by simpa [Server.setClient, Server.write, ht] using hc₀, hkept⟩
  · rcases clients_setClient h₁ with ⟨rfl, rfl⟩ | ⟨hne₁, hold₁⟩ <;>
      rcases clients_setClient h₂ with ⟨rfl, rfl⟩ | ⟨hne₂, hold₂⟩
    · rfl
    · exact hi.exclusive _ _ c c₂ k hc hold₂ hk₁ hk₂
    · exact hi.exclusive _ _ c₁ c k hold₁ hc hk₁ hk₂
    · exact hi.exclusive _ _ c₁ c₂ k hold₁ hold₂ hk₁ hk₂
  · show Storing k ((s.write t s.seq new).view t') c'.control
    rcases clients_setClient h with ⟨rfl, rfl⟩ | ⟨hne, hold⟩
    · have hstoring := hi.storing _ c hc k hk
      rw [view_write]
      refine storing_of_lastStored ?_ id
      by_cases hk' : op.pair = k
      · have hleft := hstoring.deactivated op salt plaintext hcontrol hk'
        exact lastStored_insert hleft hbound (hpair.trans hk') husable
      · refine (hstoring.stored (by rw [hcontrol]; exact hk')).spared (spared_insert ?_ ?_)
        · exact view_fresh hi le_rfl
        · rwa [hpair]
    · rw [view_write_of_ne hfree hne.symm]
      exact hi.storing t' c' hold k hk
  · rcases clients_setClient h with ⟨rfl, rfl⟩ | ⟨-, hold⟩
    · exact hk.elim
    · exact hi.replacing t' c' hold k hk

theorem inv_snapshot (hi : Inv s) (hc : s.clients t = some c) (hcontrol : c.control = .next statement)
    (hexclusive : ∀ k, Deactivates k statement → ∀ t' c', t' ≠ t → s.clients t' = some c' →
      k ∉ c'.storing) :
    Inv (s.setClient t (some { c with
      storing := Server.storingAfter c statement
      control := .running statement (s.candidates t c.now statement) [] })) := by
  have hmem : ∀ k, k ∈ Server.storingAfter c statement ↔ Deactivates k statement ∨ k ∈ c.storing := by
    intro k
    cases statement with
    | deactivatePassword op salt plaintext =>
      simp [Server.storingAfter, Deactivates, eq_comm]
    | selectForUpdate op => simp [Server.storingAfter, Deactivates]
    | visit op id rest => simp [Server.storingAfter, Deactivates]
    | cleanAuthinfo objectId => simp [Server.storingAfter, Deactivates]
    | cleanExpiredAuthinfos => simp [Server.storingAfter, Deactivates]
  refine hi.setClient (fun c₀ hc₀ => ?_) (fun t' c' hne hc' k hk hk' => ?_) (fun k hk => ?_)
    fun k hr => (hmem k).mpr (.inl hr)
  · obtain rfl : c = c₀ := Option.some.inj (hc.symm.trans hc₀)
    exact fun k hk => (hmem k).mpr (.inr hk)
  · rcases (hmem k).mp hk with hd | hk
    · exact hexclusive k hd t' c' hne hc' hk'
    · exact hne (hi.exclusive t' t c' c k hc' hc hk' hk)
  · refine ⟨fun hn => ?_, fun st todo done heq hd => ?_, ?_⟩
    · exact hi.lastStored_view hc (by simp [hcontrol, Replaces])
    · obtain ⟨rfl, rfl, rfl⟩ := Control.running.inj heq
      intro id a ha hpair hu
      have hseq : id < s.seq := by
        by_contra hle
        exact absurd ((view_fresh hi (not_lt.mp hle)).symm.trans ha) (by simp)
      simp only [Server.candidates, List.mem_filter, List.mem_range, decide_eq_true_iff]
      exact ⟨hseq, a, ha, selects_of_deactivates hd hpair hu⟩
    · intro op salt plaintext heq
      cases heq

theorem inv_visitAuthinfo {op : CheckAuthinfo} {rows : List ObjectAuthinfo} (hi : Inv s)
    (hc : s.clients t = some c) (hcontrol : c.control = .visitAuthinfos op rows) :
    Inv (s.setClient t (some (Server.visitAuthinfo storage c op rows))) := by
  have hmoves : ∀ control, (∀ k, ¬ Replaces k control) →
      Inv (s.setClient t (some { c with control := control })) := by
    intro control hn
    refine hi.setControl hc (fun k hk => ?_) fun k hr => absurd hr (hn k)
    exact storing_of_lastStored (hi.lastStored_view hc (by simp [hcontrol, Replaces])) (hn k)
  cases rows with
  | nil => exact hmoves .idle fun _ => id
  | cons a rows =>
    rw [Server.visitAuthinfo]
    split
    · exact hmoves (.next (.visit op a.id rows)) fun _ => id
    · exact hmoves (.visitAuthinfos op rows) fun _ => id
    · exact hmoves .idle fun _ => id

theorem clients_closed (h : (s.setClient t none).clients t' = some c') :
    t' ≠ t ∧ s.clients t' = some c' := by
  by_cases ht : t' = t
  · subst ht
    simp [Server.setClient] at h
  · exact ⟨ht, by simpa [Server.setClient, ht] using h⟩

/-- A transaction sees of a pair that it stores a password of what another one commits, which has
spared the authinfos of the pair. -/
theorem spared_commit (hi : Inv s) (hc : s.clients t = some c) (hne : t ≠ t') (hk : k ∉ c.storing) :
    Spared k (s.view t') fun id => ((s.rows id).commit t).view t' := by
  have hpending : ∀ id a, (s.rows id).pending = some (t, a) →
      (ObjectAuthinfo.pair a = k → ∃ a₀, s.committed id = some a₀ ∧ Spares a₀ a) ∧
      ∀ a₀, s.committed id = some a₀ → ObjectAuthinfo.pair a = ObjectAuthinfo.pair a₀ := by
    intro id a ha
    obtain ⟨c₀, hc₀, hold, hnew⟩ := hi.pending id t a ha
    obtain rfl : c = c₀ := Option.some.inj (hc.symm.trans hc₀)
    refine ⟨fun hpair => ?_, fun a₀ ha₀ => (hold a₀ ha₀).1⟩
    cases ha₀ : s.committed id with
    | none => exact absurd (hpair ▸ hnew ha₀) hk
    | some a₀ => exact ⟨a₀, rfl, (hold a₀ ha₀).2 (hpair ▸ hk)⟩
  constructor
  · intro id a' ha' hpair
    rcases Slot.view_commit (s := s.rows id) hne with hsame | ⟨a, hp, hview, hnow⟩
    · exact ⟨a', hsame.symm.trans ha', spares_refl a'⟩
    · obtain rfl : a = a' := Option.some.inj (hnow.symm.trans ha')
      obtain ⟨a₀, ha₀, hspares⟩ := (hpending id a hp).1 hpair
      exact ⟨a₀, hview.trans ha₀, hspares⟩
  · intro id a₀ ha₀ hpair
    rcases Slot.view_commit (s := s.rows id) hne with hsame | ⟨a, hp, hview, hnow⟩
    · exact ⟨a₀, hsame.trans ha₀, spares_refl a₀⟩
    · have hcommitted : s.committed id = some a₀ := hview.symm.trans ha₀
      obtain ⟨a₁, ha₁, hspares⟩ :=
        (hpending id a hp).1 (((hpending id a hp).2 a₀ hcommitted).trans hpair)
      obtain rfl : a₀ = a₁ := Option.some.inj (hcommitted.symm.trans ha₁)
      exact ⟨a, hnow, hspares⟩

theorem inv_commit (hi : Inv s) (hc : s.clients t = some c) (hcontrol : c.control = .idle) :
    Inv ({ s with rows := fun id => (s.rows id).commit t }.setClient t none) := by
  refine ⟨fun id hid => ?_, fun k => ?_, fun id t' a ha => ?_, fun t₁ t₂ c₁ c₂ k h₁ h₂ hk₁ hk₂ => ?_,
    fun t' c' h k hk => ?_, fun t' c' h k hk => ?_⟩
  · show (s.rows id).commit t = Slot.empty
    rw [hi.fresh id hid]
    exact Slot.commit_of_not_writtenBy Slot.not_writtenBy_none
  · exact hi.lastStored_view hc (by simp [hcontrol, Replaces])
  · obtain ⟨hp, hw, hne⟩ := Slot.pending_commit ha
    obtain ⟨c₀, hc₀, hkept⟩ := hi.pending id t' a hp
    refine ⟨c₀, by simpa [Server.setClient, hne] using hc₀, ?_⟩
    show (∀ a₀, ((s.rows id).commit t).committed = some a₀ → _) ∧
      (((s.rows id).commit t).committed = none → _)
    rw [Slot.commit_of_not_writtenBy hw]
    exact hkept
  · obtain ⟨-, h₁⟩ := clients_closed h₁
    obtain ⟨-, h₂⟩ := clients_closed h₂
    exact hi.exclusive t₁ t₂ c₁ c₂ k h₁ h₂ hk₁ hk₂
  · obtain ⟨hne, h⟩ := clients_closed h
    have hk' : k ∉ c.storing := fun hkc => hne (hi.exclusive t' t c' c k h hc hk hkc)
    exact (hi.storing t' c' h k hk).spared (spared_commit hi hc hne.symm hk')
  · exact hi.replacing t' c' (clients_closed h).2 k hk

theorem inv_rollback (hi : Inv s) :
    Inv ({ s with rows := fun id => (s.rows id).rollback t }.setClient t none) := by
  refine ⟨fun id hid => ?_, hi.committed, fun id t' a ha => ?_,
    fun t₁ t₂ c₁ c₂ k h₁ h₂ hk₁ hk₂ => ?_, fun t' c' h k hk => ?_, fun t' c' h k hk => ?_⟩
  · show (s.rows id).rollback t = Slot.empty
    rw [hi.fresh id hid]
    simp [Slot.rollback, Slot.empty]
  · obtain ⟨hp, hne⟩ := Slot.pending_rollback ha
    obtain ⟨c₀, hc₀, hkept⟩ := hi.pending id t' a hp
    exact ⟨c₀, by simpa [Server.setClient, hne] using hc₀, hkept⟩
  · obtain ⟨-, h₁⟩ := clients_closed h₁
    obtain ⟨-, h₂⟩ := clients_closed h₂
    exact hi.exclusive t₁ t₂ c₁ c₂ k h₁ h₂ hk₁ hk₂
  · obtain ⟨hne, h⟩ := clients_closed h
    refine (hi.storing t' c' h k hk).spared (spared_of_eq (funext fun id => ?_))
    exact (Slot.view_rollback hne.symm).symm
  · exact hi.replacing t' c' (clients_closed h).2 k hk

/-- Every step of an open transaction keeps the invariant. -/
theorem inv_step {action : Action} (hi : Inv s) (hc : s.clients t = some c)
    (hexclusive : Server.Exclusive ⟨t, action⟩ s) : Inv (s.step storage t c action) := by
  cases action with
  | start now => exact hi
  | call call =>
    simp only [Server.step]
    split
    · rename_i hcontrol
      have hn : ∀ k, ¬ Replaces k (call.begin s.others) := by
        intro k
        cases call with
        | storeAuthinfo op salt plaintext =>
          simp only [AuthinfoCall.begin]
          split <;> exact fun h => h
        | checkAuthinfo op =>
          simp only [AuthinfoCall.begin]
          split <;> exact fun h => h
        | cleanAuthinfo objectId => exact fun h => h
        | cleanExpiredAuthinfos => exact fun h => h
      refine hi.setControl hc (fun k hk => ?_) fun k hr => absurd hr (hn k)
      exact storing_of_lastStored (hi.lastStored_view hc (by simp [hcontrol, Replaces])) (hn k)
    · exact hi
  | snapshot =>
    simp only [Server.step]
    split
    · rename_i statement hcontrol
      refine inv_snapshot hi hc hcontrol fun k hd t' c' hne hc' => ?_
      cases statement with
      | deactivatePassword op salt plaintext =>
        have hpair : op.pair = k := hd
        rw [← hpair]
        exact hexclusive c op salt plaintext rfl hc hcontrol t' c' hne hc'
      | selectForUpdate op => exact hd.elim
      | visit op id rest => exact hd.elim
      | cleanAuthinfo objectId => exact hd.elim
      | cleanExpiredAuthinfos => exact hd.elim
    · exact hi
  | row id =>
    simp only [Server.step]
    split
    · rename_i statement todo done hcontrol
      split
      · exact inv_doRow hi hc hcontrol
      · exact hi
    · exact hi
  | finish =>
    simp only [Server.step]
    split
    · rename_i statement done hcontrol
      exact inv_finish hi hc hcontrol
    · exact hi
  | storePassword =>
    simp only [Server.step]
    split
    · rename_i op salt plaintext hcontrol
      exact inv_storePassword hi hc hcontrol (storage.encrypt_ne_empty salt plaintext)
    · exact hi
  | visitAuthinfo =>
    simp only [Server.step]
    split
    · rename_i op rows hcontrol
      exact inv_visitAuthinfo hi hc hcontrol
    · exact hi
  | commit =>
    simp only [Server.step]
    split
    · rename_i hcontrol
      exact inv_commit hi hc hcontrol
    · exact hi
  | rollback => exact inv_rollback hi

theorem inv_next {e : Event} (hi : Inv s) (he : Server.Exclusive e s) : Inv (Server.next storage e s) := by
  obtain ⟨t, action⟩ := e
  unfold Server.next
  split
  · rename_i c hc
    exact inv_step hi hc he
  · rename_i hnone
    split
    · refine hi.setClient (fun c₀ hc₀ => ?_) (fun _ _ _ _ k hk => ?_) (fun k hk => ?_) fun k hr => hr.elim
      · exact absurd (hnone.symm.trans hc₀) (by simp)
      · simp at hk
      · simp at hk
    · exact hi

theorem inv_reachable (h : Reachable (Server.next storage) Server.Exclusive Server.Initial s) : Inv s :=
  h.invariant (fun _ hinit => inv_initial hinit) fun _ _ he hi => inv_next hi he

/-- At most one committed authinfo of an object and a registrar is usable, the one that was stored
last; it is usable unless it was canceled. -/
def OneActive (s : Server) : Prop :=
  (∀ id id' a b, s.committed id = some a → s.committed id' = some b →
    ObjectAuthinfo.pair a = ObjectAuthinfo.pair b → Usable a → Usable b → id = id') ∧
  ∀ k, LastStored k s.committed

/-- In every run in which StoreAuthinfo replaces passwords of one object and registrar in one open
transaction at a time, the last password stored is the only usable one. -/
theorem one_active_authinfo
    (h : Reachable (Server.next storage) Server.Exclusive Server.Initial s) : OneActive s := by
  have hlast := (inv_reachable h).committed
  refine ⟨fun id id' a b ha hb hk hua hub => ?_, hlast⟩
  have hge := ((hlast (ObjectAuthinfo.pair a) id a ha rfl).mp hua).2 id' b hb hk.symm
  have hle := ((hlast (ObjectAuthinfo.pair a) id' b hb hk.symm).mp hub).2 id a ha rfl
  exact le_antisymm hle hge

/-- A step concerns one transaction. -/
theorem clients_next_of_ne {e : Event} (hne : t ≠ e.client) :
    (Server.next storage e s).clients t = s.clients t := by
  obtain ⟨t₀, action⟩ := e
  have hne : t ≠ t₀ := hne
  unfold Server.next
  split
  · cases action with
    | row id =>
      simp only [Server.step, Server.doRow]
      repeat' split
      all_goals simp [Server.setClient, Server.write, hne]
    | start now => rfl
    | call call => simp only [Server.step]; split <;> simp [Server.setClient, hne]
    | snapshot => simp only [Server.step]; split <;> simp [Server.setClient, hne]
    | finish => simp only [Server.step]; split <;> simp [Server.setClient, hne]
    | storePassword =>
      simp only [Server.step]
      split <;> simp [Server.storePassword, Server.setClient, Server.write, hne]
    | visitAuthinfo => simp only [Server.step]; split <;> simp [Server.setClient, hne]
    | commit => simp only [Server.step]; split <;> simp [Server.setClient, hne]
    | rollback => simp [Server.step, Server.setClient, hne]
  · split <;> simp [Server.setClient, hne]

theorem clients_run_of_ne {l : List Event} (hl : ∀ e ∈ l, t ≠ e.client) :
    (l.foldl (fun s e => Server.next storage e s) s).clients t = s.clients t := by
  induction l generalizing s with
  | nil => rfl
  | cons e l ih =>
    rw [List.foldl_cons, ih fun e' he' => hl e' (List.mem_cons_of_mem e he'),
      clients_next_of_ne (hl e List.mem_cons_self)]

/-- The pair whose password is replaced by the statement that is next. -/
def Control.replaces : Control → Option (Nat × Nat)
  | .next (.deactivatePassword op _ _) => some op.pair
  | _ => none

/-- None of the other transactions of the list replaces the password of the pair. -/
def Server.ExclusiveAmong (ts : List Nat) (e : Event) (s : Server) : Prop :=
  ∀ t ∈ ts, t ≠ e.client → ∀ c ∈ s.clients e.client, ∀ c' ∈ s.clients t,
    ∀ k ∈ c.control.replaces, ∀ k' ∈ c'.storing, k' ≠ k

instance Server.decidableExclusiveAmong (ts : List Nat) (e : Event) (s : Server) :
    Decidable (s.ExclusiveAmong ts e) := by
  unfold Server.ExclusiveAmong
  infer_instance

theorem exclusive_of_among (ts : List Nat) {e : Event} (hts : ∀ t, t ∉ ts → s.clients t = none)
    (h : s.ExclusiveAmong ts e) : s.Exclusive e := by
  intro c op salt plaintext _ hc hcontrol t c' hne hc'
  have ht : t ∈ ts := by
    by_contra hnot
    exact Option.some_ne_none c' (hc'.symm.trans (hts t hnot))
  have hreplaces : op.pair ∈ c.control.replaces := by
    rw [hcontrol]
    rfl
  exact fun hstoring => h t ht hne c hc c' hc' op.pair hreplaces op.pair hstoring rfl

/-- A server that knows a contact and two registrars. -/
def emptyServer : Server where
  others := unprotectedDb
  rows _ := Slot.empty
  seq := 1
  clients _ := none

theorem initial_emptyServer : emptyServer.Initial := ⟨fun _ => rfl, fun _ => rfl⟩

/-- The statements of StoreAuthinfo in a transaction. -/
def storing (t : Nat) (plaintext : String) : List Event :=
  [⟨t, .call (.storeAuthinfo ⟨5, 1, 100⟩ "" plaintext)⟩, ⟨t, .snapshot⟩, ⟨t, .finish⟩,
    ⟨t, .storePassword⟩]

/-- The second transaction is open while the first one stores a password, and replaces it when that
is committed; another one waits to clean the row meanwhile. -/
def inTurn : List Event :=
  [⟨1, .start 0⟩, ⟨2, .start 0⟩, ⟨2, .call (.cleanAuthinfo 5)⟩, ⟨2, .snapshot⟩] ++ storing 1 "first" ++
    [⟨2, .finish⟩, ⟨1, .commit⟩, ⟨2, .call (.storeAuthinfo ⟨5, 1, 100⟩ "" "second")⟩, ⟨1, .start 1⟩,
      ⟨2, .snapshot⟩, ⟨2, .row 1⟩, ⟨1, .call (.cleanAuthinfo 5)⟩, ⟨1, .snapshot⟩, ⟨1, .row 1⟩,
      ⟨2, .finish⟩, ⟨2, .storePassword⟩, ⟨2, .commit⟩, ⟨1, .row 1⟩, ⟨1, .finish⟩, ⟨1, .commit⟩]

def replaced : Server := inTurn.foldl (fun s e => Server.next plaintextStorage e s) emptyServer

theorem one_active_authinfo_replaced :
    (replaced.committed 1).isSome ∧ (replaced.committed 2).isSome ∧ OneActive replaced := by
  refine ⟨by decide +kernel, by decide +kernel, one_active_authinfo
    ((Reachable.init initial_emptyServer).run_of_admits fun n e hn => ?_)⟩
  refine exclusive_of_among [1, 2] (fun t ht => clients_run_of_ne fun e' he' => ?_) ?_
  · have hclient : ∀ e' ∈ inTurn, e'.client ∈ [1, 2] := by decide
    exact (ne_of_mem_of_not_mem (hclient e' (List.mem_of_mem_take he')) ht).symm
  · have hamong : ∀ n < inTurn.length, ∀ e ∈ inTurn[n]?,
        ((inTurn.take n).foldl (fun s e => Server.next plaintextStorage e s)
          emptyServer).ExclusiveAmong [1, 2] e := by
      decide +kernel
    exact hamong n (List.getElem?_eq_some_iff.mp hn).1 e hn

/-- Two transactions, each of which does not see what the other one stores. -/
def overlap : List Event :=
  [⟨1, .start 0⟩, ⟨2, .start 0⟩] ++ storing 1 "first" ++ storing 2 "second" ++
    [⟨1, .commit⟩, ⟨2, .commit⟩]

def overlapped : Server :=
  overlap.foldl (fun s e => Server.next plaintextStorage e s) emptyServer

/-- Two transactions that overlap leave two usable authinfos of an object and a registrar. -/
theorem not_one_active_authinfo :
    ¬ ∀ (storage : PasswordStorage) (s : Server),
      Reachable (Server.next storage) (fun _ _ => True) Server.Initial s →
        (∀ t, s.clients t = none) → OneActive s := by
  intro h
  have hreachable : Reachable (Server.next plaintextStorage) (fun _ _ => True) Server.Initial overlapped :=
    (Reachable.init initial_emptyServer).run (I := fun _ => True) trivial
      fun _ _ _ _ => ⟨trivial, trivial⟩
  have hclosed : ∀ t, overlapped.clients t = none := by
    intro t
    by_cases h₁ : t = 1
    · rw [h₁]
      rfl
    by_cases h₂ : t = 2
    · rw [h₂]
      rfl
    · exact clients_run_of_ne (by simp [overlap, storing, h₁, h₂])
  have hone := (h plaintextStorage overlapped hreachable hclosed).1 1 2
    ⟨1, 5, 1, some "$plaintext$first", 0, 100, none, 0⟩
    ⟨2, 5, 1, some "$plaintext$second", 0, 100, none, 0⟩ rfl rfl rfl (by decide) (by decide)
  exact absurd hone (by decide)

end LibFred.Object.Concurrent
