import LibFred.Registrar.ZoneAccess

/-! What every serial run of the zone access operations keeps. -/
namespace LibFred.ZoneAccess

open Sql

variable {reg : Registry} {s s' : Accesses} {id : Nat} {ri lhs rhs : RegistrarInvoice}
  {fromDate : Int} {toDate : Option Int}

/-- The days on which the access is in force. -/
def RegistrarInvoice.period (ri : RegistrarInvoice) : Set Int := Span.icc ri.fromdate ri.todate

/-- Accesses of one registrar to one zone share no day. -/
def Apart (a b : RegistrarInvoice) : Prop :=
  a.registrarid = b.registrarid → a.zone = b.zone → Disjoint a.period b.period

def Disjunct (s : Accesses) : Prop := s.registrarinvoice.Pairwise Apart

/-- No access ends before it begins. -/
def Ordered (s : Accesses) : Prop :=
  ∀ ri ∈ s.registrarinvoice, ∀ t ∈ ri.todate, ri.fromdate ≤ t

theorem insertInvoice_ok {registrarid zone : Nat}
    (h : (insertInvoice registrarid zone fromDate toDate).run s = .ok id s') :
    ∀ ri, ri ∈ s'.registrarinvoice ↔
      ri ∈ s.registrarinvoice ∨ ri = ⟨s.idSeq, registrarid, zone, fromDate, toDate⟩ := by
  simp only [insertInvoice, EStateM.run] at h
  split at h
  · rename_i t ht
    cases h
    exact fun _ => Table.mem_of_insert? ht
  · cases h

theorem AddRegistrarZoneAccess.insert_ok {op : AddRegistrarZoneAccess}
    (h : (op.insert reg fromDate toDate).run s = .ok id s') :
    ∃ r z, registrarsByHandle reg op.registrarHandle = [r] ∧
      zonesByFqdn reg op.zoneFqdn = [z] ∧ ∀ ri, ri ∈ s'.registrarinvoice ↔
        ri ∈ s.registrarinvoice ∨ ri = ⟨s.idSeq, r.id, z.id, fromDate, toDate⟩ := by
  unfold AddRegistrarZoneAccess.insert at h
  split at h
  · cases h
  · rename_i z hz _
    obtain ⟨ids, t, hids, h⟩ := run_bind_eq_ok.mp h
    split at h
    · rename_i i
      obtain ⟨rfl, rfl⟩ := run_pure_eq_ok.mp h
      obtain ⟨r, hr, hins⟩ := run_mapM_eq_ok_singleton hids
      exact ⟨r, z, hr, hz, insertInvoice_ok hins⟩
    · cases h
  · cases h

theorem AddRegistrarZoneAccess.exec_ok {op : AddRegistrarZoneAccess}
    (h : (op.exec reg).run s = .ok id s') :
    ∃ (fromDate : Int) (r : Registrar) (z : Zone), op.fromDate = .day fromDate ∧
      (∀ ri ∈ s.registrarinvoice, ri.registrarid = r.id → ri.zone = z.id →
        ¬ (overlapping ri fromDate (op.toDate.bind Date.day?)).holds) ∧
      ∀ ri, ri ∈ s'.registrarinvoice ↔ ri ∈ s.registrarinvoice ∨
        ri = ⟨s.idSeq, r.id, z.id, fromDate, op.toDate.bind Date.day?⟩ := by
  unfold AddRegistrarZoneAccess.exec at h
  split at h
  · cases h
  · rename_i fromDate hday
    have hfrom : op.fromDate = .day fromDate := by
      cases hd : op.fromDate <;> simp_all [Date.day?]
    obtain ⟨s₁, t, hget, h⟩ := run_bind_eq_ok.mp h
    obtain ⟨rfl, rfl⟩ := run_get_eq_ok.mp hget
    obtain ⟨_, t, hraise, h⟩ := run_bind_eq_ok.mp h
    obtain ⟨hno, rfl⟩ := run_raiseIf_eq_ok.mp hraise
    obtain ⟨r, z, hr, hz, hrows⟩ := AddRegistrarZoneAccess.insert_ok h
    refine ⟨fromDate, r, z, hfrom, ?_, hrows⟩
    intro ri hri hreg hzone hover
    exact hno ⟨ri, hri, r, by simp [hr], z, by simp [hz], hreg.symm, hzone.symm, hover⟩

theorem UpdateRegistrarZoneAccess.exec_ok {op : UpdateRegistrarZoneAccess}
    (h : op.exec.run s = .ok id s') :
    ∃ ri, ri ∈ s.registrarinvoice ∧ ri.id = op.id ∧
      (∀ a, a ∈ s'.registrarinvoice ↔
        ∃ b ∈ s.registrarinvoice, (if b.id = op.id then op.assign b else b) = a) ∧
      (∀ rhs ∈ s.registrarinvoice, rhs.registrarid = ri.registrarid → rhs.zone = ri.zone →
        rhs.id ≠ ri.id → ¬ (overlapped (op.assign ri) rhs).holds) ∧
      ¬ (lt (op.assign ri).todate (some (op.assign ri).fromdate)).holds := by
  unfold UpdateRegistrarZoneAccess.exec at h
  obtain ⟨_, t, hraise, h⟩ := run_bind_eq_ok.mp h
  obtain ⟨-, rfl⟩ := run_raiseIf_eq_ok.mp hraise
  obtain ⟨s₁, t, hget, h⟩ := run_bind_eq_ok.mp h
  obtain ⟨rfl, rfl⟩ := run_get_eq_ok.mp hget
  split at h
  · cases h
  · rename_i ri hri
    obtain ⟨hmem, hid⟩ := Table.lookup_eq_some.mp hri
    obtain ⟨_, t, hset, h⟩ := run_bind_eq_ok.mp h
    obtain rfl := run_set_eq_ok.mp hset
    obtain ⟨_, t, hraise, h⟩ := run_bind_eq_ok.mp h
    obtain ⟨hno, rfl⟩ := run_raiseIf_eq_ok.mp hraise
    obtain ⟨_, t, hraise, h⟩ := run_bind_eq_ok.mp h
    obtain ⟨hord, rfl⟩ := run_raiseIf_eq_ok.mp hraise
    obtain ⟨-, rfl⟩ := run_pure_eq_ok.mp h
    refine ⟨ri, hmem, hid, fun _ => Table.mem_update op.key_assign, ?_, hord⟩
    intro rhs hrhs hreg hzone hne hover
    exact hno ⟨rhs, hrhs, hreg, hzone, hne, hover⟩

theorem DeleteRegistrarZoneAccess.exec_ok {op : DeleteRegistrarZoneAccess}
    (h : op.exec.run s = .ok id s') :
    s'.registrarinvoice = s.registrarinvoice.delete (·.id = op.accessId) := by
  unfold DeleteRegistrarZoneAccess.exec at h
  obtain ⟨s₁, t, hget, h⟩ := run_bind_eq_ok.mp h
  obtain ⟨rfl, rfl⟩ := run_get_eq_ok.mp hget
  split at h
  · cases h
  · obtain ⟨_, t, hset, h⟩ := run_bind_eq_ok.mp h
    obtain rfl := run_set_eq_ok.mp hset
    obtain ⟨-, rfl⟩ := run_pure_eq_ok.mp h
    rfl

theorem not_overlapping_iff :
    ¬ (overlapping ri fromDate toDate).holds ↔
      (∃ t ∈ ri.todate, t < fromDate) ∨ ∃ t ∈ toDate, t < ri.fromdate := by
  rcases ri with ⟨_, _, _, _, _ | _⟩ <;> cases toDate <;> simp [overlapping]
  omega

theorem not_overlapped_iff :
    ¬ (overlapped lhs rhs).holds ↔
      (∃ t ∈ rhs.todate, t < lhs.fromdate) ∨ ∃ t ∈ lhs.todate, t < rhs.fromdate := by
  rcases lhs with ⟨_, _, _, _, _ | _⟩ <;> rcases rhs with ⟨_, _, _, _, _ | _⟩ <;>
    simp [overlapped]
  omega

theorem Apart.symm (h : Apart lhs rhs) : Apart rhs lhs :=
  fun hreg hzone => (h hreg.symm hzone.symm).symm

/-- One access that is over before the other starts leaves them no common day. -/
theorem Apart.of_before
    (h : lhs.registrarid = rhs.registrarid → lhs.zone = rhs.zone →
      (∃ t ∈ lhs.todate, t < rhs.fromdate) ∨ ∃ t ∈ rhs.todate, t < lhs.fromdate) :
    Apart lhs rhs := by
  intro hreg hzone
  by_contra hne
  obtain ⟨-, hright, hleft, -⟩ := Span.not_disjoint_icc_iff.mp hne
  rcases h hreg hzone with ⟨t, ht, hlt⟩ | ⟨t, ht, hlt⟩
  · exact absurd (hleft t ht) (by omega)
  · exact absurd (hright t ht) (by omega)

theorem AddRegistrarZoneAccess.disjunct {op : AddRegistrarZoneAccess} (hs : Disjunct s)
    (h : (op.exec reg).run s = .ok id s') : Disjunct s' := by
  obtain ⟨fromDate, r, z, -, hno, hmem⟩ := AddRegistrarZoneAccess.exec_ok h
  refine hs.add (l := [⟨s.idSeq, r.id, z.id, fromDate, op.toDate.bind Date.day?⟩])
    Apart.symm (fun ri hri => by simpa using (hmem ri).mp hri) ?_ ?_
  · intro ri hri new hnew
    obtain rfl := List.mem_singleton.mp hnew
    exact Apart.of_before fun hreg hzone => not_overlapping_iff.mp (hno ri hri hreg hzone)
  · intro a ha b hb hne
    exact absurd ((List.mem_singleton.mp ha).trans (List.mem_singleton.mp hb).symm)
      (fun h => hne (h ▸ rfl))

theorem UpdateRegistrarZoneAccess.disjunct {op : UpdateRegistrarZoneAccess} (hs : Disjunct s)
    (h : op.exec.run s = .ok id s') : Disjunct s' := by
  obtain ⟨ri, hri, hid, hmem, hno, -⟩ := UpdateRegistrarZoneAccess.exec_ok h
  have hnew : ∀ rhs ∈ s.registrarinvoice, rhs.id ≠ ri.id → Apart (op.assign ri) rhs := by
    intro rhs hrhs hne
    refine Apart.of_before fun hreg hzone => ?_
    exact (not_overlapped_iff.mp (hno rhs hrhs hreg.symm hzone.symm hne)).symm
  have hcase : ∀ a ∈ s'.registrarinvoice,
      a = op.assign ri ∨ a ∈ s.registrarinvoice ∧ a.id ≠ ri.id := by
    intro a ha
    obtain ⟨b, hb, rfl⟩ := (hmem a).mp ha
    by_cases he : b.id = op.id
    · obtain rfl := Table.eq_of_key_eq hb hri (he.trans hid.symm)
      simp [he]
    · rw [if_neg he]
      exact .inr ⟨hb, fun h => he (h.trans hid)⟩
  intro lhs hl rhs hr hne
  rcases hcase lhs hl with rfl | ⟨hl, hlne⟩ <;> rcases hcase rhs hr with rfl | ⟨hr, hrne⟩
  · exact absurd rfl hne
  · exact hnew rhs hr hrne
  · exact (hnew lhs hl hlne).symm
  · exact hs lhs hl rhs hr hne

theorem DeleteRegistrarZoneAccess.disjunct {op : DeleteRegistrarZoneAccess} (hs : Disjunct s)
    (h : op.exec.run s = .ok id s') : Disjunct s' := by
  refine hs.change (S := Eq) ?_ fun h ha hb => ha ▸ hb ▸ h
  intro ri hri
  rw [DeleteRegistrarZoneAccess.exec_ok h, Table.mem_delete] at hri
  exact ⟨ri, hri.1, rfl, rfl⟩

theorem disjunct_next (c : Call) (hs : Disjunct s) : Disjunct (c.next s) := by
  refine transaction_preserves hs fun id s' h => ?_
  cases c with
  | add reg op => exact AddRegistrarZoneAccess.disjunct hs h
  | update op => exact UpdateRegistrarZoneAccess.disjunct hs h
  | delete op => exact DeleteRegistrarZoneAccess.disjunct hs h

/-- The interval that Add is asked for is not given the wrong way round. -/
def AddRegistrarZoneAccess.Forward (op : AddRegistrarZoneAccess) : Prop :=
  ∀ f ∈ op.fromDate.day?, ∀ t ∈ op.toDate.bind Date.day?, f ≤ t

def Call.Forward : Call → Prop
  | .add _ op => op.Forward
  | _ => True

/-- The call does not raise. -/
def Call.Succeeds (c : Call) (s : Accesses) : Prop := ∃ id s', c.exec.run s = .ok id s'

theorem AddRegistrarZoneAccess.ordered_iff {op : AddRegistrarZoneAccess} (hs : Ordered s)
    (h : (op.exec reg).run s = .ok id s') : Ordered s' ↔ op.Forward := by
  obtain ⟨fromDate, r, z, hfrom, -, hmem⟩ := AddRegistrarZoneAccess.exec_ok h
  simp only [AddRegistrarZoneAccess.Forward, hfrom, Date.day?, Option.mem_some_iff, forall_eq']
  constructor
  · intro ho t ht
    exact ho _ ((hmem _).mpr (.inr rfl)) t ht
  · intro hf ri hri
    rcases (hmem ri).mp hri with hri | rfl
    · exact hs ri hri
    · exact hf

theorem UpdateRegistrarZoneAccess.ordered {op : UpdateRegistrarZoneAccess} (hs : Ordered s)
    (h : op.exec.run s = .ok id s') : Ordered s' := by
  obtain ⟨ri, hri, hid, hmem, -, hord⟩ := UpdateRegistrarZoneAccess.exec_ok h
  intro a ha t ht
  obtain ⟨b, hb, rfl⟩ := (hmem a).mp ha
  by_cases he : b.id = op.id
  · obtain rfl := Table.eq_of_key_eq hb hri (he.trans hid.symm)
    rw [if_pos he] at ht ⊢
    by_contra hlt
    exact hord (holds_lt.mpr ⟨t, _, ht, rfl, by omega⟩)
  · rw [if_neg he] at ht ⊢
    exact hs b hb t ht

theorem DeleteRegistrarZoneAccess.ordered {op : DeleteRegistrarZoneAccess} (hs : Ordered s)
    (h : op.exec.run s = .ok id s') : Ordered s' := by
  intro ri hri
  rw [DeleteRegistrarZoneAccess.exec_ok h, Table.mem_delete] at hri
  exact hs ri hri.1

theorem ordered_next (c : Call) (hc : c.Succeeds s → c.Forward) (hs : Ordered s) :
    Ordered (c.next s) := by
  refine transaction_preserves hs fun id s' h => ?_
  have hforward := hc ⟨id, s', h⟩
  cases c with
  | add reg op => exact (AddRegistrarZoneAccess.ordered_iff hs h).mpr hforward
  | update op => exact UpdateRegistrarZoneAccess.ordered hs h
  | delete op => exact DeleteRegistrarZoneAccess.ordered hs h

/-- Tables that a run of calls reaches from an empty registrarinvoice. -/
def Reached (admits : Call → Accesses → Prop) (s : Accesses) : Prop :=
  Transition.Reachable Call.next admits (·.registrarinvoice = ∅) s

theorem reached_disjunct {admits : Call → Accesses → Prop} (h : Reached admits s) :
    Disjunct s := by
  refine h.invariant ?_ fun c s _ hs => disjunct_next c hs
  intro s he
  simp [Disjunct, he]

theorem reached_ordered (h : Reached (fun c s => c.Succeeds s → c.Forward) s) : Ordered s := by
  refine h.invariant ?_ fun c s hc hs => ordered_next c hc hs
  intro s he ri hri
  simp [he] at hri

def WellFormed (s : Accesses) : Prop := Ordered s ∧ Disjunct s

theorem add_wellFormed_iff {op : AddRegistrarZoneAccess} (hs : WellFormed s)
    (h : (Call.add reg op).Succeeds s) :
    WellFormed (Call.next (.add reg op) s) ↔ op.Forward := by
  obtain ⟨id, s', h⟩ := h
  rw [Call.next, transaction_of_ok h, WellFormed, AddRegistrarZoneAccess.ordered_iff hs.1 h]
  exact and_iff_left (AddRegistrarZoneAccess.disjunct hs.2 h)

/-- Accesses stay well formed in every run whose successful Adds are asked for forward intervals,
and the first other Add that succeeds ends that. Without the condition they stay disjunct. -/
theorem reached_wellFormed (s : Accesses) :
    (Reached (fun c s => c.Succeeds s → c.Forward) s → WellFormed s) ∧
    (∀ reg op, WellFormed s → (Call.add reg op).Succeeds s →
      (WellFormed (Call.next (.add reg op) s) ↔ op.Forward)) ∧
    ∀ admits, Reached admits s → Disjunct s :=
  ⟨fun h => ⟨reached_ordered h, reached_disjunct h⟩,
    fun _ _ hs h => add_wellFormed_iff hs h, fun _ h => reached_disjunct h⟩

/-- One registrar and one zone. -/
def sampleRegistry : Registry where
  registrar := ⟨[⟨1, "REG-TEST"⟩], by decide⟩
  zone := ⟨[⟨1, "cz"⟩], by decide⟩

def sampleAdd (fromDate toDate : Int) : Call :=
  .add sampleRegistry ⟨"reg-test", "CZ", .day fromDate, some (.day toDate)⟩

/-- Of two accesses of the registrar to the zone the second is made to begin earlier. -/
def sampleAccesses : Accesses :=
  (Call.update ⟨2, some (.day 12), none⟩).next
    ((sampleAdd 20 30).next ((sampleAdd 5 10).next ⟨∅, 1⟩))

theorem reached_wellFormed_sampleAccesses :
    sampleAccesses.registrarinvoice.rows = [⟨1, 1, 1, 5, some 10⟩, ⟨2, 1, 1, 12, some 30⟩] ∧
      WellFormed sampleAccesses := by
  have hforward (fromDate toDate : Int) (hle : fromDate ≤ toDate) :
      (sampleAdd fromDate toDate).Forward := by
    simpa [sampleAdd, Call.Forward, AddRegistrarZoneAccess.Forward, Date.day?] using hle
  refine ⟨rfl, (reached_wellFormed sampleAccesses).1 (.step _ (.step _ (.step _ (.init rfl) ?_) ?_) ?_)⟩
  · exact fun _ => hforward 5 10 (by decide)
  · exact fun _ => hforward 20 30 (by decide)
  · exact fun _ => trivial

/-- The interval from day 10 to day 5 is inserted. -/
theorem not_reached_wellFormed : ¬ ∀ s, Reached (fun _ _ => True) s → WellFormed s := by
  intro h
  have hs := h ((sampleAdd 10 5).next ⟨∅, 1⟩) (.step _ (.init rfl) trivial)
  have hle : (10 : Int) ≤ 5 := hs.1 ⟨1, 1, 1, 10, some 5⟩ (by
    change _ ∈ ((sampleAdd 10 5).next ⟨∅, 1⟩).registrarinvoice.rows
    rw [show ((sampleAdd 10 5).next ⟨∅, 1⟩).registrarinvoice.rows =
      [⟨1, 1, 1, 10, some 5⟩] by rfl]
    exact List.mem_singleton.mpr rfl) 5 rfl
  omega

end LibFred.ZoneAccess
