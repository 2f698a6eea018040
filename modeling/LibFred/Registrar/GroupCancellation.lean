import LibFred.Registrar.GroupMembershipIntervals
import LibFred.Registrar.RegistrarGroup

/-! Whether a cancelled group stays without members. -/
namespace LibFred.RegistrarGroups

open Sql
open GroupMembership

variable {s s' : Groups} {t t' : Memberships} {r : Registry} {now : Now} {day today : Int}
  {m : RegistrarGroupMap} {id choice : Nat}

/-- Nobody is a member of a cancelled group on the day. -/
def Vacant (day : Int) (s : Groups) : Prop :=
  ∀ g ∈ s.registrarGroup, g.cancelled ≠ none →
    ∀ m ∈ s.memberships.registrarGroupMap, m.registrarGroupId = g.id → ¬ InForce day m

/-- Nobody is on the day nor, as long as nothing is written, on a later one. -/
def StaysVacant (today : Int) (s : Groups) : Prop := ∀ day, today ≤ day → Vacant day s

/-- The membership has a day that is not before the given one. -/
def Lasts (today : Int) (m : RegistrarGroupMap) : Prop := ∃ day, today ≤ day ∧ InForce day m

theorem StaysVacant.mono (h : StaysVacant day s) (hle : day ≤ today) : StaysVacant today s :=
  fun d hd => h d (hle.trans hd)

theorem staysVacant_iff : StaysVacant today s ↔
    ∀ g ∈ s.registrarGroup, g.cancelled ≠ none →
      ∀ m ∈ s.memberships.registrarGroupMap, m.registrarGroupId = g.id → ¬ Lasts today m := by
  constructor
  · rintro h g hg hc m hm hgroup ⟨day, hday, hin⟩
    exact h day hday g hg hc m hm hgroup hin
  · intro h day hday g hg hc m hm hgroup hin
    exact h g hg hc m hm hgroup ⟨day, hday, hin⟩

/-- A membership that is ended early is in force on no further day. -/
theorem inForce_of_endAt (h : InForce day (endAt today m)) (hend : ∀ last ∈ m.memberUntil, today ≤ last) :
    InForce day m := by
  obtain ⟨hfrom, huntil⟩ := h
  obtain ⟨hle, hne⟩ := huntil today rfl
  refine ⟨hfrom, fun last hlast => ?_⟩
  have hlast := hend last hlast
  change m.memberFrom ≤ day at hfrom
  change m.memberFrom ≠ today at hne
  omega

theorem StaysVacant.ended (h : StaysVacant today s) (hm : m ∈ s.memberships.registrarGroupMap)
    (hend : ∀ last ∈ m.memberUntil, day ≤ last) :
    StaysVacant today { s with memberships := ended s.memberships m.id day } := by
  intro d hd g hg hc a ha hgroup hin
  rcases (mem_ended hm).mp ha with rfl | ⟨ha, -⟩
  · exact h d hd g hg hc m hm hgroup (inForce_of_endAt hin hend)
  · exact h d hd g hg hc a ha hgroup hin

/-- The new membership gives no cancelled group a member. -/
def Admissible (op : CreateRegistrarGroupMembership) (today : Int) (s : Groups) : Prop :=
  ∀ g ∈ s.registrarGroup, g.cancelled ≠ none → op.groupId = g.id →
    ¬ Lasts today (op.row s.memberships.idSeq)

theorem StaysVacant.insert_iff {op : CreateRegistrarGroupMembership} (h : StaysVacant today s)
    (hins : op.insert.run s.memberships = .ok id t) :
    StaysVacant today { s with memberships := t } ↔ Admissible op today s := by
  have hmem := CreateRegistrarGroupMembership.insert_ok hins
  rw [staysVacant_iff] at h ⊢
  constructor
  · intro h' g hg hc hgroup
    exact h' g hg hc _ ((hmem _).mpr (.inr rfl)) hgroup
  · intro hadm g hg hc m hm hgroup
    rcases (hmem m).mp hm with hm | rfl
    · exact h g hg hc m hm hgroup
    · exact hadm g hg hc hgroup

theorem StaysVacant.create_iff {op : CreateRegistrarGroupMembership} (h : StaysVacant today s)
    (hrun : (op.exec choice).run s.memberships = .ok id t) :
    StaysVacant today { s with memberships := t } ↔ Admissible op today s := by
  obtain ⟨-, ⟨-, hins⟩ | ⟨last, hlast, hopen, hins⟩⟩ := CreateRegistrarGroupMembership.exec_ok hrun
  · exact h.insert_iff hins
  · have hmem := (mem_membershipsOf.mp hlast).1
    have hend : ∀ day ∈ last.memberUntil, op.memberFrom ≤ day := by simp [hopen]
    exact (h.ended hmem hend).insert_iff hins

theorem StaysVacant.endMembership {op : EndRegistrarGroupMembership} (h : StaysVacant today s)
    (hrun : (op.exec now).run s.memberships = .ok id t) :
    StaysVacant today { s with memberships := t } := by
  obtain ⟨m, hm, honly, rfl⟩ := EndRegistrarGroupMembership.exec_ok hrun
  refine h.ended hm fun last hlast => ?_
  rcases holds_notOver.mp ((honly m).mpr rfl).2 last hlast with hlt | ⟨-, heq⟩
  · exact hlt.le
  · exact heq.ge

/-- No member of the group has a day left. -/
def Outlived (op : CancelRegistrarGroup) (today : Int) (s : Groups) : Prop :=
  ∀ g ∈ s.registrarGroup, g.id = op.groupId →
    ∀ m ∈ s.memberships.registrarGroupMap, m.registrarGroupId = op.groupId → ¬ Lasts today m

theorem StaysVacant.cancel_iff {op : CancelRegistrarGroup} (h : StaysVacant today s)
    (hrun : (op.exec now).run s = .ok () s') : StaysVacant today s' ↔ Outlived op today s := by
  obtain ⟨-, -, rfl⟩ := CancelRegistrarGroup.exec_ok hrun
  have hmem : ∀ g, g ∈ s.registrarGroup.update (·.id = op.groupId) (cancel now) (key_cancel now) ↔
      ∃ g₀ ∈ s.registrarGroup, (if g₀.id = op.groupId then cancel now g₀ else g₀) = g :=
    fun _ => Table.mem_update (key_cancel now)
  rw [staysVacant_iff] at h ⊢
  constructor
  · intro h' g hg hid m hm hgroup
    refine h' (cancel now g) ((hmem _).mpr ⟨g, hg, if_pos hid⟩) (by simp [cancel]) m hm ?_
    exact hgroup.trans hid.symm
  · intro hout g hg hc m hm hgroup
    obtain ⟨g₀, hg₀, rfl⟩ := (hmem g).mp hg
    by_cases hid : g₀.id = op.groupId
    · rw [if_pos hid] at hgroup
      exact hout g₀ hg₀ hid m hm (hgroup.trans hid)
    · rw [if_neg hid] at hc hgroup
      exact h g₀ hg₀ hc m hm hgroup

theorem StaysVacant.createGroup {op : CreateRegistrarGroup} (h : StaysVacant today s)
    (hrun : op.exec.run s = .ok id s') : StaysVacant today s' := by
  obtain ⟨hsame, hmem⟩ := CreateRegistrarGroup.exec_ok hrun
  intro d hd g hg hc
  rw [hsame]
  rcases (hmem g).mp hg with hg | rfl
  · exact h d hd g hg hc
  · exact absurd rfl hc

/-- A group is cancelled once its members have no day left, and gets none after that. -/
def TimedCall.Vacates (c : TimedCall) (s : Groups) : Prop :=
  match c.call with
  | .createGroup _ => True
  | .cancelGroup op => Outlived op c.now.date s
  | .createMembership op _ => Admissible op c.now.date s
  | .endMembership _ => True

theorem staysVacant_next_iff (c : TimedCall) (hle : r.today ≤ c.now.date)
    (h : StaysVacant r.today r.toGroups) (hc : c.Succeeds r.toGroups) :
    StaysVacant c.now.date (c.next r).toGroups ↔ c.Vacates r.toGroups := by
  obtain ⟨now, call⟩ := c
  obtain ⟨s', hrun⟩ := hc
  rw [TimedCall.next, transaction_of_ok hrun]
  have h := h.mono hle
  cases call with
  | createGroup op =>
    obtain ⟨id, hexec⟩ := run_discard_eq_ok.mp hrun
    exact iff_of_true (h.createGroup hexec) trivial
  | cancelGroup op => exact h.cancel_iff hrun
  | createMembership op choice =>
    obtain ⟨id, t, hexec, rfl⟩ := run_onMemberships_eq_ok.mp hrun
    exact h.create_iff hexec
  | endMembership op =>
    obtain ⟨id, t, hexec, rfl⟩ := run_onMemberships_eq_ok.mp hrun
    exact iff_of_true (h.endMembership hexec) trivial

theorem staysVacant_next (c : TimedCall) (hle : r.today ≤ c.now.date)
    (hc : c.Succeeds r.toGroups → c.Vacates r.toGroups) (h : StaysVacant r.today r.toGroups) :
    StaysVacant (c.next r).today (c.next r).toGroups := by
  by_cases hs : c.Succeeds r.toGroups
  · exact (staysVacant_next_iff c hle h hs).mpr (hc hs)
  · exact transaction_preserves (h.mono hle) fun _ s' hrun => absurd ⟨s', hrun⟩ hs

/-- Cancelled groups stay empty in every run that cancels no group whose members have days left and
adds none to a cancelled one; the first other call that succeeds gives a cancelled group a member on
the day or later. -/
theorem cancelled_group_vacant (r : Registry) :
    (Reached (fun c r => c.Succeeds r.toGroups → c.Vacates r.toGroups) r →
      Vacant r.today r.toGroups ∧ StaysVacant r.today r.toGroups) ∧
    ∀ c : TimedCall, r.today ≤ c.now.date → StaysVacant r.today r.toGroups →
      c.Succeeds r.toGroups →
        (StaysVacant c.now.date (c.next r).toGroups ↔ c.Vacates r.toGroups) := by
  refine ⟨fun h => ?_, fun c hle h hc => staysVacant_next_iff c hle h hc⟩
  have hstays : StaysVacant r.today r.toGroups := by
    refine h.invariant ?_ fun c s hc hs => staysVacant_next c hc.1 hc.2 hs
    rintro s ⟨he, -⟩ day hday g hg
    simp [he] at hg
  exact ⟨hstays r.today le_rfl, hstays⟩

/-- Day 1: the group is created. -/
def creates : TimedCall := ⟨⟨1, false⟩, .createGroup ⟨"certified"⟩⟩

/-- Day 2: a registrar is to join the group on day 20. -/
def joinsLater : TimedCall := ⟨⟨2, false⟩, .createMembership ⟨1, 1, 20, .notADateTime⟩ 0⟩

/-- Day 3: the group is cancelled. -/
def cancels : TimedCall := ⟨⟨3, false⟩, .cancelGroup ⟨1⟩⟩

/-- Day 20: a call that is refused. -/
def waits : TimedCall := ⟨⟨20, false⟩, .createGroup ⟨""⟩⟩

/-- Day 2: a registrar joins the group. -/
def enters : TimedCall := ⟨⟨2, false⟩, .createMembership ⟨1, 1, 2, .notADateTime⟩ 0⟩

/-- Day 6: the registrar leaves it. -/
def leaves : TimedCall := ⟨⟨6, false⟩, .endMembership ⟨1, 1⟩⟩

/-- Day 7: the group, which has no member any more, is cancelled. -/
def cancelsLeft : TimedCall := ⟨⟨7, false⟩, .cancelGroup ⟨1⟩⟩

/-- Day 8: that another registrar was a member on days 3 and 4 is put on record. -/
def records : TimedCall := ⟨⟨8, false⟩, .createMembership ⟨2, 1, 3, .day 5⟩ 0⟩

def leftRegistry : Registry := leaves.next (enters.next (creates.next emptyRegistry))

def recordedRegistry : Registry := records.next (cancelsLeft.next leftRegistry)

theorem reached_recordedRegistry :
    Reached (fun c r => c.Succeeds r.toGroups → c.Vacates r.toGroups) recordedRegistry := by
  have hjoined : ∀ g ∈ (creates.next emptyRegistry).registrarGroup, g.cancelled = none := by
    have hrows : (creates.next emptyRegistry).registrarGroup.rows = [⟨1, "certified", none⟩] := by rfl
    intro g hg
    rw [← Table.mem_rows, hrows, List.mem_singleton] at hg
    rw [hg]
  refine .step _ (.step _ (.step _ (.step _ (.step _ (.init ⟨rfl, rfl⟩) ?_) ?_) ?_) ?_) ?_
  · exact ⟨by decide, fun _ => trivial⟩
  · exact ⟨by decide, fun _ g hg hc => absurd (hjoined g hg) hc⟩
  · exact ⟨by decide, fun _ => trivial⟩
  · refine ⟨by decide, fun _ g _ _ m hm _ => ?_⟩
    have hrows : leftRegistry.memberships.registrarGroupMap.rows = [⟨1, 1, 1, 2, some 6⟩] := by rfl
    rw [← Table.mem_rows, hrows, List.mem_singleton] at hm
    rintro ⟨day, hday, -, huntil⟩
    obtain ⟨hle, -⟩ := huntil 6 (by rw [hm]; rfl)
    have hday : 7 ≤ day := hday
    omega
  · refine ⟨by decide, fun _ g _ _ _ => ?_⟩
    rintro ⟨day, hday, -, huntil⟩
    obtain ⟨hle, -⟩ := huntil 5 rfl
    have hday : 8 ≤ day := hday
    omega

theorem cancelled_group_vacant_sample :
    recordedRegistry.registrarGroup.rows = [⟨1, "certified", some ⟨7, false⟩⟩] ∧
      recordedRegistry.memberships.registrarGroupMap.rows =
        [⟨1, 1, 1, 2, some 6⟩, ⟨2, 2, 1, 3, some 5⟩] ∧
      Vacant 8 recordedRegistry.toGroups ∧ StaysVacant 8 recordedRegistry.toGroups :=
  ⟨rfl, rfl, (cancelled_group_vacant recordedRegistry).1 reached_recordedRegistry⟩

/-- The registrar joins the group that was cancelled meanwhile. -/
theorem not_cancelled_group_vacant :
    ¬ ∀ r, Reached (fun _ _ => True) r → Vacant r.today r.toGroups := by
  intro h
  have hvacant := h (waits.next (cancels.next (joinsLater.next (creates.next emptyRegistry))))
    (.step _ (.step _ (.step _ (.step _ (.init ⟨rfl, rfl⟩) ⟨by decide, trivial⟩)
      ⟨by decide, trivial⟩) ⟨by decide, trivial⟩) ⟨by decide, trivial⟩)
  have hgroups : (waits.next (cancels.next (joinsLater.next (creates.next
      emptyRegistry)))).registrarGroup.rows = [⟨1, "certified", some ⟨3, false⟩⟩] := by rfl
  have hmap : (waits.next (cancels.next (joinsLater.next (creates.next
      emptyRegistry)))).memberships.registrarGroupMap.rows = [⟨1, 1, 1, 20, none⟩] := by rfl
  refine hvacant ⟨1, "certified", some ⟨3, false⟩⟩ ?_ (by simp) ⟨1, 1, 1, 20, none⟩ ?_ rfl ?_
  · rw [← Table.mem_rows, hgroups]
    exact List.mem_cons_self
  · rw [← Table.mem_rows, hmap]
    exact List.mem_cons_self
  · change InForce 20 _
    decide

end LibFred.RegistrarGroups
