import LibFred.Registrar.GroupMembershipIntervals
import LibFred.Registrar.RegistrarGroup

/-! Which membership EndRegistrarGroupMembership ends. -/
namespace LibFred.RegistrarGroups

open Sql
open GroupMembership

variable {s : Memberships} {r : Registry} {op : EndRegistrarGroupMembership} {now : Now}
  {day today : Int} {m a b : RegistrarGroupMap}

/-- The memberships of the registrar in the group that the operation takes for unfinished. -/
def unfinished (op : EndRegistrarGroupMembership) (now : Now) (s : Memberships) :
    List RegistrarGroupMap :=
  (membershipsOf s op.registrarId op.groupId).filter (notOver now ·.memberUntil |>.holds)

/-- The membership has begun and is not over. -/
def Current (now : Now) (m : RegistrarGroupMap) : Prop :=
  m.memberFrom ≤ now.date ∧ (notOver now m.memberUntil).holds

/-- The membership in force is the only row that changes, its last day becomes the present one; or
there is none and the operation says so. -/
def EndsCurrent (op : EndRegistrarGroupMembership) (now : Now) (s : Memberships) : Prop :=
  ((op.exec now).run s = .error .membershipNotFound s ∧
    ∀ m ∈ membershipsOf s op.registrarId op.groupId, ¬ Current now m) ∨
  ∃ m ∈ membershipsOf s op.registrarId op.groupId, Current now m ∧
    ∃ s', (op.exec now).run s = .ok m.id s' ∧ ∀ a, a ∈ s'.registrarGroupMap ↔
      a = endAt now.date m ∨ a ∈ s.registrarGroupMap ∧ a.id ≠ m.id

/-- At most one membership of the registrar in the group is unfinished. -/
def Single (op : EndRegistrarGroupMembership) (now : Now) (s : Memberships) : Prop :=
  ∀ a ∈ membershipsOf s op.registrarId op.groupId,
    ∀ b ∈ membershipsOf s op.registrarId op.groupId,
      (notOver now a.memberUntil).holds → (notOver now b.memberUntil).holds → a = b

@[simp] theorem mem_unfinished : m ∈ unfinished op now s ↔
    m ∈ membershipsOf s op.registrarId op.groupId ∧ (notOver now m.memberUntil).holds := by
  simp only [unfinished, List.mem_filter, decide_eq_true_iff]

theorem nodup_unfinished : (unfinished op now s).Nodup :=
  (s.registrarGroupMap.nodup_rows.filter _).filter _

theorem run_exec_of_nil (h : unfinished op now s = []) :
    (op.exec now).run s = .error .membershipNotFound s := by
  unfold unfinished at h
  rw [EndRegistrarGroupMembership.exec, EStateM.run_bind, EStateM.run_get]
  simp only [h]
  rfl

theorem run_exec_of_singleton (h : unfinished op now s = [m]) :
    (op.exec now).run s = .ok m.id (ended s m.id now.date) := by
  unfold unfinished at h
  rw [EndRegistrarGroupMembership.exec, EStateM.run_bind, EStateM.run_get]
  simp only [h]
  rfl

theorem run_exec_of_cons_cons {l : List RegistrarGroupMap} (h : unfinished op now s = a :: b :: l) :
    (op.exec now).run s = .error .terminate s := by
  unfold unfinished at h
  rw [EndRegistrarGroupMembership.exec, EStateM.run_bind, EStateM.run_get]
  simp only [h]
  rfl

theorem endsCurrent_iff : EndsCurrent op now s ↔ Single op now s ∧ op.Timely now s := by
  cases h : unfinished op now s with
  | nil =>
    have hnone : ∀ m ∈ membershipsOf s op.registrarId op.groupId,
        ¬ (notOver now m.memberUntil).holds := by
      intro m hm hover
      have hmem := mem_unfinished.mpr ⟨hm, hover⟩
      rw [h] at hmem
      cases hmem
    refine iff_of_true (.inl ⟨run_exec_of_nil h, fun m hm hcur => hnone m hm hcur.2⟩) ⟨?_, ?_⟩
    · exact fun a ha _ _ hover _ => (hnone a ha hover).elim
    · exact fun m hm hover => (hnone m hm hover).elim
  | cons m l =>
    have hmem : m ∈ unfinished op now s := h ▸ List.mem_cons_self
    obtain ⟨hm, hover⟩ := mem_unfinished.mp hmem
    cases l with
    | nil =>
      have honly : ∀ a ∈ membershipsOf s op.registrarId op.groupId,
          (notOver now a.memberUntil).holds → a = m := by
        intro a ha hnot
        have hmem := mem_unfinished.mpr ⟨ha, hnot⟩
        rw [h] at hmem
        exact List.mem_singleton.mp hmem
      have hrun := run_exec_of_singleton h
      constructor
      · rintro (⟨herr, -⟩ | ⟨m', hm', hcur, -⟩)
        · rw [hrun] at herr
          cases herr
        · refine ⟨fun a ha b hb hna hnb => (honly a ha hna).trans (honly b hb hnb).symm, ?_⟩
          intro a ha hna
          rw [honly a ha hna, ← honly m' hm' hcur.2]
          exact hcur.1
      · rintro ⟨-, htimely⟩
        refine .inr ⟨m, hm, ⟨htimely m hm hover, hover⟩, _, hrun, fun a => ?_⟩
        exact mem_ended (mem_membershipsOf.mp hm).1
    | cons b l =>
      obtain ⟨hb, hnb⟩ := mem_unfinished.mp (h ▸ List.mem_cons_of_mem m List.mem_cons_self)
      have hrun := run_exec_of_cons_cons h
      have hne : m ≠ b := by
        have hnodup : (m :: b :: l).Nodup := h ▸ nodup_unfinished
        rintro rfl
        exact (List.nodup_cons.mp hnodup).1 List.mem_cons_self
      refine iff_of_false ?_ fun hc => hne (hc.1 m hm b hb hover hnb)
      rintro (⟨herr, -⟩ | ⟨m', -, -, s', hok, -⟩)
      · rw [hrun] at herr
        cases herr
      · rw [hrun] at hok
        cases hok

/-- Every membership has begun, and those of one registrar in one group are over but for one. -/
def Prompt (today : Int) (s : Memberships) : Prop :=
  (∀ m ∈ s.registrarGroupMap, m.memberFrom ≤ today) ∧
  s.registrarGroupMap.Pairwise fun a b => a.registrarId = b.registrarId →
    a.registrarGroupId = b.registrarGroupId →
      (∃ last ∈ a.memberUntil, last ≤ today) ∨ ∃ last ∈ b.memberUntil, last ≤ today

theorem Prompt.mono (h : Prompt day s) (hle : day ≤ today) : Prompt today s := by
  refine ⟨fun m hm => (h.1 m hm).trans hle, fun a ha b hb hne hreg hgroup => ?_⟩
  rcases h.2 a ha b hb hne hreg hgroup with ⟨last, hlast, hover⟩ | ⟨last, hlast, hover⟩
  · exact .inl ⟨last, hlast, hover.trans hle⟩
  · exact .inr ⟨last, hlast, hover.trans hle⟩

theorem Prompt.ended (h : Prompt today s) (hm : m ∈ s.registrarGroupMap) (hday : day ≤ today) :
    Prompt today (ended s m.id day) := by
  constructor
  · intro a ha
    rcases (mem_ended hm).mp ha with rfl | ⟨ha, -⟩
    · exact h.1 m hm
    · exact h.1 a ha
  · refine (h.2.update_row_iff (fun hab hreg hgroup => (hab hreg.symm hgroup.symm).symm)
      (key_endAt day) hm fun _ _ => Iff.rfl).mpr ?_
    exact fun _ _ _ _ _ => .inl ⟨day, rfl, hday⟩

/-- A membership may be added once the others of the registrar in the group are over. -/
theorem Prompt.insert {op : CreateRegistrarGroupMembership} {s' : Memberships} {id : Nat}
    (h : Prompt today s) (hfrom : op.memberFrom ≤ today)
    (hover : ∀ m ∈ membershipsOf s op.registrarId op.groupId,
      ∃ last ∈ m.memberUntil, last ≤ today)
    (hins : op.insert.run s = .ok id s') : Prompt today s' := by
  have hmem := CreateRegistrarGroupMembership.insert_ok hins
  constructor
  · intro m hm
    rcases (hmem m).mp hm with hm | rfl
    · exact h.1 m hm
    · exact hfrom
  · refine h.2.add (fun hab hreg hgroup => (hab hreg.symm hgroup.symm).symm)
      (l := [op.row s.idSeq]) (fun m hm => by simpa using (hmem m).mp hm) ?_ ?_
    · intro m hm new hnew hreg hgroup
      obtain rfl := List.mem_singleton.mp hnew
      exact .inl (hover m (mem_membershipsOf.mpr ⟨hm, hreg, hgroup⟩))
    · intro a ha b hb hne
      rw [List.mem_singleton.mp ha, List.mem_singleton.mp hb] at hne
      exact absurd rfl hne

theorem Prompt.create {op : CreateRegistrarGroupMembership} {choice id : Nat} {s' : Memberships}
    (h : Prompt today s) (hfrom : op.memberFrom ≤ today)
    (hrun : (op.exec choice).run s = .ok id s') : Prompt today s' := by
  obtain ⟨-, ⟨hover, hins⟩ | ⟨last, hlast, hopen, hins⟩⟩ :=
    CreateRegistrarGroupMembership.exec_ok hrun
  · refine h.insert hfrom (fun m hm => ?_) hins
    obtain ⟨last, hlast, hle⟩ := hover m hm
    exact ⟨last, hlast, hle.trans hfrom⟩
  · obtain ⟨hmem, hreg, hgroup⟩ := mem_membershipsOf.mp hlast
    refine (h.ended hmem hfrom).insert hfrom (fun m hm => ?_) hins
    obtain ⟨hm, hmreg, hmgroup⟩ := mem_membershipsOf.mp hm
    rcases (mem_ended hmem).mp hm with rfl | ⟨hm, hne⟩
    · exact ⟨op.memberFrom, rfl, hfrom⟩
    · -- The open membership is the one that is not over.
      rcases h.2 m hm last hmem hne (hmreg.trans hreg.symm) (hmgroup.trans hgroup.symm) with
        hover | ⟨t, ht, -⟩
      · exact hover
      · rw [hopen] at ht
        cases ht

/-- A membership that is created begins by the present day. -/
def TimedCall.Prompt (c : TimedCall) : Prop :=
  match c.call with
  | .createMembership op _ => op.memberFrom ≤ c.now.date
  | _ => True

theorem prompt_next (c : TimedCall) (hc : c.Prompt) (hle : r.today ≤ c.now.date)
    (h : Prompt r.today r.memberships) : Prompt (c.next r).today (c.next r).memberships := by
  obtain ⟨now, call⟩ := c
  refine transaction_preserves (P := fun s : Groups => Prompt now.date s.memberships) (h.mono hle) ?_
  intro u s' hrun
  cases call with
  | createGroup op =>
    obtain ⟨id, hrun⟩ := run_discard_eq_ok.mp hrun
    rw [(CreateRegistrarGroup.exec_ok hrun).1]
    exact h.mono hle
  | cancelGroup op =>
    obtain ⟨-, -, rfl⟩ := CancelRegistrarGroup.exec_ok hrun
    exact h.mono hle
  | createMembership op choice =>
    obtain ⟨id, t, hexec, rfl⟩ := run_onMemberships_eq_ok.mp hrun
    exact (h.mono hle).create hc hexec
  | endMembership op =>
    obtain ⟨id, t, hexec, rfl⟩ := run_onMemberships_eq_ok.mp hrun
    obtain ⟨m, hm, -, rfl⟩ := EndRegistrarGroupMembership.exec_ok hexec
    exact (h.mono hle).ended hm le_rfl

theorem reached_prompt (h : Reached (fun c _ => c.Prompt) r) : Prompt r.today r.memberships := by
  refine h.invariant ?_ fun c s hc hs => prompt_next c hc.2 hc.1 hs
  rintro s ⟨-, he⟩
  constructor
  · intro m hm
    simp [he] at hm
  · simp [he]

/-- At midnight memberships that end and begin on the day are both unfinished. -/
theorem Prompt.endsCurrent (h : Prompt today s) (hle : today ≤ now.date)
    (hnight : now.midnight = false) : EndsCurrent op now s := by
  refine endsCurrent_iff.mpr ⟨?_, fun m hm _ => (h.1 m (mem_membershipsOf.mp hm).1).trans hle⟩
  intro a ha b hb hna hnb
  obtain ⟨ha, hrega, hgroupa⟩ := mem_membershipsOf.mp ha
  obtain ⟨hb, hregb, hgroupb⟩ := mem_membershipsOf.mp hb
  have hnot : ∀ {m : RegistrarGroupMap}, (notOver now m.memberUntil).holds →
      ¬ ∃ last ∈ m.memberUntil, last ≤ today := by
    rintro m hnot ⟨last, hlast, hover⟩
    rcases holds_notOver.mp hnot last hlast with hlt | ⟨hmid, -⟩
    · omega
    · rw [hnight] at hmid
      cases hmid
  by_contra hne
  have hkey : a.id ≠ b.id := fun hk => hne (Table.eq_of_key_eq ha hb hk)
  rcases h.2 a ha b hb hkey (hrega.trans hregb.symm) (hgroupa.trans hgroupb.symm) with hov | hov
  · exact hnot hna hov
  · exact hnot hnb hov

/-- In runs that create no membership for the future the operation ends the membership in force,
save at midnight; in any other state it does exactly when at most one membership is unfinished and
that has begun. -/
theorem end_membership_current (r : Registry) (op : EndRegistrarGroupMembership) (now : Now) :
    (Reached (fun c _ => c.Prompt) r → r.today ≤ now.date → now.midnight = false →
      EndsCurrent op now r.memberships) ∧
    (EndsCurrent op now r.memberships ↔ Single op now r.memberships ∧ op.Timely now r.memberships) :=
  ⟨fun h hle hnight => (reached_prompt h).endsCurrent hle hnight, endsCurrent_iff⟩

/-- On day 10 the registrar joins the group, from the given day on. -/
def joins (memberFrom : Int) (memberUntil : Date) : TimedCall where
  now := ⟨10, false⟩
  call := .createMembership ⟨1, 1, memberFrom, memberUntil⟩ 0

theorem end_membership_current_sample :
    EndsCurrent ⟨1, 1⟩ ⟨12, false⟩ ((joins 10 .notADateTime).next emptyRegistry).memberships :=
  (end_membership_current _ ⟨1, 1⟩ ⟨12, false⟩).1
    (.step _ (.init ⟨rfl, rfl⟩) ⟨by decide, le_refl (10 : Int)⟩) (by decide) rfl

/-- A member until day 20 who is to return on day 25 has two unfinished memberships on day 12. -/
theorem not_end_membership_current :
    ¬ ∀ r, Reached (fun _ _ => True) r → ∀ op now, r.today ≤ now.date →
      EndsCurrent op now r.memberships := by
  intro h
  have hends := h ((joins 25 .notADateTime).next ((joins 10 (.day 20)).next emptyRegistry))
    (.step _ (.step _ (.init ⟨rfl, rfl⟩) ⟨by decide, trivial⟩) ⟨by decide, trivial⟩)
    ⟨1, 1⟩ ⟨12, false⟩ (by decide)
  have hrun : ((EndRegistrarGroupMembership.mk 1 1).exec ⟨12, false⟩).run
      ((joins 25 .notADateTime).next ((joins 10 (.day 20)).next emptyRegistry)).memberships =
      .error .terminate
        ((joins 25 .notADateTime).next ((joins 10 (.day 20)).next emptyRegistry)).memberships := by
    rfl
  rcases hends with ⟨herr, -⟩ | ⟨m, -, -, s', hok, -⟩
  · rw [hrun] at herr
    cases herr
  · rw [hrun] at hok
    cases hok

/-- A membership that begins on day 20 is ended on day 12. -/
example : ((EndRegistrarGroupMembership.mk 1 1).exec ⟨12, false⟩).run
    ((joins 20 .notADateTime).next emptyRegistry).memberships =
      .ok 1 (ended ((joins 20 .notADateTime).next emptyRegistry).memberships 1 12) := by
  rfl

end LibFred.RegistrarGroups
