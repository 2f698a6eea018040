import LibFred.Registrar.GroupMembership
import LibFred.Transition

/-! What every serial run of the membership operations keeps. -/
namespace LibFred.GroupMembership

open Sql

variable {s s' : Memberships} {m a b : RegistrarGroupMap} {id : Nat} {day : Int} {choice : Nat}
  {registrarId groupId : Nat} {now : Now}

/-- The days of the membership. -/
def RegistrarGroupMap.interval (m : RegistrarGroupMap) : Set Int :=
  Span.ico m.memberFrom m.memberUntil

/-- Memberships of one registrar in one group share no day. -/
def Apart (a b : RegistrarGroupMap) : Prop :=
  a.registrarId = b.registrarId → a.registrarGroupId = b.registrarGroupId →
    Disjoint a.interval b.interval

/-- No membership ends before it begins. -/
def Ordered (s : Memberships) : Prop :=
  ∀ m ∈ s.registrarGroupMap, ∀ t ∈ m.memberUntil, m.memberFrom ≤ t

def WellFormed (s : Memberships) : Prop := Ordered s ∧ s.registrarGroupMap.Pairwise Apart

theorem Apart.symm (h : Apart a b) : Apart b a :=
  fun hreg hgroup => (h hreg.symm hgroup.symm).symm

@[simp] theorem mem_membershipsOf : m ∈ membershipsOf s registrarId groupId ↔
    m ∈ s.registrarGroupMap ∧ m.registrarId = registrarId ∧ m.registrarGroupId = groupId :=
  Table.mem_select

theorem holds_notOver {memberUntil : Option Int} : (notOver now memberUntil).holds ↔
    ∀ t ∈ memberUntil, now.date < t ∨ now.midnight ∧ t = now.date := by
  cases memberUntil <;> simp [notOver]

instance : Std.Total untilDesc := ⟨fun _ _ => le_total _ _⟩

instance : IsTrans RegistrarGroupMap untilDesc := ⟨fun _ _ _ hab hbc => le_trans hbc hab⟩

/-- A membership that is ended keeps a part of its days. -/
theorem interval_endAt_subset (h : ∀ t ∈ m.memberUntil, day ≤ t) :
    (endAt day m).interval ⊆ m.interval := by
  rintro x ⟨hfrom, huntil⟩
  have hx : x < day := huntil day rfl
  exact ⟨hfrom, fun t ht => hx.trans_le (h t ht)⟩

/-- Two memberships without an end meet. -/
theorem WellFormed.open_unique (hs : WellFormed s) (ha : a ∈ membershipsOf s registrarId groupId)
    (hb : b ∈ membershipsOf s registrarId groupId) (hopena : a.memberUntil = none)
    (hopenb : b.memberUntil = none) : a = b := by
  obtain ⟨ha, hrega, hgroupa⟩ := mem_membershipsOf.mp ha
  obtain ⟨hb, hregb, hgroupb⟩ := mem_membershipsOf.mp hb
  by_contra hne
  have hkey : a.id ≠ b.id := fun h => hne (Table.eq_of_key_eq ha hb h)
  refine Span.not_disjoint_ico_iff.mpr ?_
    (hs.2 a ha b hb hkey (hrega.trans hregb.symm) (hgroupa.trans hgroupb.symm))
  simp [hopena, hopenb]

/-- The table once the membership of an id is ended. -/
def ended (s : Memberships) (id : Nat) (day : Int) : Memberships where
  registrarGroupMap := s.registrarGroupMap.update (·.id = id) (endAt day) (key_endAt day)
  idSeq := s.idSeq

theorem mem_ended (hm : m ∈ s.registrarGroupMap) : a ∈ (ended s m.id day).registrarGroupMap ↔
    a = endAt day m ∨ a ∈ s.registrarGroupMap ∧ a.id ≠ m.id :=
  Table.mem_update_row (key_endAt day) hm fun _ _ => Iff.rfl

/-- Ending one membership early leaves the others as they are. -/
theorem WellFormed.ended_iff (hs : WellFormed s) (hm : m ∈ s.registrarGroupMap)
    (hday : ∀ t ∈ m.memberUntil, day ≤ t) :
    WellFormed (ended s m.id day) ↔ m.memberFrom ≤ day := by
  have hapart : (ended s m.id day).registrarGroupMap.Pairwise Apart := by
    refine (hs.2.update_row_iff Apart.symm (key_endAt day) hm fun _ _ => Iff.rfl).mpr ?_
    intro b hb hne hreg hgroup
    exact (hs.2 m hm b hb hne.symm hreg hgroup).mono_left (interval_endAt_subset hday)
  constructor
  · intro h
    exact h.1 (endAt day m) ((mem_ended hm).mpr (.inl rfl)) day rfl
  · intro hle
    refine ⟨fun a ha t ht => ?_, hapart⟩
    rcases (mem_ended hm).mp ha with rfl | ⟨ha, -⟩
    · obtain rfl : day = t := Option.some.inj ht
      exact hle
    · exact hs.1 a ha t ht

/-- The row that Create inserts. -/
def CreateRegistrarGroupMembership.row (op : CreateRegistrarGroupMembership) (id : Nat) :
    RegistrarGroupMap :=
  ⟨id, op.registrarId, op.groupId, op.memberFrom, op.memberUntil.day?⟩

theorem CreateRegistrarGroupMembership.insert_ok {op : CreateRegistrarGroupMembership}
    (h : op.insert.run s = .ok id s') :
    ∀ m, m ∈ s'.registrarGroupMap ↔ m ∈ s.registrarGroupMap ∨ m = op.row s.idSeq := by
  simp only [CreateRegistrarGroupMembership.insert, EStateM.run] at h
  split at h
  · rename_i t ht
    cases h
    exact fun _ => Table.mem_of_insert? ht
  · cases h

/-- A membership may be added when it shares no day with the others of the registrar in the group. -/
theorem CreateRegistrarGroupMembership.insert_wellFormed {op : CreateRegistrarGroupMembership}
    (hs : WellFormed s) (hord : ¬ precedes op.memberUntil op.memberFrom)
    (hfree : ∀ m ∈ membershipsOf s op.registrarId op.groupId,
      Disjoint m.interval (op.row s.idSeq).interval)
    (h : op.insert.run s = .ok id s') : WellFormed s' := by
  have hmem := CreateRegistrarGroupMembership.insert_ok h
  constructor
  · intro m hm t ht
    rcases (hmem m).mp hm with hm | rfl
    · exact hs.1 m hm t ht
    · change t ∈ op.memberUntil.day? at ht
      cases hu : op.memberUntil with
      | day last =>
        rw [hu] at ht hord
        obtain rfl : last = t := Option.some.inj ht
        exact not_lt.mp hord
      | notADateTime => rw [hu] at ht; cases ht
      | posInfin => rw [hu] at ht; cases ht
      | negInfin => rw [hu] at ht; cases ht
  · refine hs.2.add Apart.symm (l := [op.row s.idSeq]) (fun m hm => by simpa using (hmem m).mp hm)
      ?_ ?_
    · intro m hm new hnew hreg hgroup
      obtain rfl := List.mem_singleton.mp hnew
      exact hfree m (mem_membershipsOf.mpr ⟨hm, hreg, hgroup⟩)
    · intro a ha b hb hne
      rw [List.mem_singleton.mp ha, List.mem_singleton.mp hb] at hne
      exact absurd rfl hne

/-- Either every membership is over when the new one begins, or the open one is ended then. -/
theorem CreateRegistrarGroupMembership.exec_ok {op : CreateRegistrarGroupMembership}
    (h : (op.exec choice).run s = .ok id s') :
    ¬ precedes op.memberUntil op.memberFrom ∧
      ((∀ m ∈ membershipsOf s op.registrarId op.groupId, ∃ t ∈ m.memberUntil, t ≤ op.memberFrom) ∧
        op.insert.run s = .ok id s' ∨
      ∃ last ∈ membershipsOf s op.registrarId op.groupId, last.memberUntil = none ∧
        op.insert.run (ended s last.id op.memberFrom) = .ok id s') := by
  unfold CreateRegistrarGroupMembership.exec at h
  obtain ⟨_, t, hraise, h⟩ := run_bind_eq_ok.mp h
  obtain ⟨hord, rfl⟩ := run_raiseIf_eq_ok.mp hraise
  obtain ⟨s₁, t, hget, h⟩ := run_bind_eq_ok.mp h
  obtain ⟨rfl, rfl⟩ := run_get_eq_ok.mp hget
  refine ⟨hord, ?_⟩
  split at h
  · rename_i hnone
    rw [firstBy_eq_none.mp hnone]
    exact .inl ⟨by simp, h⟩
  · rename_i last hlast
    obtain ⟨hmem, hfirst⟩ := of_firstBy_eq_some hlast
    split at h
    · rename_i hopen
      obtain ⟨_, t, hset, h⟩ := run_bind_eq_ok.mp h
      obtain rfl := run_set_eq_ok.mp hset
      exact .inr ⟨last, hmem, hopen, h⟩
    · rename_i lastUntil hlastUntil
      obtain ⟨_, t, hraise, h⟩ := run_bind_eq_ok.mp h
      obtain ⟨hno, rfl⟩ := run_raiseIf_eq_ok.mp hraise
      refine .inl ⟨fun m hm => ?_, h⟩
      -- The last end bounds every other one, and an open membership would be the last.
      have hle := hfirst m hm
      rw [untilDesc, hlastUntil] at hle
      cases hm' : m.memberUntil with
      | none => simp [hm'] at hle
      | some t =>
        have htl : t ≤ lastUntil := by simpa [hm'] using hle
        exact ⟨t, rfl, htl.trans (not_lt.mp hno)⟩

/-- An open membership of the registrar in the group does not begin after the new one. -/
def CreateRegistrarGroupMembership.Timely (op : CreateRegistrarGroupMembership)
    (s : Memberships) : Prop :=
  ∀ m ∈ membershipsOf s op.registrarId op.groupId, m.memberUntil = none →
    m.memberFrom ≤ op.memberFrom

theorem CreateRegistrarGroupMembership.wellFormed_iff {op : CreateRegistrarGroupMembership}
    (hs : WellFormed s) (h : (op.exec choice).run s = .ok id s') :
    WellFormed s' ↔ op.Timely s := by
  obtain ⟨hord, ⟨hover, hins⟩ | ⟨last, hlast, hopen, hins⟩⟩ :=
    CreateRegistrarGroupMembership.exec_ok h
  · have hwf : WellFormed s' := by
      refine insert_wellFormed hs hord (fun m hm => ?_) hins
      obtain ⟨t, ht, hle⟩ := hover m hm
      exact Span.disjoint_ico_of_before ht hle
    refine iff_of_true hwf fun m hm hnone => ?_
    obtain ⟨t, ht, -⟩ := hover m hm
    rw [hnone] at ht
    cases ht
  · obtain ⟨hmem, hreg, hgroup⟩ := mem_membershipsOf.mp hlast
    constructor
    · intro h' m hm hnone
      obtain rfl := hs.open_unique hm hlast hnone hopen
      have hrow : endAt op.memberFrom m ∈ s'.registrarGroupMap :=
        (CreateRegistrarGroupMembership.insert_ok hins _).mpr (.inl ((mem_ended hmem).mpr (.inl rfl)))
      exact h'.1 _ hrow op.memberFrom rfl
    · intro htimely
      have hle : last.memberFrom ≤ op.memberFrom := htimely last hlast hopen
      have hwf : WellFormed (ended s last.id op.memberFrom) :=
        (hs.ended_iff hmem (by simp [hopen])).mpr hle
      refine insert_wellFormed hwf hord (fun m hm => ?_) hins
      obtain ⟨hm, hmreg, hmgroup⟩ := mem_membershipsOf.mp hm
      rcases (mem_ended hmem).mp hm with rfl | ⟨hm, hne⟩
      · exact Span.disjoint_ico_of_before rfl le_rfl
      · -- The new membership lies in the days of the open one that was ended.
        have hdisj : Disjoint m.interval last.interval :=
          hs.2 m hm last hmem hne (hmreg.trans hreg.symm) (hmgroup.trans hgroup.symm)
        refine hdisj.mono_right ?_
        rintro x ⟨hx, -⟩
        exact ⟨hle.trans hx, by simp [hopen]⟩

/-- The membership that is ended does not begin after the present day. -/
def EndRegistrarGroupMembership.Timely (op : EndRegistrarGroupMembership) (now : Now)
    (s : Memberships) : Prop :=
  ∀ m ∈ membershipsOf s op.registrarId op.groupId, (notOver now m.memberUntil).holds →
    m.memberFrom ≤ now.date

theorem EndRegistrarGroupMembership.exec_ok {op : EndRegistrarGroupMembership}
    (h : (op.exec now).run s = .ok id s') :
    ∃ m ∈ s.registrarGroupMap, (∀ a, a ∈ membershipsOf s op.registrarId op.groupId ∧
      (notOver now a.memberUntil).holds ↔ a = m) ∧ s' = ended s m.id now.date := by
  unfold EndRegistrarGroupMembership.exec at h
  obtain ⟨s₁, t, hget, h⟩ := run_bind_eq_ok.mp h
  obtain ⟨rfl, rfl⟩ := run_get_eq_ok.mp hget
  split at h
  · cases h
  · rename_i m hsel
    obtain ⟨_, t, hset, h⟩ := run_bind_eq_ok.mp h
    obtain rfl := run_set_eq_ok.mp hset
    obtain ⟨-, rfl⟩ := run_pure_eq_ok.mp h
    have honly : ∀ a, a ∈ membershipsOf s op.registrarId op.groupId ∧
        (notOver now a.memberUntil).holds ↔ a = m := by
      intro a
      rw [← List.mem_singleton, ← hsel, List.mem_filter, decide_eq_true_iff]
    exact ⟨m, (mem_membershipsOf.mp ((honly m).mpr rfl).1).1, honly, rfl⟩
  · cases h

theorem EndRegistrarGroupMembership.wellFormed_iff {op : EndRegistrarGroupMembership}
    (hs : WellFormed s) (h : (op.exec now).run s = .ok id s') :
    WellFormed s' ↔ op.Timely now s := by
  obtain ⟨m, hm, honly, rfl⟩ := EndRegistrarGroupMembership.exec_ok h
  obtain ⟨hmem, hover⟩ := (honly m).mpr rfl
  have hday : ∀ t ∈ m.memberUntil, now.date ≤ t := by
    intro t ht
    rcases holds_notOver.mp hover t ht with hlt | ⟨-, heq⟩
    · exact hlt.le
    · exact heq.ge
  rw [hs.ended_iff hm hday]
  constructor
  · intro hle a ha hnot
    rw [(honly a).mp ⟨ha, hnot⟩]
    exact hle
  · intro htimely
    exact htimely m hmem hover

/-- The call does not raise. -/
def Call.Succeeds (c : Call) (s : Memberships) : Prop := ∃ id s', c.exec.run s = .ok id s'

/-- No membership is ended before it begins. -/
def Call.Timely : Call → Memberships → Prop
  | .createMembership op _, s => op.Timely s
  | .endMembership op now, s => op.Timely now s

theorem wellFormed_next_iff (c : Call) (hs : WellFormed s) (h : c.Succeeds s) :
    WellFormed (c.next s) ↔ c.Timely s := by
  obtain ⟨id, s', h⟩ := h
  rw [Call.next, transaction_of_ok h]
  cases c with
  | createMembership op choice => exact CreateRegistrarGroupMembership.wellFormed_iff hs h
  | endMembership op now => exact EndRegistrarGroupMembership.wellFormed_iff hs h

theorem wellFormed_next (c : Call) (hc : c.Succeeds s → c.Timely s) (hs : WellFormed s) :
    WellFormed (c.next s) := by
  by_cases h : c.Succeeds s
  · exact (wellFormed_next_iff c hs h).mpr (hc h)
  · exact transaction_preserves hs fun id s' hrun => absurd ⟨id, s', hrun⟩ h

/-- Tables that a run of calls reaches from an empty registrar_group_map. -/
def Reached (admits : Call → Memberships → Prop) (s : Memberships) : Prop :=
  Transition.Reachable Call.next admits (·.registrarGroupMap = ∅) s

theorem reached_timely (h : Reached (fun c s => c.Succeeds s → c.Timely s) s) : WellFormed s := by
  refine h.invariant ?_ fun c s hc hs => wellFormed_next c hc hs
  intro s he
  constructor
  · intro m hm
    simp [he] at hm
  · simp [he]

/-- Memberships stay well formed in every run whose successful calls end none before it begins, and
the first other call that succeeds ends that. -/
theorem memberships_wellFormed (s : Memberships) :
    (Reached (fun c s => c.Succeeds s → c.Timely s) s → WellFormed s) ∧
    ∀ c : Call, WellFormed s → c.Succeeds s → (WellFormed (c.next s) ↔ c.Timely s) :=
  ⟨fun h => reached_timely h, fun c hs h => wellFormed_next_iff c hs h⟩

/-- A membership without an end. -/
def sampleCreate (memberFrom : Int) : Call := .createMembership ⟨1, 1, memberFrom, .notADateTime⟩ 0

def sampleMemberships : Memberships := (sampleCreate 10).next ⟨∅, 1⟩

theorem mem_sampleMemberships : m ∈ sampleMemberships.registrarGroupMap ↔ m = ⟨1, 1, 1, 10, none⟩ := by
  have hrows : sampleMemberships.registrarGroupMap.rows = [⟨1, 1, 1, 10, none⟩] := by rfl
  simp [← Table.mem_rows, hrows]

theorem memberships_wellFormed_sample :
    WellFormed ((sampleCreate 15).next sampleMemberships) := by
  have hs : WellFormed sampleMemberships := (memberships_wellFormed _).1
    (.step _ (.init rfl) fun _ m hm => by simp [mem_membershipsOf] at hm)
  refine ((memberships_wellFormed _).2 _ hs ⟨_, _, rfl⟩).mpr fun m hm _ => ?_
  rw [mem_sampleMemberships.mp (mem_membershipsOf.mp hm).1]
  decide

/-- The membership from day 10 on is ended on day 5, where another one begins. -/
theorem not_memberships_wellFormed :
    ¬ ∀ s, Reached (fun _ _ => True) s → WellFormed s := by
  intro h
  have hs := h ((sampleCreate 5).next sampleMemberships)
    (.step _ (.step _ (.init rfl) trivial) trivial)
  have hrows : ((sampleCreate 5).next sampleMemberships).registrarGroupMap.rows =
    [⟨1, 1, 1, 10, some 5⟩, ⟨2, 1, 1, 5, none⟩] := by rfl
  have hmem : (⟨1, 1, 1, 10, some 5⟩ : RegistrarGroupMap) ∈
      ((sampleCreate 5).next sampleMemberships).registrarGroupMap := by
    rw [← Table.mem_rows, hrows]
    exact List.mem_cons_self
  have hle : (10 : Int) ≤ 5 := hs.1 _ hmem 5 rfl
  omega

end LibFred.GroupMembership
