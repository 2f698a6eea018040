import LibFred.Registrar.Certification

/-! What every serial run of the certification operations keeps. -/
namespace LibFred.Certification

open Sql

variable {session : Session} {s s' : Certifications} {rc : RegistrarCertification}
  {a b : RegistrarCertification} {registrarId : Option Nat} {validFrom : Int}

/-- The days on which the certification is valid. -/
def RegistrarCertification.validity (rc : RegistrarCertification) : Set Int :=
  Span.icc rc.validFrom rc.validUntil

/-- Certifications of one registrar share no day. -/
def Apart (a b : RegistrarCertification) : Prop :=
  a.registrarId = b.registrarId → Disjoint a.validity b.validity

/-- No certification ends before it begins. -/
def Ordered (s : Certifications) : Prop :=
  ∀ rc ∈ s.registrarCertification, ∀ t ∈ rc.validUntil, rc.validFrom ≤ t

def WellFormed (s : Certifications) : Prop := Ordered s ∧ s.registrarCertification.Pairwise Apart

theorem Apart.symm (h : Apart a b) : Apart b a := fun hreg => (h hreg.symm).symm

@[simp] theorem holds_truncatable : (truncatable registrarId validFrom rc).holds ↔
    registrarId = some rc.registrarId ∧ rc.validFrom < validFrom ∧
      ∀ t ∈ rc.validUntil, validFrom ≤ t := by
  cases hu : rc.validUntil <;> simp [truncatable, reaches, hu, and_assoc]

theorem not_reaches : ¬ (reaches rc validFrom).holds ↔ ∃ t ∈ rc.validUntil, t < validFrom := by
  cases hu : rc.validUntil <;> simp [reaches, hu]

/-- Both certifications are valid on the day that they would be truncated at. -/
theorem WellFormed.truncatable_unique (hs : WellFormed s) (ha : a ∈ s.registrarCertification)
    (hb : b ∈ s.registrarCertification) (hta : (truncatable registrarId validFrom a).holds)
    (htb : (truncatable registrarId validFrom b).holds) : a = b := by
  by_contra hne
  obtain ⟨hreg, hlta, hua⟩ := holds_truncatable.mp hta
  obtain ⟨hreg', hltb, hub⟩ := holds_truncatable.mp htb
  have hkey : a.id ≠ b.id := fun h => hne (Table.eq_of_key_eq ha hb h)
  have hsame : a.registrarId = b.registrarId := Option.some.inj (hreg.symm.trans hreg')
  have hdisj := hs.2 a ha b hb hkey hsame
  exact Set.disjoint_left.mp hdisj ⟨hlta.le, hua⟩ ⟨hltb.le, hub⟩

theorem WellFormed.length_truncatable (hs : WellFormed s) (registrarId : Option Nat)
    (validFrom : Int) : (s.registrarCertification.select
      fun rc => (truncatable registrarId validFrom rc).holds).length ≤ 1 := by
  rcases Table.select_eq_nil_or_singleton fun _ ha _ hb => hs.truncatable_unique ha hb
    with h | ⟨rc, h⟩
  · rw [h]
    exact Nat.zero_le 1
  · rw [h]
    exact Nat.le_refl 1

theorem checkValidity_ok {from' until' : Date} {day : Int}
    (h : (checkValidity session from' until').run s = .ok day s') :
    (∀ t ∈ until'.day?, day < t) ∧ s = s' := by
  unfold checkValidity at h
  split at h
  · cases h
  · obtain ⟨_, t, hraise, h⟩ := run_bind_eq_ok.mp h
    obtain ⟨hord, rfl⟩ := run_raiseIf_eq_ok.mp hraise
    obtain ⟨_, t, hraise, h⟩ := run_bind_eq_ok.mp h
    obtain ⟨-, rfl⟩ := run_raiseIf_eq_ok.mp hraise
    obtain ⟨rfl, rfl⟩ := run_pure_eq_ok.mp h
    refine ⟨fun t ht => ?_, rfl⟩
    by_contra hle
    exact hord ⟨t, ht, not_lt.mp hle⟩

theorem RegistrarIdVariant.sql_ok {v : RegistrarIdVariant}
    (h : (v.sql session).run s = .ok registrarId s') : s = s' := by
  cases v with
  | byId id => exact (run_pure_eq_ok.mp h).2
  | byHandle handle =>
    unfold RegistrarIdVariant.sql at h
    split at h
    · rename_i he
      cases he
    · split at h
      · exact (run_pure_eq_ok.mp h).2
      · exact (run_pure_eq_ok.mp h).2
      · cases h

theorem truncateValidity_ok {u : Unit}
    (h : (truncateValidity registrarId validFrom).run s = .ok u s') :
    s'.registrarCertification = s.registrarCertification.update
      (fun rc => (truncatable registrarId validFrom rc).holds) (endBefore validFrom)
      (key_endBefore validFrom) := by
  unfold truncateValidity at h
  obtain ⟨s₁, t, hget, h⟩ := run_bind_eq_ok.mp h
  obtain ⟨rfl, rfl⟩ := run_get_eq_ok.mp hget
  obtain ⟨_, t, hset, h⟩ := run_bind_eq_ok.mp h
  obtain rfl := run_set_eq_ok.mp hset
  split at h
  · obtain ⟨-, rfl⟩ := run_pure_eq_ok.mp h
    rfl
  · obtain ⟨-, rfl⟩ := run_pure_eq_ok.mp h
    rfl
  · cases h

theorem checkValidityOverlapping_ok {u : Unit}
    (h : (checkValidityOverlapping session registrarId validFrom).run s = .ok u s') :
    (∀ rc ∈ s.registrarCertification, registrarId = some rc.registrarId →
      ∃ t ∈ rc.validUntil, t < validFrom) ∧ s = s' := by
  unfold checkValidityOverlapping at h
  obtain ⟨s₁, t, hget, h⟩ := run_bind_eq_ok.mp h
  obtain ⟨rfl, rfl⟩ := run_get_eq_ok.mp hget
  split at h
  · cases h
  · rename_i r hsel
    obtain ⟨hno, rfl⟩ := run_raiseIf_eq_ok.mp h
    refine ⟨fun rc hrc hreg => not_reaches.mp fun hreach => hno ⟨rc, hrc, ?_, hreach⟩, rfl⟩
    obtain ⟨-, hid, -⟩ := Table.select_eq_singleton.mp hsel
    obtain ⟨x, hx, hx'⟩ := holds_eq.mp hid
    exact (Option.some.inj (hx'.symm.trans hreg)).symm.trans (Option.some.inj hx).symm
  · cases h

theorem insertRow_ok {validUntil : Option Int} {classification : Int} {uuid : Uuid}
    (h : (insertRow session registrarId validFrom validUntil classification uuid).run s =
      .ok rc s') :
    registrarId = some rc.registrarId ∧ rc.validFrom = validFrom ∧ rc.validUntil = validUntil ∧
      ∀ a, a ∈ s'.registrarCertification ↔ a ∈ s.registrarCertification ∨ a = rc := by
  simp only [insertRow, EStateM.run] at h
  split at h
  · cases h
  · split at h
    · rename_i t ht
      cases h
      exact ⟨rfl, rfl, rfl, fun _ => Table.mem_of_insert? ht⟩
    · cases h

/-- One identification of a file never names two. -/
theorem Session.files_unique (session : Session) (v : FileIdVariant) {f g : File}
    (hf : f ∈ session.files) (hg : g ∈ session.files) (hvf : v.names f) (hvg : v.names g) :
    f = g := by
  cases v with
  | byId id => exact Table.eq_of_key_eq hf hg (hvf.trans hvg.symm)
  | byUuid uuid => exact session.fileOfUuid f hf g hg (hvf.trans hvg.symm)

theorem insertOneRecord_ok {validUntil : Date} {classification : Int} {evalFileId : FileIdVariant}
    (h : (insertOneRecord session registrarId validFrom validUntil classification evalFileId).run s
      = .ok rc s') :
    registrarId = some rc.registrarId ∧ rc.validFrom = validFrom ∧
      rc.validUntil = validUntil.day? ∧
      ∀ a, a ∈ s'.registrarCertification ↔ a ∈ s.registrarCertification ∨ a = rc := by
  unfold insertOneRecord at h
  obtain ⟨rcs, t, hrows, h⟩ := run_bind_eq_ok.mp h
  rcases Table.select_eq_nil_or_singleton fun f hf g hg => session.files_unique evalFileId hf hg
    with hnil | ⟨f, hf⟩
  · rw [hnil, List.mapM_nil] at hrows
    obtain ⟨rfl, rfl⟩ := run_pure_eq_ok.mp hrows
    cases h
  · rw [hf, List.mapM_cons] at hrows
    obtain ⟨rc', t₁, hins, hrows⟩ := run_bind_eq_ok.mp hrows
    rw [List.mapM_nil] at hrows
    obtain ⟨_, t₂, hnil, hrows⟩ := run_bind_eq_ok.mp hrows
    obtain ⟨rfl, rfl⟩ := run_pure_eq_ok.mp hnil
    obtain ⟨rfl, rfl⟩ := run_pure_eq_ok.mp hrows
    obtain ⟨rfl, rfl⟩ := run_pure_eq_ok.mp h
    exact insertRow_ok hins

/-- What is left of a certification `b` when one from `validFrom` on is created. -/
def Truncated (validFrom : Int) (b a : RegistrarCertification) : Prop :=
  a = b ∨ b.validFrom < validFrom ∧ (∀ t ∈ b.validUntil, validFrom ≤ t) ∧ a = endBefore validFrom b

theorem Truncated.registrarId_eq (h : Truncated validFrom b a) : a.registrarId = b.registrarId := by
  rcases h with rfl | ⟨-, -, rfl⟩ <;> rfl

theorem Truncated.validity_subset (h : Truncated validFrom b a) : a.validity ⊆ b.validity := by
  rcases h with rfl | ⟨-, hreach, rfl⟩
  · exact subset_rfl
  · rintro day ⟨hfrom, huntil⟩
    have hlast : day ≤ validFrom - 1 := huntil _ rfl
    refine ⟨hfrom, fun t ht => ?_⟩
    have hle := hreach t ht
    omega

theorem CreateRegistrarCertification.exec_ok {op : CreateRegistrarCertification}
    (h : (op.exec session).run s = .ok rc s') :
    (∀ t ∈ rc.validUntil, rc.validFrom < t) ∧
    ∀ a ∈ s'.registrarCertification, a = rc ∨
      (∃ b ∈ s.registrarCertification, b.id = a.id ∧ Truncated rc.validFrom b a) ∧
      (a.registrarId = rc.registrarId → ∃ t ∈ a.validUntil, t < rc.validFrom) := by
  unfold CreateRegistrarCertification.exec at h
  obtain ⟨_, t, hraise, h⟩ := run_bind_eq_ok.mp h
  obtain ⟨-, rfl⟩ := run_raiseIf_eq_ok.mp hraise
  obtain ⟨day, t, hcheck, h⟩ := run_bind_eq_ok.mp h
  obtain ⟨hord, rfl⟩ := checkValidity_ok hcheck
  obtain ⟨registrarId, t, hreg, h⟩ := run_bind_eq_ok.mp h
  obtain rfl := RegistrarIdVariant.sql_ok hreg
  obtain ⟨_, s₁, htrunc, h⟩ := run_bind_eq_ok.mp h
  have hrows := truncateValidity_ok htrunc
  obtain ⟨_, t, hcheck, h⟩ := run_bind_eq_ok.mp h
  obtain ⟨hover, rfl⟩ := checkValidityOverlapping_ok hcheck
  obtain ⟨hid, rfl, huntil, hmem⟩ := insertOneRecord_ok h
  refine ⟨fun t ht => hord t (huntil ▸ ht), fun a ha => ?_⟩
  rcases (hmem a).mp ha with ha | rfl
  · refine .inr ⟨?_, fun hsame => hover a ha (hid.trans (congrArg some hsame.symm))⟩
    rw [hrows, Table.mem_update (key_endBefore _)] at ha
    obtain ⟨b, hb, rfl⟩ := ha
    by_cases htr : (truncatable registrarId rc.validFrom b).holds
    · rw [if_pos htr]
      exact ⟨b, hb, rfl, .inr ⟨(holds_truncatable.mp htr).2.1, (holds_truncatable.mp htr).2.2, rfl⟩⟩
    · rw [if_neg htr]
      exact ⟨b, hb, rfl, .inl rfl⟩
  · exact .inl rfl

theorem CreateRegistrarCertification.ordered {op : CreateRegistrarCertification} (hs : Ordered s)
    (h : (op.exec session).run s = .ok rc s') : Ordered s' := by
  obtain ⟨hord, hmem⟩ := CreateRegistrarCertification.exec_ok h
  intro a ha t ht
  rcases hmem a ha with rfl | ⟨⟨b, hb, -, rfl | ⟨hlt, -, rfl⟩⟩, -⟩
  · exact (hord t ht).le
  · exact hs a hb t ht
  · have hday : rc.validFrom - 1 = t := Option.some.inj ht
    change b.validFrom ≤ t
    omega

theorem CreateRegistrarCertification.apart {op : CreateRegistrarCertification}
    (hs : s.registrarCertification.Pairwise Apart) (h : (op.exec session).run s = .ok rc s') :
    s'.registrarCertification.Pairwise Apart := by
  obtain ⟨-, hmem⟩ := CreateRegistrarCertification.exec_ok h
  -- Whatever the registrar had before is over when the new certification begins.
  have hnew : ∀ a, (a.registrarId = rc.registrarId → ∃ t ∈ a.validUntil, t < rc.validFrom) →
      Apart a rc := fun a hover hreg => Span.disjoint_icc_of_before (.inl (hover hreg))
  intro a ha b hb hne
  rcases hmem a ha with rfl | ⟨⟨a₀, ha₀, hida, hta⟩, hovera⟩ <;>
    rcases hmem b hb with rfl | ⟨⟨b₀, hb₀, hidb, htb⟩, hoverb⟩
  · exact absurd rfl hne
  · exact (hnew b hoverb).symm
  · exact hnew a hovera
  · intro hreg
    rw [hta.registrarId_eq, htb.registrarId_eq] at hreg
    have hdisj := hs a₀ ha₀ b₀ hb₀ (by rw [show Keyed.key a₀ = a.id from hida,
      show Keyed.key b₀ = b.id from hidb]; exact hne) hreg
    exact hdisj.mono hta.validity_subset htb.validity_subset

theorem checkValidUntil_ok {v : CertificationIdVariant} {validUntil : Int} {u : Unit}
    (h : (checkValidUntil session v validUntil).run s = .ok u s') :
    (∀ rc ∈ s.registrarCertification, v.names rc → rc.validFrom ≤ validUntil) ∧ s = s' := by
  unfold checkValidUntil at h
  obtain ⟨s₁, t, hget, h⟩ := run_bind_eq_ok.mp h
  obtain ⟨rfl, rfl⟩ := run_get_eq_ok.mp hget
  split at h
  · cases h
  · rename_i rc hsel
    obtain ⟨_, t, hraise, h⟩ := run_bind_eq_ok.mp h
    obtain ⟨-, rfl⟩ := run_raiseIf_eq_ok.mp hraise
    obtain ⟨hord, rfl⟩ := run_raiseIf_eq_ok.mp h
    obtain ⟨-, -, honly⟩ := Table.select_eq_singleton.mp hsel
    refine ⟨fun rc' hrc' hv => ?_, rfl⟩
    rw [honly rc' hrc' hv]
    exact not_lt.mp hord
  · cases h

theorem UpdateRegistrarCertification.checkUntil_ok {op : UpdateRegistrarCertification} {u : Unit}
    (h : (op.checkUntil session).run s = .ok u s') :
    (∀ t ∈ op.validUntil.bind Date.day?, ∀ rc ∈ s.registrarCertification,
      op.certificationId.names rc → rc.validFrom ≤ t) ∧ s = s' := by
  unfold UpdateRegistrarCertification.checkUntil at h
  split at h
  · rename_i hnone
    obtain ⟨-, rfl⟩ := run_pure_eq_ok.mp h
    simp [hnone]
  · rename_i day hday
    obtain ⟨hord, rfl⟩ := checkValidUntil_ok h
    refine ⟨fun t ht rc hrc hv => ?_, rfl⟩
    obtain rfl : day = t := by simpa [hday, Date.day?] using ht
    exact hord rc hrc hv
  · cases h

theorem checkFile_ok {v : FileIdVariant} {u : PUnit}
    (h : (checkFile session v).run s = .ok u s') : s = s' := by
  unfold checkFile at h
  split at h
  · exact (run_pure_eq_ok.mp h).2
  · cases h
  · cases h

/-- The row that an update changes is the only one that the identification names. -/
theorem UpdateRegistrarCertification.exec_ok {op : UpdateRegistrarCertification}
    (h : (op.exec session).run s = .ok rc s') :
    ∃ rc₀ ∈ s.registrarCertification, rc = op.assign session rc₀ ∧
      (∀ a ∈ s.registrarCertification, op.certificationId.names a ↔ a.id = rc₀.id) ∧
      (∀ t ∈ op.validUntil.bind Date.day?, rc₀.validFrom ≤ t) ∧
      s'.registrarCertification = s.registrarCertification.update (op.certificationId.names ·)
        (op.assign session) (op.key_assign session) := by
  unfold UpdateRegistrarCertification.exec at h
  obtain ⟨_, t, huntil, h⟩ := run_bind_eq_ok.mp h
  obtain ⟨hord, rfl⟩ := UpdateRegistrarCertification.checkUntil_ok huntil
  obtain ⟨_, t, hclass, h⟩ := run_bind_eq_ok.mp h
  obtain rfl : s = t := by
    cases hc : op.classification with
    | none => rw [hc] at hclass; exact (run_pure_eq_ok.mp hclass).2
    | some c => rw [hc] at hclass; exact (run_raiseIf_eq_ok.mp hclass).2
  obtain ⟨_, t, hfile, h⟩ := run_bind_eq_ok.mp h
  obtain rfl : s = t := by
    cases hf : op.evalFileId with
    | none => rw [hf] at hfile; exact (run_pure_eq_ok.mp hfile).2
    | some f => rw [hf] at hfile; exact checkFile_ok hfile
  obtain ⟨_, t, hraise, h⟩ := run_bind_eq_ok.mp h
  obtain ⟨-, rfl⟩ := run_raiseIf_eq_ok.mp hraise
  obtain ⟨s₁, t, hget, h⟩ := run_bind_eq_ok.mp h
  obtain ⟨rfl, rfl⟩ := run_get_eq_ok.mp hget
  obtain ⟨_, t, hset, h⟩ := run_bind_eq_ok.mp h
  obtain rfl := run_set_eq_ok.mp hset
  split at h
  · cases h
  · rename_i rc₀ hsel
    obtain ⟨rfl, rfl⟩ := run_pure_eq_ok.mp h
    obtain ⟨hrc₀, hv, honly⟩ := Table.select_eq_singleton.mp hsel
    refine ⟨rc₀, hrc₀, rfl, fun a ha => ⟨fun hva => ?_, fun hid => ?_⟩,
      fun t ht => hord t ht rc₀ hrc₀ hv, rfl⟩
    · rw [honly a ha hva]
    · rwa [Table.eq_of_key_eq ha hrc₀ hid]
  · cases h

/-- The new end stays before every later certification of the registrar. -/
def UpdateRegistrarCertification.Clear (op : UpdateRegistrarCertification)
    (s : Certifications) : Prop :=
  ∀ t ∈ op.validUntil.bind Date.day?, ∀ rc ∈ s.registrarCertification,
    op.certificationId.names rc → ∀ later ∈ s.registrarCertification,
      later.registrarId = rc.registrarId → rc.validFrom < later.validFrom → t < later.validFrom

theorem UpdateRegistrarCertification.ordered {op : UpdateRegistrarCertification} (hs : Ordered s)
    (h : (op.exec session).run s = .ok rc s') : Ordered s' := by
  obtain ⟨rc₀, hrc₀, -, hv, hord, hrows⟩ := UpdateRegistrarCertification.exec_ok h
  intro a ha t ht
  rw [hrows, Table.mem_update_row (op.key_assign session) hrc₀ hv] at ha
  rcases ha with rfl | ⟨ha, -⟩
  · rcases Option.or_eq_some_iff.mp ht with ht | ⟨-, ht⟩
    · exact hord t ht
    · exact hs rc₀ hrc₀ t ht
  · exact hs a ha t ht

/-- Certifications of one registrar that are apart are apart still when the first of them gets
another end, unless it reaches into the second. -/
theorem apart_assign_iff {op : UpdateRegistrarCertification} (hab : Apart a b)
    (ha : ∀ t ∈ a.validUntil, a.validFrom ≤ t) (hb : ∀ t ∈ b.validUntil, b.validFrom ≤ t)
    (hord : ∀ t ∈ op.validUntil.bind Date.day?, a.validFrom ≤ t) :
    Apart (op.assign session a) b ↔ (a.registrarId = b.registrarId → a.validFrom < b.validFrom →
      ∀ t ∈ op.validUntil.bind Date.day?, t < b.validFrom) := by
  refine forall_congr' fun hreg => ?_
  have hbefore := (Span.disjoint_icc_iff ha hb).mp (hab hreg)
  cases ht : op.validUntil.bind Date.day? with
  | none =>
    have hsame : (op.assign session a).validity = a.validity := by
      simp [RegistrarCertification.validity, UpdateRegistrarCertification.assign, ht]
    rw [hsame]
    simpa using hab hreg
  | some t =>
    have hle : a.validFrom ≤ t := hord t ht
    have hvalid : (op.assign session a).validity = Span.icc a.validFrom (some t) := by
      simp [RegistrarCertification.validity, UpdateRegistrarCertification.assign, ht]
    rw [hvalid, RegistrarCertification.validity, Span.disjoint_icc_iff (by simpa using hle) hb]
    simp only [Option.mem_some_iff, exists_eq_left', forall_eq']
    constructor
    · rintro (hlt | ⟨v, hv, hlt⟩) hfrom
      · exact hlt
      · exact absurd (hb v hv) (by omega)
    · intro hlt
      rcases hbefore with ⟨u, hu, hub⟩ | hbefore
      · exact .inl (hlt ((ha u hu).trans_lt hub))
      · exact .inr hbefore

theorem UpdateRegistrarCertification.apart_iff {op : UpdateRegistrarCertification}
    (hs : WellFormed s) (h : (op.exec session).run s = .ok rc s') :
    s'.registrarCertification.Pairwise Apart ↔ op.Clear s := by
  obtain ⟨rc₀, hrc₀, -, hv, hord, hrows⟩ := UpdateRegistrarCertification.exec_ok h
  rw [hrows, hs.2.update_row_iff Apart.symm (op.key_assign session) hrc₀ hv]
  constructor
  · intro hnew t ht rc hrc hnames later hlater hreg hfrom
    obtain rfl := Table.eq_of_key_eq hrc hrc₀ ((hv rc hrc).mp hnames)
    have hne : Keyed.key later ≠ Keyed.key rc := by
      intro hkey
      obtain rfl := Table.eq_of_key_eq hlater hrc hkey
      exact lt_irrefl _ hfrom
    exact (apart_assign_iff (hs.2 rc hrc later hlater hne.symm) (hs.1 rc hrc) (hs.1 later hlater)
      hord).mp (hnew later hlater hne) hreg.symm hfrom t ht
  · intro hclear b hb hne
    refine (apart_assign_iff (hs.2 rc₀ hrc₀ b hb hne.symm) (hs.1 rc₀ hrc₀) (hs.1 b hb) hord).mpr ?_
    intro hreg hfrom t ht
    exact hclear t ht rc₀ hrc₀ ((hv rc₀ hrc₀).mpr rfl) b hb hreg.symm hfrom

theorem DeleteRegistrarCertification.exec_ok {op : DeleteRegistrarCertification}
    (h : op.exec.run s = .ok rc s') :
    s'.registrarCertification = s.registrarCertification.delete (op.certificationId.names ·) := by
  unfold DeleteRegistrarCertification.exec at h
  obtain ⟨s₁, t, hget, h⟩ := run_bind_eq_ok.mp h
  obtain ⟨rfl, rfl⟩ := run_get_eq_ok.mp hget
  obtain ⟨_, t, hset, h⟩ := run_bind_eq_ok.mp h
  obtain rfl := run_set_eq_ok.mp hset
  split at h
  · cases h
  · obtain ⟨-, rfl⟩ := run_pure_eq_ok.mp h
    rfl
  · cases h

theorem DeleteRegistrarCertification.wellFormed {op : DeleteRegistrarCertification}
    (hs : WellFormed s) (h : op.exec.run s = .ok rc s') : WellFormed s' := by
  have hmem : ∀ a ∈ s'.registrarCertification, a ∈ s.registrarCertification := by
    intro a ha
    rw [DeleteRegistrarCertification.exec_ok h, Table.mem_delete] at ha
    exact ha.1
  exact ⟨fun a ha => hs.1 a (hmem a ha),
    fun a ha b hb hne => hs.2 a (hmem a ha) b (hmem b hb) hne⟩

/-- The call does not raise. -/
def Call.Succeeds (c : Call) (s : Certifications) : Prop := ∃ rc s', c.exec.run s = .ok rc s'

def Call.Clear : Call → Certifications → Prop
  | .update _ op, s => op.Clear s
  | _, _ => True

theorem update_wellFormed_iff {op : UpdateRegistrarCertification} (hs : WellFormed s)
    (h : (Call.update session op).Succeeds s) :
    WellFormed (Call.next (.update session op) s) ↔ op.Clear s := by
  obtain ⟨rc, s', h⟩ := h
  rw [Call.next, transaction_of_ok h, WellFormed, UpdateRegistrarCertification.apart_iff hs h]
  exact and_iff_right (UpdateRegistrarCertification.ordered hs.1 h)

theorem wellFormed_next (c : Call) (hc : c.Succeeds s → c.Clear s) (hs : WellFormed s) :
    WellFormed (c.next s) := by
  refine transaction_preserves hs fun rc s' h => ?_
  have hclear := hc ⟨rc, s', h⟩
  cases c with
  | create session op =>
    exact ⟨CreateRegistrarCertification.ordered hs.1 h, CreateRegistrarCertification.apart hs.2 h⟩
  | update session op =>
    exact ⟨UpdateRegistrarCertification.ordered hs.1 h,
      (UpdateRegistrarCertification.apart_iff hs h).mpr hclear⟩
  | delete op => exact DeleteRegistrarCertification.wellFormed hs h

/-- Tables that a run of calls reaches from an empty registrar_certification. -/
def Reached (admits : Call → Certifications → Prop) (s : Certifications) : Prop :=
  Transition.Reachable Call.next admits (·.registrarCertification = ∅) s

theorem reached_clear (h : Reached (fun c s => c.Succeeds s → c.Clear s) s) : WellFormed s := by
  refine h.invariant ?_ fun c s hc hs => wellFormed_next c hc hs
  intro s he
  constructor
  · intro rc hrc
    simp [he] at hrc
  · simp [he]

/-- Every certification is in order, those of a registrar share no day, and whatever is created
next finds one at most to truncate. -/
def Sound (s : Certifications) : Prop :=
  WellFormed s ∧ ∀ registrarId validFrom, (s.registrarCertification.select
    fun rc => (truncatable registrarId validFrom rc).holds).length ≤ 1

/-- Certifications stay sound in every run whose successful updates keep clear of the registrar's
later certifications, and the first other update that succeeds ends that. -/
theorem certifications_sound (s : Certifications) :
    (Reached (fun c s => c.Succeeds s → c.Clear s) s → Sound s) ∧
    ∀ session op, WellFormed s → (Call.update session op).Succeeds s →
      (WellFormed (Call.next (.update session op) s) ↔ op.Clear s) :=
  ⟨fun h => ⟨reached_clear h, (reached_clear h).length_truncatable⟩,
    fun _ _ hs h => update_wellFormed_iff hs h⟩

/-- One registrar and one file, on day 0. -/
def sampleSession : Session where
  registrar := ⟨[⟨1, "REG-TEST"⟩], by decide⟩
  files := ⟨[⟨1, 7⟩], by decide⟩
  fileOfUuid := by
    intro f hf g hg _
    exact (List.mem_singleton.mp hf).trans (List.mem_singleton.mp hg).symm
  currentDate := 0
  regularDay := 0
  newUuid := fun _ => 0

def sampleCreate (validFrom validUntil : Int) : Call :=
  .create sampleSession ⟨.byHandle "reg-test", .day validFrom, .day validUntil, 3, .byUuid 7⟩

def sampleUpdate (id : Nat) (validUntil : Int) : Call :=
  .update sampleSession ⟨.byId id, some (.day validUntil), none, none⟩

/-- The certifications [10, 20] and [30, 40]. -/
def sampleCertifications : Certifications :=
  (sampleCreate 30 40).next ((sampleCreate 10 20).next ⟨∅, 1⟩)

theorem mem_sampleCertifications : rc ∈ sampleCertifications.registrarCertification ↔
    rc = ⟨1, 0, 1, 10, some 20, 3, 7⟩ ∨ rc = ⟨2, 0, 1, 30, some 40, 3, 7⟩ := by
  have hrows : sampleCertifications.registrarCertification.rows =
    [⟨1, 0, 1, 10, some 20, 3, 7⟩, ⟨2, 0, 1, 30, some 40, 3, 7⟩] := by rfl
  simp [← Table.mem_rows, hrows]

theorem certifications_sound_sampleUpdate :
    WellFormed ((sampleUpdate 1 25).next sampleCertifications) := by
  have hs : Sound sampleCertifications := (certifications_sound _).1
    (.step _ (.step _ (.init rfl) fun _ => trivial) fun _ => trivial)
  refine ((certifications_sound _).2 _ _ hs.1 ⟨_, _, rfl⟩).mpr ?_
  intro t ht rc hrc _ later hlater _ hfrom
  obtain rfl : 25 = t := Option.some.inj ht
  rcases mem_sampleCertifications.mp hrc with rfl | rfl <;>
    rcases mem_sampleCertifications.mp hlater with rfl | rfl <;> simp at hfrom ⊢

/-- The end of the first certification is moved to day 35. -/
def sampleOverlap : Certifications := (sampleUpdate 1 35).next sampleCertifications

theorem not_certifications_sound : ¬ ∀ s, Reached (fun _ _ => True) s → Sound s := by
  intro h
  have hs := h sampleOverlap
    (.step _ (.step _ (.step _ (.init rfl) trivial) trivial) trivial)
  have hrows : sampleOverlap.registrarCertification.rows =
    [⟨1, 0, 1, 10, some 35, 3, 7⟩, ⟨2, 0, 1, 30, some 40, 3, 7⟩] := by rfl
  have hmem : ∀ rc, rc ∈ sampleOverlap.registrarCertification ↔
      rc = ⟨1, 0, 1, 10, some 35, 3, 7⟩ ∨ rc = ⟨2, 0, 1, 30, some 40, 3, 7⟩ := by
    intro rc
    simp [← Table.mem_rows, hrows]
  have hdisj := hs.1.2 _ ((hmem _).mpr (.inl rfl)) _ ((hmem _).mpr (.inr rfl)) (by decide) rfl
  have hfirst : (30 : Int) ∈ Span.icc 10 (some 35) := by simp
  have hsecond : (30 : Int) ∈ Span.icc 30 (some 40) := by simp
  exact Set.disjoint_left.mp hdisj hfirst hsecond

end LibFred.Certification
