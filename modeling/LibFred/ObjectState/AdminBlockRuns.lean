import LibFred.ObjectState.AdminOperations

/-! Runs in which an object is blocked administratively, and the row that the block begins with. -/
namespace LibFred.ObjectState

open Sql
open LibFred.RegistrableObject (ObjectState)

variable {T : Type} [LinearOrder T] {cat : Catalog} {procedure : UpdateObjectStates T}
  {now last begun start t₀ : T} {s s' s₀ : Tables T} {objectId : Nat} {sb : EnumObjectState}
  {os : ObjectState T}

/-- Tables after a block at `t₀`, made in `s₀`, that is not materialised yet. -/
inductive Waiting (procedure : UpdateObjectStates T) (cat : Catalog) (objectId : Nat)
    (sb : EnumObjectState) (t₀ : T) (s₀ : Tables T) : T → Tables T → Prop
  | block {last : T} {op : CreateAdminObjectBlockRequestId T} {handle : String} {s : Tables T}
      (h₀ : History procedure cat objectId last s₀) (hle : last ≤ t₀)
      (hobject : op.objectId = objectId) (hrun : (op.exec cat t₀).run s₀ = .ok handle s) :
      Waiting procedure cat objectId sb t₀ s₀ t₀ s
  | call {last now : T} {s : Tables T} (operation : AdminOperation T) (keep : Bool)
      (h : Waiting procedure cat objectId sb t₀ s₀ last s) (hle : last ≤ now) :
      Waiting procedure cat objectId sb t₀ s₀ now (operation.next cat now keep s)
  | perform {last now : T} {s : Tables T} (h : Waiting procedure cat objectId sb t₀ s₀ last s)
      (hle : last ≤ now) (hr : ¬ Requested now objectId sb.id s) :
      Waiting procedure cat objectId sb t₀ s₀ now (procedure.perform cat now objectId s)

/-- Tables after a block that was materialised at `start`, with serverBlocked set ever since: the
newest of its rows began at `begun`. -/
inductive Blocked (procedure : UpdateObjectStates T) (cat : Catalog) (objectId : Nat)
    (sb : EnumObjectState) (t₀ : T) (s₀ : Tables T) (start : T) : T → T → Tables T → Prop
  | begin {last : T} {s : Tables T} (h : Waiting procedure cat objectId sb t₀ s₀ last s)
      (hle : last ≤ start) (hr : Requested start objectId sb.id s) :
      Blocked procedure cat objectId sb t₀ s₀ start start start
        (procedure.perform cat start objectId s)
  | call {begun last now : T} {s : Tables T} (operation : AdminOperation T) (keep : Bool)
      (h : Blocked procedure cat objectId sb t₀ s₀ start begun last s) (hle : last ≤ now) :
      Blocked procedure cat objectId sb t₀ s₀ start begun now (operation.next cat now keep s)
  | perform {begun last now : T} {s : Tables T}
      (h : Blocked procedure cat objectId sb t₀ s₀ start begun last s) (hle : last ≤ now)
      (hr : Requested now objectId sb.id s) :
      Blocked procedure cat objectId sb t₀ s₀ start begun now
        (procedure.perform cat now objectId s)
  | reblock {begun last now : T} {s s' : Tables T} {op : CreateAdminObjectBlockRequestId T}
      {handle : String} (h : Blocked procedure cat objectId sb t₀ s₀ start begun last s)
      (hle : last ≤ now) (hr : ¬ Requested now objectId sb.id s) (hobject : op.objectId = objectId)
      (hrun : (op.exec cat now).run (procedure.perform cat now objectId s) = .ok handle s')
      (hr' : Requested now objectId sb.id s') :
      Blocked procedure cat objectId sb t₀ s₀ start now now
        (procedure.perform cat now objectId s')

theorem isServer_of_name (hname : sb.name = "serverBlocked") : sb.isServer := by
  rw [EnumObjectState.isServer, hname]
  decide

theorem StatusList.mem_ofNames {names : List String} {name : String} :
    name ∈ (StatusList.ofNames names).names ↔ name ∈ names := by
  have h : name ∈ (StdSet.ofList (fun a b => decide (a < b)) names).map id ↔ name ∈ names.map id :=
    StdSet.mem_map_ofList fun a b => decide_eq_true_iff
  simpa [StatusList.ofNames] using h

/-- A block is made when the object does not have serverBlocked, a manual state. -/
theorem CreateAdminObjectBlockRequestId.exec_ok {op : CreateAdminObjectBlockRequestId T}
    {handle : String} (hnames : cat.UniqueNames) (hsb : sb ∈ cat.enumObjectStates)
    (hname : sb.name = "serverBlocked") (h : (op.exec cat now).run s = .ok handle s') :
    sb.manual ∧ ¬ hasState now op.objectId sb.id s := by
  obtain ⟨_, _, honly, h⟩ := run_bind_eq_ok.mp h
  obtain rfl := readOnly_checkAdministrativeBlockStatusOnly.ok honly
  obtain ⟨_, _, habsent, h⟩ := run_bind_eq_ok.mp h
  obtain rfl := readOnly_checkServerBlockedStatusAbsent.ok habsent
  obtain ⟨_, _, -, h⟩ := run_bind_eq_ok.mp h
  obtain ⟨created, _, hcreate, -⟩ := run_bind_eq_ok.mp h
  constructor
  · obtain ⟨_, hcreate, -⟩ := run_onRequests_eq_ok.mp hcreate
    obtain ⟨object, -, haccepts⟩ := CreateObjectStateRequestId.accepts_of_exec hnames hcreate
    have hlisted : "serverBlocked" ∈ (op.statusList.insert "serverBlocked").names :=
      StatusList.mem_ofNames.mpr List.mem_cons_self
    obtain ⟨eos, heos, hname', -, hmanual⟩ := haccepts _ hlisted
    obtain rfl := hnames eos heos sb hsb (hname'.trans hname.symm)
    exact hmanual
  · unfold checkServerBlockedStatusAbsent at habsent
    rw [run_bind_of_ok (run_getServerBlockedId hnames hsb hname),
      run_bind_of_ok (run_get_eq_ok.mpr ⟨rfl, rfl⟩)] at habsent
    exact (run_raiseIf_eq_ok.mp habsent).1

theorem Sound.block {op : CreateAdminObjectBlockRequestId T} {handle : String}
    (h : Sound cat objectId now s) (hnames : cat.UniqueNames)
    (hrun : (op.exec cat now).run s = .ok handle s') :
    Sound cat objectId now s' ∧ s'.objectState = s.objectState := by
  have hkept := ((CreateAdminObjectBlockRequestId.kept_exec hnames) s h.kept).1 handle s' hrun
  exact ⟨h.of_kept hkept, hkept.2⟩

/-- No row of serverBlocked is open. -/
def Ended (objectId : Nat) (sb : EnumObjectState) (s : Tables T) : Prop :=
  ∀ os, OfState objectId sb.id s os → os.validTo ≠ none

theorem Ended.of_perform (hsb : sb ∈ cat.enumObjectStates) (hm : sb.manual)
    (hr : ¬ Requested now objectId sb.id s) :
    Ended objectId sb (procedure.perform cat now objectId s) := by
  rcases perform_cases procedure now objectId s hsb hm with ⟨h, -⟩ | ⟨h, -⟩ | ⟨-, hrows⟩
  · exact absurd h hr
  · exact absurd h hr
  · intro os hos
    obtain ⟨os₀, -, rfl⟩ := (hrows os).mp hos
    exact close_ended

section

variable (hnames : cat.UniqueNames) (hsb : sb ∈ cat.enumObjectStates)
  (hname : sb.name = "serverBlocked")

include hnames hsb hname

theorem Waiting.sound (h : Waiting procedure cat objectId sb t₀ s₀ last s) :
    Sound cat objectId last s ∧ sb.manual ∧ Ended objectId sb s := by
  induction h with
  | block h₀ hle hobject hrun =>
    have hs₀ := (h₀.sound hnames).mono hle
    obtain ⟨hs, hstates⟩ := hs₀.block hnames hrun
    obtain ⟨hm, habsent⟩ := CreateAdminObjectBlockRequestId.exec_ok hnames hsb hname hrun
    refine ⟨hs, hm, fun os hos hto => habsent ?_⟩
    rw [hobject, hasState_iff]
    have hos₀ := (OfState.congr hstates).mp hos
    refine ⟨os, hos₀, stateCurrent_iff.mpr ⟨(hs₀.past sb hsb hm os hos₀).1, ?_⟩⟩
    simp [hto]
  | call operation keep _ hle ih =>
    obtain ⟨hs, hm, hended⟩ := ih
    have hkept := AdminOperation.kept_next hnames keep operation (hs.mono hle).kept
    exact ⟨(hs.mono hle).of_kept hkept, hm, fun os hos => hended os ((OfState.congr hkept.2).mp hos)⟩
  | perform _ hle hr ih =>
    obtain ⟨hs, hm, -⟩ := ih
    exact ⟨hs.perform hle, hm, Ended.of_perform hsb hm hr⟩

end

/-- The rows of serverBlocked since `start`: each begins when one before it ended, and the newest
is open. -/
structure Chain (objectId : Nat) (sb : EnumObjectState) (start begun : T) (s : Tables T) : Prop where
  le : start ≤ begun
  first : ∃ os, OfState objectId sb.id s os ∧ os.validFrom = start
  newest : ∃ os, OfState objectId sb.id s os ∧ os.validFrom = begun ∧ os.validTo = none
  latest : ∀ os, OfState objectId sb.id s os → os.validFrom ≤ begun
  opened : ∀ os, OfState objectId sb.id s os → os.validTo = none → os.validFrom = begun
  follows : ∀ os, OfState objectId sb.id s os → start < os.validFrom →
    ∃ p, OfState objectId sb.id s p ∧ p.validFrom < os.validFrom ∧
      p.validTo = some os.validFrom ∧
      ∀ q, OfState objectId sb.id s q → q.validFrom < os.validFrom → q.validFrom ≤ p.validFrom

theorem Chain.congr (h : Chain objectId sb start begun s)
    (hrows : ∀ os, OfState objectId sb.id s' os ↔ OfState objectId sb.id s os) :
    Chain objectId sb start begun s' := by
  constructor
  · exact h.le
  · simpa only [hrows] using h.first
  · simpa only [hrows] using h.newest
  · simpa only [hrows] using h.latest
  · simpa only [hrows] using h.opened
  · simpa only [hrows] using h.follows

/-- A first row is a chain. -/
theorem Chain.begin {new : ObjectState T} (hfrom : new.validFrom = start) (hto : new.validTo = none)
    (hended : Ended objectId sb s) (hpast : ∀ os, OfState objectId sb.id s os → os.validFrom ≤ start)
    (hrows : ∀ os, OfState objectId sb.id s' os ↔ os = new ∨ OfState objectId sb.id s os) :
    Chain objectId sb start start s' := by
  have hnew := (hrows new).mpr (.inl rfl)
  have hlatest : ∀ os, OfState objectId sb.id s' os → os.validFrom ≤ start := by
    intro os hos
    rcases (hrows os).mp hos with rfl | hos
    · exact hfrom.le
    · exact hpast os hos
  refine ⟨le_rfl, ⟨new, hnew, hfrom⟩, ⟨new, hnew, hfrom, hto⟩, hlatest, fun os hos hopen => ?_,
    fun os hos hlt => absurd (hlatest os hos) hlt.not_ge⟩
  rcases (hrows os).mp hos with rfl | hos
  · exact hfrom
  · exact absurd hopen (hended os hos)

/-- The newest row is closed and the next one begins. -/
theorem Chain.reblock {new : ObjectState T} (h : Chain objectId sb start begun s) (hle : begun ≤ now)
    (hfrom : new.validFrom = now) (hto : new.validTo = none)
    (hrows : ∀ os, OfState objectId sb.id s' os ↔
      os = new ∨ ∃ os₀, OfState objectId sb.id s os₀ ∧ close now os₀ = os) :
    Chain objectId sb start now s' := by
  have hclose : ∀ os₀, OfState objectId sb.id s os₀ → OfState objectId sb.id s' (close now os₀) :=
    fun os₀ hos₀ => (hrows _).mpr (.inr ⟨os₀, hos₀, rfl⟩)
  have hnew := (hrows new).mpr (.inl rfl)
  -- a row that some row followed was closed before
  have hkept : ∀ os₀, OfState objectId sb.id s os₀ → start < os₀.validFrom →
      ∃ p, OfState objectId sb.id s' p ∧ p.validFrom < os₀.validFrom ∧
        p.validTo = some os₀.validFrom ∧
        ∀ q, OfState objectId sb.id s' q → q.validFrom < os₀.validFrom → q.validFrom ≤ p.validFrom := by
    intro os₀ hos₀ hlt
    obtain ⟨p, hp, hpfrom, hpto, hmax⟩ := h.follows os₀ hos₀ hlt
    have hpclose : close now p = p := close_of_ended (by simp [hpto])
    refine ⟨p, hpclose ▸ hclose p hp, hpfrom, hpto, fun q hq hqlt => ?_⟩
    rcases (hrows q).mp hq with rfl | ⟨q₀, hq₀, rfl⟩
    · rw [hfrom] at hqlt
      exact absurd (hqlt.trans_le ((h.latest os₀ hos₀).trans hle)) (lt_irrefl _)
    · rw [close_validFrom] at hqlt ⊢
      exact hmax q₀ hq₀ hqlt
  obtain ⟨os₁, hos₁, hfrom₁⟩ := h.first
  refine ⟨h.le.trans hle, ⟨close now os₁, hclose os₁ hos₁, by rw [close_validFrom, hfrom₁]⟩,
    ⟨new, hnew, hfrom, hto⟩, fun os hos => ?_, fun os hos hopen => ?_, fun os hos hlt => ?_⟩
  · rcases (hrows os).mp hos with rfl | ⟨os₀, hos₀, rfl⟩
    · exact hfrom.le
    · rw [close_validFrom]
      exact (h.latest os₀ hos₀).trans hle
  · rcases (hrows os).mp hos with rfl | ⟨os₀, -, rfl⟩
    · exact hfrom
    · exact absurd hopen close_ended
  · rcases (hrows os).mp hos with rfl | ⟨os₀, hos₀, rfl⟩
    · obtain ⟨cur, hcur, hcurfrom, hcurto⟩ := h.newest
      rw [hfrom] at hlt ⊢
      rcases hle.lt_or_eq with hbegun | rfl
      · -- the row that was open until now comes right before
        refine ⟨close now cur, hclose cur hcur, by rwa [close_validFrom, hcurfrom],
          close_validTo hcurto, fun q hq hqlt => ?_⟩
        rcases (hrows q).mp hq with rfl | ⟨q₀, hq₀, rfl⟩
        · exact absurd hqlt (hfrom ▸ lt_irrefl _)
        · rw [close_validFrom, close_validFrom, hcurfrom]
          exact h.latest q₀ hq₀
      · -- that row has no length, so both follow the same one
        rw [← hcurfrom] at hlt ⊢
        exact hkept cur hcur hlt
    · rw [close_validFrom] at hlt ⊢
      exact hkept os₀ hos₀ hlt

section

variable (hnames : cat.UniqueNames) (hsb : sb ∈ cat.enumObjectStates)
  (hname : sb.name = "serverBlocked")

include hnames hsb hname

theorem Blocked.sound (h : Blocked procedure cat objectId sb t₀ s₀ start begun last s) :
    Sound cat objectId last s ∧ sb.manual ∧ begun ≤ last ∧ Chain objectId sb start begun s := by
  induction h with
  | begin h hle hr =>
    obtain ⟨hs, hm, hended⟩ := h.sound hnames hsb hname
    refine ⟨hs.perform hle, hm, le_rfl, ?_⟩
    rcases perform_cases procedure start objectId _ hsb hm with
      ⟨-, ⟨os, hos, hto⟩, -⟩ | ⟨-, -, new, hfrom, hto, hrows⟩ | ⟨h, -⟩
    · exact absurd hto (hended os hos)
    · exact Chain.begin hfrom hto hended
        (fun os hos => (hs.past sb hsb hm os hos).1.trans hle) hrows
    · exact absurd hr h
  | call operation keep _ hle ih =>
    obtain ⟨hs, hm, hbegun, hchain⟩ := ih
    have hkept := AdminOperation.kept_next hnames keep operation (hs.mono hle).kept
    exact ⟨(hs.mono hle).of_kept hkept, hm, hbegun.trans hle,
      hchain.congr fun os => OfState.congr hkept.2⟩
  | perform _ hle hr ih =>
    obtain ⟨hs, hm, hbegun, hchain⟩ := ih
    refine ⟨hs.perform hle, hm, hbegun.trans hle, ?_⟩
    obtain ⟨cur, hcur, -, hcurto⟩ := hchain.newest
    rcases perform_cases procedure _ objectId _ hsb hm with
      ⟨-, -, hrows⟩ | ⟨-, hended, -⟩ | ⟨h, -⟩
    · exact hchain.congr hrows
    · exact absurd hcurto (hended cur hcur)
    · exact absurd hr h
  | reblock _ hle hr hobject hrun hr' ih =>
    obtain ⟨hs, hm, hbegun, hchain⟩ := ih
    obtain ⟨hs', hstates⟩ := (hs.perform hle).block hnames hrun
    refine ⟨hs'.perform le_rfl, hm, le_rfl, ?_⟩
    have hended : Ended objectId sb (procedure.perform cat _ objectId _) := Ended.of_perform hsb hm hr
    rcases perform_cases procedure _ objectId _ hsb hm with
      ⟨h, -⟩ | ⟨h, -⟩ | ⟨-, hclosed⟩
    · exact absurd h hr
    · exact absurd h hr
    rcases perform_cases procedure _ objectId _ hsb hm with
      ⟨-, ⟨os, hos, hto⟩, -⟩ | ⟨-, -, new, hfrom, hto, hrows⟩ | ⟨h, -⟩
    · exact absurd hto (hended os ((OfState.congr hstates).mp hos))
    · refine hchain.reblock (hbegun.trans hle) hfrom hto fun os => ?_
      rw [hrows, OfState.congr hstates, hclosed]
    · exact absurd hr' h

end

end LibFred.ObjectState
