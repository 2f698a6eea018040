import LibFred.ObjectState.AdminBlockRuns
import LibFred.ObjectState.StandardMaterialization

/-! When the states of an object that was blocked administratively are restored. -/
namespace LibFred.ObjectState

open Sql
open LibFred.RegistrableObject (ObjectState)

variable {T : Type} [LinearOrder T] {cat : Catalog} {procedure : UpdateObjectStates T}
  {desc : DescendingOrder T} {now last begun start t₀ m : T} {s s' s₀ : Tables T} {objectId : Nat}
  {sb eos : EnumObjectState} {os : ObjectState T}

/-- The manual server states that the object has. -/
def manualServerStates (cat : Catalog) (now : T) (objectId : Nat) (s : Tables T) : List Nat :=
  (cat.enumObjectStates.select fun eos => eos.ManualServer ∧ hasState now objectId eos.id s).map (·.id)

/-- No serverBlocked reaches up to `start` from before it. -/
def Separate (objectId : Nat) (sb : EnumObjectState) (start : T) (s : Tables T) : Prop :=
  ∀ os, OfState objectId sb.id s os → os.validFrom < start → ∃ v, os.validTo = some v ∧ v < start

/-- Of the rows since `start` none but the newest begin together. -/
def Distinct (objectId : Nat) (sb : EnumObjectState) (start : T) (s : Tables T) : Prop :=
  ∀ a b c, OfState objectId sb.id s a → OfState objectId sb.id s b → OfState objectId sb.id s c →
    start ≤ a.validFrom → a.validFrom = b.validFrom → a.validFrom < c.validFrom → a = b

namespace CreateAdminObjectStateRestoreRequestId

variable {op : CreateAdminObjectStateRestoreRequestId}

theorem descending_sort (desc : DescendingOrder T) (l : List (ObjectState T)) :
    (desc.sort l).Pairwise fun a b => b.validFrom ≤ a.validFrom :=
  (desc.ordered l).imp fun h => by simpa using h

theorem current_iff : current now os ↔ ∀ v, os.validTo = some v → now ≤ v := by
  cases h : os.validTo <;> simp [current, h]

theorem mem_blockHistory : os ∈ blockHistory desc op sb.id s ↔ OfState op.objectId sb.id s os := by
  rw [blockHistory, (desc.perm _).mem_iff, Table.mem_select]
  rfl

/-- A row since `start` is followed up exactly when it is not the first. -/
theorem followUp_iff (hchain : Chain op.objectId sb start begun s)
    (hseparate : Separate op.objectId sb start s) (hdistinct : Distinct op.objectId sb start s)
    (hos : OfState op.objectId sb.id s os) (hle : start ≤ os.validFrom) :
    followUp desc op sb.id s os ↔ start < os.validFrom := by
  have hmem : ∀ p, p ∈ desc.sort (s.objectState.select fun p => p.objectId = op.objectId ∧
      p.stateId = sb.id ∧ p.validFrom < os.validFrom) ↔
        OfState op.objectId sb.id s p ∧ p.validFrom < os.validFrom := by
    intro p
    rw [(desc.perm _).mem_iff, Table.mem_select, OfState]
    simp only [and_assoc]
  have hsorted := descending_sort desc (s.objectState.select fun p =>
    p.objectId = op.objectId ∧ p.stateId = sb.id ∧ p.validFrom < os.validFrom)
  unfold followUp
  generalize desc.sort (s.objectState.select fun p => p.objectId = op.objectId ∧
    p.stateId = sb.id ∧ p.validFrom < os.validFrom) = before at hmem hsorted
  constructor
  · intro h
    refine hle.lt_of_ne fun heq => ?_
    cases before with
    | nil => exact h
    | cons p before =>
      obtain ⟨hp, hlt⟩ := (hmem p).mp List.mem_cons_self
      obtain ⟨v, hv, hvlt⟩ := hseparate p hp (heq ▸ hlt)
      have hto : p.validTo = some os.validFrom := by simpa using h
      rw [hto] at hv
      exact hvlt.ne (heq ▸ (Option.some.inj hv).symm)
  · intro hlt
    obtain ⟨p, hp, hpfrom, hpto, hmax⟩ := hchain.follows os hos hlt
    cases before with
    | nil => exact absurd ((hmem p).mpr ⟨hp, hpfrom⟩) List.not_mem_nil
    | cons q before =>
      obtain ⟨hq, hqfrom⟩ := (hmem q).mp List.mem_cons_self
      have hpq : p.validFrom ≤ q.validFrom := by
        rcases List.mem_cons.mp ((hmem p).mpr ⟨hp, hpfrom⟩) with rfl | hp'
        · exact le_rfl
        · exact (List.pairwise_cons.mp hsorted).1 p hp'
      obtain ⟨first, hfirst, hfrom⟩ := hchain.first
      have hstart : start ≤ p.validFrom := hfrom ▸ hmax first hfirst (hfrom ▸ hlt)
      obtain rfl := hdistinct p q os hp hq hos hstart (le_antisymm hpq (hmax q hq hqfrom)) hpfrom
      simp [hpto]

/-- The sequence of serverBlocked is traced back to where the block began. -/
theorem startOfBlock_eq (desc : DescendingOrder T) (hchain : Chain op.objectId sb start begun s)
    (hseparate : Separate op.objectId sb start s) (hdistinct : Distinct op.objectId sb start s)
    (hnow : start ≤ now) :
    ∃ first, startOfBlock desc now op sb.id s = some first ∧ OfState op.objectId sb.id s first ∧
      first.validFrom = start := by
  have hfollow : ∀ os, OfState op.objectId sb.id s os → start ≤ os.validFrom →
      (followUp desc op sb.id s os ↔ start < os.validFrom) :=
    fun os => followUp_iff hchain hseparate hdistinct
  have hsorted := descending_sort desc (s.objectState.select fun os =>
    os.objectId = op.objectId ∧ os.stateId = sb.id)
  obtain ⟨cur, hcur, -, hcurto⟩ := hchain.newest
  obtain ⟨os₁, hos₁, hfrom₁⟩ := hchain.first
  obtain ⟨c, rest, hdrop, hc, hcurrent, -, hafter⟩ := exists_dropWhile_eq_cons hsorted
    (p := fun os => decide (¬ current now os))
    ⟨cur, mem_blockHistory.mpr hcur, by simp [current_iff, hcurto]⟩
  have hcrow := mem_blockHistory.mp hc
  have hcto : ∀ v, c.validTo = some v → now ≤ v := by simpa [current_iff] using hcurrent
  have hcstart : start ≤ c.validFrom := by
    by_contra hlt
    obtain ⟨v, hv, hvlt⟩ := hseparate c hcrow (not_le.mp hlt)
    exact absurd (hnow.trans (hcto v hv)) hvlt.not_ge
  have hrest : ∀ os ∈ c :: rest, OfState op.objectId sb.id s os := by
    intro os hos
    rw [← hdrop] at hos
    exact mem_blockHistory.mp ((List.dropWhile_sublist _).subset hos)
  have hrestsorted : (c :: rest).Pairwise fun a b => b.validFrom ≤ a.validFrom := by
    rw [← hdrop]
    exact hsorted.sublist (List.dropWhile_sublist _)
  -- a row that began at `start` is left
  obtain ⟨os₂, hos₂, hfrom₂⟩ : ∃ os ∈ c :: rest, os.validFrom = start := by
    rcases hcstart.eq_or_lt with heq | hlt
    · exact ⟨c, List.mem_cons_self, heq.symm⟩
    · refine ⟨os₁, List.mem_cons_of_mem _ (hafter os₁ (mem_blockHistory.mpr hos₁) ?_), hfrom₁⟩
      rwa [hfrom₁]
  obtain ⟨first, rest', hdrop', hfirst, hpfirst, hgreatest, -⟩ := exists_dropWhile_eq_cons hrestsorted
    (p := fun os => decide (followUp desc op sb.id s os))
    ⟨os₂, hos₂, by simp [hfollow os₂ (hrest os₂ hos₂) hfrom₂.ge, hfrom₂]⟩
  have hge : start ≤ first.validFrom := by
    have hle := hgreatest os₂ hos₂ (by simp [hfollow os₂ (hrest os₂ hos₂) hfrom₂.ge, hfrom₂])
    rwa [hfrom₂] at hle
  have hnot : ¬ start < first.validFrom := by
    rw [← hfollow first (hrest first hfirst) hge]
    simpa using hpfirst
  refine ⟨first, ?_, hrest first hfirst, le_antisymm (not_lt.mp hnot) hge⟩
  rw [startOfBlock, blockHistory, hdrop, hdrop', List.head?_cons]

theorem mem_previousStatusList {first : ObjectState T} {name : String} :
    name ∈ previousStatusList cat first s ↔ ∃ eos ∈ cat.enumObjectStates, eos.ManualServer ∧
      eos.name = name ∧ ∃ os, OfState first.objectId eos.id s os ∧ Reaches first.validFrom os := by
  simp only [previousStatusList, List.mem_flatMap, List.mem_map, Table.mem_select]
  constructor
  · rintro ⟨os, ⟨hos, hobject, hreaches⟩, eos, ⟨heos, hstate, hmanual⟩, rfl⟩
    exact ⟨eos, heos, hmanual, rfl, os, ⟨hos, hobject, hstate.symm⟩, hreaches⟩
  · rintro ⟨eos, heos, hmanual, rfl, os, ⟨hos, hobject, hstate⟩, hreaches⟩
    exact ⟨os, ⟨hos, hobject, hreaches⟩, eos, ⟨heos, hstate.symm, hmanual⟩, rfl⟩

end CreateAdminObjectStateRestoreRequestId

/-- Every current request for a manual server state of the object was canceled. -/
def Cleared (cat : Catalog) (now : T) (objectId : Nat) (s s' : Tables T) : Prop :=
  ∀ r ∈ s'.requests.objectStateRequest,
    (∃ r₀ ∈ s.requests.objectStateRequest, (r₀.current now).holds ∧ r = r₀.cancel now) ∨
    (r ∈ s.requests.objectStateRequest ∧ ((r.current now).holds → r.objectId = objectId →
      ∀ eos ∈ cat.enumObjectStates, eos.id = r.stateId → ¬ eos.ManualServer))

theorem ClearAdminObjectStateRequestId.exec_cleared {op : ClearAdminObjectStateRequestId}
    (hsb : sb ∈ cat.enumObjectStates) (hname : sb.name = "serverBlocked") (hm : sb.manual)
    (hr : Requested now op.objectId sb.id s) :
    ∃ s', (op.exec cat now).run s = .ok () s' ∧ Cleared cat now op.objectId s s' := by
  obtain ⟨r, hr, hobject, hstate, hcurrent⟩ := hr
  let p := fun r : ObjectStateRequest T => r.objectId = op.objectId ∧
    ∃ eos ∈ cat.enumObjectStates.rows, eos.id = r.stateId ∧ eos.manual ∧ eos.isServer
  have hp : p r := ⟨hobject, sb, hsb, hstate.symm, hm, isServer_of_name hname⟩
  let ids := (s.requests.objectStateRequest.select fun r => (r.current now).holds ∧ p r).map (·.id)
  let cleared : Requests T := ⟨s.requests.objectStateRequest.update
    (fun r => (r.current now).holds ∧ p r) (ObjectStateRequest.cancel now)
    (ObjectStateRequest.key_cancel now), s.requests.idSeq⟩
  let s₁ : Tables T := { s with requests := cleared }
  have hclear : (onRequests ((⟨op.objectId⟩ : ClearObjectStateRequestId).exec cat.toRegistry now)).run s =
      .ok ids s₁ := run_onRequests rfl
  have hid : r.id ∈ ids :=
    List.mem_map.mpr ⟨r, Table.mem_select.mpr ⟨hr, hcurrent, hp⟩, rfl⟩
  have hcanceled : r.cancel now ∈ cleared.objectStateRequest :=
    (Table.mem_update (ObjectStateRequest.key_cancel now)).mpr ⟨r, hr, if_pos ⟨hcurrent, hp⟩⟩
  obtain ⟨id, hfound⟩ : ∃ id, serverBlockedRequest cat ids s₁ = some id := by
    have hmem : r.id ∈ (s₁.requests.objectStateRequest.select fun osr => osr.id ∈ ids ∧
        ∃ eos ∈ cat.enumObjectStates.rows, eos.id = osr.stateId ∧ eos.name = "serverBlocked").map
          (·.id) :=
      List.mem_map.mpr ⟨r.cancel now, Table.mem_select.mpr ⟨hcanceled, hid, sb, hsb, hstate.symm, hname⟩, rfl⟩
    exact Option.isSome_iff_exists.mp (List.isSome_head?.mpr (List.ne_nil_of_mem hmem))
  obtain ⟨s', hupdate, hs'⟩ : ∃ s', (op.updateReason id).run s₁ = .ok () s' ∧ s'.requests = cleared :=
    ⟨_, rfl, rfl⟩
  refine ⟨s', ?_, fun r' hr' => ?_⟩
  · unfold exec
    rw [run_bind_of_ok hclear, run_bind_of_ok (run_raiseIf_of_neg (List.ne_nil_of_mem hid)),
      run_bind_of_ok (run_get_eq_ok.mpr ⟨rfl, rfl⟩), hfound]
    exact hupdate
  · rw [hs'] at hr'
    obtain ⟨r₀, hr₀, rfl⟩ := (Table.mem_update (ObjectStateRequest.key_cancel now)).mp hr'
    split
    · rename_i hcond
      exact .inl ⟨r₀, hr₀, hcond.1, rfl⟩
    · rename_i hcond
      refine .inr ⟨hr₀, fun hcur hobj eos heos hstate' hserver => hcond ⟨hcur, hobj, eos, heos, hstate', ?_⟩⟩
      exact hserver

theorem current_request_iff {r : ObjectStateRequest T} :
    (r.current now).holds ↔ r.canceled = none ∧ r.validFrom ≤ now ∧ ∀ v, r.validTo = some v → now < v := by
  cases h : r.validTo <;> simp [ObjectStateRequest.current, h, and_assoc]

/-- A request that is over by `now`, or ends though it is yet to begin, is no obstacle to a new one. -/
theorem not_invalidState {objValidFrom v : T} (hle : objValidFrom ≤ v) (hover : objValidFrom ≤ now → v ≤ now) :
    ¬ (invalidState objValidFrom (some v) now none).holds := by
  simp only [invalidState, Truth.holds_or, Truth.holds_and, holds_lt, holds_le, holds_isNull]
  rintro ((⟨_, _, hx, hy, hlt⟩ | ⟨⟨_, _, hx, hy, hfrom⟩, ⟨_, _, hx', hy', hlt⟩ | h⟩) |
    ⟨-, ⟨_, _, hx, -⟩ | h⟩)
  · cases hx
    cases hy
    exact absurd hle hlt.not_ge
  · cases hx
    cases hy
    cases hx'
    cases hy'
    exact absurd (hover hfrom) hlt.not_ge
  · cases h
  · cases hx
  · cases h

/-- After the clearing no request stands against a new one for a manual server state. -/
theorem Cleared.not_invalidState {r : ObjectStateRequest T} (h : Cleared cat now objectId s s')
    (hproper : Proper cat.toRegistry now s.requests) (hr : r ∈ s'.requests.objectStateRequest)
    (hobject : r.objectId = objectId) (heos : eos ∈ cat.enumObjectStates) (hstate : eos.id = r.stateId)
    (hserver : eos.ManualServer) (hpending : r ∈ s.requests.objectStateRequest → r.canceled = none →
      now < r.validFrom → r.validTo ≠ none) :
    ¬ (invalidState r.validFrom r.objValidTo now none).holds := by
  rcases h r hr with ⟨r₀, hr₀, hcurrent, rfl⟩ | ⟨hr, hcurrent⟩
  · obtain ⟨-, hfrom, -⟩ := current_request_iff.mp hcurrent
    cases hto : r₀.validTo with
    | none =>
      have hobj : (r₀.cancel now).objValidTo = some now := by
        simp [ObjectStateRequest.objValidTo, ObjectStateRequest.cancel, hto]
      rw [hobj]
      exact ObjectState.not_invalidState hfrom fun _ => le_rfl
    | some v =>
      have hobj : (r₀.cancel now).objValidTo = some (min now v) := by
        simp [ObjectStateRequest.objValidTo, ObjectStateRequest.cancel, hto]
      rw [hobj]
      exact ObjectState.not_invalidState (le_min hfrom (hproper.ends r₀ hr₀ v hto))
        fun _ => min_le_left now v
  · cases hcanceled : r.canceled with
    | some c =>
      obtain ⟨hfrom, hc⟩ := hproper.canceled r hr c hcanceled
      cases hto : r.validTo with
      | none =>
        have hobj : r.objValidTo = some c := by simp [ObjectStateRequest.objValidTo, hcanceled, hto]
        rw [hobj]
        exact ObjectState.not_invalidState hfrom fun _ => hc
      | some v =>
        have hobj : r.objValidTo = some (min c v) := by
          simp [ObjectStateRequest.objValidTo, hcanceled, hto]
        rw [hobj]
        exact ObjectState.not_invalidState (le_min hfrom (hproper.ends r hr v hto))
          fun _ => (min_le_left c v).trans hc
    | none =>
      have hnot : ¬ (r.current now).holds := fun hcur => hcurrent hcur hobject eos heos hstate hserver
      rw [current_request_iff] at hnot
      cases hto : r.validTo with
      | none =>
        refine absurd hto (hpending hr hcanceled (lt_of_not_ge fun hfrom => hnot ⟨hcanceled, hfrom, ?_⟩))
        simp [hto]
      | some v =>
        have hobj : r.objValidTo = some v := by simp [ObjectStateRequest.objValidTo, hcanceled, hto]
        rw [hobj]
        refine ObjectState.not_invalidState (hproper.ends r hr v hto) fun hfrom => ?_
        refine not_lt.mp fun hlt => hnot ⟨hcanceled, hfrom, fun v' hv' => ?_⟩
        rw [hto] at hv'
        exact hlt.trans_eq (Option.some.inj hv')

/-- What is requested later, after the clearing, was to begin then. -/
theorem Cleared.pending_of_current {r : ObjectStateRequest T} (h : Cleared cat now objectId s s')
    (hle : now ≤ m) (hr : r ∈ s'.requests.objectStateRequest) (hcurrent : (r.current m).holds)
    (hobject : r.objectId = objectId) (heos : eos ∈ cat.enumObjectStates) (hstate : eos.id = r.stateId)
    (hserver : eos.ManualServer) :
    r ∈ s.requests.objectStateRequest ∧ r.canceled = none ∧ now < r.validFrom := by
  obtain ⟨hcanceled, -, hto⟩ := current_request_iff.mp hcurrent
  rcases h r hr with ⟨r₀, -, -, rfl⟩ | ⟨hr, hnot⟩
  · cases hcanceled
  · refine ⟨hr, hcanceled, lt_of_not_ge fun hfrom => ?_⟩
    refine hnot (current_request_iff.mpr ⟨hcanceled, hfrom, fun v hv => ?_⟩) hobject eos heos hstate hserver
    exact hle.trans_lt (hto v hv)

/-- When a restore brings back the states that the object had in `s₀` at `t₀`. -/
structure Restorable (cat : Catalog) (objectId : Nat) (sb : EnumObjectState) (t₀ : T) (s₀ : Tables T)
    (start now m : T) (s : Tables T) (reason : Option String) : Prop where
  reason : reason ≠ none
  requested : Requested now objectId sb.id s
  separate : Separate objectId sb start s
  distinct : Distinct objectId sb start s
  before : ∀ eos ∈ cat.enumObjectStates, eos.ManualServer →
    (hasState t₀ objectId eos.id s₀ ↔ ∃ os, OfState objectId eos.id s os ∧ Reaches start os)
  pending : ∀ r ∈ s.requests.objectStateRequest, r.objectId = objectId → r.canceled = none →
    now < r.validFrom → ∀ eos ∈ cat.enumObjectStates, eos.id = r.stateId → eos.ManualServer →
      (r.validTo = none → ¬ hasState t₀ objectId eos.id s₀) ∧
      ((r.current m).holds → hasState t₀ objectId eos.id s₀)

namespace CreateAdminObjectStateRestoreRequestId

variable {op : CreateAdminObjectStateRestoreRequestId} {reason : Option String} {previous : StatusList}

/-- The states of the list, and of the manual server states no other, are requested again. -/
theorem run_createPrevious (hnames : cat.UniqueNames) (hs : Sound cat op.objectId now s)
    (hproper : Proper cat.toRegistry now s'.requests) (hcleared : Cleared cat now op.objectId s s')
    (hle : now ≤ m) (hr : Restorable cat op.objectId sb t₀ s₀ start now m s reason)
    (hprevious : ∀ name, name ∈ previous.names ↔ ∃ eos ∈ cat.enumObjectStates, eos.ManualServer ∧
      eos.name = name ∧ hasState t₀ op.objectId eos.id s₀) :
    ∃ s'', (createPrevious cat now op previous).run s' = .ok () s'' ∧
      ∀ eos ∈ cat.enumObjectStates, eos.ManualServer →
        (Requested m op.objectId eos.id s'' ↔ hasState t₀ op.objectId eos.id s₀) := by
  have hold : ∀ r ∈ s'.requests.objectStateRequest, r.objectId = op.objectId → (r.current m).holds →
      ∀ eos ∈ cat.enumObjectStates, eos.id = r.stateId → eos.ManualServer →
        hasState t₀ op.objectId eos.id s₀ := by
    intro r hmem hobject hcurrent eos heos hstate hserver
    obtain ⟨hmem, hcanceled, hfrom⟩ :=
      hcleared.pending_of_current hle hmem hcurrent hobject heos hstate hserver
    exact (hr.pending r hmem hobject hcanceled hfrom eos heos hstate hserver).2 hcurrent
  unfold createPrevious
  by_cases hempty : previous.names = []
  · rw [if_pos hempty]
    refine ⟨s', rfl, fun eos heos hserver => ⟨?_, fun hhas => ?_⟩⟩
    · rintro ⟨r, hmem, hobject, hstate, hcurrent⟩
      exact hold r hmem hobject hcurrent eos heos hstate.symm hserver
    · have hlisted := (hprevious eos.name).mpr ⟨eos, heos, hserver, rfl, hhas⟩
      rw [hempty] at hlisted
      cases hlisted
  · rw [if_neg hempty]
    let create : CreateObjectStateRequestId T := ⟨op.objectId, previous, none, none⟩
    -- every state that is to come back is one of the type of the object
    have htype : ∀ name ∈ previous.names, ∃ eos ∈ cat.enumObjectStates, eos.ManualServer ∧
        eos.name = name ∧ cat.OfType op.objectId eos.id := by
      intro name hname
      obtain ⟨eos, heos, hserver, rfl, hhas⟩ := (hprevious name).mp hname
      obtain ⟨os, hos, -⟩ := (hr.before eos heos hserver).mp hhas
      exact ⟨eos, heos, hserver, rfl, hs.ofType eos heos hserver.1 os hos⟩
    obtain ⟨object, hlookup⟩ : ∃ object, cat.objectRegistry.lookup op.objectId = some object := by
      obtain ⟨name, hname⟩ := List.exists_mem_of_ne_nil _ hempty
      obtain ⟨_, -, -, -, object, hobject, hid, -⟩ := htype name hname
      exact ⟨object, Table.lookup_eq_some.mpr ⟨hobject, hid⟩⟩
    have htyped : ∀ name ∈ previous.names, ∃ eos ∈ cat.enumObjectStates, eos.name = name ∧
        eos.ManualServer ∧ object.type ∈ eos.types := by
      intro name hname
      obtain ⟨eos, heos, hserver, rfl, object', hobject', hid, eos', heos', hid', htypes⟩ :=
        htype name hname
      obtain ⟨hobject, hidobject⟩ := Table.lookup_eq_some.mp hlookup
      obtain rfl := Table.eq_of_key_eq hobject hobject' (hidobject.trans hid.symm)
      obtain rfl := Table.eq_of_key_eq heos' heos hid'
      exact ⟨eos', heos', rfl, hserver, htypes⟩
    have haccepts : cat.Accepts object.type create.statusList := by
      intro name hname
      obtain ⟨eos, heos, hname', hserver, htypes⟩ := htyped name hname
      exact ⟨eos, heos, hname', htypes, hserver.1⟩
    have hids : ∀ x, x ∈ create.stateIds cat.toRegistry ↔ ∃ eos ∈ cat.enumObjectStates, eos.id = x ∧
        eos.ManualServer ∧ hasState t₀ op.objectId eos.id s₀ := by
      intro x
      rw [CreateObjectStateRequestId.stateIds, hlookup, mem_stateIdMap_snd hnames]
      constructor
      · rintro ⟨eos, heos, rfl, -, hname⟩
        obtain ⟨eos', heos', hserver, hname', hhas⟩ := (hprevious eos.name).mp hname
        obtain rfl := hnames eos' heos' eos heos hname'
        exact ⟨eos', heos, rfl, hserver, hhas⟩
      · rintro ⟨eos, heos, rfl, hserver, hhas⟩
        have hname := (hprevious eos.name).mpr ⟨eos, heos, hserver, rfl, hhas⟩
        obtain ⟨eos', heos', hname', -, htypes⟩ := htyped eos.name hname
        obtain rfl := hnames eos' heos' eos heos hname'
        exact ⟨eos', heos, rfl, htypes, hname⟩
    obtain ⟨a, requests, hrun, hrows⟩ : ∃ a requests,
        (create.exec cat.toRegistry now).run s'.requests = .ok a requests ∧
        ∀ r, r ∈ requests.objectStateRequest ↔ r ∈ s'.requests.objectStateRequest ∨
          r ∈ create.newRequests now s'.requests.idSeq (create.stateIds cat.toRegistry) := by
      have hin : create.InTurn now := by
        intro _ hto
        cases hto
      refine CreateObjectStateRequestId.exec_accepted hnames hproper.id_lt hlookup haccepts hempty
        hin ?_
      intro r hmem hobject hlisted
      obtain ⟨eos, heos, hstate, hserver, hhas⟩ := (hids r.stateId).mp hlisted
      refine hcleared.not_invalidState hs.proper hmem hobject heos hstate hserver ?_
      intro hmem hcanceled hfrom hto
      exact (hr.pending r hmem hobject hcanceled hfrom eos heos hstate hserver).1 hto hhas
    refine ⟨{ s' with requests := requests }, run_bind_of_ok (run_onRequests hrun), ?_⟩
    intro eos heos hserver
    constructor
    · rintro ⟨r, hmem, hobject, hstate, hcurrent⟩
      rcases (hrows r).mp hmem with hmem | hmem
      · exact hold r hmem hobject hcurrent eos heos hstate.symm hserver
      · obtain ⟨i, hi, rfl⟩ := CreateObjectStateRequestId.mem_newRequests.mp hmem
        obtain ⟨eos', heos', hid, -, hhas⟩ := (hids _).mp (List.getElem_mem hi)
        obtain rfl := Table.eq_of_key_eq heos' heos (hid.trans hstate)
        exact hhas
    · intro hhas
      obtain ⟨i, hi, hid⟩ := List.getElem_of_mem ((hids eos.id).mpr ⟨eos, heos, rfl, hserver, hhas⟩)
      refine ⟨_, (hrows _).mpr (.inr (CreateObjectStateRequestId.mem_newRequests.mpr ⟨i, hi, rfl⟩)),
        rfl, hid, current_request_iff.mpr ⟨rfl, hle, fun validTo hto => ?_⟩⟩
      cases hto

/-- A restore succeeds, and what it requests are the states that the object had. -/
theorem exec_requests (desc : DescendingOrder T) (hnames : cat.UniqueNames) (hsb : sb ∈ cat.enumObjectStates)
    (hname : sb.name = "serverBlocked")
    (h : Blocked procedure cat op.objectId sb t₀ s₀ start begun last s) (hle : last ≤ now)
    (hm : now ≤ m) (hr : Restorable cat op.objectId sb t₀ s₀ start now m s op.reason) :
    ∃ s', (op.exec cat desc now).run s = .ok () s' ∧ Sound cat op.objectId now s' ∧
      ∀ eos ∈ cat.enumObjectStates, eos.ManualServer →
        (Requested m op.objectId eos.id s' ↔ hasState t₀ op.objectId eos.id s₀) := by
  obtain ⟨hs, hmanual, hbegun, hchain⟩ := h.sound hnames hsb hname
  have hsnow := hs.mono hle
  obtain ⟨cur, hcur, hcurfrom, hcurto⟩ := hchain.newest
  have hhas : hasState now op.objectId sb.id s := by
    refine hasState_iff.mpr ⟨cur, hcur, stateCurrent_iff.mpr ⟨?_, by simp [hcurto]⟩⟩
    rw [hcurfrom]
    exact hbegun.trans hle
  have hpresent : (op.checkServerBlockedStatusPresent cat now).run s = .ok sb.id s := by
    unfold checkServerBlockedStatusPresent
    rw [run_bind_of_ok (run_getServerBlockedId hnames hsb hname),
      run_bind_of_ok (run_get_eq_ok.mpr ⟨rfl, rfl⟩), run_bind_of_ok (run_raiseIf_of_neg (not_not.mpr hhas))]
    rfl
  obtain ⟨reason, hreason⟩ := Option.ne_none_iff_exists'.mp hr.reason
  have hget : (op.getReason : AdminExec T String).run s = .ok reason s := by
    unfold getReason
    rw [hreason]
    rfl
  obtain ⟨first, hfirst, hfirstrow, hfirstfrom⟩ := startOfBlock_eq desc hchain hr.separate hr.distinct (hchain.le.trans (hbegun.trans hle))
  obtain ⟨s₁, hclear, hcleared⟩ : ∃ s₁,
      ((⟨op.objectId, some reason⟩ : ClearAdminObjectStateRequestId).exec cat now).run s = .ok () s₁ ∧
        Cleared cat now op.objectId s s₁ :=
    ClearAdminObjectStateRequestId.exec_cleared hsb hname hmanual hr.requested
  have hkept₁ := (ClearAdminObjectStateRequestId.kept_exec s hsnow.kept).1 () s₁ hclear
  have hprevious : ∀ name, name ∈ (StatusList.ofNames (previousStatusList cat first s)).names ↔
      ∃ eos ∈ cat.enumObjectStates, eos.ManualServer ∧ eos.name = name ∧
        hasState t₀ op.objectId eos.id s₀ := by
    intro name
    rw [StatusList.mem_ofNames, mem_previousStatusList, hfirstfrom, hfirstrow.2.1]
    refine exists_congr fun eos => and_congr_right fun heos => and_congr_right fun hserver => ?_
    rw [hr.before eos heos hserver]
  obtain ⟨s₂, hcreate, hrequested⟩ := run_createPrevious hnames hsnow hkept₁.1 hcleared hm hr hprevious
  have hrun : (op.exec cat desc now).run s = .ok () s₂ := by
    unfold exec
    rw [run_bind_of_ok hpresent, run_bind_of_ok (run_get_eq_ok.mpr ⟨rfl, rfl⟩), run_bind_of_ok hget,
      run_bind_of_ok hclear, hfirst]
    exact hcreate
  exact ⟨s₂, hrun, hsnow.of_kept ((kept_exec hnames s hsnow.kept).1 () s₂ hrun), hrequested⟩

end CreateAdminObjectStateRestoreRequestId

/-- Once a restore of a block that was followed by any number of re-blocks is materialised, the
object has the manual server states again that it had when it was blocked. -/
theorem restored_after_blocks {op : CreateAdminObjectStateRestoreRequestId} (hnames : cat.UniqueNames)
    (hsb : sb ∈ cat.enumObjectStates) (hname : sb.name = "serverBlocked")
    (h : Blocked procedure cat op.objectId sb t₀ s₀ start begun last s) (hle : last ≤ now)
    (hm : now ≤ m) (hr : Restorable cat op.objectId sb t₀ s₀ start now m s op.reason) :
    ∃ s', (op.exec cat desc now).run s = .ok () s' ∧
      manualServerStates cat m op.objectId (procedure.perform cat m op.objectId s') =
        manualServerStates cat t₀ op.objectId s₀ := by
  obtain ⟨s', hrun, hs', hrequested⟩ :=
    CreateAdminObjectStateRestoreRequestId.exec_requests desc hnames hsb hname h hle hm hr
  refine ⟨s', hrun, ?_⟩
  rw [manualServerStates, manualServerStates, Table.select, Table.select]
  refine congrArg (List.map EnumObjectState.id) (List.filter_congr fun eos heos => ?_)
  by_cases hserver : eos.ManualServer
  · have hstate : hasState m op.objectId eos.id (procedure.perform cat m op.objectId s') ↔
        Requested m op.objectId eos.id s' := hasState_perform_iff hs'.past hm heos hserver.1
    simp [hserver, hstate, hrequested eos heos hserver]
  · simp [hserver]

/-- One domain and three states that it may be given by hand. -/
def sampleCatalog : Catalog where
  enumObjectStates := ⟨[⟨1, "serverBlocked", [3], true⟩, ⟨2, "serverTransferProhibited", [3], true⟩,
    ⟨3, "serverUpdateProhibited", [3], true⟩], by decide⟩
  objectRegistry := ⟨[⟨7, 3, "blocked.cz"⟩], by decide⟩
  enumObjectStatesDesc := [⟨3, "EN", "Update forbidden"⟩]

def sampleProhibit : AdminOperation Nat :=
  .request (.create ⟨7, ⟨["serverTransferProhibited"], List.pairwise_singleton _ _⟩, none, none⟩)

def sampleBlock : CreateAdminObjectBlockRequestId Nat where
  objectId := 7
  statusList := ⟨["serverUpdateProhibited"], List.pairwise_singleton _ _⟩
  validFrom := none
  validTo := none
  reason := none

/-- The domain before the block, when its transfer is prohibited. -/
def sampleBefore : Tables Nat :=
  UpdateObjectStates.standard.perform sampleCatalog 0 7
    (sampleProhibit.next sampleCatalog 0 false ⟨⟨∅, 1⟩, ∅, []⟩)

def sampleRequested : Tables Nat :=
  (AdminOperation.block sampleBlock).next sampleCatalog 1 false sampleBefore

/-- The domain after the block, when only its update is prohibited. -/
def sampleBlocked : Tables Nat :=
  UpdateObjectStates.standard.perform sampleCatalog 1 7 sampleRequested

theorem sampleBlocked_rows : sampleBlocked.objectState.rows =
    [⟨1, 7, 2, 0, some 1⟩, ⟨2, 7, 1, 1, none⟩, ⟨3, 7, 3, 1, none⟩] := by rfl

theorem ofState_sampleBlocked {x : Nat} {os : ObjectState Nat} : OfState 7 x sampleBlocked os ↔
    (os = ⟨1, 7, 2, 0, some 1⟩ ∧ x = 2) ∨ (os = ⟨2, 7, 1, 1, none⟩ ∧ x = 1) ∨
      (os = ⟨3, 7, 3, 1, none⟩ ∧ x = 3) := by
  rw [OfState, ← Table.mem_rows, sampleBlocked_rows]
  simp only [List.mem_cons, List.not_mem_nil, or_false]
  constructor
  · rintro ⟨rfl | rfl | rfl, -, rfl⟩ <;> simp
  · rintro (⟨rfl, rfl⟩ | ⟨rfl, rfl⟩ | ⟨rfl, rfl⟩) <;> simp

theorem sampleCatalog_uniqueNames : sampleCatalog.UniqueNames := by
  intro a ha b hb h
  simp only [sampleCatalog, ← Table.mem_rows, List.mem_cons, List.not_mem_nil, or_false] at ha hb
  rcases ha with rfl | rfl | rfl <;> rcases hb with rfl | rfl | rfl <;> simp_all

theorem blocked_sampleBlocked : Blocked UpdateObjectStates.standard sampleCatalog 7
    ⟨1, "serverBlocked", [3], true⟩ 1 sampleBefore 1 1 1 sampleBlocked := by
  have hempty : History UpdateObjectStates.standard sampleCatalog 7 0 ⟨⟨∅, 1⟩, ∅, []⟩ :=
    .empty rfl rfl
  have hbefore : History UpdateObjectStates.standard sampleCatalog 7 0 sampleBefore :=
    .perform (.call sampleProhibit false hempty le_rfl) le_rfl
  have hrun : (sampleBlock.exec sampleCatalog 1).run sampleBefore = .ok "blocked.cz" sampleRequested := by
    rfl
  exact .begin (.block hbefore zero_le_one rfl hrun) le_rfl (by decide)

theorem restorable_sampleBlocked : Restorable sampleCatalog 7 ⟨1, "serverBlocked", [3], true⟩ 1
    sampleBefore 1 2 2 sampleBlocked (some "it was a mistake") where
  reason := by simp
  requested := by decide
  separate os hos hlt := by
    rcases ofState_sampleBlocked.mp hos with ⟨rfl, hx⟩ | ⟨rfl, -⟩ | ⟨rfl, hx⟩
    · cases hx
    · exact absurd hlt (lt_irrefl 1)
    · cases hx
  distinct a b c ha hb _ _ _ _ := by
    rcases ofState_sampleBlocked.mp ha with ⟨-, hx⟩ | ⟨rfl, -⟩ | ⟨-, hx⟩
    · cases hx
    · rcases ofState_sampleBlocked.mp hb with ⟨-, hx⟩ | ⟨rfl, -⟩ | ⟨-, hx⟩
      · cases hx
      · rfl
      · cases hx
    · cases hx
  before eos heos _ := by
    simp only [sampleCatalog, ← Table.mem_rows, List.mem_cons, List.not_mem_nil, or_false] at heos
    simp only [ofState_sampleBlocked]
    rcases heos with rfl | rfl | rfl
    · refine iff_of_false (by decide) ?_
      rintro ⟨os, ⟨rfl, hx⟩ | ⟨rfl, -⟩ | ⟨rfl, hx⟩, hreaches⟩
      · cases hx
      · exact absurd hreaches (by decide)
      · cases hx
    · exact iff_of_true (by decide) ⟨_, .inl ⟨rfl, rfl⟩, by decide⟩
    · refine iff_of_false (by decide) ?_
      rintro ⟨os, ⟨rfl, hx⟩ | ⟨rfl, hx⟩ | ⟨rfl, -⟩, hreaches⟩
      · cases hx
      · cases hx
      · exact absurd hreaches (by decide)
  pending r hr _ _ hlt := by
    have hrows : ∀ r ∈ sampleBlocked.requests.objectStateRequest.rows, ¬ 2 < r.validFrom := by decide
    exact absurd hlt (hrows r hr)

theorem restored_after_blocks_sampleBlocked :
    ∃ s', ((⟨7, some "it was a mistake"⟩ : CreateAdminObjectStateRestoreRequestId).exec sampleCatalog
      (Sorting.byKey fun os : ObjectState Nat => OrderDual.toDual os.validFrom) 2).run sampleBlocked =
        .ok () s' ∧
      manualServerStates sampleCatalog 2 7
        (UpdateObjectStates.standard.perform sampleCatalog 2 7 s') =
      manualServerStates sampleCatalog 1 7 sampleBefore :=
  restored_after_blocks sampleCatalog_uniqueNames (by exact List.mem_cons_self) rfl
    blocked_sampleBlocked (by decide)
    le_rfl restorable_sampleBlocked

theorem CreateAdminObjectStateRestoreRequestId.exec_without_reason
    {op : CreateAdminObjectStateRestoreRequestId} (h : op.reason = none) :
    (op.exec cat desc now).run s ≠ .ok () s' := by
  intro hrun
  obtain ⟨_, _, -, hrun⟩ := run_bind_eq_ok.mp hrun
  obtain ⟨_, _, -, hrun⟩ := run_bind_eq_ok.mp hrun
  obtain ⟨_, _, hreason, -⟩ := run_bind_eq_ok.mp hrun
  unfold getReason at hreason
  rw [h] at hreason
  cases hreason

/-- A restore without a reason fails, here and everywhere. -/
theorem not_restored_after_blocks :
    ¬ ∀ (cat : Catalog) (procedure : UpdateObjectStates Nat) (desc : DescendingOrder Nat)
      (sb : EnumObjectState) (op : CreateAdminObjectStateRestoreRequestId) (t₀ : Nat) (s₀ : Tables Nat)
      (start begun last now m : Nat) (s : Tables Nat), cat.UniqueNames → sb ∈ cat.enumObjectStates →
      sb.name = "serverBlocked" →
      Blocked procedure cat op.objectId sb t₀ s₀ start begun last s → last ≤ now → now ≤ m →
      Requested now op.objectId sb.id s →
      ∃ s', (op.exec cat desc now).run s = .ok () s' ∧
        manualServerStates cat m op.objectId (procedure.perform cat m op.objectId s') =
          manualServerStates cat t₀ op.objectId s₀ := by
  intro h
  obtain ⟨s', hrun, -⟩ := h sampleCatalog UpdateObjectStates.standard
    (Sorting.byKey fun os : ObjectState Nat => OrderDual.toDual os.validFrom)
    ⟨1, "serverBlocked", [3], true⟩ ⟨7, none⟩ 1 sampleBefore 1 1 1 2 2 sampleBlocked
    sampleCatalog_uniqueNames List.mem_cons_self rfl blocked_sampleBlocked (by decide) le_rfl (by decide)
  exact CreateAdminObjectStateRestoreRequestId.exec_without_reason rfl hrun

end LibFred.ObjectState
