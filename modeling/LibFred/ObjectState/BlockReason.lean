import LibFred.ObjectState.AdminBlockRestore
import LibFred.ObjectState.RequestAcceptance

/-! The request that the reason of an administrative block is noted with. -/
namespace LibFred.ObjectState

open Sql

variable {T : Type} {reg : Registry} {cat : Catalog}

/-- Every name of the list has been found. -/
theorem mem_stateIdMap_of_ok {s s' : Requests T} {statusList : StatusList} {objectType : Int}
    {found : List (String × Nat)} {name : String}
    (h : (getObjectStateIdMap reg statusList objectType).run s = .ok found s')
    (hname : name ∈ statusList.names) :
    name ∈ (stateIdMap reg statusList objectType).map Prod.fst := by
  by_contra hno
  obtain ⟨_, _, hraise, -⟩ := run_bind_eq_ok.mp h
  refine (run_raiseIf_eq_ok.mp hraise).1 ⟨?_, ?_⟩
  · refine List.length_filterMap_lt_length_iff_exists.mpr ⟨name, hname, ?_⟩
    cases hlast : (reg.enumObjectStates.select fun eos =>
        objectType ∈ eos.types ∧ eos.name = name).getLast? with
    | none => rfl
    | some eos =>
      obtain ⟨hmem, htype, heq⟩ := Table.mem_select.mp (List.mem_of_getLast? hlast)
      exact absurd (mem_stateIdMap_fst.mpr ⟨hname, eos, hmem, heq, htype⟩) hno
  · have hmem : " " ++ name ∈ (statusList.names.filter
        (· ∉ (stateIdMap reg statusList objectType).map Prod.fst)).map (" " ++ ·) :=
      List.mem_map.mpr ⟨name, List.mem_filter.mpr ⟨hname, by simpa using hno⟩, rfl⟩
    intro hempty
    have hlist := congrArg String.toList hempty
    rw [String.toList_join] at hlist
    have hnil := List.flatMap_eq_nil_iff.mp hlist _ hmem
    simp at hnil

variable [LinearOrder T] {now : T} {s s' : Tables T} {sb : EnumObjectState}
  {op : CreateAdminObjectBlockRequestId T}

/-- The request that the block makes. -/
def CreateAdminObjectBlockRequestId.request (op : CreateAdminObjectBlockRequestId T) :
    CreateObjectStateRequestId T :=
  ⟨op.objectId, op.statusList.insert "serverBlocked", op.validFrom, op.validTo⟩

/-- The interval that is asked for has begun and is not over. -/
def CreateAdminObjectBlockRequestId.CoversNow (now : T) (op : CreateAdminObjectBlockRequestId T) :
    Prop :=
  (∀ validFrom ∈ op.validFrom, validFrom ≤ now) ∧ ∀ validTo ∈ op.validTo, now ≤ validTo

theorem CreateObjectStateRequestId.mem_stateIds_of_ok {op : CreateObjectStateRequestId T}
    {s s' : Requests T} {a : String × Nat} (h : (op.exec reg now).run s = .ok a s') {name : String}
    (hname : name ∈ op.statusList.names)
    (honly : ∀ eos ∈ reg.enumObjectStates, eos.name = name → eos = sb) : sb.id ∈ op.stateIds reg := by
  obtain ⟨_, _, htime, h⟩ := run_bind_eq_ok.mp h
  obtain rfl := readOnly_checkTime.ok htime
  split at h
  · cases h
  · rename_i object hlookup
    obtain ⟨_, _, hstatus, h⟩ := run_bind_eq_ok.mp h
    obtain rfl := readOnly_checkValidStatus.ok hstatus
    obtain ⟨_, _, hmap, h⟩ := run_bind_eq_ok.mp h
    obtain ⟨p, hp, rfl⟩ := List.mem_map.mp (mem_stateIdMap_of_ok hmap hname)
    rw [stateIds, hlookup]
    refine List.mem_map.mpr ⟨p, hp, ?_⟩
    obtain ⟨name, -, hname⟩ := List.mem_filterMap.mp hp
    obtain ⟨eos, heos, rfl⟩ := Option.map_eq_some_iff.mp hname
    obtain ⟨hmem, -, rfl⟩ := Table.mem_select.mp (List.mem_of_getLast? heos)
    rw [honly eos hmem rfl]

omit [LinearOrder T] in
theorem getServerBlockedId_ok {e : AdminException T} {id : Nat}
    (h : (getServerBlockedId cat e).run s = .ok id s') :
    ∃ sb, cat.enumObjectStates.select (·.name = "serverBlocked") = [sb] ∧ sb.id = id := by
  unfold getServerBlockedId at h
  split at h
  · rename_i sb hselect
    exact ⟨sb, hselect, (run_pure_eq_ok.mp h).1⟩
  · cases h

/-- The requests after a block: those that were there, some of them canceled, and new ones, of which
one is for serverBlocked. -/
theorem CreateAdminObjectBlockRequestId.exec_requests {handle : String}
    (h : (op.exec cat now).run s = .ok handle s') :
    ∃ sb : EnumObjectState, (∀ eos ∈ cat.enumObjectStates, eos.name = "serverBlocked" ↔ eos = sb) ∧
      sb ∈ cat.enumObjectStates ∧ sb.id ∈ op.request.stateIds cat.toRegistry ∧
      ∃ requests : Requests T,
        (∀ r ∈ requests.objectStateRequest, (∃ r₀ ∈ s.requests.objectStateRequest, r₀.id = r.id) ∨
          r ∈ op.request.newRequests now s.requests.idSeq (op.request.stateIds cat.toRegistry)) ∧
        (∀ r ∈ op.request.newRequests now s.requests.idSeq (op.request.stateIds cat.toRegistry),
          r ∈ requests.objectStateRequest) ∧
        (op.insertReason cat now).run { s with requests := requests } = .ok () s' := by
  obtain ⟨_, _, honly, h⟩ := run_bind_eq_ok.mp h
  obtain rfl := readOnly_checkAdministrativeBlockStatusOnly.ok honly
  obtain ⟨_, _, habsent, h⟩ := run_bind_eq_ok.mp h
  obtain rfl := readOnly_checkServerBlockedStatusAbsent.ok habsent
  obtain ⟨id, _, hid, -⟩ := run_bind_eq_ok.mp habsent
  obtain ⟨sb, hselect, -⟩ := getServerBlockedId_ok hid
  obtain ⟨hsb, hname, hunique⟩ := Table.select_eq_singleton.mp hselect
  have hblocked : ∀ eos ∈ cat.enumObjectStates, eos.name = "serverBlocked" ↔ eos = sb :=
    fun eos heos => ⟨hunique eos heos, fun heq => heq ▸ hname⟩
  obtain ⟨_, _, hclear, h⟩ := run_bind_eq_ok.mp h
  obtain ⟨cleared, hcleared, rfl⟩ := run_onRequests_eq_ok.mp hclear
  obtain ⟨created, _, hcreate, h⟩ := run_bind_eq_ok.mp h
  obtain ⟨requests, hcreated, rfl⟩ := run_onRequests_eq_ok.mp hcreate
  obtain ⟨_, _, hreason, h⟩ := run_bind_eq_ok.mp h
  obtain ⟨-, rfl⟩ := run_pure_eq_ok.mp h
  obtain ⟨-, hinsert⟩ := CreateObjectStateRequestId.exec_ok hcreated
  have hmem := fun r => Table.mem_of_insertAll? (r := r) hinsert
  obtain ⟨_, _, hcancel, hreturn⟩ := run_bind_eq_ok.mp hcleared
  obtain ⟨-, rfl⟩ := run_pure_eq_ok.mp hreturn
  cases hcancel
  refine ⟨sb, hblocked, hsb, ?_, requests, fun r hr => ?_, fun r hr => ?_, hreason⟩
  · have hlisted : "serverBlocked" ∈ op.request.statusList.names :=
      StatusList.mem_ofNames.mpr List.mem_cons_self
    exact CreateObjectStateRequestId.mem_stateIds_of_ok hcreated hlisted
      fun eos heos => (hblocked eos heos).mp
  · rcases (hmem r).mp hr with hr | hr
    · obtain ⟨r₀, hr₀, rfl⟩ := (Table.mem_update (ObjectStateRequest.key_cancel now)).mp hr
      refine .inl ⟨r₀, hr₀, ?_⟩
      split <;> rfl
    · exact .inr hr
  · exact (hmem r).mpr (.inr hr)

/-- The reason is noted with one request more, that for serverBlocked which was not there before. -/
def ReasonNoted (cat : Catalog) (op : CreateAdminObjectBlockRequestId T) (s s' : Tables T) : Prop :=
  ∃ r ∈ s'.requests.objectStateRequest,
    (∀ r₀ ∈ s.requests.objectStateRequest, r₀.id ≠ r.id) ∧ r.objectId = op.objectId ∧
    (∃ eos ∈ cat.enumObjectStates, eos.id = r.stateId ∧ eos.name = "serverBlocked") ∧
    s'.objectStateRequestReason = s.objectStateRequestReason ++ [⟨r.id, op.reason, none⟩]

/-- The requests that the reason may be noted with. -/
def CreateAdminObjectBlockRequestId.candidates (cat : Catalog) (now : T)
    (op : CreateAdminObjectBlockRequestId T) (requests : Requests T) : List Nat :=
  (requests.objectStateRequest.select fun osr =>
    (((le (some osr.validFrom) (some now)).and
        ((isNull osr.validTo).or (le (some now) osr.validTo))).and (isNull osr.canceled)).holds ∧
      osr.objectId = op.objectId ∧
      ∃ eos ∈ cat.enumObjectStates.rows, eos.id = osr.stateId ∧ eos.name = "serverBlocked").map (·.id)

theorem CreateAdminObjectBlockRequestId.mem_candidates {requests : Requests T} {id : Nat} :
    id ∈ op.candidates cat now requests ↔ ∃ r ∈ requests.objectStateRequest, r.id = id ∧
      r.validFrom ≤ now ∧ (∀ v ∈ r.validTo, now ≤ v) ∧ r.canceled = none ∧
      r.objectId = op.objectId ∧
      ∃ eos ∈ cat.enumObjectStates, eos.id = r.stateId ∧ eos.name = "serverBlocked" := by
  have hvalid : ∀ r : ObjectStateRequest T, (((le (some r.validFrom) (some now)).and
      ((isNull r.validTo).or (le (some now) r.validTo))).and (isNull r.canceled)).holds ↔
      r.validFrom ≤ now ∧ (∀ v ∈ r.validTo, now ≤ v) ∧ r.canceled = none := by
    intro r
    cases hto : r.validTo <;> simp [and_assoc]
  simp only [candidates, List.mem_map, Table.mem_select, hvalid]
  constructor
  · rintro ⟨r, ⟨hr, ⟨hfrom, hto, hcanceled⟩, hobject, hstate⟩, rfl⟩
    exact ⟨r, hr, rfl, hfrom, hto, hcanceled, hobject, hstate⟩
  · rintro ⟨r, hr, rfl, hfrom, hto, hcanceled, hobject, hstate⟩
    exact ⟨r, ⟨hr, ⟨hfrom, hto, hcanceled⟩, hobject, hstate⟩, rfl⟩

theorem CreateAdminObjectBlockRequestId.insertReason_ok {u : Unit}
    (h : (op.insertReason cat now).run s = .ok u s') :
    s'.requests = s.requests ∧ s'.objectStateRequestReason = s.objectStateRequestReason ++
      (op.candidates cat now s.requests).max?.toList.map fun id => ⟨id, op.reason, none⟩ := by
  cases h
  exact ⟨rfl, rfl⟩

/-- A new request begins and ends as it was asked for. -/
theorem CreateAdminObjectBlockRequestId.coversNow_iff :
    op.CoversNow now ↔ op.request.newValidFrom now ≤ now ∧ ∀ v ∈ op.validTo, now ≤ v := by
  unfold CoversNow CreateObjectStateRequestId.newValidFrom request
  cases op.validFrom <;> simp

/-- The reason of a block is noted with its own request for serverBlocked exactly when that covers
the present moment. -/
theorem reason_noted_iff (cat : Catalog) (now : T) (op : CreateAdminObjectBlockRequestId T)
    (s s' : Tables T) (handle : String) (hs : Reached (fun _ _ => True) s.requests)
    (h : (op.exec cat now).run s = .ok handle s') :
    ReasonNoted cat op s s' ↔ op.CoversNow now := by
  have hid : ∀ r ∈ s.requests.objectStateRequest, r.id < s.requests.idSeq := (reached_inOrder hs).id_lt
  obtain ⟨sb, hblocked, hsb, hlisted, requests, hold, hnew, hreason⟩ :=
    CreateAdminObjectBlockRequestId.exec_requests h
  obtain ⟨hrequests, hreasons⟩ := CreateAdminObjectBlockRequestId.insertReason_ok hreason
  rw [CreateAdminObjectBlockRequestId.coversNow_iff]
  constructor
  · rintro ⟨r, hr, hfresh, -, -, hnoted⟩
    rw [hnoted] at hreasons
    have hmax : (op.candidates cat now requests).max? = some r.id := by
      cases hmax : (op.candidates cat now requests).max? with
      | none => simp [hmax] at hreasons
      | some id =>
        rw [hmax] at hreasons
        have hsame := List.append_cancel_left hreasons
        simp only [Option.toList_some, List.map_cons, List.map_nil, List.cons.injEq,
          ObjectStateRequestReason.mk.injEq] at hsame
        rw [hsame.1.1]
    obtain ⟨r', hr', hrid, hfrom, hto, -⟩ :=
      CreateAdminObjectBlockRequestId.mem_candidates.mp (List.max?_mem hmax)
    rcases hold r' hr' with ⟨r₀, hr₀, heq⟩ | hr'
    · exact absurd (heq.trans hrid) (hfresh r₀ hr₀)
    · obtain ⟨i, hi, rfl⟩ := CreateObjectStateRequestId.mem_newRequests.mp hr'
      exact ⟨hfrom, hto⟩
  · rintro ⟨hfrom, hto⟩
    obtain ⟨i, hi, hstate⟩ := List.getElem_of_mem hlisted
    let r := op.request.newRequest now (s.requests.idSeq + i) sb.id
    have hr : r ∈ requests.objectStateRequest :=
      hnew r (CreateObjectStateRequestId.mem_newRequests.mpr ⟨i, hi, by rw [hstate]⟩)
    have hname : sb.name = "serverBlocked" := (hblocked sb hsb).mpr rfl
    have hmax : (op.candidates cat now requests).max? = some r.id := by
      refine List.max?_eq_some_iff.mpr ⟨?_, fun id hmem => ?_⟩
      · exact CreateAdminObjectBlockRequestId.mem_candidates.mpr
          ⟨r, hr, rfl, hfrom, hto, rfl, rfl, sb, hsb, rfl, hname⟩
      · -- An older request has a smaller id, and of the new ones this is the one for serverBlocked.
        obtain ⟨r', hr', rfl, -, -, -, -, eos, heos, heosid, heosname⟩ :=
          CreateAdminObjectBlockRequestId.mem_candidates.mp hmem
        rcases hold r' hr' with ⟨r₀, hr₀, heq⟩ | hr'
        · have hlt := hid r₀ hr₀
          change r'.id ≤ s.requests.idSeq + i
          omega
        · obtain ⟨j, hj, rfl⟩ := CreateObjectStateRequestId.mem_newRequests.mp hr'
          obtain rfl := (hblocked eos heos).mp heosname
          have hij : j = i := (List.Nodup.getElem_inj_iff
            CreateObjectStateRequestId.stateIds_nodup).mp (heosid.symm.trans hstate.symm)
          change s.requests.idSeq + j ≤ s.requests.idSeq + i
          omega
    refine ⟨r, hrequests ▸ hr, fun r₀ hr₀ heq => ?_, rfl, ⟨sb, hsb, rfl, hname⟩, ?_⟩
    · have hlt := hid r₀ hr₀
      change r₀.id = s.requests.idSeq + i at heq
      omega
    · rw [hreasons, hmax]
      rfl

/-- At the time 10 the domain of `sampleCatalog` is blocked from the given time on. -/
def blockFrom (validFrom : Option Nat) : CreateAdminObjectBlockRequestId Nat where
  objectId := 7
  statusList := StatusList.ofNames ["serverUpdateProhibited"]
  validFrom := validFrom
  validTo := none
  reason := some "court order"

def beforeBlock : Tables Nat := ⟨⟨∅, 1⟩, ∅, []⟩

theorem reason_noted_iff_sample :
    ReasonNoted sampleCatalog (blockFrom none) beforeBlock
      (outcome true ((blockFrom none).exec sampleCatalog 10) beforeBlock) := by
  refine (reason_noted_iff sampleCatalog 10 (blockFrom none) beforeBlock _ "blocked.cz" (.init rfl)
    (by rfl)).mpr ⟨?_, ?_⟩ <;> rintro _ ⟨⟩

/-- The reason of a block that begins later is lost. -/
theorem not_reason_noted :
    ¬ ∀ (cat : Catalog) (now : Nat) (op : CreateAdminObjectBlockRequestId Nat) (s s' : Tables Nat)
      (handle : String), Reached (fun _ _ => True) s.requests → op.reason ≠ none →
        op.reason ≠ some "" → (op.exec cat now).run s = .ok handle s' → ReasonNoted cat op s s' := by
  intro h
  obtain ⟨r, -, -, -, -, hnoted⟩ := h sampleCatalog 10 (blockFrom (some 20)) beforeBlock
    (outcome true ((blockFrom (some 20)).exec sampleCatalog 10) beforeBlock) "blocked.cz" (.init rfl)
    (by decide) (by decide) (by rfl)
  have hnone : (outcome true ((blockFrom (some 20)).exec sampleCatalog 10)
      beforeBlock).objectStateRequestReason = [] := by rfl
  rw [hnone] at hnoted
  cases hnoted

end LibFred.ObjectState
