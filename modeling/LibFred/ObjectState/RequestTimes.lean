import LibFred.ObjectState.RequestIntervals

/-! What holds of every request, and when new requests are accepted. -/
namespace LibFred.ObjectState

open Sql

/-- No two states share a name. -/
def Registry.UniqueNames (reg : Registry) : Prop :=
  ∀ a ∈ reg.enumObjectStates, ∀ b ∈ reg.enumObjectStates, a.name = b.name → a = b

/-- The object may be in the state. -/
def Registry.OfType (reg : Registry) (objectId x : Nat) : Prop :=
  ∃ object ∈ reg.objectRegistry, object.id = objectId ∧
    ∃ eos ∈ reg.enumObjectStates, eos.id = x ∧ object.type ∈ eos.types

section

variable {reg : Registry} {statusList : StatusList} {objectType : Int} {name : String} {x : Nat}

theorem StatusList.nodup (statusList : StatusList) : statusList.names.Nodup :=
  statusList.sorted.imp fun {a b} hlt (he : a = b) => String.lt_irrefl _ (he ▸ hlt)

/-- The list names manual states of the type only. -/
def Registry.Accepts (reg : Registry) (objectType : Int) (statusList : StatusList) : Prop :=
  ∀ name ∈ statusList.names, ∃ eos ∈ reg.enumObjectStates,
    eos.name = name ∧ objectType ∈ eos.types ∧ eos.manual

theorem mem_stateIdMap_fst :
    name ∈ (stateIdMap reg statusList objectType).map Prod.fst ↔
      name ∈ statusList.names ∧ ∃ eos ∈ reg.enumObjectStates, eos.name = name ∧ objectType ∈ eos.types := by
  simp only [stateIdMap, List.mem_map, List.mem_filterMap]
  constructor
  · rintro ⟨p, ⟨name', hname', hp⟩, rfl⟩
    obtain ⟨eos, heos, rfl⟩ := Option.map_eq_some_iff.mp hp
    obtain ⟨hmem, htype, rfl⟩ := Table.mem_select.mp (List.mem_of_getLast? heos)
    exact ⟨hname', eos, hmem, rfl, htype⟩
  · rintro ⟨hname, eos, heos, rfl, htype⟩
    have hne := List.ne_nil_of_mem (Table.mem_select.mpr ⟨heos, htype, rfl⟩ :
      eos ∈ reg.enumObjectStates.select fun eos' => objectType ∈ eos'.types ∧ eos'.name = eos.name)
    exact ⟨_, ⟨eos.name, hname, by rw [List.getLast?_eq_some_getLast hne]; rfl⟩, rfl⟩

/-- The ids found are those of the listed states of the type. -/
theorem mem_stateIdMap_snd (hnames : reg.UniqueNames) :
    x ∈ (stateIdMap reg statusList objectType).map Prod.snd ↔
      ∃ eos ∈ reg.enumObjectStates, eos.id = x ∧ objectType ∈ eos.types ∧
        eos.name ∈ statusList.names := by
  simp only [stateIdMap, List.mem_map, List.mem_filterMap]
  constructor
  · rintro ⟨p, ⟨name', hname', hp⟩, rfl⟩
    obtain ⟨eos, heos, rfl⟩ := Option.map_eq_some_iff.mp hp
    obtain ⟨hmem, htype, rfl⟩ := Table.mem_select.mp (List.mem_of_getLast? heos)
    exact ⟨eos, hmem, rfl, htype, hname'⟩
  · rintro ⟨eos, heos, rfl, htype, hname⟩
    have honly : (reg.enumObjectStates.select fun eos' =>
        objectType ∈ eos'.types ∧ eos'.name = eos.name) = [eos] :=
      Table.select_eq_singleton.mpr ⟨heos, ⟨htype, rfl⟩, fun b hb hbname =>
        hnames b hb eos heos hbname.2⟩
    exact ⟨(eos.name, eos.id), ⟨eos.name, hname, by rw [honly]; rfl⟩, rfl⟩

/-- checkValidStatus lets a list pass that names manual states of the type, and no other. -/
theorem accepts_iff (hnames : reg.UniqueNames) :
    reg.Accepts objectType statusList ↔
      ((reg.enumObjectStates.select fun eos => objectType ∈ eos.types ∧ eos.manual ∧
        eos.name ∈ statusList.names).map (·.name)).length = statusList.names.length := by
  have hnodup : ((reg.enumObjectStates.select fun eos => objectType ∈ eos.types ∧ eos.manual ∧
      eos.name ∈ statusList.names).map (·.name)).Nodup := by
    refine List.Nodup.map_on ?_ (reg.enumObjectStates.nodup_rows.filter _)
    intro a ha b hb
    exact hnames a (Table.mem_select.mp ha).1 b (Table.mem_select.mp hb).1
  have hmem : ∀ name, name ∈ (reg.enumObjectStates.select fun eos => objectType ∈ eos.types ∧
      eos.manual ∧ eos.name ∈ statusList.names).map (·.name) ↔
        ∃ eos ∈ reg.enumObjectStates, eos.name = name ∧ objectType ∈ eos.types ∧ eos.manual ∧
          name ∈ statusList.names := by
    intro name
    simp only [List.mem_map, Table.mem_select]
    constructor
    · rintro ⟨eos, ⟨heos, htype, hmanual, hlisted⟩, rfl⟩
      exact ⟨eos, heos, rfl, htype, hmanual, hlisted⟩
    · rintro ⟨eos, heos, rfl, htype, hmanual, hlisted⟩
      exact ⟨eos, ⟨heos, htype, hmanual, hlisted⟩, rfl⟩
  have hsub : ((reg.enumObjectStates.select fun eos => objectType ∈ eos.types ∧ eos.manual ∧
      eos.name ∈ statusList.names).map (·.name)) ⊆ statusList.names := by
    intro name hname
    obtain ⟨-, -, -, -, -, hlisted⟩ := (hmem name).mp hname
    exact hlisted
  constructor
  · intro h
    refine List.Perm.length_eq ((List.perm_ext_iff_of_nodup hnodup statusList.nodup).mpr fun name => ?_)
    refine ⟨fun hname => hsub hname, fun hlisted => ?_⟩
    obtain ⟨eos, heos, hname, htype, hmanual⟩ := h name hlisted
    exact (hmem name).mpr ⟨eos, heos, hname, htype, hmanual, hlisted⟩
  · intro hlength name hlisted
    have hperm := (List.subperm_of_subset hnodup hsub).perm_of_length_le hlength.ge
    obtain ⟨eos, heos, hname, htype, hmanual, -⟩ := (hmem name).mp (hperm.mem_iff.mpr hlisted)
    exact ⟨eos, heos, hname, htype, hmanual⟩

end

variable {T : Type} {reg : Registry} {now last : T} {s s' : Requests T}

theorem run_checkValidStatus {objectType : Int} {statusList : StatusList} (hnames : reg.UniqueNames)
    (h : reg.Accepts objectType statusList) :
    (checkValidStatus reg objectType statusList : Exec T Unit).run s = .ok () s :=
  run_raiseIf_of_neg fun hne => hne.2 ((accepts_iff hnames).mp h)

theorem checkValidStatus_ok {objectType : Int} {statusList : StatusList} (hnames : reg.UniqueNames)
    {u : Unit} (h : (checkValidStatus reg objectType statusList : Exec T Unit).run s = .ok u s') :
    reg.Accepts objectType statusList := by
  have hraise := (run_raiseIf_eq_ok.mp h).1
  by_cases hempty : statusList.names = []
  · simp [Registry.Accepts, hempty]
  · exact (accepts_iff hnames).mpr (of_not_not fun hne => hraise ⟨hempty, hne⟩)

theorem run_getObjectStateIdMap {objectType : Int} {statusList : StatusList}
    (h : reg.Accepts objectType statusList) :
    (getObjectStateIdMap reg statusList objectType).run s =
      .ok (stateIdMap reg statusList objectType) s := by
  have hfound : ∀ name ∈ statusList.names,
      name ∈ (stateIdMap reg statusList objectType).map Prod.fst := by
    intro name hname
    obtain ⟨eos, heos, hname', htype, -⟩ := h name hname
    exact mem_stateIdMap_fst.mpr ⟨hname, eos, heos, hname', htype⟩
  have hlength := (List.subperm_of_subset statusList.nodup hfound).length_le
  rw [List.length_map] at hlength
  unfold getObjectStateIdMap
  rw [run_bind_of_ok (run_raiseIf_of_neg fun hlt => absurd hlt.1 hlength.not_gt)]
  rfl

theorem CreateObjectStateRequestId.mem_newRequests {op : CreateObjectStateRequestId T} {idSeq : Nat}
    {ids : List Nat} {r : ObjectStateRequest T} :
    r ∈ op.newRequests now idSeq ids ↔ ∃ i, ∃ h : i < ids.length,
      op.newRequest now (idSeq + i) ids[i] = r := List.mem_mapIdx

theorem CreateObjectStateRequestId.newRequests_nodup {op : CreateObjectStateRequestId T} {idSeq : Nat}
    {ids : List Nat} : ((op.newRequests now idSeq ids).map (·.id)).Nodup := by
  have hrange : (op.newRequests now idSeq ids).map (·.id) = List.range' idSeq ids.length := by
    refine List.ext_getElem (by simp [newRequests]) fun i _ _ => ?_
    simp [newRequests, newRequest]
  exact hrange ▸ List.nodup_range'

variable [LinearOrder T]

/-- What the operations on requests see to by `now`. -/
structure Proper (reg : Registry) (now : T) (s : Requests T) : Prop where
  id_lt : ∀ r ∈ s.objectStateRequest, r.id < s.idSeq
  ends : ∀ r ∈ s.objectStateRequest, ∀ v, r.validTo = some v → r.validFrom ≤ v
  canceled : ∀ r ∈ s.objectStateRequest, ∀ c, r.canceled = some c → r.validFrom ≤ c ∧ c ≤ now
  ofType : ∀ r ∈ s.objectStateRequest, reg.OfType r.objectId r.stateId

theorem Proper.mono (h : Proper reg last s) (hle : last ≤ now) : Proper reg now s :=
  { h with canceled := fun r hr c hc => (h.canceled r hr c hc).imp id (·.trans hle) }

/-- What holds of the requests and of those that begin to be canceled holds of all afterwards. -/
theorem forall_cancelCurrent {p P : ObjectStateRequest T → Prop} [DecidablePred p]
    {canceled : List (ObjectStateRequest T)} (h : (cancelCurrent now p).run s = .ok canceled s')
    (hold : ∀ r ∈ s.objectStateRequest, P r)
    (hcancel : ∀ r ∈ s.objectStateRequest, r.validFrom ≤ now → P (r.cancel now)) :
    ∀ r ∈ s'.objectStateRequest, P r := by
  cases h
  intro r' hr'
  obtain ⟨r, hr, rfl⟩ := (Table.mem_update (ObjectStateRequest.key_cancel now)).mp hr'
  split
  · rename_i hp
    -- Only a request that has begun is current.
    have hcurrent := hp.1
    simp only [ObjectStateRequest.current, Truth.holds_and, holds_le] at hcurrent
    obtain ⟨⟨-, _, _, hx, hy, hle⟩, -⟩ := hcurrent
    cases hx
    cases hy
    exact hcancel r hr hle
  · exact hold r hr

theorem proper_cancelCurrent {p : ObjectStateRequest T → Prop} [DecidablePred p] :
    Preserves (Proper reg now) (cancelCurrent now p) := by
  refine fun s hs => ⟨fun canceled s' h => ?_, fun e s' h => nomatch h⟩
  have hseq : s'.idSeq = s.idSeq := by cases h; rfl
  constructor
  · rw [hseq]
    exact forall_cancelCurrent h hs.id_lt fun r hr _ => hs.id_lt r hr
  · exact forall_cancelCurrent h hs.ends fun r hr _ => hs.ends r hr
  · refine forall_cancelCurrent h hs.canceled fun r _ hle c hc => ?_
    obtain rfl : now = c := Option.some.inj hc
    exact ⟨hle, le_rfl⟩
  · exact forall_cancelCurrent h hs.ofType fun r hr _ => hs.ofType r hr

namespace CreateObjectStateRequestId

variable {op : CreateObjectStateRequestId T} {object : ObjectRegistry} {ids : List Nat}

/-- The interval that is asked for does not end before it begins. -/
def InTurn (now : T) (op : CreateObjectStateRequestId T) : Prop :=
  ∀ v, op.validTo = some v → op.newValidFrom now ≤ v

theorem checkTime_ok {u : Unit} (h : (op.checkTime now).run s = .ok u s') : op.InTurn now := by
  intro v hv
  unfold checkTime at h
  cases hfrom : op.validFrom with
  | none =>
    simp only [hv, hfrom] at h
    simpa [newValidFrom, hfrom] using (run_raiseIf_eq_ok.mp h).1
  | some validFrom =>
    simp only [hv, hfrom] at h
    simpa [newValidFrom, hfrom] using (run_raiseIf_eq_ok.mp h).1

omit [LinearOrder T] in
theorem insert_idSeq {id : Nat} (h : (op.insert now ids).run s = .ok id s') :
    s'.idSeq = s.idSeq + ids.length := by
  simp only [CreateObjectStateRequestId.insert, EStateM.run] at h
  split at h
  · cases h
    rfl
  · cases h

omit [LinearOrder T] in
/-- What holds of the requests and of the new ones holds of all afterwards. -/
theorem forall_insert {P : ObjectStateRequest T → Prop} {id : Nat}
    (h : (op.insert now ids).run s = .ok id s') (hold : ∀ r ∈ s.objectStateRequest, P r)
    (hnew : ∀ i, (hi : i < ids.length) → P (op.newRequest now (s.idSeq + i) ids[i])) :
    ∀ r ∈ s'.objectStateRequest, P r := by
  intro r hr
  rcases (Table.mem_of_insertAll? (insert_ok h)).mp hr with hr | hr
  · exact hold r hr
  · obtain ⟨i, hi, rfl⟩ := mem_newRequests.mp hr
    exact hnew i hi

theorem proper_insert (hs : Proper reg now s) (hin : op.InTurn now)
    (hids : ∀ x ∈ ids, reg.OfType op.objectId x) :
    ∀ id s', (op.insert now ids).run s = .ok id s' → Proper reg now s' := by
  intro id s' h
  constructor
  · rw [insert_idSeq h]
    exact forall_insert h (fun r hr => (hs.id_lt r hr).trans_le (Nat.le_add_right _ _))
      fun i hi => Nat.add_lt_add_left hi _
  · exact forall_insert h hs.ends fun i hi => hin
  · refine forall_insert h hs.canceled fun i hi c hc => ?_
    cases hc
  · exact forall_insert h hs.ofType fun i hi => hids _ (List.getElem_mem hi)

theorem proper_exec (hnames : reg.UniqueNames) : Preserves (Proper reg now) (op.exec reg now) := by
  intro s hs
  refine ⟨fun a s' h => ?_, fun e s' h => atomic_exec s e s' h ▸ hs⟩
  obtain ⟨object, id, hlookup, hstates, htime, -, -, hinsert⟩ := exec_statements h
  obtain ⟨hobject, hid⟩ := Table.lookup_eq_some.mp hlookup
  refine proper_insert hs (checkTime_ok htime) (fun x hx => ?_) _ _ hinsert
  obtain ⟨eos, heos, rfl, htype, -⟩ := (mem_stateIdMap_snd hnames).mp (hstates ▸ hx)
  exact ⟨object, hobject, hid, eos, heos, rfl, htype⟩

/-- The object and the states of a successful request are known, and the states are manual. -/
theorem accepts_of_exec (hnames : reg.UniqueNames) {a : String × Nat}
    (h : (op.exec reg now).run s = .ok a s') :
    ∃ object, reg.objectRegistry.lookup op.objectId = some object ∧
      reg.Accepts object.type op.statusList := by
  obtain ⟨object, id, hlookup, -, -, hstatus, -⟩ := exec_statements h
  exact ⟨object, hlookup, checkValidStatus_ok hnames hstatus⟩

theorem run_checkTime (h : op.InTurn now) : (op.checkTime now).run s = .ok () s := by
  unfold checkTime
  cases hto : op.validTo with
  | none => rfl
  | some validTo =>
    have hle := h validTo hto
    cases hfrom : op.validFrom with
    | none => exact run_raiseIf_of_neg (not_lt.mpr (by simpa [newValidFrom, hfrom] using hle))
    | some validFrom => exact run_raiseIf_of_neg (not_lt.mpr (by simpa [newValidFrom, hfrom] using hle))

theorem run_checkOverlay (hvalid : ∀ r ∈ s.objectStateRequest, r.objectId = op.objectId →
    r.stateId ∈ ids → ¬ (invalidState r.validFrom r.objValidTo (op.newValidFrom now) op.validTo).holds) :
    (op.checkOverlay now ids).run s = (raiseIf (ids = []) .sqlError : Exec T Unit).run s := by
  have hselect : (s.objectStateRequest.select fun r => r.objectId = op.objectId ∧ r.stateId ∈ ids ∧
      (invalidState r.validFrom r.objValidTo (op.newValidFrom now) op.validTo).holds) = [] := by
    refine List.eq_nil_iff_forall_not_mem.mpr fun r hr => ?_
    obtain ⟨hr, hobject, hstate, hinvalid⟩ := Table.mem_select.mp hr
    exact hvalid r hr hobject hstate hinvalid
  by_cases hids : ids = []
  · rw [run_raiseIf_of_pos hids]
    exact run_bind_of_error (run_raiseIf_of_pos hids)
  · rw [run_raiseIf_of_neg hids]
    unfold checkOverlay
    rw [run_bind_of_ok (run_raiseIf_of_neg hids), run_bind_of_ok (run_get_eq_ok.mpr ⟨rfl, rfl⟩),
      hselect]
    rfl

/-- Requests are accepted for manual states that no request stands against. -/
theorem exec_accepted (hnames : reg.UniqueNames) (hid : ∀ r ∈ s.objectStateRequest, r.id < s.idSeq)
    (hlookup : reg.objectRegistry.lookup op.objectId = some object)
    (haccepts : reg.Accepts object.type op.statusList) (hne : op.statusList.names ≠ [])
    (hin : op.InTurn now)
    (hvalid : ∀ r ∈ s.objectStateRequest, r.objectId = op.objectId → r.stateId ∈ op.stateIds reg →
      ¬ (invalidState r.validFrom r.objValidTo (op.newValidFrom now) op.validTo).holds) :
    ∃ a s', (op.exec reg now).run s = .ok a s' ∧
      ∀ r, r ∈ s'.objectStateRequest ↔
        r ∈ s.objectStateRequest ∨ r ∈ op.newRequests now s.idSeq (op.stateIds reg) := by
  have hids : op.stateIds reg = (stateIdMap reg op.statusList object.type).map Prod.snd := by
    rw [stateIds, hlookup]
  obtain ⟨t, ht⟩ : ∃ t, s.objectStateRequest.insertAll?
      (op.newRequests now s.idSeq (op.stateIds reg)) = some t := by
    refine Table.exists_insertAll? (fun r hr r' hr' => ?_) newRequests_nodup
    obtain ⟨i, -, rfl⟩ := mem_newRequests.mp hr'
    exact ((hid r hr).trans_le (Nat.le_add_right _ _)).ne
  have hnonempty : op.stateIds reg ≠ [] := by
    obtain ⟨name, hname⟩ := List.exists_mem_of_ne_nil _ hne
    obtain ⟨eos, heos, rfl, htype, -⟩ := haccepts name hname
    rw [hids]
    exact List.ne_nil_of_mem ((mem_stateIdMap_snd hnames).mpr ⟨eos, heos, rfl, htype, hname⟩)
  have hoverlay : (op.checkOverlay now (op.stateIds reg)).run s = .ok () s := by
    rw [run_checkOverlay hvalid, run_raiseIf_of_neg hnonempty]
  have hinsert : (op.insert now (op.stateIds reg)).run s =
      .ok s.idSeq ⟨t, s.idSeq + (op.stateIds reg).length⟩ := by
    simp only [CreateObjectStateRequestId.insert, EStateM.run, ht]
  refine ⟨(object.name, s.idSeq), ⟨t, s.idSeq + (op.stateIds reg).length⟩, ?_,
    fun r => Table.mem_of_insertAll? ht⟩
  unfold exec
  rw [run_bind_of_ok (run_checkTime hin), hlookup]
  rw [run_bind_of_ok (run_checkValidStatus hnames haccepts),
    run_bind_of_ok (run_getObjectStateIdMap haccepts), ← hids, run_bind_of_ok hoverlay,
    run_bind_of_ok hinsert]
  rfl

end CreateObjectStateRequestId

end LibFred.ObjectState
