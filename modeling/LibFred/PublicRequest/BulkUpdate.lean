import LibFred.PublicRequest.UpdateOutcome

/-! When the update of all opened requests of an object comes to an end and has listed each of them
once. -/
namespace LibFred.PublicRequest

open Sql

variable {ι : Type} {db : Session} {types : PublicRequestTypeIface ι}
  {resolveLogRequestId : Option Nat} {choices : Nat → Nat} {object : LockedPublicRequestsOfObject db}
  {objectId id : Nat} {s s' : Requests} {t u type : ι} {a b pr : Request} {op : UpdatePublicRequest}
  {status : Status}

/-- The types whose requests an update of a request of `type` may invalidate: those that it cancels
and, by way of types that have an opened request, those that are cancelled in turn. -/
inductive Cancelled (db : Session) (types : PublicRequestTypeIface ι) (objectId : Nat)
    (s : Requests) (type : ι) (status : Status) : ι → Prop
  | first {u : ι} : u ∈ types.getPublicRequestTypesToCancelOnUpdate type .opened status →
      Cancelled db types objectId s type status u
  | next {t u : ι} : Cancelled db types objectId s type status t →
      HasOpened db types objectId s t →
      u ∈ types.getPublicRequestTypesToCancelOnUpdate t .opened .invalidated →
      Cancelled db types objectId s type status u

/-- The ids of the requests that the loop has to visit. -/
def leftIds (db : Session) (types : PublicRequestTypeIface ι) (objectId : Nat) (type : ι)
    (s : Requests) : Finset Nat :=
  ((openedRequests db s objectId (types.getPublicRequestType type)).map Request.id).toFinset

/-- The loop returns, having visited and listed each request that was opened at the start once. -/
def Serves (db : Session) (types : PublicRequestTypeIface ι) (resolveLogRequestId : Option Nat)
    (choices : Nat → Nat) (op : UpdatePublicRequest) (object : LockedPublicRequestsOfObject db)
    (type : ι) (s : Requests) : Prop :=
  ∃ depth fuel result s',
    (op.exec db types resolveLogRequestId choices depth fuel object type).run s = .ok result s' ∧
    result.affectedRequests.Nodup ∧
    ∀ id, id ∈ result.affectedRequests ↔ id ∈ leftIds db types object.id type s

/-- The type is known, and if it has opened requests about the object: the update sets a status and
is acceptable, the status of each of them is `opened`, and no update of one reaches another. -/
def Manageable (db : Session) (types : PublicRequestTypeIface ι) (op : UpdatePublicRequest)
    (objectId : Nat) (type : ι) (s : Requests) : Prop :=
  (db.typeId (types.getPublicRequestType type)).isSome ∧
    (leftIds db types objectId type s = ∅ ∨ ∃ status, Acceptable db op status ∧
      (∀ pr ∈ openedRequests db s objectId (types.getPublicRequestType type),
        pr.status = .opened) ∧
      ((leftIds db types objectId type s).card ≤ 1 ∨
        ∀ u, Cancelled db types objectId s type status u →
          types.getPublicRequestType u ≠ types.getPublicRequestType type))

theorem mem_openedRequests :
    pr ∈ openedRequests db s objectId (types.getPublicRequestType type) ↔
      pr ∈ s.publicRequest ∧ About db types objectId type pr ∧ pr.resolveTime = none := by
  simp [openedRequests, and_assoc]

theorem mem_leftIds : id ∈ leftIds db types objectId type s ↔ ∃ a,
    s.publicRequest.lookup id = some a ∧ About db types objectId type a ∧ a.resolveTime = none := by
  simp only [leftIds, List.mem_toFinset, List.mem_map, mem_openedRequests]
  constructor
  · rintro ⟨a, ⟨ha, habout, hnone⟩, rfl⟩
    exact ⟨a, Table.lookup_eq_some.mpr ⟨ha, rfl⟩, habout, hnone⟩
  · rintro ⟨a, ha, habout, hnone⟩
    obtain ⟨ha, hid⟩ := Table.lookup_eq_some.mp ha
    exact ⟨a, ⟨ha, habout, hnone⟩, hid⟩

theorem leftIds_eq_empty : leftIds db types objectId type s = ∅ ↔
    openedRequests db s objectId (types.getPublicRequestType type) = [] := by
  simp [leftIds]

/-- A known type has an opened request found for it unless there is none. -/
theorem getOpenedPublicRequest_cases (choice objectId : Nat) (s : Requests)
    (hknown : (db.typeId (types.getPublicRequestType type)).isSome) :
    (leftIds db types objectId type s = ∅ ∧
      getOpenedPublicRequest db choice objectId (types.getPublicRequestType type) s =
        .error (.noRequestFound (types.getPublicRequestType type))) ∨
    ∃ pr ∈ openedRequests db s objectId (types.getPublicRequestType type),
      getOpenedPublicRequest db choice objectId (types.getPublicRequestType type) s = .ok pr.id := by
  obtain ⟨i, hi⟩ := Option.isSome_iff_exists.mp hknown
  have : Std.Total (fun _ _ : Request => True) := ⟨fun _ _ => .inl trivial⟩
  have : IsTrans Request (fun _ _ => True) := ⟨fun _ _ _ _ _ => trivial⟩
  cases hfirst : firstBy (fun _ _ => True) choice
      (openedRequests db s objectId (types.getPublicRequestType type)) with
  | none =>
    refine .inl ⟨leftIds_eq_empty.mpr (firstBy_eq_none.mp hfirst), ?_⟩
    simp only [getOpenedPublicRequest, hi, hfirst]
    rfl
  | some pr =>
    refine .inr ⟨pr, (of_firstBy_eq_some hfirst).1, ?_⟩
    simp only [getOpenedPublicRequest, hi, hfirst]
    rfl

/-- Types that the database knows by one id have one name. -/
theorem name_eq_of_about (ht : About db types objectId t a) (hu : About db types objectId u a) :
    types.getPublicRequestType t = types.getPublicRequestType u :=
  (name_of_typeId ht.2).symm.trans (name_of_typeId hu.2)

variable {reach : ι → Prop}

/-- The request that was visited is not left. -/
theorem Visited.not_mem_leftIds (h : Visited db types objectId reach status id type s s')
    (ha : s.publicRequest.lookup id = some a) (ho : a.status = .opened) :
    id ∉ leftIds db types objectId type s' := by
  intro hmem
  obtain ⟨b, hb, -, hnone⟩ := mem_leftIds.mp hmem
  obtain ⟨⟨s₁, hrow, hcas⟩, -⟩ := h
  obtain ⟨a₁, ha₁, hc⟩ := hrow.closed a ha ho
  obtain ⟨a₂, ha₂, hrel⟩ := hcas.row_back hb
  obtain rfl := Option.some.inj (ha₂.symm.trans ha₁)
  have hsome : b.resolveTime.isSome := by
    rcases hrel with hk | ⟨hc', -⟩
    · rw [hk.2.2.2]
      exact hc.2.2.2.2
    · exact hc'.2.2.2.2
  rw [hnone] at hsome
  cases hsome

/-- No request is left that was not before. -/
theorem Visited.leftIds_subset (h : Visited db types objectId reach status id type s s')
    (ha : s.publicRequest.lookup id = some a) (ho : a.status = .opened) :
    leftIds db types objectId type s' ⊆ leftIds db types objectId type s := by
  intro id' hmem
  have hid : id' ≠ id := fun h' => h.not_mem_leftIds ha ho (h' ▸ hmem)
  obtain ⟨b, hb, habout, hnone⟩ := mem_leftIds.mp hmem
  obtain ⟨⟨s₁, hrow, hcas⟩, -⟩ := h
  obtain ⟨a₁, ha₁, hk | ⟨hc, -⟩⟩ := hcas.row_back hb
  · rw [hrow.other id' hid] at ha₁
    exact mem_leftIds.mpr ⟨a₁, ha₁, hk.about_iff.mp habout, hk.2.2.2.symm.trans hnone⟩
  · have hsome := hc.2.2.2.2
    rw [hnone] at hsome
    cases hsome

/-- A request that the cascade does not reach is left. -/
theorem Visited.mem_leftIds (h : Visited db types objectId reach status id type s s')
    (hreach : ∀ u, reach u → types.getPublicRequestType u ≠ types.getPublicRequestType type)
    {id' : Nat} (hid : id' ≠ id) (hmem : id' ∈ leftIds db types objectId type s) :
    id' ∈ leftIds db types objectId type s' := by
  obtain ⟨a, ha, habout, hnone⟩ := LibFred.PublicRequest.mem_leftIds.mp hmem
  obtain ⟨⟨s₁, hrow, hcas⟩, -⟩ := h
  obtain ⟨b, hb, hk | ⟨-, t, ht, habout', -⟩⟩ := hcas.row id' a ((hrow.other id' hid).trans ha)
  · exact LibFred.PublicRequest.mem_leftIds.mpr
      ⟨b, hb, hk.about_iff.mpr habout, hk.2.2.2.trans hnone⟩
  · exact absurd (name_eq_of_about habout' habout) (hreach t ht)

theorem Visited.hasOpened (h : Visited db types objectId reach status id type s s')
    (hne : status ≠ .opened) (ha : s.publicRequest.lookup id = some a) (ho : a.status = .opened)
    (hopened : HasOpened db types objectId s' t) : HasOpened db types objectId s t := by
  obtain ⟨⟨s₁, hrow, hcas⟩, -⟩ := h
  exact hrow.hasOpened hne ha ho (hcas.hasOpened hopened)

/-- How far the loop has come that began in `s₀`. -/
structure Progress (db : Session) (types : PublicRequestTypeIface ι) (objectId : Nat) (type : ι)
    (s₀ s : Requests) (visited : List Nat) : Prop where
  nodup : visited.Nodup
  subset : visited.toFinset ⊆ leftIds db types objectId type s₀
  left : leftIds db types objectId type s = leftIds db types objectId type s₀ \ visited.toFinset
  opened : ∀ pr ∈ openedRequests db s objectId (types.getPublicRequestType type),
    pr.status = .opened
  hasOpened : ∀ t, HasOpened db types objectId s t → HasOpened db types objectId s₀ t
  card_le : (openedIds s).card ≤ (openedIds s₀).card

theorem Visited.opened (h : Visited db types objectId reach status id type s s')
    (ha : s.publicRequest.lookup id = some a) (ho : a.status = .opened)
    (hopened : ∀ pr ∈ openedRequests db s objectId (types.getPublicRequestType type),
      pr.status = .opened)
    (hpr : pr ∈ openedRequests db s' objectId (types.getPublicRequestType type)) :
    pr.status = .opened := by
  obtain ⟨hmem, habout, hnone⟩ := mem_openedRequests.mp hpr
  have hlookup : s'.publicRequest.lookup pr.id = some pr := Table.lookup_eq_some.mpr ⟨hmem, rfl⟩
  have hid : pr.id ≠ id := by
    rintro rfl
    exact h.not_mem_leftIds ha ho (LibFred.PublicRequest.mem_leftIds.mpr ⟨pr, hlookup, habout, hnone⟩)
  obtain ⟨⟨s₁, hrow, hcas⟩, -⟩ := h
  obtain ⟨b, hb, hk | ⟨hc, -⟩⟩ := hcas.row_back hlookup
  · rw [hrow.other _ hid] at hb
    have hin := mem_openedRequests.mpr ⟨(Table.lookup_eq_some.mp hb).1, hk.about_iff.mp habout,
      hk.2.2.2.symm.trans hnone⟩
    exact hk.2.2.1.trans (hopened b hin)
  · have hsome := hc.2.2.2.2
    rw [hnone] at hsome
    cases hsome

theorem Visited.card_openedIds_le (h : Visited db types objectId reach status id type s s')
    (hne : status ≠ .opened) (ha : s.publicRequest.lookup id = some a) (ho : a.status = .opened) :
    (openedIds s').card ≤ (openedIds s).card := by
  obtain ⟨⟨s₁, hrow, hcas⟩, -⟩ := h
  exact (Finset.card_le_card hcas.openedIds_subset).trans (hrow.card_lt hne ha ho).le

variable {s₀ : Requests} {visited : List Nat}

/-- One round of the loop visits one of the requests that are left, and leaves the others. -/
theorem Progress.round (hp : Progress db types objectId type s₀ s visited)
    (hne : status ≠ .opened)
    (hpr : pr ∈ openedRequests db s objectId (types.getPublicRequestType type))
    (hv : Visited db types objectId reach status pr.id type s s')
    (hcond : (leftIds db types objectId type s₀).card ≤ 1 ∨
      ∀ u, reach u → types.getPublicRequestType u ≠ types.getPublicRequestType type) :
    Progress db types objectId type s₀ s' (visited ++ [pr.id]) := by
  obtain ⟨hmem, habout, hnone⟩ := mem_openedRequests.mp hpr
  have ha : s.publicRequest.lookup pr.id = some pr := Table.lookup_eq_some.mpr ⟨hmem, rfl⟩
  have ho : pr.status = .opened := hp.opened pr hpr
  have hleft : pr.id ∈ leftIds db types objectId type s := mem_leftIds.mpr ⟨pr, ha, habout, hnone⟩
  have hleft₀ : pr.id ∈ leftIds db types objectId type s₀ ∧ pr.id ∉ visited := by
    rw [hp.left, Finset.mem_sdiff, List.mem_toFinset] at hleft
    exact hleft
  have hsdiff : leftIds db types objectId type s' =
      leftIds db types objectId type s \ {pr.id} := by
    refine Finset.Subset.antisymm (fun id' hid' => ?_) fun id' hid' => ?_
    · refine Finset.mem_sdiff.mpr ⟨hv.leftIds_subset ha ho hid', fun heq => ?_⟩
      rw [Finset.mem_singleton.mp heq] at hid'
      exact hv.not_mem_leftIds ha ho hid'
    · obtain ⟨hid', hne'⟩ := Finset.mem_sdiff.mp hid'
      rcases hcond with hcard | hreach
      · have hid₀ : id' ∈ leftIds db types objectId type s₀ := by
          rw [hp.left] at hid'
          exact (Finset.mem_sdiff.mp hid').1
        exact absurd (Finset.mem_singleton.mpr (Finset.card_le_one.mp hcard _ hid₀ _ hleft₀.1)) hne'
      · exact hv.mem_leftIds hreach (fun h => hne' (Finset.mem_singleton.mpr h)) hid'
  refine ⟨?_, ?_, ?_, fun pr' hpr' => hv.opened ha ho hp.opened hpr', fun t ht => ?_, ?_⟩
  · exact List.nodup_append.mpr ⟨hp.nodup, List.nodup_singleton _, fun x hx y hy hxy =>
      hleft₀.2 (List.mem_singleton.mp hy ▸ hxy ▸ hx)⟩
  · intro id' hid'
    rcases List.mem_append.mp (List.mem_toFinset.mp hid') with h | h
    · exact hp.subset (List.mem_toFinset.mpr h)
    · exact List.mem_singleton.mp h ▸ hleft₀.1
  · rw [hsdiff, hp.left]
    ext x
    simp only [Finset.mem_sdiff, Finset.mem_singleton, List.mem_toFinset, List.mem_append,
      List.mem_singleton, not_or, and_assoc]
  · exact hp.hasOpened t (hv.hasOpened hne ha ho ht)
  · exact (hv.card_openedIds_le hne ha ho).trans hp.card_le

/-- The loop ends when its bounds exceed what is left to visit and what is opened at all. -/
theorem loop_ends (resolveLogRequestId : Option Nat) (choices : Nat → Nat)
    (hop : Acceptable db op status)
    (hknown : (db.typeId (types.getPublicRequestType type)).isSome)
    (hcond : (leftIds db types object.id type s₀).card ≤ 1 ∨
      ∀ u, Cancelled db types object.id s₀ type status u →
        types.getPublicRequestType u ≠ types.getPublicRequestType type)
    {depth : Nat} (hdepth : (openedIds s₀).card < depth) (fuel : Nat)
    (hp : Progress db types object.id type s₀ s visited)
    (hfuel : (leftIds db types object.id type s).card < fuel) :
    Ends (op.loop db types resolveLogRequestId choices depth object type fuel
        ⟨visited, types.getPublicRequestType type, object.id⟩) s
      (fun r _ => r.affectedRequests.Nodup ∧
        ∀ id, id ∈ r.affectedRequests ↔ id ∈ leftIds db types object.id type s₀)
      fun _ => False := by
  induction fuel generalizing s visited with
  | zero => exact absurd hfuel (Nat.not_lt_zero _)
  | succ fuel ih =>
    rw [UpdatePublicRequest.loop]
    refine ends_bind (ends_get (Q := fun s₁ s₂ => s = s₁ ∧ s = s₂) ⟨rfl, rfl⟩) fun _ _ h => ?_
    obtain ⟨rfl, rfl⟩ := h
    rcases getOpenedPublicRequest_cases (choices visited.length) object.id s hknown with ⟨hempty, hget⟩ | ⟨pr, hpr, hget⟩
    · rw [hget]
      refine ends_pure ⟨hp.nodup, fun id => ⟨fun hid => hp.subset (List.mem_toFinset.mpr hid), ?_⟩⟩
      intro hid
      by_contra hnot
      have hmem : id ∈ leftIds db types object.id type s := by
        rw [hp.left]
        exact Finset.mem_sdiff.mpr ⟨hid, fun h => hnot (List.mem_toFinset.mp h)⟩
      rw [hempty] at hmem
      cases hmem
    · rw [hget]
      obtain ⟨hmem, habout, hnone⟩ := mem_openedRequests.mp hpr
      have ha : s.publicRequest.lookup pr.id = some pr := Table.lookup_eq_some.mpr ⟨hmem, rfl⟩
      have hupdate := update_ends resolveLogRequestId object.locked hop ha habout
        (hp.opened pr hpr)
        (fun t ht hopened u hu => Cancelled.next ht (hp.hasOpened t hopened) hu)
        (fun u hu => Cancelled.first hu) depth
      refine ends_bind (hupdate.mono (fun _ _ h => h) fun e he => ?_) fun r s' h => ?_
      · exact absurd (he.2.trans hp.card_le) (not_le.mpr hdepth)
      · obtain ⟨haffected, hobject, htype, hv⟩ := h
        refine ends_bind (ends_raiseIf (Q := fun _ s₁ => s' = s₁) (not_not.mpr htype) rfl)
          fun _ s₁ h => ?_
        obtain rfl := h
        refine ends_bind (ends_raiseIf (Q := fun _ s₁ => s' = s₁) (not_not.mpr hobject) rfl)
          fun _ s₁ h => ?_
        obtain rfl := h
        rw [haffected]
        have hp' := hp.round hop.ne_opened hpr hv hcond
        refine ih hp' ?_
        have hlt : (leftIds db types object.id type s').card <
            (leftIds db types object.id type s).card := by
          refine Finset.card_lt_card ((Finset.ssubset_iff_of_subset
            (hv.leftIds_subset ha (hp.opened pr hpr))).mpr ⟨pr.id, ?_, ?_⟩)
          · exact mem_leftIds.mpr ⟨pr, ha, habout, hnone⟩
          · exact hv.not_mem_leftIds ha (hp.opened pr hpr)
        omega

theorem Manageable.serves (h : Manageable db types op object.id type s) :
    Serves db types resolveLogRequestId choices op object type s := by
  obtain ⟨hknown, hempty | ⟨status, hop, hopened, hcond⟩⟩ := h
  · refine ⟨0, 1, ⟨[], types.getPublicRequestType type, object.id⟩, s, ?_, List.nodup_nil, ?_⟩
    · rcases getOpenedPublicRequest_cases (choices 0) object.id s hknown with ⟨-, hget⟩ | ⟨pr, hpr, -⟩
      · rw [UpdatePublicRequest.exec, UpdatePublicRequest.loop, EStateM.run_bind, EStateM.run_get]
        simp only [List.length_nil, hget]
        rfl
      · rw [leftIds_eq_empty.mp hempty] at hpr
        cases hpr
    · intro id
      rw [hempty]
      exact iff_of_false List.not_mem_nil (Finset.notMem_empty id)
  · have hp : Progress db types object.id type s s [] :=
      ⟨List.nodup_nil, by simp, by simp, hopened, fun _ h => h, le_rfl⟩
    obtain ⟨result, s', hrun, hresult⟩ := (loop_ends resolveLogRequestId choices hop hknown hcond
      (Nat.lt_succ_self _) _ hp (Nat.lt_succ_self _)).exists_ok fun _ h => h
    exact ⟨_, _, result, s', hrun, hresult⟩

/-- A round of a run that returns: either nothing was left, or one request was updated. -/
theorem loop_succ_ok {depth fuel : Nat} {result r : Result}
    (h : (op.loop db types resolveLogRequestId choices depth object type (fuel + 1) result).run s =
      .ok r s') :
    (db.typeId (types.getPublicRequestType type)).isSome ∧
      (leftIds db types object.id type s = ∅ ∧ r = result ∨
      ∃ pr ∈ openedRequests db s object.id (types.getPublicRequestType type), ∃ updated s₁,
        (update db types resolveLogRequestId depth op pr.id type).run s = .ok updated s₁ ∧
        (op.loop db types resolveLogRequestId choices depth object type fuel { result with
          affectedRequests := result.affectedRequests ++ updated.affectedRequests }).run s₁ =
            .ok r s') := by
  rw [UpdatePublicRequest.loop] at h
  obtain ⟨s₁, t, hget, h⟩ := run_bind_eq_ok.mp h
  obtain ⟨rfl, rfl⟩ := run_get_eq_ok.mp hget
  cases hknown : db.typeId (types.getPublicRequestType type) with
  | none =>
    simp only [getOpenedPublicRequest, hknown] at h
    cases h
  | some i =>
    refine ⟨rfl, ?_⟩
    rcases getOpenedPublicRequest_cases (choices result.affectedRequests.length) object.id s
      (Option.isSome_iff_exists.mpr ⟨i, hknown⟩) with ⟨hempty, hget⟩ | ⟨pr, hpr, hget⟩
    · rw [hget] at h
      exact .inl ⟨hempty, (run_pure_eq_ok.mp h).1.symm⟩
    · rw [hget] at h
      obtain ⟨updated, s₁, hupdate, h⟩ := run_bind_eq_ok.mp h
      obtain ⟨_, t, hraise, h⟩ := run_bind_eq_ok.mp h
      obtain ⟨-, rfl⟩ := run_raiseIf_eq_ok.mp hraise
      obtain ⟨_, t, hraise, h⟩ := run_bind_eq_ok.mp h
      obtain ⟨-, rfl⟩ := run_raiseIf_eq_ok.mp hraise
      exact .inr ⟨pr, hpr, updated, s₁, hupdate, h⟩

/-- The loop never returns when something that every update keeps means that a request is left. -/
theorem loop_stuck {P : Requests → Prop} {depth : Nat}
    (hleft : ∀ s, P s → leftIds db types object.id type s ≠ ∅)
    (hkeep : ∀ id, Preserves P (update db types resolveLogRequestId depth op id type))
    (fuel : Nat) {result r : Result} (hs : P s) :
    (op.loop db types resolveLogRequestId choices depth object type fuel result).run s ≠
      .ok r s' := by
  induction fuel generalizing s result with
  | zero => exact nofun
  | succ fuel ih =>
    intro h
    obtain ⟨-, ⟨hempty, -⟩ | ⟨pr, -, updated, s₁, hupdate, hloop⟩⟩ := loop_succ_ok h
    · exact hleft s hs hempty
    · exact ih ((hkeep pr.id s hs).1 updated s₁ hupdate) hloop

/-- What an update that succeeds was asked for. -/
theorem acceptable_of_badParams (hstatus : op.status = some status)
    (hbad : op.badParams db resolveLogRequestId id = ⟨none, none, none, none, none⟩)
    (htwice : ¬ op.setsTwice) : Acceptable db op status := by
  simp only [UpdatePublicRequest.badParams, UpdateException.mk.injEq] at hbad
  obtain ⟨-, -, hemail, hregistrar, hset⟩ := hbad
  have hsettable : settable status := by
    simpa [hstatus] using hset
  refine ⟨hstatus, hsettable, filter_notMem_eq_none.mp hemail,
    filter_notMem_eq_none.mp hregistrar, ?_⟩
  have hnew : op.newStatus = some status := by
    rw [UpdatePublicRequest.newStatus, hstatus]
    simp [hsettable]
  simpa [UpdatePublicRequest.setsTwice, hnew] using htwice

/-- The row of the id is there and has the property. -/
def HasRow (F : Request → Prop) (id : Nat) (s : Requests) : Prop :=
  ∃ pr, s.publicRequest.lookup id = some pr ∧ F pr

theorem hasRow_of_eq {F : Request → Prop} (h : s'.publicRequest = s.publicRequest)
    (hs : HasRow F id s) : HasRow F id s' := by
  rw [HasRow, h]
  exact hs

/-- The SET list of the update, for whatever type it is, keeps the property. -/
def AssignKeeps (db : Session) (types : PublicRequestTypeIface ι) (resolveLogRequestId : Option Nat)
    (F : Request → Prop) (op : UpdatePublicRequest) : Prop :=
  ∀ t pr, F pr → F (op.assign db types resolveLogRequestId t pr)

theorem preserves_prepareStatus {F : Request → Prop} {id₀ : Nat} :
    Preserves (HasRow F id₀) (prepareStatus db op id) := by
  have hkept : Moves (fun s s' : Requests => s'.publicRequest = s.publicRequest)
      (prepareStatus db op id) := moves_of_kept fun _ _ h => h
  exact hkept.preserves fun _ _ => hasRow_of_eq

theorem preserves_updateRow {F : Request → Prop} {id₀ : Nat}
    (hF : AssignKeeps db types resolveLogRequestId F op) :
    Preserves (HasRow F id₀) (updateRow db types resolveLogRequestId op id type) := by
  rintro s ⟨pr, hpr, hFpr⟩
  constructor
  · intro r s' h
    rw [HasRow, lookup_updateRow (updateRow_ok h), hpr]
    by_cases hid : id₀ = id
    · rw [if_pos hid]
      exact ⟨_, rfl, hF type pr hFpr⟩
    · rw [if_neg hid]
      exact ⟨pr, rfl, hFpr⟩
  · intro e s' h
    exact atomic_updateRow s e s' h ▸ ⟨pr, hpr, hFpr⟩

theorem preserves_cancelTypes {F : Request → Prop} {id₀ : Nat} {invalidate : Nat → ι → Exec Result}
    (h : ∀ id t, Preserves (HasRow F id₀) (invalidate id t)) (l : List ι) :
    Preserves (HasRow F id₀) (cancelTypes db types objectId invalidate l) := by
  refine preserves_forM fun t => preserves_bind readOnly_get.preserves fun s => ?_
  refine preserves_forM fun pr => preserves_bind readOnly_raiseIf.preserves fun _ => ?_
  exact preserves_bind (h pr.id t) fun _ => readOnly_pure.preserves

/-- An update keeps a row's property when its SET list does and, should it set a status, those of
all invalidations do as well. -/
theorem preserves_update {F : Request → Prop} (id₀ : Nat) (fuel : Nat) (op : UpdatePublicRequest)
    (hF : AssignKeeps db types resolveLogRequestId F op)
    (hall : op.status.isSome → ∀ op', AssignKeeps db types resolveLogRequestId F op')
    (id : Nat) (type : ι) :
    Preserves (HasRow F id₀) (update db types resolveLogRequestId fuel op id type) := by
  induction fuel generalizing op id type with
  | zero => exact readOnly_throw.preserves
  | succ fuel ih =>
    rw [update]
    refine preserves_bind preserves_prepareStatus fun _ => ?_
    refine preserves_bind readOnly_raiseIf.preserves fun _ => ?_
    refine preserves_bind (preserves_updateRow hF) fun r => ?_
    obtain ⟨result, oldStatus⟩ := r
    cases hstatus : op.status with
    | none => exact readOnly_pure.preserves
    | some status =>
      have hany := hall (by rw [hstatus]; rfl)
      simp only
      split
      · exact readOnly_pure.preserves
      · split
        · exact readOnly_pure.preserves
        · refine preserves_bind readOnly_raiseIf.preserves fun _ => ?_
          refine preserves_bind (preserves_cancelTypes (fun id' t => ?_) _)
            fun _ => readOnly_pure.preserves
          exact ih _ (hany _) (fun _ => hany) id' t

/-- A request without a resolve time whose status is not `opened` stays so: only the step out of
`opened` sets the time. -/
theorem assignKeeps_stuck (db : Session) (types : PublicRequestTypeIface ι)
    (resolveLogRequestId : Option Nat) (objectId : Nat) (type : ι) (op : UpdatePublicRequest) :
    AssignKeeps db types resolveLogRequestId
      (fun pr => About db types objectId type pr ∧ pr.resolveTime = none ∧ pr.status ≠ .opened) op := by
  rintro t pr ⟨habout, hnone, hne⟩
  refine ⟨habout, ?_, ?_⟩
  · simp [UpdatePublicRequest.assign, hne, hnone]
  · cases hnew : op.newStatus with
    | none => simpa [UpdatePublicRequest.assign, hnew] using hne
    | some status =>
      have hsettable : settable status := by
        simpa using (Option.filter_eq_some_iff.mp hnew).2
      have hassign : (op.assign db types resolveLogRequestId t pr).status = status := by
        simp [UpdatePublicRequest.assign, hnew]
      rw [hassign]
      rintro rfl
      rcases hsettable with h | h <;> cases h

theorem assignKeeps_unresolved (db : Session) (types : PublicRequestTypeIface ι)
    (resolveLogRequestId : Option Nat) (objectId : Nat) (type : ι) (hop : op.status = none) :
    AssignKeeps db types resolveLogRequestId
      (fun pr => About db types objectId type pr ∧ pr.resolveTime = none) op := by
  rintro t pr ⟨habout, hnone⟩
  exact ⟨habout, by simp [UpdatePublicRequest.assign, UpdatePublicRequest.newStatus, hop, hnone]⟩

/-- Once one request was visited no opened one is left of the types that its update reaches, if it
reaches its own. -/
theorem Visited.closes (hnames : ∀ t u, types.getPublicRequestType t = types.getPublicRequestType u →
      t = u)
    (h : Visited db types objectId (Cancelled db types objectId s type status) status id type s s')
    (ha : s.publicRequest.lookup id = some a) (habout : About db types objectId type a)
    (hu : Cancelled db types objectId s type status u) :
    ¬ HasOpened db types objectId s' u ∨ ¬ HasOpened db types objectId s' type := by
  induction hu with
  | first hu => exact .inl (h.cancelled _ hu)
  | @next t u ht hopened hu ih =>
    by_cases htype : HasOpened db types objectId s' type
    · have hclosed := ih.resolve_right (not_not.mpr htype)
      obtain ⟨b, hb, hab, hbo⟩ := hopened
      have hlb : s.publicRequest.lookup b.id = some b := Table.lookup_eq_some.mpr ⟨hb, rfl⟩
      by_cases hid : b.id = id
      · -- The visited request itself: then `t` is its type.
        rw [hid] at hlb
        obtain rfl : a = b := Option.some.inj (ha.symm.trans hlb)
        obtain rfl : t = type := hnames t type (name_eq_of_about hab habout)
        exact absurd htype hclosed
      · obtain ⟨s₁, hrow, hcas⟩ := h.cascade
        obtain ⟨c, hc, hk | ⟨-, t', -, habout', hcancelled⟩⟩ :=
          hcas.row b.id b ((hrow.other _ hid).trans hlb)
        · exact absurd (hasOpened_of_lookup hc (hk.about_iff.mpr hab) (hk.2.2.1.trans hbo)) hclosed
        · obtain rfl : t' = t := hnames t' t (name_eq_of_about habout' hab)
          exact .inl (hcancelled u hu)
    · exact .inr htype

/-- A request that the loop visits closes all others of its type when its update reaches them. -/
theorem Visited.leftIds_eq_empty (hnames : ∀ t u,
      types.getPublicRequestType t = types.getPublicRequestType u → t = u)
    (h : Visited db types objectId (Cancelled db types objectId s type status) status id type s s')
    (ha : s.publicRequest.lookup id = some a) (habout : About db types objectId type a)
    (ho : a.status = .opened)
    (hopened : ∀ pr ∈ openedRequests db s objectId (types.getPublicRequestType type),
      pr.status = .opened)
    (hu : Cancelled db types objectId s type status u)
    (hname : types.getPublicRequestType u = types.getPublicRequestType type) :
    leftIds db types objectId type s' = ∅ := by
  have hclosed : ¬ HasOpened db types objectId s' type := by
    obtain rfl : u = type := hnames u type hname
    exact (h.closes hnames ha habout hu).elim (fun h => h) fun h => h
  refine LibFred.PublicRequest.leftIds_eq_empty.mpr (List.eq_nil_iff_forall_not_mem.mpr ?_)
  intro pr hpr
  obtain ⟨hmem, hab, -⟩ := mem_openedRequests.mp hpr
  exact hclosed ⟨pr, hmem, hab, h.opened ha ho hopened hpr⟩

theorem Serves.manageable (hnames : ∀ t u,
      types.getPublicRequestType t = types.getPublicRequestType u → t = u)
    (h : Serves db types resolveLogRequestId choices op object type s) :
    Manageable db types op object.id type s := by
  obtain ⟨depth, fuel, result, s', hrun, hnodup, hmem⟩ := h
  cases fuel with
  | zero => cases hrun
  | succ fuel =>
    obtain ⟨hknown, hround⟩ := loop_succ_ok hrun
    refine ⟨hknown, ?_⟩
    rcases hround with ⟨hempty, -⟩ | ⟨pr, hpr, updated, s₁, hupdate, hloop⟩
    · exact .inl hempty
    obtain ⟨hbad, htwice⟩ := update_ok_params hupdate
    have hleft : ∀ {F : Request → Prop} {id : Nat} {s : Requests},
        (∀ a, F a → About db types object.id type a ∧ a.resolveTime = none) →
        HasRow F id s → leftIds db types object.id type s ≠ ∅ := by
      rintro F id s hF ⟨a, ha, hFa⟩ hempty
      have hid : id ∈ leftIds db types object.id type s := mem_leftIds.mpr ⟨a, ha, hF a hFa⟩
      rw [hempty] at hid
      cases hid
    have hrow : ∀ {F : Request → Prop} {a : Request},
        a ∈ openedRequests db s object.id (types.getPublicRequestType type) → F a →
        HasRow F a.id s := fun {F a} ha hF =>
      ⟨a, Table.lookup_eq_some.mpr ⟨(mem_openedRequests.mp ha).1, rfl⟩, hF⟩
    -- Without a status the loop goes round for ever.
    have hstatus : ∃ status, op.status = some status := by
      refine Option.ne_none_iff_exists'.mp fun hnone => ?_
      have hkeep := preserves_update pr.id depth op
        (assignKeeps_unresolved db types resolveLogRequestId object.id type hnone) (by simp [hnone])
      exact loop_stuck (fun s => hleft fun a h => h) (fun id => hkeep id type) _
        (hrow hpr (mem_openedRequests.mp hpr).2) hrun
    obtain ⟨status, hstatus⟩ := hstatus
    have hop : Acceptable db op status := acceptable_of_badParams hstatus hbad htwice
    -- So it does with a request of another status that has no resolve time.
    have hopened : ∀ a ∈ openedRequests db s object.id (types.getPublicRequestType type),
        a.status = .opened := by
      intro a ha
      by_contra hne
      have hall := assignKeeps_stuck db types resolveLogRequestId object.id type
      have hkeep := preserves_update a.id depth op (hall op) (fun _ => hall)
      exact loop_stuck (fun s => hleft fun a h => ⟨h.1, h.2.1⟩) (fun id => hkeep id type) _
        (hrow ha ⟨(mem_openedRequests.mp ha).2.1, (mem_openedRequests.mp ha).2.2, hne⟩) hrun
    refine .inr ⟨status, hop, hopened, ?_⟩
    by_contra hcond
    simp only [not_or, not_le, not_forall, not_not] at hcond
    obtain ⟨hcard, u, hu, hname⟩ := hcond
    obtain ⟨hprmem, habout, hnone⟩ := mem_openedRequests.mp hpr
    have ha : s.publicRequest.lookup pr.id = some pr := Table.lookup_eq_some.mpr ⟨hprmem, rfl⟩
    obtain ⟨haffected, -, -, hv⟩ := (update_ends resolveLogRequestId object.locked hop ha habout
      (hopened pr hpr) (fun t ht hopen u hu => Cancelled.next ht hopen hu)
      (fun u hu => Cancelled.first hu) depth).ok hupdate
    have hempty := hv.leftIds_eq_empty hnames ha habout (hopened pr hpr) hopened hu hname
    cases fuel with
    | zero => cases hloop
    | succ fuel =>
      obtain ⟨-, ⟨-, rfl⟩ | ⟨pr', hpr', -⟩⟩ := loop_succ_ok hloop
      · have hone : leftIds db types object.id type s ⊆ {pr.id} := by
          intro id hid
          have hin := (hmem id).mpr hid
          rw [haffected] at hin
          simpa using hin
        exact absurd (Finset.card_le_card hone) (not_le.mpr (by simpa using hcard))
      · rw [LibFred.PublicRequest.leftIds_eq_empty.mp hempty] at hpr'
        cases hpr'

/-- The loop returns with every request listed once when the update is manageable, and, as types are
told apart by their names, only then. -/
theorem bulk_update_serves {ι : Type} (db : Session) (types : PublicRequestTypeIface ι)
    (resolveLogRequestId : Option Nat) (choices : Nat → Nat) (op : UpdatePublicRequest)
    (object : LockedPublicRequestsOfObject db) (type : ι) (s : Requests) :
    (Manageable db types op object.id type s →
      Serves db types resolveLogRequestId choices op object type s) ∧
    ((∀ t u, types.getPublicRequestType t = types.getPublicRequestType u → t = u) →
      Serves db types resolveLogRequestId choices op object type s →
        Manageable db types op object.id type s) :=
  ⟨Manageable.serves, Serves.manageable⟩

/-- One object and its request, of a type that cancels no other. -/
def sampleSession : Session where
  enumPublicRequestType := ⟨[⟨1, "authinfo_pif"⟩], by decide⟩
  typeOfName := by
    intro t ht t' ht' _
    exact (List.mem_singleton.mp ht).trans (List.mem_singleton.mp ht').symm
  objects := [7]
  registrars := []
  mailArchive := []
  publicRequestObjectsMap := ⟨[⟨1, 7⟩], by decide⟩
  publicRequestMessagesMap := []
  now := 100

def sampleTypes : PublicRequestTypeIface Unit := ⟨fun _ => "authinfo_pif", fun _ _ _ => [], fun _ _ => .processed⟩

def sampleRequests : Requests where
  publicRequest := ⟨[⟨1, 1, .opened, .processed, none, none, none, none, none, none⟩], by decide⟩
  messageArchive := ∅

def sampleObject : LockedPublicRequestsOfObject sampleSession := ⟨7, List.mem_singleton.mpr rfl⟩

def sampleResolve : UpdatePublicRequest := ⟨some .resolved, none, none, none, none, none⟩

def sampleReason : UpdatePublicRequest := ⟨none, some (some "checked"), none, none, none, none⟩

theorem bulk_update_serves_sample : Serves sampleSession sampleTypes none (fun _ => 0) sampleResolve
    sampleObject () sampleRequests := by
  refine (bulk_update_serves _ _ _ _ _ _ _ _).1 ⟨rfl, .inr ⟨.resolved, ?_, ?_, .inl ?_⟩⟩
  · exact ⟨rfl, .inl rfl, nofun, nofun, rfl⟩
  · intro pr hpr
    obtain rfl := List.mem_singleton.mp (mem_openedRequests.mp hpr).1
    rfl
  · decide

/-- An update that gives a reason and no status has something to do, and never ends. -/
theorem not_bulk_update_serves : ¬ ∀ (op : UpdatePublicRequest) (s : Requests),
    ¬ op.setsNothing none →
      Serves sampleSession sampleTypes none (fun _ => 0) op sampleObject () s := by
  intro h
  have hserves := h sampleReason sampleRequests (by decide)
  obtain ⟨-, hempty | ⟨status, hop, -⟩⟩ := hserves.manageable fun _ _ _ => rfl
  · have hleft : (leftIds sampleSession sampleTypes 7 () sampleRequests).card = 1 := by decide
    change leftIds sampleSession sampleTypes 7 () sampleRequests = ∅ at hempty
    rw [hempty] at hleft
    cases hleft
  · cases hop.status_eq

end LibFred.PublicRequest
