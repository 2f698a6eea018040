import LibFred.PublicRequest.UpdatePublicRequest
import LibFred.Sql.Ends
import Mathlib.Data.Finset.Card

/-! What one update does to the requests of an object when it invalidates those of other types,
and these in turn those of others. -/
namespace LibFred.PublicRequest

open Sql

variable {ι : Type} {db : Session} {types : PublicRequestTypeIface ι}
  {resolveLogRequestId : Option Nat} {objectId id : Nat} {s s' s'' : Requests} {t type : ι}
  {a b pr : Request} {op : UpdatePublicRequest} {status : Status}

/-- The request is of the type and about the object. -/
def About (db : Session) (types : PublicRequestTypeIface ι) (objectId : Nat) (t : ι)
    (pr : Request) : Prop :=
  db.objectOf pr.id = some objectId ∧
    db.typeId (types.getPublicRequestType t) = some pr.requestType

@[simp] theorem mem_requestsOf : pr ∈ requestsOf db s objectId (types.getPublicRequestType t) ↔
    pr ∈ s.publicRequest ∧ About db types objectId t pr := by
  simp [requestsOf, About, eq_comm]

/-- An opened request of the type about the object is left. -/
def HasOpened (db : Session) (types : PublicRequestTypeIface ι) (objectId : Nat) (s : Requests)
    (t : ι) : Prop :=
  ∃ pr ∈ s.publicRequest, About db types objectId t pr ∧ pr.status = .opened

theorem hasOpened_of_lookup (h : s.publicRequest.lookup id = some a)
    (hab : About db types objectId t a) (ho : a.status = .opened) :
    HasOpened db types objectId s t :=
  ⟨a, (Table.lookup_eq_some.mp h).1, hab, ho⟩

/-- Nothing that decides about opened requests changed in the row. -/
def Kept (a b : Request) : Prop :=
  b.id = a.id ∧ b.requestType = a.requestType ∧ b.status = a.status ∧ b.resolveTime = a.resolveTime

/-- The opened request got another status, and the time of that. -/
def Closed (status : Status) (a b : Request) : Prop :=
  b.id = a.id ∧ b.requestType = a.requestType ∧ a.status = .opened ∧ b.status = status ∧
    b.resolveTime.isSome

theorem Kept.refl (a : Request) : Kept a a := ⟨rfl, rfl, rfl, rfl⟩

theorem Kept.trans {c : Request} (hab : Kept a b) (hbc : Kept b c) : Kept a c :=
  ⟨hbc.1.trans hab.1, hbc.2.1.trans hab.2.1, hbc.2.2.1.trans hab.2.2.1,
    hbc.2.2.2.trans hab.2.2.2⟩

theorem Kept.about_iff (h : Kept a b) : About db types objectId t b ↔ About db types objectId t a := by
  rw [About, About, h.1, h.2.1]

theorem Closed.about_iff (h : Closed status a b) :
    About db types objectId t b ↔ About db types objectId t a := by
  rw [About, About, h.1, h.2.1]

/-- The request was invalidated as one of a type that `reach` holds of, and no opened request is
left of the types that this type cancels. -/
def Invalidated (db : Session) (types : PublicRequestTypeIface ι) (objectId : Nat)
    (reach : ι → Prop) (s' : Requests) (a b : Request) : Prop :=
  Closed .invalidated a b ∧ ∃ t, reach t ∧ About db types objectId t a ∧
    ∀ u ∈ types.getPublicRequestTypesToCancelOnUpdate t .opened .invalidated,
      ¬ HasOpened db types objectId s' u

/-- All rows are kept but for those invalidated. -/
structure Cascade (db : Session) (types : PublicRequestTypeIface ι) (objectId : Nat)
    (reach : ι → Prop) (s s' : Requests) : Prop where
  row : ∀ id a, s.publicRequest.lookup id = some a → ∃ b, s'.publicRequest.lookup id = some b ∧
    (Kept a b ∨ Invalidated db types objectId reach s' a b)
  none : ∀ id, s.publicRequest.lookup id = none → s'.publicRequest.lookup id = none

variable {reach : ι → Prop}

theorem Cascade.row_back (h : Cascade db types objectId reach s s')
    (hb : s'.publicRequest.lookup id = some b) : ∃ a, s.publicRequest.lookup id = some a ∧
      (Kept a b ∨ Invalidated db types objectId reach s' a b) := by
  cases ha : s.publicRequest.lookup id with
  | none =>
    rw [h.none id ha] at hb
    cases hb
  | some a =>
    obtain ⟨b', hb', hrow⟩ := h.row id a ha
    obtain rfl : b' = b := Option.some.inj (hb'.symm.trans hb)
    exact ⟨a, rfl, hrow⟩

theorem Cascade.hasOpened (h : Cascade db types objectId reach s s')
    (ho : HasOpened db types objectId s' t) : HasOpened db types objectId s t := by
  obtain ⟨b, hb, hab, hopened⟩ := ho
  obtain ⟨a, ha, hk | ⟨hc, -⟩⟩ := h.row_back (Table.lookup_eq_some.mpr ⟨hb, rfl⟩)
  · exact hasOpened_of_lookup ha (hk.about_iff.mp hab) (hk.2.2.1.symm.trans hopened)
  · rw [hc.2.2.2.1] at hopened
    cases hopened

theorem Cascade.of_eq (h : s'.publicRequest = s.publicRequest) :
    Cascade db types objectId reach s s' where
  row _ a ha := ⟨a, h ▸ ha, .inl (Kept.refl a)⟩
  none _ hn := h ▸ hn

theorem Cascade.trans (h : Cascade db types objectId reach s s')
    (h' : Cascade db types objectId reach s' s'') : Cascade db types objectId reach s s'' where
  row id a ha := by
    obtain ⟨b, hb, hab⟩ := h.row id a ha
    obtain ⟨c, hc, hbc⟩ := h'.row id b hb
    refine ⟨c, hc, ?_⟩
    rcases hab with hk | ⟨hcl, t, ht, habout, hcancel⟩
    · rcases hbc with hk' | ⟨hcl', t, ht, habout, hcancel⟩
      · exact .inl (hk.trans hk')
      · refine .inr ⟨⟨hcl'.1.trans hk.1, hcl'.2.1.trans hk.2.1, hk.2.2.1.symm.trans hcl'.2.2.1,
          hcl'.2.2.2⟩, t, ht, hk.about_iff.mp habout, hcancel⟩
    · rcases hbc with hk' | ⟨hcl', -⟩
      · refine .inr ⟨⟨hk'.1.trans hcl.1, hk'.2.1.trans hcl.2.1, hcl.2.2.1,
          hk'.2.2.1.trans hcl.2.2.2.1, hk'.2.2.2.symm ▸ hcl.2.2.2.2⟩, t, ht, habout, ?_⟩
        exact fun u hu ho => hcancel u hu (h'.hasOpened ho)
      · -- A request that was invalidated is not opened any more.
        have hstatus := hcl.2.2.2.1.symm.trans hcl'.2.2.1
        cases hstatus
  none id hn := h'.none id (h.none id hn)

/-- The ids of all opened requests, which bound how deep the calls can get. -/
def openedIds (s : Requests) : Finset Nat :=
  ((s.publicRequest.select (·.status = .opened)).map Request.id).toFinset

theorem mem_openedIds :
    id ∈ openedIds s ↔ ∃ a, s.publicRequest.lookup id = some a ∧ a.status = .opened := by
  simp only [openedIds, List.mem_toFinset, List.mem_map, Table.mem_select]
  constructor
  · rintro ⟨a, ⟨ha, ho⟩, rfl⟩
    exact ⟨a, Table.lookup_eq_some.mpr ⟨ha, rfl⟩, ho⟩
  · rintro ⟨a, ha, ho⟩
    obtain ⟨ha, hid⟩ := Table.lookup_eq_some.mp ha
    exact ⟨a, ⟨ha, ho⟩, hid⟩

theorem Cascade.openedIds_subset (h : Cascade db types objectId reach s s') :
    openedIds s' ⊆ openedIds s := by
  intro id hid
  obtain ⟨b, hb, ho⟩ := mem_openedIds.mp hid
  obtain ⟨a, ha, hk | ⟨hc, -⟩⟩ := h.row_back hb
  · exact mem_openedIds.mpr ⟨a, ha, hk.2.2.1.symm.trans ho⟩
  · rw [hc.2.2.2.1] at ho
    cases ho

/-- The update is one that the database accepts: it sets a status that ends a request, and refers to
what exists. -/
structure Acceptable (db : Session) (op : UpdatePublicRequest) (status : Status) : Prop where
  status_eq : op.status = some status
  settable : settable status
  email : ∀ e ∈ op.answerEmailId.join, e ∈ db.mailArchive
  registrar : ∀ r ∈ op.registrarId.join, r ∈ db.registrars
  once : op.onStatusAction = none

theorem Acceptable.newStatus (h : Acceptable db op status) : op.newStatus = some status := by
  rw [UpdatePublicRequest.newStatus, h.status_eq]
  simp [h.settable]

theorem Acceptable.ne_opened (h : Acceptable db op status) : status ≠ .opened := by
  rintro rfl
  rcases h.settable with hs | hs <;> cases hs

theorem filter_notMem_eq_none {o : Option Nat} {l : List Nat} :
    o.filter (· ∉ l) = none ↔ ∀ n ∈ o, n ∈ l := by
  simp [Option.filter_eq_none_iff]

theorem Acceptable.badParams (h : Acceptable db op status) :
    op.badParams db resolveLogRequestId id = ⟨none, none, none, none, none⟩ := by
  have hsets : ¬ op.setsNothing resolveLogRequestId := by
    intro hn
    have hnone := hn.1
    rw [h.newStatus] at hnone
    cases hnone
  simp only [UpdatePublicRequest.badParams, if_neg hsets, filter_notMem_eq_none.mpr h.email,
    filter_notMem_eq_none.mpr h.registrar, h.status_eq]
  simp [h.settable]

theorem Acceptable.not_setsTwice (h : Acceptable db op status) : ¬ op.setsTwice := by
  simp [UpdatePublicRequest.setsTwice, h.once]

theorem Acceptable.invalidation (h : Acceptable db op status) (name : String) :
    Acceptable db (op.invalidation name) .invalidated :=
  ⟨rfl, .inr rfl, nofun, h.registrar, rfl⟩

theorem stopLetterSending_ends {R : PublicRequestException → Prop} :
    Ends (stopLetterSending db id) s (fun _ s' => s'.publicRequest = s.publicRequest) R :=
  ends_bind (ends_get (Q := fun s₁ s₂ => s₁ = s ∧ s₂ = s) ⟨rfl, rfl⟩) fun _ _ h => by
    obtain ⟨rfl, rfl⟩ := h
    exact ends_set rfl

theorem updateRow_ends {R : PublicRequestException → Prop} (hop : ¬ op.setsTwice)
    (ha : s.publicRequest.lookup id = some a) :
    Ends (updateRow db types resolveLogRequestId op id type) s (fun r s' =>
      r.1.affectedRequests = [id] ∧ r.1.objectId = (db.objectOf id).getD 0 ∧ r.2 = a.status ∧
      r.1.publicRequestType =
        ((db.enumPublicRequestType.lookup a.requestType).map RequestType.name).getD "" ∧
      s'.publicRequest = s.publicRequest.update (·.id = id)
        (op.assign db types resolveLogRequestId type)) R := by
  refine ends_bind (ends_raiseIf (Q := fun _ s₁ => s = s₁) hop rfl) fun _ _ h => ?_
  obtain rfl := h
  refine ends_bind (ends_get (Q := fun s₁ s₂ => s = s₁ ∧ s = s₂) ⟨rfl, rfl⟩) fun _ _ h => ?_
  obtain ⟨rfl, rfl⟩ := h
  rw [ha]
  refine ends_bind (ends_set (Q := fun _ s₁ => s₁.publicRequest = s.publicRequest.update
    (·.id = id) (op.assign db types resolveLogRequestId type)) rfl) fun _ _ h => ?_
  exact ends_pure ⟨rfl, rfl, rfl, rfl, h⟩

/-- The row that an update sets, once its status is accepted. -/
theorem Acceptable.assign (h : Acceptable db op status) (types : PublicRequestTypeIface ι)
    (resolveLogRequestId : Option Nat) (type : ι) (pr : Request) :
    (op.assign db types resolveLogRequestId type pr).requestType = pr.requestType ∧
    (op.assign db types resolveLogRequestId type pr).status = status ∧
    (op.assign db types resolveLogRequestId type pr).resolveTime =
      if pr.status = .opened then some db.now else pr.resolveTime := by
  refine ⟨rfl, ?_, ?_⟩ <;> simp [UpdatePublicRequest.assign, h.newStatus]

/-- `reach` goes on from each type that has an opened request to the types that it cancels. -/
def ClosedUnder (db : Session) (types : PublicRequestTypeIface ι) (objectId : Nat)
    (reach : ι → Prop) (s : Requests) : Prop :=
  ∀ t, reach t → HasOpened db types objectId s t →
    ∀ u ∈ types.getPublicRequestTypesToCancelOnUpdate t .opened .invalidated, reach u

theorem ClosedUnder.mono (h : ClosedUnder db types objectId reach s)
    (hs : Cascade db types objectId reach s s') : ClosedUnder db types objectId reach s' :=
  fun t ht ho => h t ht (hs.hasOpened ho)

/-- A run is cut off only when its bound is too small for the opened requests. -/
def Short (fuel : Nat) (s : Requests) (e : PublicRequestException) : Prop :=
  e = .outOfFuel ∧ fuel ≤ (openedIds s).card

theorem Short.mono {fuel : Nat} {e : PublicRequestException} (h : Short fuel s' e)
    (hs : openedIds s' ⊆ openedIds s) : Short fuel s e :=
  ⟨h.1, h.2.trans (Finset.card_le_card hs)⟩

/-- What a call that invalidates one request does. -/
def Invalidates (db : Session) (types : PublicRequestTypeIface ι) (objectId : Nat)
    (reach : ι → Prop) (fuel : Nat) (invalidate : Nat → ι → Exec Result) : Prop :=
  ∀ (s : Requests) (id : Nat) (t : ι) (a : Request), s.publicRequest.lookup id = some a →
    About db types objectId t a → reach t → ClosedUnder db types objectId reach s →
    a.status = .opened ∨ a.status = .invalidated →
    Ends (invalidate id t) s (fun _ s' => Cascade db types objectId reach s s' ∧
      ∀ b, s'.publicRequest.lookup id = some b → b.status = .invalidated) (Short fuel s)

/-- The opened requests of one type are invalidated one after the other. -/
theorem cancelType_ends {fuel : Nat} {invalidate : Nat → ι → Exec Result}
    (hinv : Invalidates db types objectId reach fuel invalidate) (ht : reach t)
    (hclosed : ClosedUnder db types objectId reach s) (l : List Request)
    (hl : ∀ pr ∈ l, s.publicRequest.lookup pr.id = some pr ∧ About db types objectId t pr ∧
      pr.status = .opened) :
    Ends (l.forM fun pr => do
        raiseIf (db.objectOf pr.id = none) (.lockOfRequest pr.id)
        let _ ← invalidate pr.id t) s
      (fun _ s' => Cascade db types objectId reach s s' ∧
        ∀ pr ∈ l, ∀ b, s'.publicRequest.lookup pr.id = some b → b.status = .invalidated)
      (Short fuel s) := by
  let P : List Request → Requests → Prop := fun rest s' =>
    rest ⊆ l ∧ Cascade db types objectId reach s s' ∧ ∀ pr ∈ l, pr ∈ rest ∨
      ∀ b, s'.publicRequest.lookup pr.id = some b → b.status = .invalidated
  refine Ends.mono (ends_forM (P := P) (fun pr rest s₁ hP => ?_)
    ⟨List.Subset.refl l, Cascade.of_eq rfl, fun pr hpr => .inl hpr⟩)
    (fun _ s' hP => ⟨hP.2.1, fun pr hpr => (hP.2.2 pr hpr).resolve_left List.not_mem_nil⟩)
    (fun _ h => h)
  obtain ⟨hsub, hcas, hdone⟩ := hP
  obtain ⟨hlookup, habout, hopened⟩ := hl pr (hsub List.mem_cons_self)
  have hlock : ¬ db.objectOf pr.id = none := by
    rw [habout.1]
    exact Option.some_ne_none _
  refine ends_bind (ends_raiseIf (Q := fun _ s₂ => s₁ = s₂) hlock rfl) fun _ s₂ h => ?_
  obtain rfl := h
  obtain ⟨a, ha, hrow⟩ := hcas.row pr.id pr hlookup
  have habout' : About db types objectId t a := by
    rcases hrow with hk | ⟨hc, -⟩
    · exact hk.about_iff.mpr habout
    · exact hc.about_iff.mpr habout
  have hstatus : a.status = .opened ∨ a.status = .invalidated := by
    rcases hrow with hk | ⟨hc, -⟩
    · exact .inl (hk.2.2.1.trans hopened)
    · exact .inr hc.2.2.2.1
  have hone := (hinv s₁ pr.id t a ha habout' ht (hclosed.mono hcas) hstatus).mono
    (fun _ _ h => h) (fun e he => he.mono hcas.openedIds_subset)
  refine ends_bind hone fun _ s₂ h => ends_pure ⟨?_, hcas.trans h.1, fun pr' hpr' => ?_⟩
  · exact fun x hx => hsub (List.mem_cons_of_mem _ hx)
  · rcases hdone pr' hpr' with hmem | hdone
    · rcases List.mem_cons.mp hmem with rfl | hmem
      · exact .inr h.2
      · exact .inl hmem
    · refine .inr fun b hb => ?_
      obtain ⟨b₁, hb₁, hk | ⟨hc, -⟩⟩ := h.1.row_back hb
      · exact hk.2.2.1.trans (hdone b₁ hb₁)
      · exact hc.2.2.2.1

/-- After the loops no opened request of the types is left. -/
theorem cancelTypes_ends {fuel : Nat} {invalidate : Nat → ι → Exec Result}
    (hinv : Invalidates db types objectId reach fuel invalidate)
    (hclosed : ClosedUnder db types objectId reach s) (l : List ι) (hl : ∀ u ∈ l, reach u) :
    Ends (cancelTypes db types objectId invalidate l) s
      (fun _ s' => Cascade db types objectId reach s s' ∧
        ∀ u ∈ l, ¬ HasOpened db types objectId s' u) (Short fuel s) := by
  let P : List ι → Requests → Prop := fun rest s' =>
    rest ⊆ l ∧ Cascade db types objectId reach s s' ∧ ∀ u ∈ l, u ∈ rest ∨
      ¬ HasOpened db types objectId s' u
  refine Ends.mono (ends_forM (P := P) (fun t rest s₁ hP => ?_)
    ⟨List.Subset.refl l, Cascade.of_eq rfl, fun u hu => .inl hu⟩)
    (fun _ s' hP => ⟨hP.2.1, fun u hu => (hP.2.2 u hu).resolve_left List.not_mem_nil⟩)
    (fun _ h => h)
  obtain ⟨hsub, hcas, hdone⟩ := hP
  refine ends_bind (ends_get (Q := fun s₂ s₃ => s₁ = s₂ ∧ s₁ = s₃) ⟨rfl, rfl⟩) fun _ _ h => ?_
  obtain ⟨rfl, rfl⟩ := h
  have hrows : ∀ pr ∈ (requestsOf db s₁ objectId (types.getPublicRequestType t)).filter
      (·.status = .opened), s₁.publicRequest.lookup pr.id = some pr ∧
      About db types objectId t pr ∧ pr.status = .opened := by
    intro pr hpr
    obtain ⟨hpr, ho⟩ := List.mem_filter.mp hpr
    obtain ⟨hmem, habout⟩ := mem_requestsOf.mp hpr
    exact ⟨Table.lookup_eq_some.mpr ⟨hmem, rfl⟩, habout, of_decide_eq_true ho⟩
  refine Ends.mono (cancelType_ends hinv (hl t (hsub List.mem_cons_self)) (hclosed.mono hcas) _
    hrows) (fun _ s₂ h => ⟨fun x hx => hsub (List.mem_cons_of_mem _ hx), hcas.trans h.1, ?_⟩)
    (fun e he => he.mono hcas.openedIds_subset)
  intro u hu
  rcases hdone u hu with hmem | hdone
  · rcases List.mem_cons.mp hmem with rfl | hmem
    · refine .inr fun ho => ?_
      -- An opened request that is left was opened before, and is among those gone through.
      obtain ⟨b, hb, habout, hopened⟩ := ho
      have hlb := Table.lookup_eq_some.mpr ⟨hb, rfl⟩
      obtain ⟨a, ha, hk | ⟨hc, -⟩⟩ := h.1.row_back hlb
      · obtain ⟨hmema, hida⟩ := Table.lookup_eq_some.mp ha
        have hain : a ∈ (requestsOf db s₁ objectId (types.getPublicRequestType u)).filter
            (·.status = .opened) := by
          refine List.mem_filter.mpr ⟨mem_requestsOf.mpr ⟨hmema, hk.about_iff.mp habout⟩, ?_⟩
          exact decide_eq_true (hk.2.2.1.symm.trans hopened)
        have hinvalidated := h.2 a hain b (by rw [show a.id = b.id from hida]; exact hlb)
        rw [hopened] at hinvalidated
        cases hinvalidated
      · rw [hc.2.2.2.1] at hopened
        cases hopened
    · exact .inl hmem
  · exact .inr fun ho => hdone (h.1.hasOpened ho)

/-- The name that RETURNING finds is the one that the type was found by. -/
theorem name_of_typeId {name : String} {i : Nat} (h : db.typeId name = some i) :
    ((db.enumPublicRequestType.lookup i).map RequestType.name).getD "" = name := by
  obtain ⟨t, ht, rfl⟩ := Option.map_eq_some_iff.mp h
  have hlookup : db.enumPublicRequestType.lookup t.id = some t :=
    Table.lookup_eq_some.mpr ⟨List.mem_of_find?_eq_some ht, rfl⟩
  rw [hlookup]
  simpa using List.find?_some ht

theorem prepareStatus_ends {R : PublicRequestException → Prop} :
    Ends (prepareStatus db op id) s (fun _ s' => s'.publicRequest = s.publicRequest) R := by
  unfold prepareStatus
  split
  · exact stopLetterSending_ends
  · exact ends_pure rfl

/-- The rows after the UPDATE of one. -/
theorem lookup_updateRow {id' : Nat} (h : s'.publicRequest = s.publicRequest.update (·.id = id)
      (op.assign db types resolveLogRequestId type)) :
    s'.publicRequest.lookup id' = if id' = id
      then (s.publicRequest.lookup id').map (op.assign db types resolveLogRequestId type)
      else s.publicRequest.lookup id' := by
  have hkey : ∀ pr, Keyed.key (op.assign db types resolveLogRequestId type pr) = Keyed.key pr :=
    fun _ => rfl
  rw [h]
  exact Table.lookup_update_row (p := fun pr => pr.id = id) hkey fun _ => Iff.rfl

/-- The update closes the request and leaves the others. -/
structure UpdatedRow (status : Status) (id : Nat) (s s' : Requests) : Prop where
  closed : ∀ a, s.publicRequest.lookup id = some a → a.status = .opened →
    ∃ b, s'.publicRequest.lookup id = some b ∧ Closed status a b
  kept : ∀ a, s.publicRequest.lookup id = some a → a.status = status →
    ∃ b, s'.publicRequest.lookup id = some b ∧ Kept a b
  other : ∀ id', id' ≠ id → s'.publicRequest.lookup id' = s.publicRequest.lookup id'

theorem Acceptable.updatedRow (hop : Acceptable db op status)
    (h : s'.publicRequest = s.publicRequest.update (·.id = id)
      (op.assign db types resolveLogRequestId type)) : UpdatedRow status id s s' where
  closed a ha ho := by
    obtain ⟨htype, hstatus, htime⟩ := hop.assign types resolveLogRequestId type a
    refine ⟨op.assign db types resolveLogRequestId type a, ?_, rfl, htype, ho, hstatus, ?_⟩
    · rw [lookup_updateRow h, if_pos rfl, ha]
      rfl
    · rw [htime, if_pos ho]
      rfl
  kept a ha hs := by
    obtain ⟨htype, hstatus, htime⟩ := hop.assign types resolveLogRequestId type a
    have hne : a.status ≠ .opened := hs ▸ hop.ne_opened
    refine ⟨op.assign db types resolveLogRequestId type a, ?_, rfl, htype, hstatus.trans hs.symm, ?_⟩
    · rw [lookup_updateRow h, if_pos rfl, ha]
      rfl
    · rw [htime, if_neg hne]
  other id' hne := by rw [lookup_updateRow h, if_neg hne]

theorem UpdatedRow.opened (h : UpdatedRow status id s s') (hne : status ≠ .opened)
    (ha : s.publicRequest.lookup id = some a) (ho : a.status = .opened) {id' : Nat}
    (hb : s'.publicRequest.lookup id' = some b) (hbo : b.status = .opened) :
    id' ≠ id ∧ s.publicRequest.lookup id' = some b := by
  by_cases hid : id' = id
  · subst hid
    obtain ⟨b', hb', hc⟩ := h.closed a ha ho
    obtain rfl : b = b' := Option.some.inj (hb.symm.trans hb')
    exact absurd (hc.2.2.2.1.symm.trans hbo) hne
  · exact ⟨hid, (h.other id' hid).symm.trans hb⟩

theorem UpdatedRow.hasOpened (h : UpdatedRow status id s s') (hne : status ≠ .opened)
    (ha : s.publicRequest.lookup id = some a) (ho : a.status = .opened)
    (hopened : HasOpened db types objectId s' t) : HasOpened db types objectId s t := by
  obtain ⟨b, hb, habout, hbo⟩ := hopened
  have hlb := Table.lookup_eq_some.mpr ⟨hb, rfl⟩
  exact hasOpened_of_lookup (h.opened hne ha ho hlb hbo).2 habout hbo

theorem UpdatedRow.card_lt (h : UpdatedRow status id s s') (hne : status ≠ .opened)
    (ha : s.publicRequest.lookup id = some a) (ho : a.status = .opened) :
    (openedIds s').card < (openedIds s).card := by
  refine Finset.card_lt_card ((Finset.ssubset_iff_of_subset ?_).mpr ⟨id, ?_, ?_⟩)
  · intro id' hid'
    obtain ⟨b, hb, hbo⟩ := mem_openedIds.mp hid'
    exact mem_openedIds.mpr ⟨b, (h.opened hne ha ho hb hbo).2, hbo⟩
  · exact mem_openedIds.mpr ⟨a, ha, ho⟩
  · intro hid
    obtain ⟨b, hb, hbo⟩ := mem_openedIds.mp hid
    exact (h.opened hne ha ho hb hbo).1 rfl

/-- What is left after an opened request was updated: it is closed, and then a cascade leaves no
opened request of the types that its type cancels. -/
structure Visited (db : Session) (types : PublicRequestTypeIface ι) (objectId : Nat)
    (reach : ι → Prop) (status : Status) (id : Nat) (type : ι) (s s' : Requests) : Prop where
  cascade : ∃ s₁, UpdatedRow status id s s₁ ∧ Cascade db types objectId reach s₁ s'
  cancelled : ∀ u ∈ types.getPublicRequestTypesToCancelOnUpdate type .opened status,
    ¬ HasOpened db types objectId s' u

/-- What an update of a request does before it looks at what it cancels. -/
theorem update_begin_ends {α : Type} {Q : α → Requests → Prop} {R : PublicRequestException → Prop}
    {rest : Result × Status → Exec α}
    (hbad : op.badParams db resolveLogRequestId id = ⟨none, none, none, none, none⟩)
    (hop : ¬ op.setsTwice) (ha : s.publicRequest.lookup id = some a)
    (hrest : ∀ result s', result.affectedRequests = [id] →
      result.objectId = (db.objectOf id).getD 0 →
      result.publicRequestType =
        ((db.enumPublicRequestType.lookup a.requestType).map RequestType.name).getD "" →
      s'.publicRequest = s.publicRequest.update (·.id = id)
        (op.assign db types resolveLogRequestId type) → Ends (rest (result, a.status)) s' Q R) :
    Ends (do
      prepareStatus db op id
      let badParams := op.badParams db resolveLogRequestId id
      raiseIf (badParams ≠ ⟨none, none, none, none, none⟩) (.update badParams)
      let r ← updateRow db types resolveLogRequestId op id type
      rest r) s Q R := by
  refine ends_bind prepareStatus_ends fun _ s₁ hs₁ => ?_
  refine ends_bind (ends_raiseIf (Q := fun _ s₂ => s₁ = s₂) (not_not.mpr hbad) rfl) fun _ s₂ h => ?_
  obtain rfl := h
  refine ends_bind (updateRow_ends hop (hs₁ ▸ ha)) fun r s₂ h => ?_
  obtain ⟨result, oldStatus⟩ := r
  obtain ⟨haffected, hobj, hold, hname, hrows⟩ := h
  obtain rfl : oldStatus = a.status := hold
  rw [hs₁] at hrows
  exact hrest result s₂ haffected hobj hname hrows

theorem update_opened_ends {fuel : Nat}
    (hinv : ∀ op', Acceptable db op' .invalidated → Invalidates db types objectId reach fuel
      (update db types resolveLogRequestId fuel op'))
    (hop : Acceptable db op status) (ha : s.publicRequest.lookup id = some a)
    (habout : About db types objectId type a) (ho : a.status = .opened)
    (hobject : objectId ∈ db.objects) (hclosed : ClosedUnder db types objectId reach s)
    (hreach : ∀ u ∈ types.getPublicRequestTypesToCancelOnUpdate type .opened status, reach u) :
    Ends (update db types resolveLogRequestId (fuel + 1) op id type) s (fun r s' =>
      r.affectedRequests = [id] ∧ r.objectId = objectId ∧
      r.publicRequestType = types.getPublicRequestType type ∧
      Visited db types objectId reach status id type s s') (Short (fuel + 1) s) := by
  rw [update]
  refine update_begin_ends hop.badParams hop.not_setsTwice ha
    fun result s₂ haffected hobj hname hrows => ?_
  simp only [ho]
  have hrow : UpdatedRow status id s s₂ := hop.updatedRow hrows
  have hid : a.id = id := (Table.lookup_eq_some.mp ha).2
  have hobjectId : result.objectId = objectId := by
    rw [hobj, ← hid, habout.1]
    rfl
  have htype : result.publicRequestType = types.getPublicRequestType type :=
    hname.trans (name_of_typeId habout.2)
  rw [hop.status_eq]
  simp only [if_neg hop.ne_opened]
  split
  · rename_i hempty
    refine ends_pure ⟨haffected, hobjectId, htype, ⟨s₂, hrow, Cascade.of_eq rfl⟩, ?_⟩
    rw [List.isEmpty_iff.mp hempty]
    exact fun u hu => absurd hu List.not_mem_nil
  · refine ends_bind (ends_raiseIf (Q := fun _ s₃ => s₂ = s₃) ?_ rfl) fun _ s₃ h => ?_
    · rw [hobjectId]
      exact not_not.mpr hobject
    obtain rfl := h
    have hclosed' : ClosedUnder db types objectId reach s₂ :=
      fun t ht hopen => hclosed t ht (hrow.hasOpened hop.ne_opened ha ho hopen)
    have hcancel := cancelTypes_ends (hinv _ (hop.invalidation result.publicRequestType)) hclosed'
      _ hreach
    rw [hobjectId]
    refine ends_bind (hcancel.mono (fun _ _ h => h) fun e he => ⟨he.1, ?_⟩) fun _ s₃ h => ?_
    · have hlt := hrow.card_lt hop.ne_opened ha ho
      exact Nat.succ_le_of_lt (lt_of_le_of_lt he.2 hlt)
    · exact ends_pure ⟨haffected, hobjectId, htype, ⟨s₂, hrow, h.1⟩, h.2⟩

theorem update_closed_ends {fuel : Nat} {R : PublicRequestException → Prop}
    (hop : Acceptable db op status) (ha : s.publicRequest.lookup id = some a)
    (hs : a.status = status) :
    Ends (update db types resolveLogRequestId (fuel + 1) op id type) s
      (fun _ s' => UpdatedRow status id s s') R := by
  rw [update]
  refine update_begin_ends hop.badParams hop.not_setsTwice ha fun result s₂ _ _ _ hrows => ?_
  simp only [hs, hop.status_eq, if_true]
  exact ends_pure (hop.updatedRow hrows)

theorem Visited.invalidated
    (h : Visited db types objectId reach .invalidated id type s s') (ht : reach type)
    (ha : s.publicRequest.lookup id = some a) (habout : About db types objectId type a)
    (ho : a.status = .opened) : Cascade db types objectId reach s s' ∧
      ∀ b, s'.publicRequest.lookup id = some b → b.status = .invalidated := by
  obtain ⟨⟨s₁, hrow, hcas⟩, hcancelled⟩ := h
  obtain ⟨a₁, ha₁, hc⟩ := hrow.closed a ha ho
  -- Once it is closed the cascade keeps the row.
  have hkept : ∀ b, s'.publicRequest.lookup id = some b → Kept a₁ b := by
    intro b hb
    obtain ⟨a₂, ha₂, hk | ⟨hc', -⟩⟩ := hcas.row_back hb
    · exact Option.some.inj (ha₂.symm.trans ha₁) ▸ hk
    · obtain rfl := Option.some.inj (ha₂.symm.trans ha₁)
      have hstatus := hc.2.2.2.1.symm.trans hc'.2.2.1
      cases hstatus
  refine ⟨⟨fun id' a' ha' => ?_, fun id' hn => ?_⟩, fun b hb => ?_⟩
  · by_cases hid : id' = id
    · subst hid
      obtain rfl : a = a' := Option.some.inj (ha.symm.trans ha')
      obtain ⟨b, hb, -⟩ := hcas.row id' a₁ ha₁
      have hk := hkept b hb
      refine ⟨b, hb, .inr ⟨⟨hk.1.trans hc.1, hk.2.1.trans hc.2.1, ho,
        hk.2.2.1.trans hc.2.2.2.1, hk.2.2.2.symm ▸ hc.2.2.2.2⟩, type, ht, habout, hcancelled⟩⟩
    · exact hcas.row id' a' ((hrow.other id' hid).trans ha')
  · have hid : id' ≠ id := by
      rintro rfl
      rw [hn] at ha
      cases ha
    exact hcas.none id' ((hrow.other id' hid).trans hn)
  · exact (hkept b hb).2.2.1.trans hc.2.2.2.1

theorem UpdatedRow.cascade (h : UpdatedRow status id s s')
    (ha : s.publicRequest.lookup id = some a) (hs : a.status = status) :
    Cascade db types objectId reach s s' := by
  obtain ⟨b, hb, hk⟩ := h.kept a ha hs
  refine ⟨fun id' a' ha' => ?_, fun id' hn => ?_⟩
  · by_cases hid : id' = id
    · subst hid
      exact ⟨b, hb, .inl (Option.some.inj (ha.symm.trans ha') ▸ hk)⟩
    · exact ⟨a', (h.other id' hid).trans ha', .inl (Kept.refl a')⟩
  · have hid : id' ≠ id := by
      rintro rfl
      rw [hn] at ha
      cases ha
    exact (h.other id' hid).trans hn

/-- The calls that invalidate end, each by its cascade, given a bound above the number of opened
requests. The induction is on the bound: every call within another finds one of them less. -/
theorem update_invalidates (hobject : objectId ∈ db.objects) (fuel : Nat) :
    ∀ op, Acceptable db op .invalidated → Invalidates db types objectId reach fuel
      (update db types resolveLogRequestId fuel op) := by
  induction fuel with
  | zero =>
    intro op hop s id t a ha habout ht hclosed hstatus
    exact ends_throw ⟨rfl, Nat.zero_le _⟩
  | succ fuel ih =>
    intro op hop s id t a ha habout ht hclosed hstatus
    rcases hstatus with ho | hi
    · have hupdate := update_opened_ends ih hop ha habout ho hobject hclosed
        (hclosed t ht (hasOpened_of_lookup ha habout ho))
      exact hupdate.mono (fun _ _ h => h.2.2.2.invalidated ht ha habout ho) fun _ h => h
    · refine (update_closed_ends hop ha hi).mono (fun _ s' h => ?_) fun _ h => h
      refine ⟨h.cascade ha hi, fun b hb => ?_⟩
      obtain ⟨b', hb', hk⟩ := h.kept a ha hi
      obtain rfl : b' = b := Option.some.inj (hb'.symm.trans hb)
      exact hk.2.2.1.trans hi

/-- What an update of an opened request does, and that a bound above the number of opened requests
is enough. -/
theorem update_ends (resolveLogRequestId : Option Nat) (hobject : objectId ∈ db.objects) (hop : Acceptable db op status)
    (ha : s.publicRequest.lookup id = some a) (habout : About db types objectId type a)
    (ho : a.status = .opened) (hclosed : ClosedUnder db types objectId reach s)
    (hreach : ∀ u ∈ types.getPublicRequestTypesToCancelOnUpdate type .opened status, reach u)
    (fuel : Nat) :
    Ends (update db types resolveLogRequestId fuel op id type) s (fun r s' =>
      r.affectedRequests = [id] ∧ r.objectId = objectId ∧
      r.publicRequestType = types.getPublicRequestType type ∧
      Visited db types objectId reach status id type s s') (Short fuel s) := by
  cases fuel with
  | zero => exact ends_throw ⟨rfl, Nat.zero_le _⟩
  | succ fuel =>
    exact update_opened_ends (update_invalidates hobject fuel) hop ha habout ho hobject hclosed
      hreach

end LibFred.PublicRequest
