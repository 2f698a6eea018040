import LibFred.PublicRequest.CreatePublicRequest
import LibFred.PublicRequest.UpdateOutcome
import LibFred.Transition

/-! The life of public requests over runs of all operations. -/
namespace LibFred.PublicRequest

open Sql Transition

variable {ι : Type} {db : Session} {types : PublicRequestTypeIface ι} {logRequestId : Option Nat}
  {objectId id : Nat} {s s' : Requests} {t type : ι} {a b : Request} {op : UpdatePublicRequest}

/-- What may become of a request: it may leave `opened` once, and is resolved then. -/
structure Later (a b : Request) : Prop where
  requestType : b.requestType = a.requestType
  opened : b.status = .opened → a.status = .opened
  resolveTime : a.status ≠ .opened → b.resolveTime = a.resolveTime
  unresolved : (a.resolveTime = none ↔ a.status = .opened) →
    (b.resolveTime = none ↔ b.status = .opened)

theorem later_refl (a : Request) : Later a a := ⟨rfl, id, fun _ => rfl, id⟩

theorem Later.trans {c : Request} (hab : Later a b) (hbc : Later b c) : Later a c where
  requestType := hbc.requestType.trans hab.requestType
  opened h := hab.opened (hbc.opened h)
  resolveTime h := (hbc.resolveTime fun hb => h (hab.opened hb)).trans (hab.resolveTime h)
  unresolved h := hbc.unresolved (hab.unresolved h)

/-- No request is added or removed, and each goes on with its life. -/
structure Advances (s s' : Requests) : Prop where
  row : ∀ id a, s.publicRequest.lookup id = some a →
    ∃ b, s'.publicRequest.lookup id = some b ∧ Later a b
  none : ∀ id, s.publicRequest.lookup id = none → s'.publicRequest.lookup id = none

theorem advances_of_eq (h : s'.publicRequest = s.publicRequest) : Advances s s' where
  row _ a ha := ⟨a, h ▸ ha, later_refl a⟩
  none _ hn := h ▸ hn

instance advances_refl : Std.Refl Advances where
  refl _ := advances_of_eq rfl

instance advances_trans : IsTrans Requests Advances where
  trans s₁ s₂ s₃ h h' := by
    refine ⟨fun id a ha => ?_, fun id hn => h'.none id (h.none id hn)⟩
    obtain ⟨b, hb, hab⟩ := h.row id a ha
    obtain ⟨c, hc, hbc⟩ := h'.row id b hb
    exact ⟨c, hc, hab.trans hbc⟩

theorem Advances.row_back (h : Advances s s') (hb : s'.publicRequest.lookup id = some b) :
    ∃ a, s.publicRequest.lookup id = some a ∧ Later a b := by
  cases ha : s.publicRequest.lookup id with
  | none =>
    rw [h.none id ha] at hb
    cases hb
  | some a =>
    obtain ⟨b', hb', hab⟩ := h.row id a ha
    obtain rfl : b' = b := Option.some.inj (hb'.symm.trans hb)
    exact ⟨a, rfl, hab⟩

/-- A request that is opened was opened before, and about the same. -/
theorem Advances.hasOpened (h : Advances s s') (ho : HasOpened db types objectId s' t) :
    HasOpened db types objectId s t := by
  obtain ⟨b, hb, hab, hopened⟩ := ho
  obtain ⟨a, ha, hl⟩ := h.row_back (Table.lookup_eq_some.mpr ⟨hb, rfl⟩)
  obtain ⟨hmem, hid⟩ := Table.lookup_eq_some.mp ha
  refine ⟨a, hmem, ?_, hl.opened hopened⟩
  rw [About, show a.id = b.id from hid, ← hl.requestType]
  exact hab

/-- The SET list sets a status only together with the resolve time. -/
theorem later_assign (a : Request) : Later a (op.assign db types logRequestId type a) := by
  have hset : ∀ status ∈ op.newStatus, status ≠ .opened := by
    intro status hstatus
    obtain ⟨-, hsettable⟩ := Option.filter_eq_some_iff.mp hstatus
    rintro rfl
    simp [settable] at hsettable
  cases hnew : op.newStatus with
  | none =>
    constructor <;> simp [UpdatePublicRequest.assign, hnew]
  | some status =>
    have hne := hset status hnew
    by_cases ho : a.status = .opened
    · constructor <;> simp [UpdatePublicRequest.assign, hnew, ho, hne]
    · constructor <;> simp +contextual [UpdatePublicRequest.assign, hnew, ho, hne]

theorem advances_assign (h : s'.publicRequest = s.publicRequest.update (·.id = id)
    (op.assign db types logRequestId type)) : Advances s s' where
  row id' a ha := by
    rw [lookup_updateRow h, ha]
    split
    · exact ⟨_, rfl, later_assign a⟩
    · exact ⟨a, rfl, later_refl a⟩
  none id' hn := by
    rw [lookup_updateRow h, hn]
    split <;> rfl

theorem moves_prepareStatus : Moves Advances (prepareStatus db op id) :=
  moves_of_kept fun _ _ h => advances_of_eq h

theorem moves_updateRow : Moves Advances (updateRow db types logRequestId op id type) :=
  fun s => ⟨fun _ _ h => advances_assign (updateRow_ok h),
    fun e s' h => atomic_updateRow s e s' h ▸ refl_of Advances s⟩

theorem moves_cancelTypes {invalidate : Nat → ι → Exec Result}
    (h : ∀ id t, Moves Advances (invalidate id t)) (l : List ι) :
    Moves Advances (cancelTypes db types objectId invalidate l) := by
  refine moves_forM fun t _ => moves_bind readOnly_get.moves fun s => ?_
  refine moves_forM fun pr _ => moves_bind readOnly_raiseIf.moves fun _ => ?_
  exact moves_bind (h pr.id t) fun _ => readOnly_pure.moves

/-- The induction is on the bound of the calls that invalidate requests of other types. -/
theorem moves_update (fuel : Nat) (op : UpdatePublicRequest) (id : Nat) (type : ι) :
    Moves Advances (update db types logRequestId fuel op id type) := by
  induction fuel generalizing op id type with
  | zero => exact readOnly_throw.moves
  | succ fuel ih =>
    refine moves_bind moves_prepareStatus fun _ => ?_
    refine moves_bind readOnly_raiseIf.moves fun _ => ?_
    refine moves_bind moves_updateRow fun r => ?_
    obtain ⟨result, oldStatus⟩ := r
    cases op.status with
    | none => exact readOnly_pure.moves
    | some status =>
      simp only
      split
      · exact readOnly_pure.moves
      · split
        · exact readOnly_pure.moves
        · refine moves_bind readOnly_raiseIf.moves fun _ => ?_
          exact moves_bind (moves_cancelTypes (ih _) _) fun _ => readOnly_pure.moves

theorem moves_loop {choices : Nat → Nat} {depth : Nat} {object : LockedPublicRequestsOfObject db}
    (fuel : Nat) (result : Result) :
    Moves Advances (op.loop db types logRequestId choices depth object type fuel result) := by
  induction fuel generalizing result with
  | zero => exact readOnly_throw.moves
  | succ fuel ih =>
    refine moves_bind readOnly_get.moves fun s => ?_
    split
    · exact readOnly_pure.moves
    · exact readOnly_throw.moves
    · refine moves_bind (moves_update depth op _ type) fun updated => ?_
      refine moves_bind readOnly_raiseIf.moves fun _ => ?_
      exact moves_bind readOnly_raiseIf.moves fun _ => ih _

/-- An invalidated request is not opened any more, whatever is invalidated after it. -/
theorem update_closes {fuel : Nat} {r : Result} (hop : op.status = some .invalidated)
    (h : (update db types logRequestId fuel op id type).run s = .ok r s')
    (hb : s'.publicRequest.lookup id = some b) : b.status ≠ .opened := by
  cases fuel with
  | zero => cases h
  | succ fuel =>
    rw [update] at h
    obtain ⟨_, s₁, -, h⟩ := run_bind_eq_ok.mp h
    obtain ⟨_, s₂, -, h⟩ := run_bind_eq_ok.mp h
    obtain ⟨⟨result, oldStatus⟩, s₃, hrow, h⟩ := run_bind_eq_ok.mp h
    have hclosed : ∀ a, s₃.publicRequest.lookup id = some a → a.status ≠ .opened := by
      intro a ha
      rw [lookup_updateRow (updateRow_ok hrow), if_pos rfl] at ha
      obtain ⟨a₀, -, rfl⟩ := Option.map_eq_some_iff.mp ha
      have hnew : op.newStatus = some .invalidated := by
        rw [UpdatePublicRequest.newStatus, hop]
        rfl
      simp [UpdatePublicRequest.assign, hnew]
    have hrest : Advances s₃ s' := by
      rw [hop] at h
      simp only at h
      split at h
      · obtain ⟨-, rfl⟩ := run_pure_eq_ok.mp h
        exact refl_of Advances s₃
      · split at h
        · obtain ⟨-, rfl⟩ := run_pure_eq_ok.mp h
          exact refl_of Advances s₃
        · obtain ⟨_, s₄, hraise, h⟩ := run_bind_eq_ok.mp h
          obtain ⟨-, rfl⟩ := run_raiseIf_eq_ok.mp hraise
          obtain ⟨_, s₅, hcancel, h⟩ := run_bind_eq_ok.mp h
          obtain ⟨-, rfl⟩ := run_pure_eq_ok.mp h
          exact (moves_cancelTypes (moves_update fuel _) _).ok hcancel
    obtain ⟨a, ha, hl⟩ := hrest.row_back hb
    exact fun ho => hclosed a ha (hl.opened ho)

/-- The requests that are gone through are closed one after the other. -/
theorem cancelType_closes {fuel : Nat} (hop : op.status = some .invalidated) (u : ι)
    (l : List Request) :
    Ends (l.forM fun pr => do
        raiseIf (db.objectOf pr.id = none) (.lockOfRequest pr.id)
        let _ ← update db types logRequestId fuel op pr.id u) s
      (fun _ s' => Advances s s' ∧
        ∀ pr ∈ l, ∀ b, s'.publicRequest.lookup pr.id = some b → b.status ≠ .opened)
      fun _ => True := by
  refine ends_forM_each (fun pr _ s₁ _ => ends_of_ok fun _ s₂ h => ?_) ?_
  · obtain ⟨_, _, hraise, h⟩ := run_bind_eq_ok.mp h
    obtain ⟨-, rfl⟩ := run_raiseIf_eq_ok.mp hraise
    obtain ⟨_, _, hupdate, h⟩ := run_bind_eq_ok.mp h
    obtain ⟨-, rfl⟩ := run_pure_eq_ok.mp h
    exact ⟨(moves_update fuel op pr.id u).ok hupdate, fun b hb => update_closes hop hupdate hb⟩
  · intro pr _ s₁ s₂ h hclosed b hb ho
    obtain ⟨a, ha, hl⟩ := h.row_back hb
    exact hclosed a ha (hl.opened ho)

/-- After the loops no opened request of the types is left. -/
theorem cancelTypes_closes {fuel : Nat} (hop : op.status = some .invalidated) (l : List ι) :
    Ends (cancelTypes db types objectId (update db types logRequestId fuel op) l) s
      (fun _ s' => Advances s s' ∧ ∀ u ∈ l, ¬ HasOpened db types objectId s' u) fun _ => True := by
  refine ends_forM_each (fun u _ s₁ _ => ?_) fun u _ s₁ s₂ h hnone ho => hnone (h.hasOpened ho)
  refine ends_bind (ends_get (Q := fun s₂ s₃ => s₁ = s₂ ∧ s₁ = s₃) ⟨rfl, rfl⟩) fun _ _ h => ?_
  obtain ⟨rfl, rfl⟩ := h
  refine (cancelType_closes hop u _).mono (fun _ s₂ h => ⟨h.1, ?_⟩) fun _ h => h
  rintro ⟨b, hb, habout, ho⟩
  -- What is opened now was opened before, and is among the requests that were gone through.
  have hlookup : s₂.publicRequest.lookup b.id = some b := Table.lookup_eq_some.mpr ⟨hb, rfl⟩
  obtain ⟨a, ha, hl⟩ := h.1.row_back hlookup
  obtain ⟨hmem, hid⟩ := Table.lookup_eq_some.mp ha
  have hid : a.id = b.id := hid
  have habouta : About db types objectId u a := by
    rw [About, hid, ← hl.requestType]
    exact habout
  refine h.2 a ?_ b (hid ▸ hlookup) ho
  exact List.mem_filter.mpr ⟨mem_requestsOf.mpr ⟨hmem, habouta⟩, decide_eq_true (hl.opened ho)⟩

variable {types : PublicRequestTypes ι} {s s' : Tables} {check : String → Bool} {depth : Nat}

/-- Every instance of the type lists the type among those that it cancels on create. -/
def CancelsItself (types : PublicRequestTypes ι) (t : ι) : Prop :=
  ∀ t', types.getPublicRequestType t' = types.getPublicRequestType t →
    ∃ u ∈ types.getPublicRequestTypesToCancelOnCreate t',
      types.getPublicRequestType u = types.getPublicRequestType t

/-- Requests are unresolved exactly while they are opened, and at most one request of a type that
cancels itself is opened for an object. -/
structure LifeCycle (types : PublicRequestTypes ι) (s : Tables) : Prop where
  unresolved : ∀ pr ∈ s.requests.publicRequest, pr.resolveTime = none ↔ pr.status = .opened
  single : ∀ t, CancelsItself types t → ∀ objectId, ∀ a ∈ s.requests.publicRequest,
    ∀ b ∈ s.requests.publicRequest,
      About s.session types.toPublicRequestTypeIface objectId t a →
      About s.session types.toPublicRequestTypeIface objectId t b →
      a.status = .opened → b.status = .opened → a = b

/-- The requests that there are go on with their lives. -/
def Continues (s s' : Tables) : Prop :=
  ∀ id a, s.requests.publicRequest.lookup id = some a →
    ∃ b, s'.requests.publicRequest.lookup id = some b ∧ Later a b

/-- What holds between the states before and after any statements. -/
structure Lives (types : PublicRequestTypes ι) (s s' : Tables) : Prop where
  continues : Continues s s'
  lifeCycle : LifeCycle types s → LifeCycle types s'

instance lives_refl : Std.Refl (Lives types) where
  refl _ := ⟨fun _ a ha => ⟨a, ha, later_refl a⟩, fun h => h⟩

instance lives_trans : IsTrans Tables (Lives types) where
  trans s₁ s₂ s₃ h h' := by
    refine ⟨fun id a ha => ?_, fun hs => h'.lifeCycle (h.lifeCycle hs)⟩
    obtain ⟨b, hb, hab⟩ := h.continues id a ha
    obtain ⟨c, hc, hbc⟩ := h'.continues id b hb
    exact ⟨c, hc, hab.trans hbc⟩

theorem LifeCycle.advances (h : LifeCycle types s) (hs : Advances s.requests s'.requests)
    (hsession : s'.session = s.session) : LifeCycle types s' where
  unresolved b hb := by
    obtain ⟨a, ha, hl⟩ := hs.row_back (Table.lookup_eq_some.mpr ⟨hb, rfl⟩)
    exact hl.unresolved (h.unresolved a (Table.lookup_eq_some.mp ha).1)
  single t ht objectId := by
    have hback : ∀ b ∈ s'.requests.publicRequest,
        About s'.session types.toPublicRequestTypeIface objectId t b → b.status = .opened →
        ∃ a ∈ s.requests.publicRequest, a.id = b.id ∧
          About s.session types.toPublicRequestTypeIface objectId t a ∧ a.status = .opened := by
      intro b hb habout ho
      obtain ⟨a, ha, hl⟩ := hs.row_back (Table.lookup_eq_some.mpr ⟨hb, rfl⟩)
      obtain ⟨hmem, hid⟩ := Table.lookup_eq_some.mp ha
      have hid : a.id = b.id := hid
      refine ⟨a, hmem, hid, ?_, hl.opened ho⟩
      rw [About, hid, ← hl.requestType, ← hsession]
      exact habout
    intro a ha b hb habouta haboutb hoa hob
    obtain ⟨a₀, ha₀, hida, habouta₀, hoa₀⟩ := hback a ha habouta hoa
    obtain ⟨b₀, hb₀, hidb, haboutb₀, hob₀⟩ := hback b hb haboutb hob
    have heq := h.single t ht objectId a₀ ha₀ b₀ hb₀ habouta₀ haboutb₀ hoa₀ hob₀
    exact Table.eq_of_key_eq ha hb (hida.symm.trans ((congrArg Request.id heq).trans hidb))

theorem lives_of_advances (hs : Advances s.requests s'.requests)
    (hsession : s'.session = s.session) : Lives types s s' :=
  ⟨hs.row, fun h => h.advances hs hsession⟩

theorem onRequests_ok {α : Type} {x : Session → Exec α} {r : α}
    (h : (onRequests x).run s = .ok r s') : ∃ requests,
      (x s.session).run s.requests = .ok r requests ∧ s' = { s with requests := requests } := by
  change onRequests x s = _ at h
  unfold onRequests at h
  split at h
  · rename_i hx
    obtain ⟨rfl, rfl⟩ := EStateM.Result.ok.inj h
    exact ⟨_, hx, rfl⟩
  · cases h

theorem moves_onRequests {α : Type} {x : Session → Exec α} (hx : ∀ db, Moves Advances (x db)) :
    Moves (Lives types) (onRequests x) := by
  intro s
  constructor
  · intro r s' h
    obtain ⟨requests, hx', rfl⟩ := onRequests_ok h
    exact lives_of_advances ((hx _).ok hx') rfl
  · intro e s' h
    change onRequests x s = _ at h
    unfold onRequests at h
    split at h
    · cases h
    · rename_i hx'
      obtain ⟨-, rfl⟩ := EStateM.Result.error.inj h
      exact lives_of_advances ((hx _).error hx') rfl

theorem readOnly_checkEmailAddressFormat {emailAddress : String} :
    ReadOnly (checkEmailAddressFormat check emailAddress) :=
  readOnly_bind readOnly_raiseIf fun _ => readOnly_raiseIf

theorem readOnly_checkRegistrar {registrarId : Option Nat} : ReadOnly (checkRegistrar registrarId) := by
  refine readOnly_bind readOnly_get fun s => ?_
  cases registrarId with
  | none => exact readOnly_pure
  | some registrarId => exact readOnly_raiseIf

theorem atomic_insert {op : CreatePublicRequest} {name : String} {action : OnStatusAction}
    {addAuth : Nat → Table RequestAuth → Option (Table RequestAuth)} :
    Atomic (op.insert objectId name action addAuth) := by
  refine atomic_bind readOnly_get fun s => ?_
  split
  · exact readOnly_throw.atomic
  · split
    · intro s e s' h
      cases h
    · exact readOnly_throw.atomic

theorem insert_ok {op : CreatePublicRequest} {name : String} {action : OnStatusAction}
    {addAuth : Nat → Table RequestAuth → Option (Table RequestAuth)} {r : Nat}
    (h : (op.insert objectId name action addAuth).run s = .ok r s') :
    ∃ requestType, s.session.typeId name = some requestType ∧
      s.requests.publicRequest.insert? (op.newRequest s.nextId requestType action) =
        some s'.requests.publicRequest ∧
      s.session.publicRequestObjectsMap.insert? ⟨s.nextId, objectId⟩ =
        some s'.session.publicRequestObjectsMap ∧
      s'.session.enumPublicRequestType = s.session.enumPublicRequestType := by
  obtain ⟨_, _, hget, h⟩ := run_bind_eq_ok.mp h
  obtain ⟨rfl, rfl⟩ := run_get_eq_ok.mp hget
  split at h
  · cases h
  · rename_i requestType htype
    split at h
    · rename_i hrequest hmap _
      obtain ⟨_, _, hset, h⟩ := run_bind_eq_ok.mp h
      obtain rfl := run_set_eq_ok.mp hset
      obtain ⟨-, rfl⟩ := run_pure_eq_ok.mp h
      exact ⟨requestType, htype, hrequest, hmap, rfl⟩
    · cases h

/-- Requests of a type are the same under every instance of it. -/
theorem about_congr {db : Session} {types : PublicRequestTypeIface ι} {t u : ι}
    (h : types.getPublicRequestType u = types.getPublicRequestType t) :
    About db types objectId u a ↔ About db types objectId t a := by
  rw [About, About, h]

/-- A request is added to those of its object and type, of which none is opened should the type
cancel itself. -/
theorem lives_insert {op : CreatePublicRequest} {type : ι} {action : OnStatusAction}
    {addAuth : Nat → Table RequestAuth → Option (Table RequestAuth)} {r : Nat}
    (h : (op.insert objectId (types.getPublicRequestType type) action addAuth).run s = .ok r s')
    (hnone : CancelsItself types type →
      ¬ HasOpened s.session types.toPublicRequestTypeIface objectId s.requests type) :
    Lives types s s' := by
  obtain ⟨requestType, htype, hrequest, hmap, henum⟩ := insert_ok h
  have hmem : ∀ pr ∈ s'.requests.publicRequest, pr ∈ s.requests.publicRequest ∨
      pr = op.newRequest s.nextId requestType action :=
    fun pr hpr => (Table.mem_of_insert? hrequest).mp hpr
  have hfresh : ∀ pr ∈ s.requests.publicRequest, pr.id ≠ s.nextId :=
    (Table.insert?_eq_some.mp hrequest).1
  have hobjectOf : ∀ id, s'.session.objectOf id =
      if s.nextId = id then some objectId else s.session.objectOf id := by
    intro id
    rw [Session.objectOf, Table.lookup_of_insert? hmap]
    split
    · rename_i hid
      exact (if_pos hid).symm
    · rename_i hid
      exact (if_neg hid).symm
  have hnew : s'.session.objectOf s.nextId = some objectId := (hobjectOf _).trans (if_pos rfl)
  have htypeId : ∀ name, s'.session.typeId name = s.session.typeId name := by
    intro name
    rw [Session.typeId, henum, ← Session.typeId]
  have habout : ∀ pr ∈ s.requests.publicRequest, ∀ {id t},
      About s'.session types.toPublicRequestTypeIface id t pr ↔
        About s.session types.toPublicRequestTypeIface id t pr := by
    intro pr hpr id t
    rw [About, About, hobjectOf, if_neg (hfresh pr hpr).symm, htypeId]
  -- An opened request of a type that cancels itself is not of the type that is created.
  have hother : ∀ {id t}, CancelsItself types t → ∀ pr ∈ s.requests.publicRequest,
      pr.status = .opened → About s'.session types.toPublicRequestTypeIface id t pr →
      ¬ About s'.session types.toPublicRequestTypeIface id t
        (op.newRequest s.nextId requestType action) := by
    rintro id t ht pr hpr ho habout' ⟨hobject, htypet⟩
    obtain rfl := Option.some.inj (hnew.symm.trans hobject)
    rw [htypeId] at htypet
    have hname : types.getPublicRequestType type = types.getPublicRequestType t :=
      (name_of_typeId htype).symm.trans (name_of_typeId htypet)
    have hself : CancelsItself types type := fun t' ht' => by
      simpa [hname] using ht t' (ht'.trans hname)
    exact hnone hself ⟨pr, hpr, (about_congr hname).mpr ((habout pr hpr).mp habout'), ho⟩
  refine ⟨fun id a ha => ?_, fun hs => ⟨fun pr hpr => ?_, ?_⟩⟩
  · obtain ⟨hamem, rfl⟩ := Table.lookup_eq_some.mp ha
    refine ⟨a, Table.lookup_eq_some.mpr ⟨?_, rfl⟩, later_refl a⟩
    exact (Table.mem_of_insert? hrequest).mpr (.inl hamem)
  · rcases hmem pr hpr with hpr | rfl
    · exact hs.unresolved pr hpr
    · exact iff_of_true rfl rfl
  · intro t ht id a ha b hb habouta haboutb hoa hob
    rcases hmem a ha with ha | rfl
    · rcases hmem b hb with hb | rfl
      · exact hs.single t ht id a ha b hb ((habout a ha).mp habouta) ((habout b hb).mp haboutb) hoa hob
      · exact absurd haboutb (hother ht a ha hoa habouta)
    · rcases hmem b hb with hb | rfl
      · exact absurd habouta (hother ht b hb hob haboutb)
      · rfl

/-- What is left when the types to cancel on create were gone through. -/
theorem cancelOnCreate_ok {registrarId : Option Nat} {type : ι} {u : PUnit}
    (h : (cancelOnCreate types logRequestId depth objectId registrarId type).run s = .ok u s')
    (ht : CancelsItself types type) :
    ¬ HasOpened s'.session types.toPublicRequestTypeIface objectId s'.requests type := by
  obtain ⟨requests, hcancel, rfl⟩ := onRequests_ok h
  obtain ⟨v, hv, hname⟩ := ht type rfl
  have hop : (cancellation registrarId).status = some .invalidated := rfl
  have hclosed := (cancelTypes_closes hop _).ok hcancel
  rintro ⟨a, ha, habout, ho⟩
  exact hclosed.2 v hv ⟨a, ha, (about_congr hname).mpr habout, ho⟩

theorem moves_cancelOnCreate {registrarId : Option Nat} {type : ι} : Moves (Lives types)
    (cancelOnCreate types logRequestId depth objectId registrarId type) :=
  moves_onRequests fun _ => moves_cancelTypes (moves_update depth _) _

theorem movesFrom_insert {op : CreatePublicRequest} {type : ι} {action : OnStatusAction}
    {addAuth : Nat → Table RequestAuth → Option (Table RequestAuth)}
    (hnone : CancelsItself types type →
      ¬ HasOpened s.session types.toPublicRequestTypeIface objectId s.requests type) :
    MovesFrom (Lives types) s (op.insert objectId (types.getPublicRequestType type) action addAuth) :=
  ⟨fun _ _ h => lives_insert h hnone, fun e s' h => atomic_insert s e s' h ▸ refl_of _ s⟩

theorem moves_create {op : CreatePublicRequest} {type : ι} :
    Moves (Lives types) (op.exec types check logRequestId depth objectId type) := by
  intro s
  refine movesFrom_bind (moves_cancelOnCreate s) fun _ s₁ hcancel => ?_
  have hinsert : MovesFrom (Lives types) s₁ (do
      checkRegistrar op.registrarId
      op.insert objectId (types.getPublicRequestType type) (types.getOnStatusAction type .opened)
        fun _ publicRequestAuth => some publicRequestAuth) :=
    readOnly_checkRegistrar.movesFrom_bind fun _ => movesFrom_insert (cancelOnCreate_ok hcancel)
  cases op.emailToAnswer with
  | none => exact hinsert
  | some emailAddress => exact readOnly_checkEmailAddressFormat.movesFrom_bind fun _ => hinsert

theorem moves_createAuth {op : CreatePublicRequestAuth} {identification password : String}
    {type : ι} : Moves (Lives types)
      (op.exec types logRequestId depth identification password objectId type) := by
  intro s
  refine movesFrom_bind (moves_cancelOnCreate s) fun _ s₁ hcancel => ?_
  refine readOnly_checkRegistrar.movesFrom_bind fun _ => readOnly_get.movesFrom_bind fun s₂ => ?_
  refine movesFrom_bind (movesFrom_insert (cancelOnCreate_ok hcancel)) fun _ s₃ _ => ?_
  exact readOnly_pure.moves s₃

theorem moves_others {objects registrars mailArchive : List Nat}
    {publicRequestMessagesMap : List (Nat × Nat)} {messageArchive : Table Message} {now : Int} :
    Moves (Lives types) ((Call.others objects registrars mailArchive publicRequestMessagesMap
      messageArchive now).perform types check logRequestId depth) := by
  intro s
  constructor
  · intro u s' h
    obtain ⟨-, rfl⟩ := EStateM.Result.ok.inj h
    exact ⟨fun _ a ha => ⟨a, ha, later_refl a⟩, fun hs => ⟨hs.unresolved, hs.single⟩⟩
  · intro e s' h
    cases h

theorem moves_perform (call : Call ι) :
    Moves (Lives types) (call.perform types check logRequestId depth) := by
  cases call with
  | create op objectId type =>
    refine moves_bind readOnly_get.moves fun _ => moves_bind readOnly_raiseIf.moves fun _ => ?_
    exact moves_bind moves_create fun _ => readOnly_pure.moves
  | createAuth op identification password objectId type =>
    refine moves_bind readOnly_get.moves fun _ => moves_bind readOnly_raiseIf.moves fun _ => ?_
    exact moves_bind moves_createAuth fun _ => readOnly_pure.moves
  | update op publicRequestId type =>
    rw [Call.perform]
    refine moves_onRequests fun db => moves_bind readOnly_raiseIf.moves fun _ => ?_
    exact moves_bind (moves_update depth op publicRequestId type) fun _ => readOnly_pure.moves
  | updateAll op choices fuel objectId type =>
    rw [Call.perform]
    refine moves_onRequests fun db => ?_
    split
    · exact moves_bind (moves_loop fuel _) fun _ => readOnly_pure.moves
    · exact readOnly_throw.moves
  | others objects registrars mailArchive publicRequestMessagesMap messageArchive now =>
    exact moves_others

/-- In every run a request is unresolved exactly while it is opened, at most one request of a type
that cancels itself is opened for an object, and what becomes of a request that is not opened is not
opened either and was resolved at the same time. -/
theorem requests_live {later : Tables}
    (h : Reachable (next types check) (fun _ _ => True) (LifeCycle types) s)
    (hlater : Reachable (next types check) (fun _ _ => True) (· = s) later) :
    LifeCycle types later ∧ ∀ id a, s.requests.publicRequest.lookup id = some a →
      a.status ≠ .opened → ∃ b, later.requests.publicRequest.lookup id = some b ∧
        b.status ≠ .opened ∧ b.resolveTime = a.resolveTime := by
  have hs : LifeCycle types s := h.invariant (fun _ hs => hs) fun c s _ hs =>
    ((moves_perform c.call).outcome c.keep).lifeCycle hs
  have hlives : Lives types s later := by
    refine hlater.invariant ?_ fun c s' _ hs' => ?_
    · rintro _ rfl
      exact refl_of (Lives types) _
    · exact trans_of (Lives types) hs' ((moves_perform c.call).outcome c.keep)
  refine ⟨hlives.lifeCycle hs, fun id a ha hne => ?_⟩
  obtain ⟨b, hb, hl⟩ := hlives.continues id a ha
  exact ⟨b, hb, fun ho => hne (hl.opened ho), hl.resolveTime hne⟩

/-- One type, which cancels itself. -/
def singleType : PublicRequestTypes Unit where
  getPublicRequestType _ := "block_transfer"
  getPublicRequestTypesToCancelOnUpdate _ _ _ := []
  getOnStatusAction _ _ := .processed
  getPublicRequestTypesToCancelOnCreate _ := [()]

/-- No request yet. -/
def freshTables : Tables where
  session :=
    { enumPublicRequestType := ⟨[⟨19, "block_transfer"⟩], by decide⟩
      typeOfName := by
        intro t ht t' ht' _
        rw [List.mem_singleton.mp ht, List.mem_singleton.mp ht']
      objects := [61]
      registrars := []
      mailArchive := []
      publicRequestObjectsMap := ∅
      publicRequestMessagesMap := []
      now := 400 }
  requests := ⟨∅, ∅⟩
  publicRequestAuth := ∅
  nextId := 1
  onStatusActionDefault := .scheduled

def blockTransfer : Transaction Unit := ⟨.create ⟨none, none, none⟩ 61 (), some 5, 3, false⟩

theorem lifeCycle_freshTables : LifeCycle singleType freshTables where
  unresolved _ hpr := absurd hpr Table.not_mem_empty
  single _ _ _ _ ha := absurd ha Table.not_mem_empty

theorem requests_live_freshTables :
    LifeCycle singleType (next singleType (fun _ => true) blockTransfer
        (next singleType (fun _ => true) blockTransfer freshTables)) ∧
      ∀ id a, (next singleType (fun _ => true) blockTransfer
          freshTables).requests.publicRequest.lookup id = some a → a.status ≠ .opened →
        ∃ b, (next singleType (fun _ => true) blockTransfer (next singleType (fun _ => true)
            blockTransfer freshTables)).requests.publicRequest.lookup id = some b ∧
          b.status ≠ .opened ∧ b.resolveTime = a.resolveTime :=
  requests_live (.step blockTransfer (.init lifeCycle_freshTables) trivial)
    (.step blockTransfer (.init rfl) trivial)

/-- The second request cancels the first. -/
example : ((next singleType (fun _ => true) blockTransfer (next singleType (fun _ => true)
    blockTransfer freshTables)).requests.publicRequest.rows.map fun pr =>
      (pr.id, pr.status, pr.resolveTime)) = [(1, .invalidated, some 400), (2, .opened, none)] := by
  decide +kernel

end LibFred.PublicRequest
