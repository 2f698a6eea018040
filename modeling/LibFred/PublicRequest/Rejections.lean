import LibFred.PublicRequest.RequestLife

/-! When a rejected update or creation of a public request has changed nothing. -/
namespace LibFred.PublicRequest

open Sql

variable {ι : Type} {db : Session} {types : PublicRequestTypeIface ι} {logRequestId : Option Nat}
  {objectId id depth : Nat} {s s' : Requests} {u type : ι} {a : Request} {op : UpdatePublicRequest}

/-- Messages of the request are stopped when it is invalidated. -/
def HasLetters (db : Session) (s : Requests) (id : Nat) : Prop :=
  (∃ pr ∈ s.publicRequest, pr.id = id ∧ pr.status = .opened) ∧
    ∃ ma ∈ s.messageArchive, (id, ma.id) ∈ db.publicRequestMessagesMap ∧
      (ma.status = .ready ∨ ma.status = .sendFailed)

/-- The email or the registrar that is given does not exist. -/
def UnknownValue (db : Session) (op : UpdatePublicRequest) : Prop :=
  (∃ e ∈ op.answerEmailId.join, e ∉ db.mailArchive) ∨ ∃ r ∈ op.registrarId.join, r ∉ db.registrars

theorem stopLetterSending_run (db : Session) (s : Requests) (id : Nat) :
    ∃ s₁, (stopLetterSending db id).run s = .ok ⟨⟩ s₁ ∧ s₁.publicRequest = s.publicRequest ∧
      (s₁ = s ↔ ¬ HasLetters db s id) := by
  refine ⟨_, rfl, rfl, ?_⟩
  have hstop : ∀ ma : Message, ma.status = .ready ∨ ma.status = .sendFailed →
      { ma with status := .noProcessing, moddate := some db.now } ≠ ma := by
    rintro ma (hready | hfailed) heq
    · have hstatus := congrArg Message.status heq
      rw [hready] at hstatus
      cases hstatus
    · have hstatus := congrArg Message.status heq
      rw [hfailed] at hstatus
      cases hstatus
  rw [show ∀ ma, ({ s with messageArchive := ma } : Requests) = s ↔ ma = s.messageArchive from
    fun ma => ⟨fun h => congrArg Requests.messageArchive h, fun h => by rw [h]⟩,
    Table.update_eq_self_iff]
  constructor
  · rintro h ⟨hopened, ma, hma, hmap, hstatus⟩
    exact hstop ma hstatus (h ma hma ⟨hopened, hmap, hstatus⟩)
  · rintro hnone ma hma ⟨hopened, hmap, hstatus⟩
    exact (hnone ⟨hopened, ma, hma, hmap, hstatus⟩).elim

theorem prepareStatus_run (db : Session) (op : UpdatePublicRequest) (s : Requests) (id : Nat) :
    ∃ s₁, (prepareStatus db op id).run s = .ok ⟨⟩ s₁ ∧ s₁.publicRequest = s.publicRequest ∧
      (s₁ = s ↔ ¬ (op.status = some .invalidated ∧ HasLetters db s id)) := by
  unfold prepareStatus
  split
  · rename_i hstatus
    obtain ⟨s₁, hrun, hkept, hsame⟩ := stopLetterSending_run db s id
    exact ⟨s₁, hrun, hkept, by rw [hsame, and_iff_right hstatus]⟩
  · rename_i hstatus
    exact ⟨s, rfl, rfl, iff_of_true rfl fun h => hstatus h.1⟩

theorem ValidValues.not_unknownValue (h : ValidValues db logRequestId op) : ¬ UnknownValue db op := by
  rintro (⟨e, he, hunknown⟩ | ⟨r, hr, hunknown⟩)
  · exact hunknown (h.email e he)
  · exact hunknown (h.registrar r hr)

/-- Nothing but an unknown value is wrong with an invalidation. -/
theorem validValues_iff (hstatus : op.status = some .invalidated) :
    ValidValues db logRequestId op ↔ ¬ UnknownValue db op := by
  refine ⟨ValidValues.not_unknownValue, fun h => ?_⟩
  simp only [UnknownValue, not_or, not_exists, not_and, not_not] at h
  refine ⟨fun hnothing => ?_, h.1, h.2, ?_⟩
  · have hnew := hnothing.1
    simp [UpdatePublicRequest.newStatus, hstatus, settable] at hnew
  · rintro status hmem
    rw [hstatus] at hmem
    obtain rfl := Option.some.inj hmem
    exact .inr rfl

/-- An update that is rejected leaves the requests and the messages as they are. -/
def UpdateKeeps (db : Session) (types : PublicRequestTypeIface ι) (logRequestId : Option Nat)
    (depth : Nat) (op : UpdatePublicRequest) (id : Nat) (type : ι) (s : Requests) : Prop :=
  ∀ e s', (update db types logRequestId depth op id type).run s = .error (.update e) s' → s' = s

/-- Bad parameters are thrown after the messages were stopped. -/
theorem update_rejected (hvalid : ¬ ValidValues db logRequestId op) (types : PublicRequestTypeIface ι)
    (type : ι) (depth : Nat) {s₁ : Requests} (hprepare : (prepareStatus db op id).run s = .ok ⟨⟩ s₁) :
    (update db types logRequestId (depth + 1) op id type).run s =
      .error (.update (op.badParams db logRequestId id)) s₁ := by
  rw [update, run_bind_of_ok hprepare]
  exact run_bind_of_error (run_raiseIf_of_pos fun h => hvalid (badParams_eq_iff.mp h))

theorem updateRow_twice (h : op.setsTwice) : (updateRow db types logRequestId op id type).run s =
    .error .sqlError s :=
  run_bind_of_error (run_raiseIf_of_pos h)

theorem updateRow_missing (htwice : ¬ op.setsTwice) (h : s.publicRequest.lookup id = none) :
    (updateRow db types logRequestId op id type).run s =
      .error (.update ⟨none, some id, none, none, none⟩) s := by
  rw [updateRow, run_bind_of_ok (run_raiseIf_of_neg htwice)]
  have hget : (get : Exec Requests).run s = .ok s s := rfl
  rw [run_bind_of_ok hget, h]
  rfl

/-- Past the check of the parameters the UPDATE decides. -/
theorem update_of_updateRow {e : PublicRequestException} {s₁ s₂ : Requests}
    (hvalid : ValidValues db logRequestId op) (hprepare : (prepareStatus db op id).run s = .ok ⟨⟩ s₁)
    (hrow : (updateRow db types logRequestId op id type).run s₁ = .error e s₂) :
    (update db types logRequestId (depth + 1) op id type).run s = .error e s₂ := by
  have hparams : ¬ op.badParams db logRequestId id ≠ ⟨none, none, none, none, none⟩ :=
    not_not.mpr (badParams_eq_iff.mpr hvalid)
  rw [update, run_bind_of_ok hprepare, run_bind_of_ok (run_raiseIf_of_neg hparams)]
  exact run_bind_of_error hrow

/-- With valid values an update is rejected only for a request that does not exist. -/
theorem updateKeeps_of_valid (hvalid : ValidValues db logRequestId op) :
    UpdateKeeps db types logRequestId (depth + 1) op id type s := by
  intro e s' h
  obtain ⟨s₁, hprepare, hkept, hsame⟩ := prepareStatus_run db op s id
  by_cases htwice : op.setsTwice
  · rw [update_of_updateRow hvalid hprepare (updateRow_twice htwice)] at h
    cases h
  · cases ha : s.publicRequest.lookup id with
    | none =>
      rw [update_of_updateRow hvalid hprepare (updateRow_missing htwice (hkept ▸ ha))] at h
      obtain ⟨-, rfl⟩ := EStateM.Result.error.inj h
      -- No message belongs to an opened request that does not exist.
      refine hsame.mpr fun hletters => ?_
      obtain ⟨pr, hpr, hid, -⟩ := hletters.2.1
      exact Table.lookup_eq_none.mp ha pr hpr hid
    | some a =>
      have hends := update_valid_ends types type depth hvalid htwice ha
      rw [Ends, h] at hends
      rcases hends with ⟨hlock, -⟩ | ⟨hfuel, -⟩
      · cases hlock
      · cases hfuel

/-- A rejected update has changed something exactly if it stopped messages before the throw. -/
theorem updateKeeps_iff (hdepth : 0 < depth) : UpdateKeeps db types logRequestId depth op id type s ↔
    ¬ (op.status = some .invalidated ∧ UnknownValue db op ∧ HasLetters db s id) := by
  obtain ⟨depth, rfl⟩ := Nat.exists_eq_add_one_of_ne_zero hdepth.ne'
  obtain ⟨s₁, hprepare, hkept, hsame⟩ := prepareStatus_run db op s id
  by_cases hvalid : ValidValues db logRequestId op
  · exact iff_of_true (updateKeeps_of_valid hvalid) fun h => hvalid.not_unknownValue h.2.1
  · have hrun := update_rejected hvalid types type depth hprepare
    have hkeeps : UpdateKeeps db types logRequestId (depth + 1) op id type s ↔ s₁ = s := by
      constructor
      · exact fun h => h _ _ hrun
      · intro heq e s' h
        rw [hrun] at h
        obtain ⟨-, rfl⟩ := EStateM.Result.error.inj h
        exact heq
    rw [hkeeps, hsame, not_iff_not]
    constructor
    · rintro ⟨hstatus, hletters⟩
      exact ⟨hstatus, not_not.mp fun h => hvalid ((validValues_iff hstatus).mpr h), hletters⟩
    · rintro ⟨hstatus, -, hletters⟩
      exact ⟨hstatus, hletters⟩

/-- Requests that the creation of one cancels are left opened. -/
def HasOld (db : Session) (types : PublicRequestTypes ι) (objectId : Nat) (type : ι) (s : Requests) :
    Prop :=
  ∃ u ∈ types.getPublicRequestTypesToCancelOnCreate type,
    HasOpened db types.toPublicRequestTypeIface objectId s u

theorem requestsOf_opened_eq_nil : (requestsOf db s objectId
    (types.getPublicRequestType u)).filter (·.status = .opened) = [] ↔
      ¬ HasOpened db types objectId s u := by
  rw [List.filter_eq_nil_iff]
  constructor
  · rintro h ⟨pr, hpr, habout, hopened⟩
    exact h pr (mem_requestsOf.mpr ⟨hpr, habout⟩) (decide_eq_true hopened)
  · intro h pr hmem hopened
    obtain ⟨hpr, habout⟩ := mem_requestsOf.mp hmem
    exact h ⟨pr, hpr, habout, of_decide_eq_true hopened⟩

/-- Without opened requests the loops do nothing. -/
theorem cancelTypes_of_none {invalidate : Nat → ι → Exec Result} {l : List ι}
    (h : ∀ u ∈ l, ¬ HasOpened db types objectId s u) :
    (cancelTypes db types objectId invalidate l).run s = .ok ⟨⟩ s := by
  induction l with
  | nil => rfl
  | cons u l ih =>
    have hu := requestsOf_opened_eq_nil.mpr (h u List.mem_cons_self)
    have hget : (get : Exec Requests).run s = .ok s s := rfl
    refine (run_bind_of_ok (a := ⟨⟩) ?_).trans (ih fun u' hu' => h u' (List.mem_cons_of_mem u hu'))
    rw [run_bind_of_ok hget, hu]
    rfl

/-- Loops that come to an end although no request can be invalidated have found none. -/
theorem not_hasOpened_of_cancelTypes {invalidate : Nat → ι → Exec Result} {l : List ι} {v : PUnit}
    (hinvalidate : ∀ id t s r s', (invalidate id t).run s ≠ .ok r s')
    (h : (cancelTypes db types objectId invalidate l).run s = .ok v s') :
    ∀ u ∈ l, ¬ HasOpened db types objectId s u := by
  induction l with
  | nil => exact fun u hu => absurd hu List.not_mem_nil
  | cons u l ih =>
    obtain ⟨_, s₁, htype, hrest⟩ := run_bind_eq_ok.mp h
    obtain ⟨_, _, hget, htype⟩ := run_bind_eq_ok.mp htype
    obtain ⟨rfl, rfl⟩ := run_get_eq_ok.mp hget
    cases hopened : (requestsOf db s objectId (types.getPublicRequestType u)).filter
        (·.status = .opened) with
    | nil =>
      rw [hopened] at htype
      obtain ⟨-, rfl⟩ := run_pure_eq_ok.mp htype
      intro u' hu'
      rcases List.mem_cons.mp hu' with rfl | hu'
      · exact requestsOf_opened_eq_nil.mp hopened
      · exact ih hrest u' hu'
    | cons pr rest =>
      rw [hopened] at htype
      obtain ⟨_, _, hone, -⟩ := run_bind_eq_ok.mp htype
      obtain ⟨_, _, -, hone⟩ := run_bind_eq_ok.mp hone
      obtain ⟨_, _, hone, -⟩ := run_bind_eq_ok.mp hone
      exact absurd hone (hinvalidate _ _ _ _ _)

variable {types : PublicRequestTypes ι} {check : String → Bool} {op : CreatePublicRequest}
  {t : Tables}

/-- An exception of the creation itself. -/
def CreateException.Own : CreateException → Prop
  | .unknownType _ => True
  | .wrongEmail _ => True
  | .unknownRegistrarId _ => True
  | .publicRequest _ => False
  | .sqlError => False

/-- What follows on the cancellation of other requests. -/
def CreatePublicRequest.finish (types : PublicRequestTypes ι) (check : String → Bool)
    (op : CreatePublicRequest) (objectId : Nat) (type : ι) : Create Nat := do
  match op.emailToAnswer with
  | none => pure ()
  | some emailAddress => checkEmailAddressFormat check emailAddress
  checkRegistrar op.registrarId
  op.insert objectId (types.getPublicRequestType type) (types.getOnStatusAction type .opened)
    fun _ publicRequestAuth => some publicRequestAuth

theorem exec_eq : op.exec types check logRequestId depth objectId type =
    (do
      cancelOnCreate types logRequestId depth objectId op.registrarId type
      op.finish types check objectId type) := rfl

/-- The email address is not accepted. -/
def WrongEmail (check : String → Bool) (op : CreatePublicRequest) : Prop :=
  ∃ emailAddress ∈ op.emailToAnswer, 255 < emailAddress.length ∨ ¬ check emailAddress

/-- What is checked when other requests have been cancelled already. -/
def Refused (types : PublicRequestTypes ι) (check : String → Bool) (op : CreatePublicRequest)
    (type : ι) (db : Session) : Prop :=
  WrongEmail check op ∨ db.typeId (types.getPublicRequestType type) = none

theorem atomic_finish : Atomic (op.finish types check objectId type) := by
  have hinsert : Atomic (do
      checkRegistrar op.registrarId
      op.insert objectId (types.getPublicRequestType type) (types.getOnStatusAction type .opened)
        fun _ publicRequestAuth => some publicRequestAuth) :=
    atomic_bind readOnly_checkRegistrar fun _ => atomic_insert
  unfold CreatePublicRequest.finish
  cases op.emailToAnswer with
  | none => exact hinsert
  | some emailAddress => exact atomic_bind readOnly_checkEmailAddressFormat fun _ => hinsert

theorem run_checkEmailAddressFormat (check : String → Bool) (emailAddress : String) (t : Tables) :
    (checkEmailAddressFormat check emailAddress).run t =
      if 255 < emailAddress.length ∨ ¬ check emailAddress then .error (.wrongEmail emailAddress) t
      else .ok () t := by
  by_cases hlength : 255 < emailAddress.length
  · rw [if_pos (.inl hlength)]
    exact run_bind_of_error (run_raiseIf_of_pos hlength)
  · refine (run_bind_of_ok (run_raiseIf_of_neg hlength)).trans ?_
    by_cases hcheck : check emailAddress
    · rw [if_neg (not_or.mpr ⟨hlength, not_not.mpr hcheck⟩)]
      exact run_raiseIf_of_neg (not_not.mpr hcheck)
    · rw [if_pos (.inr hcheck)]
      exact run_raiseIf_of_pos hcheck

theorem run_checkRegistrar {registrarId : Option Nat}
    (h : ∀ id ∈ registrarId, id ∈ t.session.registrars) : (checkRegistrar registrarId).run t = .ok () t := by
  have hget : (get : Create Tables).run t = .ok t t := rfl
  rw [checkRegistrar, run_bind_of_ok hget]
  cases registrarId with
  | none => rfl
  | some id => exact run_raiseIf_of_neg (not_not.mpr (h id rfl))

/-- The INSERT itself refuses unknown types only. -/
theorem insert_own_iff {name : String} {action : OnStatusAction}
    {addAuth : Nat → Table RequestAuth → Option (Table RequestAuth)} :
    (∃ e t', (op.insert objectId name action addAuth).run t = .error e t' ∧ e.Own) ↔
      t.session.typeId name = none := by
  have hget : (get : Create Tables).run t = .ok t t := rfl
  rw [CreatePublicRequest.insert, run_bind_of_ok hget]
  cases htype : t.session.typeId name with
  | none => exact iff_of_true ⟨.unknownType name, t, rfl, trivial⟩ rfl
  | some requestType =>
    refine iff_of_false ?_ nofun
    rintro ⟨e, t', h, hown⟩
    simp only at h
    split at h
    · cases h
    · obtain ⟨rfl, -⟩ := EStateM.Result.error.inj h
      exact hown

theorem finish_own_iff (types : PublicRequestTypes ι) (check : String → Bool) (objectId : Nat)
    (type : ι) (t : Tables) (hregistrar : ∀ id ∈ op.registrarId, id ∈ t.session.registrars) :
    (∃ e t', (op.finish types check objectId type).run t = .error e t' ∧ e.Own) ↔
      Refused types check op type t.session := by
  by_cases hemail : WrongEmail check op
  · refine iff_of_true ?_ (.inl hemail)
    obtain ⟨emailAddress, hgiven, hwrong⟩ := hemail
    refine ⟨.wrongEmail emailAddress, t, ?_, trivial⟩
    have hcheck := run_checkEmailAddressFormat check emailAddress t
    rw [if_pos hwrong] at hcheck
    rw [CreatePublicRequest.finish, Option.mem_def.mp hgiven]
    exact run_bind_of_error hcheck
  · have hpass : (op.finish types check objectId type).run t =
        (op.insert objectId (types.getPublicRequestType type) (types.getOnStatusAction type .opened)
          fun _ publicRequestAuth => some publicRequestAuth).run t := by
      have hchecked := run_bind_of_ok (f := fun _ => op.insert objectId
        (types.getPublicRequestType type) (types.getOnStatusAction type .opened)
          fun _ publicRequestAuth => some publicRequestAuth) (run_checkRegistrar hregistrar)
      rw [CreatePublicRequest.finish]
      cases hgiven : op.emailToAnswer with
      | none => exact hchecked
      | some emailAddress =>
        have hcheck := run_checkEmailAddressFormat check emailAddress t
        rw [if_neg fun hwrong => hemail ⟨emailAddress, hgiven, hwrong⟩] at hcheck
        exact (run_bind_of_ok hcheck).trans hchecked
    rw [Refused, or_iff_right hemail, hpass]
    exact insert_own_iff

/-- A creation that is rejected leaves the requests and the messages as they are. -/
def CreateKeeps (types : PublicRequestTypes ι) (check : String → Bool) (logRequestId : Option Nat)
    (depth : Nat) (op : CreatePublicRequest) (objectId : Nat) (type : ι) (t : Tables) : Prop :=
  ∀ e t', (op.exec types check logRequestId depth objectId type).run t = .error e t' → e.Own →
    t'.requests = t.requests

theorem run_onRequests {α : Type} {x : Session → Exec α} {v : α}
    (h : (x t.session).run t.requests = .ok v s) :
    (onRequests x).run t = .ok v { t with requests := s } := by
  change onRequests x t = _
  unfold onRequests
  rw [h]

theorem not_own_of_onRequests {α : Type} {x : Session → Exec α} {e : CreateException} {t' : Tables}
    (h : (onRequests x).run t = .error e t') : ¬ e.Own := by
  change onRequests x t = _ at h
  unfold onRequests at h
  split at h
  · cases h
  · obtain ⟨rfl, -⟩ := EStateM.Result.error.inj h
    exact id

/-- No request is cancelled on behalf of an unknown registrar. -/
theorem cancellation_fails {registrarId : Option Nat} (h : ¬ ∀ r ∈ registrarId, r ∈ db.registrars)
    (id : Nat) (u : ι) (s : Requests) (result : Result) (s' : Requests) :
    (update db types.toPublicRequestTypeIface logRequestId depth (cancellation registrarId) id u).run
      s ≠ .ok result s' := by
  intro hrun
  have hvalid := badParams_eq_iff.mp (update_ok_params hrun).1
  refine h fun r hr => hvalid.registrar r ?_
  rw [Option.mem_def.mp hr]
  rfl

theorem acceptable_cancellation {registrarId : Option Nat} (h : ∀ r ∈ registrarId, r ∈ db.registrars) :
    Acceptable db (cancellation registrarId) .invalidated := by
  refine ⟨rfl, .inr rfl, nofun, fun r hr => h r ?_, rfl⟩
  cases registrarId with
  | none => cases hr
  | some id => exact hr

/-- A rejected creation has changed something exactly if it cancelled requests before the throw. -/
theorem createKeeps_iff (hobject : objectId ∈ t.session.objects)
    (hdepth : (openedIds t.requests).card < depth) :
    CreateKeeps types check logRequestId depth op objectId type t ↔
      ¬ (HasOld t.session types objectId type t.requests ∧
        (∀ r ∈ op.registrarId, r ∈ t.session.registrars) ∧ Refused types check op type t.session) := by
  by_cases hold : HasOld t.session types objectId type t.requests
  · by_cases hregistrar : ∀ r ∈ op.registrarId, r ∈ t.session.registrars
    · have hends := cancelTypes_invalidates types.toPublicRequestTypeIface logRequestId t.requests
        hobject (acceptable_cancellation hregistrar) depth
        (types.getPublicRequestTypesToCancelOnCreate type)
      obtain ⟨_, s, hcancel, -, hclosed⟩ := hends.exists_ok fun e he => absurd he.2 (not_le.mpr hdepth)
      have hchanged : s ≠ t.requests := by
        rintro rfl
        obtain ⟨u, hu, hopened⟩ := hold
        exact hclosed u hu hopened
      have hrun : (op.exec types check logRequestId depth objectId type).run t =
          (op.finish types check objectId type).run { t with requests := s } :=
        run_bind_of_ok (run_onRequests hcancel)
      have hown := finish_own_iff types check objectId type { t with requests := s } hregistrar
      rw [and_iff_right hold, and_iff_right hregistrar]
      constructor
      · intro hkeeps hrefused
        obtain ⟨e, t', h, he⟩ := hown.mpr hrefused
        have hsame := hkeeps e t' (hrun.trans h) he
        rw [← atomic_finish _ e t' h] at hsame
        exact hchanged hsame
      · intro haccepted e t' h he
        exact absurd (hown.mp ⟨e, t', hrun ▸ h, he⟩) haccepted
    · refine iff_of_true (fun e t' h hown => ?_) fun h => hregistrar h.2.1
      rw [exec_eq] at h
      rcases run_bind_eq_error.mp h with hcancel | ⟨_, t₁, hcancel, -⟩
      · exact absurd hown (not_own_of_onRequests hcancel)
      · obtain ⟨requests, hcancel, -⟩ := onRequests_ok hcancel
        obtain ⟨u, hu, hopened⟩ := hold
        exact absurd hopened (not_hasOpened_of_cancelTypes (cancellation_fails hregistrar) hcancel u hu)
  · refine iff_of_true (fun e t' h hown => ?_) fun h => hold h.1
    have hnone : (cancelOnCreate types logRequestId depth objectId op.registrarId type).run t =
        .ok ⟨⟩ t :=
      run_onRequests (cancelTypes_of_none fun u hu hopened => hold ⟨u, hu, hopened⟩)
    rw [exec_eq, run_bind_of_ok hnone] at h
    rw [atomic_finish t e t' h]

/-- Rejected updates have changed nothing unless messages of an opened request were stopped on an
invalidation with an unknown email or registrar. Rejected creations have changed nothing unless
opened requests were cancelled for a known registrar, and then the email address or the type was not
accepted. -/
theorem rejected_unchanged {ι : Type} (types : PublicRequestTypes ι) (check : String → Bool)
    (logRequestId : Option Nat) (depth : Nat) (type : ι) (update : UpdatePublicRequest) (id : Nat)
    (create : CreatePublicRequest) (objectId : Nat) (t : Tables) (hobject : objectId ∈ t.session.objects)
    (hdepth : (openedIds t.requests).card < depth) :
    (UpdateKeeps t.session types.toPublicRequestTypeIface logRequestId depth update id type t.requests ↔
      ¬ (update.status = some .invalidated ∧ UnknownValue t.session update ∧
        HasLetters t.session t.requests id)) ∧
    (CreateKeeps types check logRequestId depth create objectId type t ↔
      ¬ (HasOld t.session types objectId type t.requests ∧
        (∀ r ∈ create.registrarId, r ∈ t.session.registrars) ∧
        Refused types check create type t.session)) :=
  ⟨updateKeeps_iff (Nat.zero_lt_of_lt hdepth), createKeeps_iff hobject hdepth⟩

/-- An opened request with a letter that waits to be sent. -/
def waitingTables : Tables where
  session := { freshTables.session with
    registrars := [3]
    publicRequestObjectsMap := ⟨[⟨1, 61⟩], by decide⟩
    publicRequestMessagesMap := [(1, 8)] }
  requests :=
    { publicRequest := ⟨[⟨1, 19, .opened, .processed, none, none, none, none, none, none⟩], by decide⟩
      messageArchive := ⟨[⟨8, .ready, none⟩], by decide⟩ }
  publicRequestAuth := ∅
  nextId := 2
  onStatusActionDefault := .scheduled

/-- Registrar 99 does not exist. -/
def byUnknownRegistrar (status : Status) : UpdatePublicRequest :=
  ⟨some status, none, none, none, some (some 99), none⟩

def hasAtSign (emailAddress : String) : Bool := emailAddress.toList.contains '@'

theorem rejected_unchanged_waiting :
    UpdateKeeps waitingTables.session singleType.toPublicRequestTypeIface none 2
        (byUnknownRegistrar .resolved) 1 () waitingTables.requests ∧
      CreateKeeps singleType hasAtSign none 2 ⟨none, some "holder@example.cz", some 3⟩ 61 ()
        waitingTables := by
  have h := rejected_unchanged singleType hasAtSign none 2 () (byUnknownRegistrar .resolved) 1
    ⟨none, some "holder@example.cz", some 3⟩ 61 waitingTables (by decide) (by decide)
  refine ⟨h.1.mpr fun hletters => ?_, h.2.mpr fun hrefused => ?_⟩
  · cases hletters.1
  · rcases hrefused.2.2 with ⟨emailAddress, hgiven, hwrong⟩ | htype
    · obtain rfl := Option.some.inj hgiven
      revert hwrong
      decide
    · cases htype

/-- The letter of a request is stopped, or the request itself cancelled, before the throw. -/
theorem not_rejected_unchanged :
    ¬ (∀ update, UpdateKeeps waitingTables.session singleType.toPublicRequestTypeIface none 2 update 1
        () waitingTables.requests) ∧
      ¬ ∀ create, CreateKeeps singleType hasAtSign none 2 create 61 () waitingTables := by
  constructor
  · intro h
    refine (updateKeeps_iff (by decide)).mp (h (byUnknownRegistrar .invalidated)) ⟨rfl, ?_, ?_⟩
    · exact .inr ⟨99, rfl, by decide⟩
    · exact ⟨⟨_, Table.mem_rows.mp List.mem_cons_self, rfl, rfl⟩, ⟨_, Table.mem_rows.mp List.mem_cons_self, by decide, .inl rfl⟩⟩
  · intro h
    refine (createKeeps_iff (by decide) (by decide)).mp (h ⟨none, some "nobody", none⟩) ⟨?_, nofun, ?_⟩
    · exact ⟨(), List.mem_cons_self, _, Table.mem_rows.mp List.mem_cons_self, ⟨rfl, rfl⟩, rfl⟩
    · exact .inl ⟨_, rfl, .inr (by decide)⟩

end LibFred.PublicRequest
