import LibFred.PublicRequest.Cascade
import LibFred.Sql.Moves

/-! How the update of one request ends, whatever its status was, and what is left in its row. -/
namespace LibFred.PublicRequest

open Sql

variable {ι : Type} {db : Session} {types : PublicRequestTypeIface ι} {logRequestId : Option Nat}
  {objectId id : Nat} {s s' : Requests} {t type : ι} {a b : Request} {op : UpdatePublicRequest}

/-- Nothing but messages is written before the UPDATE. -/
theorem moves_of_kept {R : Requests → Requests → Prop}
    (h : ∀ s s' : Requests, s'.publicRequest = s.publicRequest → R s s') :
    Moves R (prepareStatus db op id) := by
  intro s
  have hends : Ends (prepareStatus db op id) s (fun _ s' => s'.publicRequest = s.publicRequest)
    fun _ => False := prepareStatus_ends
  constructor
  · intro a s' hrun
    exact h s s' (hends.ok hrun)
  · intro e s' hrun
    rw [Ends, hrun] at hends
    exact hends.elim

theorem updateRow_ok {r : Result × Status}
    (h : (updateRow db types logRequestId op id type).run s = .ok r s') :
    s'.publicRequest = s.publicRequest.update (·.id = id) (op.assign db types logRequestId type) := by
  obtain ⟨_, _, hraise, h⟩ := run_bind_eq_ok.mp h
  obtain ⟨-, rfl⟩ := run_raiseIf_eq_ok.mp hraise
  obtain ⟨_, _, hget, h⟩ := run_bind_eq_ok.mp h
  obtain ⟨rfl, rfl⟩ := run_get_eq_ok.mp hget
  cases ha : s.publicRequest.lookup id with
  | none =>
    rw [ha] at h
    cases h
  | some a =>
    rw [ha] at h
    obtain ⟨_, _, hset, h⟩ := run_bind_eq_ok.mp h
    obtain rfl := run_set_eq_ok.mp hset
    obtain ⟨-, rfl⟩ := run_pure_eq_ok.mp h
    rfl

theorem atomic_updateRow : Atomic (updateRow db types logRequestId op id type) := by
  refine atomic_bind readOnly_raiseIf fun _ => atomic_bind readOnly_get fun s => ?_
  cases s.publicRequest.lookup id with
  | none => exact readOnly_throw.atomic
  | some a =>
    intro s e s' h
    cases h

/-- What is given exists, and something is to be set. -/
structure ValidValues (db : Session) (logRequestId : Option Nat) (op : UpdatePublicRequest) : Prop where
  something : ¬ op.setsNothing logRequestId
  email : ∀ e ∈ op.answerEmailId.join, e ∈ db.mailArchive
  registrar : ∀ r ∈ op.registrarId.join, r ∈ db.registrars
  status : ∀ status ∈ op.status, settable status

theorem badParams_eq_iff : op.badParams db logRequestId id = ⟨none, none, none, none, none⟩ ↔
    ValidValues db logRequestId op := by
  have hstatus : op.status.filter (¬ settable ·) = none ↔ ∀ status ∈ op.status, settable status := by
    simp [Option.filter_eq_none_iff]
  simp only [UpdatePublicRequest.badParams, UpdateException.mk.injEq, filter_notMem_eq_none,
    hstatus, ite_eq_right_iff, reduceCtorEq, imp_false, true_and]
  constructor
  · rintro ⟨hsome, hemail, hregistrar, hstatus⟩
    exact ⟨hsome, hemail, hregistrar, hstatus⟩
  · intro h
    exact ⟨h.something, h.email, h.registrar, h.status⟩

theorem ValidValues.newStatus (h : ValidValues db logRequestId op) : op.newStatus = op.status := by
  cases hstatus : op.status with
  | none => simp [UpdatePublicRequest.newStatus, hstatus]
  | some status => simp [UpdatePublicRequest.newStatus, hstatus, h.status status hstatus]

theorem ValidValues.invalidation (h : ValidValues db logRequestId op) (name : String) :
    Acceptable db (op.invalidation name) .invalidated :=
  ⟨rfl, .inr rfl, by simp [UpdatePublicRequest.invalidation], h.registrar, rfl⟩

/-- Requests that are not opened stay as they are, but for those that `p` holds of. -/
def Frozen (p : Nat → Prop) (s s' : Requests) : Prop :=
  ∀ id a, s.publicRequest.lookup id = some a → a.status ≠ .opened → ¬ p id →
    s'.publicRequest.lookup id = some a

instance frozen_refl {p : Nat → Prop} : Std.Refl (Frozen p) where
  refl _ _ _ ha _ _ := ha

instance frozen_trans {p : Nat → Prop} : IsTrans Requests (Frozen p) where
  trans _ _ _ h h' id a ha hne hp := h' id a (h id a ha hne hp) hne hp

theorem frozen_of_eq {p : Nat → Prop} (h : s'.publicRequest = s.publicRequest) : Frozen p s s' :=
  fun _ _ ha _ _ => h ▸ ha

theorem Frozen.mono {p q : Nat → Prop} (h : Frozen p s s') (hpq : ∀ id, p id → q id) :
    Frozen q s s' :=
  fun id a ha hne hq => h id a ha hne fun hp => hq (hpq id hp)

theorem frozen_updateRow : Moves (Frozen (· = id)) (updateRow db types logRequestId op id type) := by
  intro s
  refine ⟨fun r s' h => ?_, fun e s' h => atomic_updateRow s e s' h ▸ refl_of (Frozen (· = id)) s⟩
  intro id' a ha _ hne
  rw [lookup_updateRow (updateRow_ok h), if_neg hne]
  exact ha

/-- The loops find their requests opened, so that no other row changes. -/
theorem frozen_cancelTypes {invalidate : Nat → ι → Exec Result}
    (h : ∀ id t, Moves (Frozen (· = id)) (invalidate id t)) (l : List ι) :
    Moves (Frozen fun _ => False) (cancelTypes db types objectId invalidate l) := by
  refine moves_forM fun t _ s => movesFrom_bind (readOnly_get.moves s) fun s₁ s₂ hget => ?_
  obtain ⟨rfl, rfl⟩ := run_get_eq_ok.mp hget
  let p : Nat → Prop := fun id => ∃ a, s.publicRequest.lookup id = some a ∧ a.status = .opened
  have hloop : Moves (Frozen p) (((requestsOf db s objectId
      (types.getPublicRequestType t)).filter (·.status = .opened)).forM fun pr => do
        raiseIf (db.objectOf pr.id = none) (.lockOfRequest pr.id)
        let _ ← invalidate pr.id t) := by
    refine moves_forM fun pr hpr => moves_bind readOnly_raiseIf.moves fun _ => ?_
    obtain ⟨hmem, hopened⟩ := List.mem_filter.mp hpr
    have hp : ∀ id, id = pr.id → p id := by
      rintro _ rfl
      exact ⟨pr, Table.lookup_eq_some.mpr ⟨(mem_requestsOf.mp hmem).1, rfl⟩, of_decide_eq_true hopened⟩
    exact moves_bind ((h pr.id t).mono fun _ _ hs => hs.mono hp) fun _ => readOnly_pure.moves
  have hopened : ∀ {s'}, Frozen p s s' → Frozen (fun _ => False) s s' := by
    intro s' hfrozen id a ha hne _
    refine hfrozen id a ha hne ?_
    rintro ⟨a', ha', hopened⟩
    obtain rfl := Option.some.inj (ha.symm.trans ha')
    exact hne hopened
  exact ⟨fun _ _ hrun => hopened (hloop.ok hrun), fun _ _ hrun => hopened (hloop.error hrun)⟩

/-- Of the requests that are not opened an update changes its own at most. -/
theorem frozen_update (fuel : Nat) (op : UpdatePublicRequest) (id : Nat) (type : ι) :
    Moves (Frozen (· = id)) (update db types logRequestId fuel op id type) := by
  induction fuel generalizing op id type with
  | zero => exact readOnly_throw.moves
  | succ fuel ih =>
    refine moves_bind (moves_of_kept fun _ _ => frozen_of_eq) fun _ => ?_
    refine moves_bind readOnly_raiseIf.moves fun _ => ?_
    refine moves_bind frozen_updateRow fun r => ?_
    obtain ⟨result, oldStatus⟩ := r
    cases op.status with
    | none => exact readOnly_pure.moves
    | some status =>
      simp only
      split
      · exact readOnly_pure.moves
      · split
        · exact readOnly_pure.moves
        · refine moves_bind readOnly_raiseIf.moves fun _ => ?_
          refine moves_bind ((frozen_cancelTypes (ih _) _).mono fun _ _ hs => ?_) fun _ =>
            readOnly_pure.moves
          exact hs.mono fun _ h => h.elim

theorem update_ok_params {depth : Nat} {r : Result}
    (h : (update db types logRequestId depth op id type).run s = .ok r s') :
    op.badParams db logRequestId id = ⟨none, none, none, none, none⟩ ∧ ¬ op.setsTwice := by
  cases depth with
  | zero => cases h
  | succ depth =>
    rw [update] at h
    obtain ⟨_, s₁, -, h⟩ := run_bind_eq_ok.mp h
    obtain ⟨_, s₂, hraise, h⟩ := run_bind_eq_ok.mp h
    obtain ⟨hbad, rfl⟩ := run_raiseIf_eq_ok.mp hraise
    obtain ⟨_, s₃, hrow, -⟩ := run_bind_eq_ok.mp h
    rw [updateRow] at hrow
    obtain ⟨_, s₄, hraise, -⟩ := run_bind_eq_ok.mp hrow
    exact ⟨not_not.mp hbad, (run_raiseIf_eq_ok.mp hraise).1⟩

/-- After a successful update the row has the values of the SET list. -/
theorem update_ok_row {fuel : Nat} {r : Result}
    (h : (update db types logRequestId fuel op id type).run s = .ok r s')
    (ha : s.publicRequest.lookup id = some a) :
    s'.publicRequest.lookup id = some (op.assign db types logRequestId type a) := by
  cases fuel with
  | zero => cases h
  | succ fuel =>
    rw [update] at h
    obtain ⟨_, s₁, hprepare, h⟩ := run_bind_eq_ok.mp h
    obtain ⟨_, s₂, hraise, h⟩ := run_bind_eq_ok.mp h
    obtain ⟨hbad, rfl⟩ := run_raiseIf_eq_ok.mp hraise
    obtain ⟨⟨result, oldStatus⟩, s₃, hrow, h⟩ := run_bind_eq_ok.mp h
    have hvalid := badParams_eq_iff.mp (not_not.mp hbad)
    have hkept : s₁.publicRequest = s.publicRequest :=
      (moves_of_kept (R := fun s s' => s'.publicRequest = s.publicRequest) fun _ _ h => h).ok hprepare
    have hassigned : s₃.publicRequest.lookup id = some (op.assign db types logRequestId type a) := by
      rw [lookup_updateRow (updateRow_ok hrow), if_pos rfl, hkept, ha]
      rfl
    cases hstatus : op.status with
    | none =>
      rw [hstatus] at h
      obtain ⟨-, rfl⟩ := run_pure_eq_ok.mp h
      exact hassigned
    | some status =>
      rw [hstatus] at h
      simp only at h
      split at h
      · obtain ⟨-, rfl⟩ := run_pure_eq_ok.mp h
        exact hassigned
      · split at h
        · obtain ⟨-, rfl⟩ := run_pure_eq_ok.mp h
          exact hassigned
        · obtain ⟨_, s₄, hraise, h⟩ := run_bind_eq_ok.mp h
          obtain ⟨-, rfl⟩ := run_raiseIf_eq_ok.mp hraise
          obtain ⟨_, s₅, hcancel, h⟩ := run_bind_eq_ok.mp h
          obtain ⟨-, rfl⟩ := run_pure_eq_ok.mp h
          -- The request is not opened any more, so that the loops pass it by.
          have hne : (op.assign db types logRequestId type a).status ≠ .opened := by
            have hset := hvalid.status status hstatus
            rcases hset with rfl | rfl <;>
              simp [UpdatePublicRequest.assign, hvalid.newStatus, hstatus]
          exact (frozen_cancelTypes (frozen_update fuel _) _).ok hcancel id _ hassigned hne not_false

theorem openedIds_updateRow (hset : ∀ status ∈ op.newStatus, status ≠ .opened)
    (h : s'.publicRequest = s.publicRequest.update (·.id = id)
      (op.assign db types logRequestId type)) : openedIds s' ⊆ openedIds s := by
  intro id' hid'
  obtain ⟨b, hb, hopened⟩ := mem_openedIds.mp hid'
  rw [lookup_updateRow h] at hb
  split at hb
  · obtain ⟨a, ha, rfl⟩ := Option.map_eq_some_iff.mp hb
    refine mem_openedIds.mpr ⟨a, ha, ?_⟩
    cases hnew : op.newStatus with
    | none => simpa [UpdatePublicRequest.assign, hnew] using hopened
    | some status =>
      refine absurd ?_ (hset status hnew)
      simpa [UpdatePublicRequest.assign, hnew] using hopened
  · exact mem_openedIds.mpr ⟨b, hb, hopened⟩

/-- The loops end, whatever types they go on to. -/
theorem cancelTypes_invalidates (types : PublicRequestTypeIface ι) (logRequestId : Option Nat)
    (s : Requests) (hobject : objectId ∈ db.objects) (hop : Acceptable db op .invalidated) (fuel : Nat)
    (l : List ι) :
    Ends (cancelTypes db types objectId (update db types logRequestId fuel op) l) s
      (fun _ s' => Cascade db types objectId (fun _ => True) s s' ∧
        ∀ u ∈ l, ¬ HasOpened db types objectId s' u) (Short fuel s) :=
  cancelTypes_ends (update_invalidates hobject fuel op hop) (fun _ _ _ _ _ => trivial) l
    fun _ _ => trivial

/-- Once the parameters are accepted and the request exists, an update raises no exception but for
an object that cannot be locked, given that its bound is above the number of opened requests. -/
theorem update_valid_ends (types : PublicRequestTypeIface ι) (type : ι) (fuel : Nat)
    (hvalid : ValidValues db logRequestId op) (hop : ¬ op.setsTwice)
    (ha : s.publicRequest.lookup id = some a) :
    Ends (update db types logRequestId (fuel + 1) op id type) s (fun _ _ => True) fun e =>
      e = .lockOfObject ((db.objectOf id).getD 0) ∧ (db.objectOf id).getD 0 ∉ db.objects ∨
        Short fuel s e := by
  rw [update]
  refine update_begin_ends (badParams_eq_iff.mpr hvalid) hop ha fun result s₂ _ hobject _ hrows => ?_
  cases hstatus : op.status with
  | none => exact ends_pure trivial
  | some status =>
    simp only at hobject ⊢
    split
    · exact ends_pure trivial
    · split
      · exact ends_pure trivial
      · rw [hobject]
        by_cases hlock : (db.objectOf id).getD 0 ∈ db.objects
        · refine ends_bind (ends_raiseIf (Q := fun _ s₃ => s₂ = s₃) (not_not.mpr hlock) rfl)
            fun _ s₃ h => ?_
          obtain rfl := h
          have hop' := hvalid.invalidation result.publicRequestType
          refine ends_bind (Ends.mono (cancelTypes_invalidates _ _ _ hlock hop' fuel _) (fun _ _ h => h)
            fun e he => .inr (he.mono ?_)) fun _ _ _ => ends_pure trivial
          refine openedIds_updateRow (fun status hnew => ?_) hrows
          rw [hvalid.newStatus] at hnew
          rcases hvalid.status status hnew with rfl | rfl <;> simp
        · refine ends_bind (Q := fun _ _ => False) ?_ fun _ _ h => h.elim
          rw [raiseIf, if_pos hlock]
          exact ends_throw (.inl ⟨rfl, hlock⟩)

end LibFred.PublicRequest
