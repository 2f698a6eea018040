import LibFred.Notifier.ProcessOneNotificationRequest
import LibFred.Sql.Raises

/-! What becomes of the recipients of a notification when the mailer fails. -/
namespace LibFred.Notifier

open Sql

variable {σ T : Type}

def NotificationException.reportsFailure : NotificationException → Bool
  | .failedToSendMailToRecipient _ _ => true
  | .failedToSendMail _ _ _ _ _ => true
  | _ => false

/-- Who was mailed and who was skipped are all the recipients, each of them once. -/
structure Split (recipients : Finset String) (mailed : List String) (failed : String)
    (skipped : Finset String) : Prop where
  failed : failed ∈ skipped
  disjoint : Disjoint mailed.toFinset skipped
  union : mailed.toFinset ∪ skipped = recipients.image trimCopy

variable {mailer : Manager σ} {data : EmailData} {s s' : Mailing σ} {e : NotificationException}
  {mailed addresses : List String}

/-- A call of the mailer sends the e-mail, or it does not, or it ends in another way. -/
theorem run_sendTo (mailer : Manager σ) (data : EmailData) (address : String)
    (skipped : List String) (s : Mailing σ) : ∃ s',
    ((sendTo mailer data address skipped).run s = .ok () s' ∧
      s'.sent = s.sent ++ [data.email address] ∧ s'.notSent = s.notSent) ∨
    ((sendTo mailer data address skipped).run s =
        .error (.failedToSendMailToRecipient address skipped.toFinset) s' ∧
      s'.sent = s.sent ∧ s'.notSent = s.notSent ++ [data.email address]) ∨
    ∃ what, (sendTo mailer data address skipped).run s = .error (.mailer what) s' ∧
      s'.sent = s.sent ∧ s'.notSent = s.notSent := by
  cases h : (mailer (data.email address)).run s.mailer with
  | ok tid m =>
    refine ⟨{ s with mailer := m, sent := s.sent ++ [data.email address] }, .inl ⟨?_, rfl, rfl⟩⟩
    simp only [sendTo, EStateM.run] at h ⊢
    rw [h]
  | error e m =>
    cases e with
    | notSend =>
      refine ⟨{ s with mailer := m, notSent := s.notSent ++ [data.email address] },
        .inr (.inl ⟨?_, rfl, rfl⟩)⟩
      simp only [sendTo, EStateM.run] at h ⊢
      rw [h]
    | other what =>
      refine ⟨{ s with mailer := m }, .inr (.inr ⟨what, ?_, rfl, rfl⟩)⟩
      simp only [sendTo, EStateM.run] at h ⊢
      rw [h]

/-- The addresses before the one that fails are mailed, the others are skipped. -/
theorem run_sendAll (mailer : Manager σ) (data : EmailData) (addresses : List String)
    (s : Mailing σ) : ∃ mailed rest s', addresses = mailed ++ rest ∧
    s'.sent = s.sent ++ mailed.map data.email ∧
    (((sendAll mailer data addresses).run s = .ok () s' ∧ rest = [] ∧ s'.notSent = s.notSent) ∨
    (∃ failed, (sendAll mailer data addresses).run s =
        .error (.failedToSendMailToRecipient failed rest.toFinset) s' ∧
      rest.head? = some failed ∧ s'.notSent = s.notSent ++ [data.email failed]) ∨
    ∃ what, (sendAll mailer data addresses).run s = .error (.mailer what) s' ∧
      s'.notSent = s.notSent) := by
  induction addresses generalizing s with
  | nil => exact ⟨[], [], s, rfl, by simp, .inl ⟨rfl, rfl, rfl⟩⟩
  | cons address addresses ih =>
    obtain ⟨s₁, ⟨hrun, hsent, hnot⟩ | ⟨hrun, hsent, hnot⟩ | ⟨what, hrun, hsent, hnot⟩⟩ :=
      run_sendTo mailer data address (address :: addresses) s
    · obtain ⟨mailed, rest, s', rfl, hsent', hcases⟩ := ih s₁
      have hstep : (sendAll mailer data (address :: (mailed ++ rest))).run s =
          (sendAll mailer data (mailed ++ rest)).run s₁ := run_bind_of_ok hrun
      refine ⟨address :: mailed, rest, s', rfl, ?_, ?_⟩
      · rw [hsent', hsent, List.map_cons, List.append_assoc, List.singleton_append]
      · rw [hstep, ← hnot]
        exact hcases
    · refine ⟨[], address :: addresses, s₁, rfl, by simpa using hsent, .inr (.inl ?_)⟩
      exact ⟨address, run_bind_of_error hrun, rfl, hnot⟩
    · refine ⟨[], address :: addresses, s₁, rfl, by simpa using hsent, .inr (.inr ?_)⟩
      exact ⟨what, run_bind_of_error hrun, hnot⟩

theorem nodup_trimmed (data : EmailData) : (trimmedRecipientEmailAddresses data).Nodup :=
  Finset.sort_nodup _ _

theorem toFinset_trimmed (data : EmailData) :
    (trimmedRecipientEmailAddresses data).toFinset = data.recipientEmailAddresses.image trimCopy :=
  Finset.sort_toFinset _ _

/-- A list without repetitions splits into those before a place and those from it on. -/
theorem split_of_append {rest : List String} {failed : String}
    (h : trimmedRecipientEmailAddresses data = mailed ++ rest) (hfailed : rest.head? = some failed) :
    Split data.recipientEmailAddresses mailed failed rest.toFinset where
  failed := List.mem_toFinset.mpr (List.mem_of_mem_head? hfailed)
  disjoint := by
    have hnodup := nodup_trimmed data
    rw [h] at hnodup
    exact List.disjoint_toFinset_iff_disjoint.mpr (List.disjoint_of_nodup_append hnodup)
  union := by
    rw [← List.toFinset_append, ← h, toFinset_trimmed]

theorem run_adaptExcept {ε ε' α : Type} {f : ε → ε'} {x : EStateM ε (Mailing σ) α} :
    (EStateM.adaptExcept f x).run s = match x.run s with
      | .ok a s' => .ok a s'
      | .error e s' => .error (f e) s' := by
  delta EStateM.adaptExcept
  simp only [EStateM.run]
  cases x s <;> rfl

theorem notificationRequest_error {src : Sources T} {row : NotificationQueue}
    (h : notificationRequest src row = .error e) : ¬ e.reportsFailure := by
  unfold notificationRequest at h
  split at h
  · cases h
    exact nofun
  · split at h
    · cases h
      exact nofun
    · split at h
      · cases h
      · cases h
        exact nofun

section

variable [LinearOrder T] {src : Sources T} {request : NotificationRequest}

theorem emailData_error (h : emailData src request = .error e) : ¬ e.reportsFailure := by
  unfold emailData at h
  cases hgather : src.gatherEmailAddresses request with
  | error e' =>
    rw [hgather] at h
    cases h
    exact nofun
  | ok recipients =>
    rw [hgather] at h
    cases hcontent : src.gatherEmailContent request with
    | error e' =>
      rw [hcontent] at h
      cases h
      exact nofun
    | ok parameters =>
      rw [hcontent] at h
      cases h

theorem isNotified_error (h : isNotified request data = .error e) : ¬ e.reportsFailure := by
  unfold isNotified at h
  split at h
  · cases hsent : isUpdateSent data.templateParameters with
    | error e' =>
      rw [hsent] at h
      cases h
      exact nofun
    | ok b =>
      rw [hsent] at h
      cases h
  · cases h

end

variable [LinearOrder T] {src : Sources T}

/-- Nobody is mailed twice, and a failure is reported with those it skipped. -/
structure MailedOrSkipped (src : Sources T) (x : Notify σ Bool) (s : Mailing σ) (data : EmailData)
    (mailed : List String) : Prop where
  sent : (outcome true x s).sent = s.sent ++ mailed.map data.email
  once : mailed.Nodup
  report : ((outcome true x s).notSent = s.notSent ∧ ∀ e, Raises x s e → ¬ e.reportsFailure) ∨
    ∃ request failed skipped, emailData src request = .ok data ∧
      Raises x s (.failedToSendMail request failed skipped data.templateName
        data.templateParameters) ∧
      (outcome true x s).notSent = s.notSent ++ [data.email failed] ∧
      Split data.recipientEmailAddresses mailed failed skipped

def AllMailedOrSkipped (src : Sources T) (x : Notify σ Bool) (s : Mailing σ) : Prop :=
  ∃ data mailed, MailedOrSkipped src x s data mailed

section

variable {α : Type} {x : Notify σ α} {f : α → Notify σ Bool} {a : α}

theorem outcome_bind (hrun : x.run s = .ok a s') :
    outcome true (x >>= f) s = outcome true (f a) s' := by
  simp only [outcome, run_bind_of_ok hrun]
  cases (f a).run s' <;> rfl

theorem outcome_of_error {x : Notify σ Bool} (hrun : x.run s = .error e s') :
    outcome true x s = s' := by
  simp only [outcome, hrun, if_true]

theorem mailedOrSkipped_of_ok {x : Notify σ Bool} {b : Bool} (hrun : x.run s = .ok b s')
    (hsent : s'.sent = s.sent ++ mailed.map data.email) (hnot : s'.notSent = s.notSent)
    (honce : mailed.Nodup) : MailedOrSkipped src x s data mailed where
  sent := by rw [outcome_of_ok hrun, hsent]
  once := honce
  report := by
    refine .inl ⟨by rw [outcome_of_ok hrun, hnot], fun e he => ?_⟩
    exact absurd he (not_raises_of_ok hrun)

theorem mailedOrSkipped_of_error {x : Notify σ Bool} (hrun : x.run s = .error e s')
    (hsent : s'.sent = s.sent ++ mailed.map data.email) (hnot : s'.notSent = s.notSent)
    (honce : mailed.Nodup) (he : ¬ e.reportsFailure) : MailedOrSkipped src x s data mailed where
  sent := by rw [outcome_of_error hrun, hsent]
  once := honce
  report := by
    refine .inl ⟨by rw [outcome_of_error hrun, hnot], fun e' he' => ?_⟩
    obtain rfl := (raises_of_error hrun).mp he'
    exact he

/-- Statements before the sending leave the e-mails alone. -/
theorem AllMailedOrSkipped.bind (hrun : x.run s = .ok a s') (hsent : s'.sent = s.sent)
    (hnot : s'.notSent = s.notSent) (h : AllMailedOrSkipped src (f a) s') :
    AllMailedOrSkipped src (x >>= f) s := by
  obtain ⟨data, mailed, h⟩ := h
  refine ⟨data, mailed, ?_, h.once, ?_⟩
  · rw [outcome_bind hrun, ← hsent, h.sent]
  · rw [outcome_bind hrun, ← hnot]
    simpa only [raises_bind_of_ok hrun] using h.report

theorem allMailedOrSkipped_pure (b : Bool) (s : Mailing σ) : AllMailedOrSkipped src (pure b) s :=
  ⟨⟨∅, "", ∅⟩, [], mailedOrSkipped_of_ok rfl (by simp) rfl List.nodup_nil⟩

theorem allMailedOrSkipped_of_error (hrun : x.run s = .error e s) (he : ¬ e.reportsFailure) :
    AllMailedOrSkipped src (x >>= f) s :=
  ⟨⟨∅, "", ∅⟩, [], mailedOrSkipped_of_error (run_bind_of_error hrun) (by simp) rfl List.nodup_nil he⟩

theorem allMailedOrSkipped_lift {x : Except NotificationException α}
    (herror : ∀ e, x = .error e → ¬ e.reportsFailure)
    (hok : ∀ a, x = .ok a → AllMailedOrSkipped src (f a) s) :
    AllMailedOrSkipped src (liftExcept x >>= f) s := by
  cases x with
  | ok a => exact .bind rfl rfl rfl (hok a rfl)
  | error e => exact allMailedOrSkipped_of_error rfl (herror e rfl)

end

/-- The set that is handed over through the exception is what was not mailed. -/
theorem allMailedOrSkipped_send {request : NotificationRequest} (mailer : Manager σ)
    (hdata : emailData src request = .ok data) (s : Mailing σ) : AllMailedOrSkipped src (do
      EStateM.adaptExcept (reportRequest request data) (sendEmail mailer data)
      return true) s := by
  obtain ⟨mailed, rest, s', hsplit, hsent, hcases⟩ :=
    run_sendAll mailer data (trimmedRecipientEmailAddresses data) s
  have honce : mailed.Nodup := by
    have hnodup := nodup_trimmed data
    rw [hsplit] at hnodup
    exact hnodup.of_append_left
  refine ⟨data, mailed, ?_⟩
  rcases hcases with ⟨hrun, -, hnot⟩ | ⟨failed, hrun, hfailed, hnot⟩ | ⟨what, hrun, hnot⟩
  · have hall : (EStateM.adaptExcept (reportRequest request data) (sendEmail mailer data)).run s =
        .ok () s' := by
      rw [run_adaptExcept, sendEmail, hrun]
    exact mailedOrSkipped_of_ok (run_bind_of_ok hall) hsent hnot honce
  · have hreport : (EStateM.adaptExcept (reportRequest request data) (sendEmail mailer data)).run s =
        .error (.failedToSendMail request failed rest.toFinset data.templateName
          data.templateParameters) s' := by
      rw [run_adaptExcept, sendEmail, hrun]
      rfl
    have hraised := run_bind_of_error (f := fun _ => (pure true : Notify σ Bool)) hreport
    refine ⟨?_, honce, .inr ⟨request, failed, rest.toFinset, hdata, ⟨s', hraised⟩, ?_,
      split_of_append hsplit hfailed⟩⟩
    · rw [outcome_of_error hraised, hsent]
    · rw [outcome_of_error hraised, hnot]
  · have hother : (EStateM.adaptExcept (reportRequest request data) (sendEmail mailer data)).run s =
        .error (.mailer what) s' := by
      rw [run_adaptExcept, sendEmail, hrun]
      rfl
    exact mailedOrSkipped_of_error (run_bind_of_error hother) hsent hnot honce nofun

/-- The recipients of the request were mailed, unless there was nothing to be notified of. -/
def AllMailed (src : Sources T) (row : NotificationQueue) (s s' : Mailing σ) : Prop :=
  ∃ request data notified, notificationRequest src row = .ok request ∧
    emailData src request = .ok data ∧ isNotified request data = .ok notified ∧
    s'.sent = s.sent ++
      if notified then (trimmedRecipientEmailAddresses data).map data.email else []

theorem run_liftExcept_eq_ok {α : Type} {x : Except NotificationException α} {a : α}
    (h : (liftExcept x : Notify σ α).run s = .ok a s') : x = .ok a ∧ s' = s := by
  cases x with
  | ok b =>
    cases h
    exact ⟨rfl, rfl⟩
  | error e => cases h

theorem sent_of_sendEmail {request : NotificationRequest} {u : Unit}
    (h : (EStateM.adaptExcept (reportRequest request data) (sendEmail mailer data)).run s = .ok u s') :
    s'.sent = s.sent ++ (trimmedRecipientEmailAddresses data).map data.email := by
  obtain ⟨mailed, rest, s₁, hsplit, hsent, hcases⟩ :=
    run_sendAll mailer data (trimmedRecipientEmailAddresses data) s
  rw [run_adaptExcept, sendEmail] at h
  rcases hcases with ⟨hrun, rfl, -⟩ | ⟨failed, hrun, -⟩ | ⟨what, hrun, -⟩
  · rw [hrun] at h
    cases h
    rw [hsent, hsplit, List.append_nil]
  · rw [hrun] at h
    cases h
  · rw [hrun] at h
    cases h

theorem allMailed_of_done (h : (processOneNotificationRequest mailer src).run s = .ok true s') :
    ∃ row ∈ s.queue.head?, AllMailed src row s s' := by
  obtain ⟨found, s₁, hget, h⟩ := run_bind_eq_ok.mp h
  cases hqueue : s.queue with
  | nil =>
    simp only [getNotificationToSend, EStateM.run, hqueue] at hget
    cases hget
    cases h
  | cons row rows =>
    simp only [getNotificationToSend, EStateM.run, hqueue] at hget
    split at hget
    · cases hget
    · cases hget
      obtain ⟨request, s₂, hlift, h⟩ := run_bind_eq_ok.mp h
      obtain ⟨hrequest, rfl⟩ := run_liftExcept_eq_ok hlift
      obtain ⟨data, s₃, hlift', h⟩ := run_bind_eq_ok.mp h
      obtain ⟨hdata, rfl⟩ := run_liftExcept_eq_ok hlift'
      obtain ⟨notified, s₄, hlift'', h⟩ := run_bind_eq_ok.mp h
      obtain ⟨hnotified, rfl⟩ := run_liftExcept_eq_ok hlift''
      refine ⟨row, rfl, request, data, notified, hrequest, hdata, hnotified, ?_⟩
      cases notified with
      | true =>
        obtain ⟨u, s₅, hsend, h⟩ := run_bind_eq_ok.mp h
        cases h
        have hsent := sent_of_sendEmail hsend
        exact hsent
      | false =>
        cases h
        simp

/-- Whatever the recipients are and whenever the mailer fails, those who were mailed and those who are
reported as skipped are the trimmed recipients, each of them once. A call that has done a request has
mailed all of them. -/
theorem recipients_mailed_or_skipped (mailer : Manager σ) (src : Sources T) (s : Mailing σ) :
    AllMailedOrSkipped src (processOneNotificationRequest mailer src) s ∧
      ∀ s', (processOneNotificationRequest mailer src).run s = .ok true s' →
        ∃ row ∈ s.queue.head?, AllMailed src row s s' := by
  refine ⟨?_, fun s' h => allMailed_of_done h⟩
  cases hqueue : s.queue with
  | nil =>
    have hrun : (getNotificationToSend src).run s = .ok none s := by
      simp only [getNotificationToSend, EStateM.run, hqueue]
    exact .bind hrun rfl rfl (allMailedOrSkipped_pure false s)
  | cons row rows =>
    by_cases hlocked : src.lockedByOther row
    · have hrun : (getNotificationToSend src).run s = .error .failedToLockRequest s := by
        simp only [getNotificationToSend, EStateM.run, hqueue, if_pos hlocked]
      exact allMailedOrSkipped_of_error hrun nofun
    · have hrun : (getNotificationToSend src).run s =
          .ok (some row) { s with queue := rows.filter (· ≠ row) } := by
        simp only [getNotificationToSend, EStateM.run, hqueue, if_neg hlocked]
      refine .bind hrun rfl rfl ?_
      apply allMailedOrSkipped_lift (fun e he => notificationRequest_error he)
      intro request _
      apply allMailedOrSkipped_lift (fun e he => emailData_error he)
      intro data hdata
      apply allMailedOrSkipped_lift (fun e he => isNotified_error he)
      intro notified _
      cases notified with
      | true => exact allMailedOrSkipped_send mailer hdata _
      | false => exact allMailedOrSkipped_pure true _

end LibFred.Notifier
