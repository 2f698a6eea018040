import LibFred.Poll.CreateLowCreditMessages
import LibFred.Transition

/-! A registrar is warned of a low credit once for every advance invoice. -/
namespace LibFred.Poll

open Sql
open LibFred.Credit (Account RegistrarCredit)

variable {D : Type} {db db' start : CreditDatabase D} {account : Account} {m m' : Message} {i : Invoice}

/-- A message about the credit of the registrar in the zone. -/
def IsWarning (db : CreditDatabase D) (account : Account) (m : Message) : Prop :=
  m ∈ db.message ∧ m.clid = account.registrarId ∧
    ∃ pc ∈ db.pollCredit, pc.msgid = m.id ∧ pc.zone = account.zoneId

/-- An advance invoice of the registrar in the zone. -/
def IsAdvance (db : CreditDatabase D) (account : Account) (i : Invoice) : Prop :=
  i ∈ db.invoice ∧ i.registrarId = account.registrarId ∧ i.zoneId = account.zoneId ∧
    ∃ ip ∈ db.invoicePrefix, ip.id = i.invoicePrefixId ∧ ip.typ = some 0

/-- The registrar has never been warned, or has had an advance invoice since the last warning. -/
def MayBeWarned (db : CreditDatabase D) (account : Account) : Prop :=
  (∀ m, ¬ IsWarning db account m) ∨
    ∃ i, IsAdvance db account i ∧ ∀ m, IsWarning db account m → m.crdate < i.crdate

/-- A credit that is under the limit of its zone. -/
def IsLow [LT D] (db : CreditDatabase D) (rc : RegistrarCredit D) (l : PollCreditZoneLimit D) : Prop :=
  rc ∈ db.registrarCredit ∧ l ∈ db.pollCreditZoneLimit ∧ l.zone = rc.account.zoneId ∧
    rc.credit < l.credlimit

def Due [LT D] (db : CreditDatabase D) (account : Account) : Prop :=
  (∃ rc l, IsLow db rc l ∧ rc.account = account) ∧ MayBeWarned db account

/-- New ids come from the sequence, and nothing is dated after the present. -/
structure Ready (db : CreditDatabase D) : Prop where
  message : ∀ m ∈ db.message, m.id < db.messageIdSeq ∧ m.crdate ≤ db.now
  pollCredit : ∀ pc ∈ db.pollCredit, pc.msgid < db.messageIdSeq
  invoice : ∀ i ∈ db.invoice, i.crdate ≤ db.now

/-- A message with its row of poll_credit. -/
structure Warning (D : Type) where
  account : Account
  message : Message
  pollCredit : PollCredit D

/-- The warning is about the credit and the limit as they are. -/
structure Warning.Tells [LT D] (w : Warning D) (db : CreditDatabase D) : Prop where
  clid : w.message.clid = w.account.registrarId
  crdate : w.message.crdate = db.now
  msgtype : w.message.msgtype = 1
  fresh : db.messageIdSeq ≤ w.message.id
  msgid : w.pollCredit.msgid = w.message.id
  zone : w.pollCredit.zone = w.account.zoneId
  low : ∃ rc l, IsLow db rc l ∧ rc.account = w.account ∧ w.pollCredit.credit = rc.credit ∧
    w.pollCredit.credlimit = l.credlimit

/-- A call has sent these warnings: one to everybody that is due, and no other. -/
structure Warns [LT D] (db db' : CreditDatabase D) (sent : List (Warning D)) : Prop where
  message : db'.message.rows = db.message.rows ++ sent.map (·.message)
  pollCredit : db'.pollCredit.rows = db.pollCredit.rows ++ sent.map (·.pollCredit)
  tells : ∀ w ∈ sent, w.Tells db
  once : (sent.map (·.account)).Nodup
  due : ∀ account, account ∈ sent.map (·.account) ↔ Due db account
  same : db'.now = db.now ∧ db'.invoice = db.invoice ∧ db'.invoicePrefix = db.invoicePrefix ∧
    db'.registrarCredit = db.registrarCredit ∧ db'.pollCreditZoneLimit = db.pollCreditZoneLimit

namespace CreateLowCreditMessages

theorem mem_creditMessages {pc : PollCredit D} : (m, pc) ∈ creditMessages db ↔
    m ∈ db.message ∧ pc ∈ db.pollCredit ∧ m.id = pc.msgid := by
  rw [creditMessages, mem_join, Table.mem_rows, Table.mem_rows]

/-- The time of the last warning. -/
def lastMessage (db : CreditDatabase D) (account : Account) : Option Timestamp :=
  groupMaximum (fun p => ⟨p.1.clid, p.2.zone⟩) (·.1.crdate) (creditMessages db) account

def lastInvoice (db : CreditDatabase D) (account : Account) : Option Timestamp :=
  groupMaximum (fun p => ⟨p.1.registrarId, p.1.zoneId⟩) (·.1.crdate) (advanceInvoices db) account

theorem isWarning_iff : IsWarning db account m ↔
    ∃ p ∈ creditMessages db, (⟨p.1.clid, p.2.zone⟩ : Account) = account ∧ p.1 = m := by
  constructor
  · rintro ⟨hm, hclid, pc, hpc, hid, hzone⟩
    exact ⟨(m, pc), mem_creditMessages.mpr ⟨hm, hpc, hid.symm⟩, by rw [hclid, hzone], rfl⟩
  · rintro ⟨⟨m, pc⟩, hp, rfl, rfl⟩
    obtain ⟨hm, hpc, hid⟩ := mem_creditMessages.mp hp
    exact ⟨hm, rfl, pc, hpc, hid.symm, rfl⟩

theorem isAdvance_iff : IsAdvance db account i ↔
    ∃ p ∈ advanceInvoices db, (⟨p.1.registrarId, p.1.zoneId⟩ : Account) = account ∧ p.1 = i := by
  constructor
  · rintro ⟨hi, hregistrar, hzone, ip, hip, hid, htyp⟩
    exact ⟨(i, ip), mem_join.mpr ⟨hi, hip, hid.symm, htyp⟩, by rw [hregistrar, hzone], rfl⟩
  · rintro ⟨⟨i, ip⟩, hp, rfl, rfl⟩
    obtain ⟨hi, hip, hid, htyp⟩ := mem_join.mp hp
    exact ⟨hi, rfl, rfl, ip, hip, hid.symm, htyp⟩

/-- The condition on the two maxima. -/
theorem mayBeWarned_iff : MayBeWarned db account ↔
    ((isNull (lastMessage db account)).or
      (Sql.lt (lastMessage db account) (lastInvoice db account))).holds := by
  have hsome : ∀ t, lastMessage db account = some t ↔
      (∃ m, IsWarning db account m ∧ m.crdate = t) ∧ ∀ m, IsWarning db account m → m.crdate ≤ t :=
    fun t => groupMaximum_of_eq_some Message.crdate fun m => isWarning_iff
  have hpaid : ∀ t, lastInvoice db account = some t ↔
      (∃ i, IsAdvance db account i ∧ i.crdate = t) ∧ ∀ i, IsAdvance db account i → i.crdate ≤ t :=
    fun t => groupMaximum_of_eq_some Invoice.crdate fun i => isAdvance_iff
  rw [Truth.holds_or, holds_isNull, holds_lt, MayBeWarned]
  cases hlast : lastMessage db account with
  | none =>
    have hnone : ∀ m, ¬ IsWarning db account m :=
      (groupMaximum_of_eq_none Message.crdate fun m => isWarning_iff).mp hlast
    exact ⟨fun _ => .inl rfl, fun _ => .inl hnone⟩
  | some last =>
    obtain ⟨⟨m, hm, hdate⟩, hmax⟩ := (hsome last).mp hlast
    constructor
    · rintro (hnone | ⟨i, hi, hafter⟩)
      · exact absurd hm (hnone m)
      · cases hinvoice : lastInvoice db account with
        | none =>
          exact absurd hi ((groupMaximum_of_eq_none Invoice.crdate
            fun i => isAdvance_iff).mp hinvoice i)
        | some paid =>
          have hlt : last < paid := hdate ▸ (hafter m hm).trans_le (((hpaid paid).mp hinvoice).2 i hi)
          exact .inr ⟨last, paid, rfl, rfl, hlt⟩
    · rintro (hnull | ⟨x, paid, hx, hinvoice, hlt⟩)
      · cases hnull
      · cases hx
        obtain ⟨⟨i, hi, rfl⟩, -⟩ := (hpaid paid).mp hinvoice
        exact .inr ⟨i, hi, fun m hm => (hmax m hm).trans_lt hlt⟩

theorem creditRows_eq : creditRows db =
    (join (fun rc (l : PollCreditZoneLimit D) => rc.account.zoneId = l.zone)
      db.registrarCredit.rows db.pollCreditZoneLimit.rows).map fun c =>
        ((c, (lastMessage db c.1.account).map (c.1.account, ·)),
          (lastInvoice db c.1.account).map (c.1.account, ·)) := by
  unfold creditRows
  dsimp only
  rw [tmpMessage, tmpInvoice, leftJoin_groupMax, leftJoin_groupMax, List.map_map]
  rfl

variable [LT D] [DecidableLT D]

theorem map_fst_tmpPollCredit : (tmpPollCredit db).map (·.1) =
    (join (fun rc (l : PollCreditZoneLimit D) => rc.account.zoneId = l.zone)
      db.registrarCredit.rows db.pollCreditZoneLimit.rows).filter fun c =>
        c.1.credit < c.2.credlimit ∧ ((isNull (lastMessage db c.1.account)).or
          (Sql.lt (lastMessage db c.1.account) (lastInvoice db c.1.account))).holds := by
  rw [tmpPollCredit, creditRows_eq, List.filter_map,
    List.zipIdx_map_fst, List.map_map]
  have hid : ((·.1.1) ∘ fun c : RegistrarCredit D × PollCreditZoneLimit D =>
      ((c, (lastMessage db c.1.account).map (c.1.account, ·)),
        (lastInvoice db c.1.account).map (c.1.account, ·)) : _ → RegistrarCredit D × PollCreditZoneLimit D) =
      id := rfl
  rw [hid, List.map_id]
  refine List.filter_congr fun c _ => ?_
  simp [Function.comp_def]

/-- The credits that are chosen are the low ones whose registrars may be warned. -/
theorem mem_chosen {c : RegistrarCredit D × PollCreditZoneLimit D} :
    c ∈ (tmpPollCredit db).map (·.1) ↔ IsLow db c.1 c.2 ∧ MayBeWarned db c.1.account := by
  obtain ⟨rc, l⟩ := c
  rw [map_fst_tmpPollCredit, List.mem_filter, mem_join, decide_eq_true_eq, ← mayBeWarned_iff, IsLow,
    Table.mem_rows, Table.mem_rows]
  constructor
  · rintro ⟨⟨hrc, hl, hzone⟩, hlow, hmay⟩
    exact ⟨⟨hrc, hl, hzone.symm, hlow⟩, hmay⟩
  · rintro ⟨⟨hrc, hl, hzone, hlow⟩, hmay⟩
    exact ⟨⟨hrc, hl, hzone.symm⟩, hlow, hmay⟩

/-- An account has one credit, and its zone one limit. -/
theorem nodup_accounts : ((tmpPollCredit db).map (·.1.1.account)).Nodup := by
  have hnodup : ((tmpPollCredit db).map (·.1)).Nodup := by
    rw [map_fst_tmpPollCredit]
    exact (nodup_join db.registrarCredit.nodup_rows db.pollCreditZoneLimit.nodup_rows).filter _
  have haccounts : (((tmpPollCredit db).map (·.1)).map fun c => c.1.account).Nodup := by
    refine hnodup.map_on fun c hc c' hc' haccount => ?_
    obtain ⟨⟨hrc, hl, hzone, -⟩, -⟩ := mem_chosen.mp hc
    obtain ⟨⟨hrc', hl', hzone', -⟩, -⟩ := mem_chosen.mp hc'
    exact Prod.ext (Table.eq_of_key_eq hrc hrc' haccount)
      (Table.eq_of_key_eq hl hl' (by
        change c.2.zone = c'.2.zone
        rw [hzone, hzone', haccount]))
  rwa [List.map_map] at haccounts

/-- The warning that a row of tmp_poll_credit becomes. -/
def warning (now : Timestamp) (row : (RegistrarCredit D × PollCreditZoneLimit D) × Nat) : Warning D where
  account := row.1.1.account
  message := newMessage now row
  pollCredit := newPollCredit row

theorem warning_tells {row : (RegistrarCredit D × PollCreditZoneLimit D) × Nat}
    (hrow : row ∈ tmpPollCredit db) : (warning db.now row).Tells db := by
  have hlow := (mem_chosen.mp (List.mem_map_of_mem (f := (·.1)) hrow)).1
  have hid : db.messageIdSeq ≤ row.2 := by
    rw [tmpPollCredit] at hrow
    exact List.le_snd_of_mem_zipIdx hrow
  exact ⟨rfl, rfl, rfl, hid, rfl, rfl, row.1.1, row.1.2, hlow, rfl, rfl, rfl⟩

theorem tmpPollCredit_ids : (∀ row ∈ tmpPollCredit db, row.2 < db.messageIdSeq + (tmpPollCredit db).length) ∧
    ((tmpPollCredit db).map (·.2)).Nodup := by
  constructor
  · intro row hrow
    have hlt := List.snd_lt_add_of_mem_zipIdx hrow
    rwa [← List.length_zipIdx] at hlt
  · rw [tmpPollCredit, List.zipIdx_map_snd]
    exact List.nodup_range'

/-- From a state in order a call warns everybody that is due, and leaves a state in order. -/
theorem exec_warns (hready : Ready db) :
    ∃ sent db', (exec : EStateM Exception (CreditDatabase D) Nat).run db = .ok sent.length db' ∧
      Warns db db' sent ∧ Ready db' := by
  obtain ⟨hlt, hnodup⟩ : (∀ row ∈ tmpPollCredit db, row.2 < db.messageIdSeq + (tmpPollCredit db).length) ∧
      ((tmpPollCredit db).map (·.2)).Nodup := tmpPollCredit_ids
  have htells : ∀ row ∈ tmpPollCredit db, (warning db.now row).Tells db := fun row => warning_tells
  obtain ⟨message, hmessage⟩ : ∃ message,
      db.message.insertAll? ((tmpPollCredit db).map (newMessage db.now)) = some message := by
    refine Table.exists_insertAll? (fun m hm m' hm' => ?_) (by rw [List.map_map]; exact hnodup)
    obtain ⟨row, hrow, rfl⟩ := List.mem_map.mp hm'
    exact ((hready.message m hm).1.trans_le (htells row hrow).fresh).ne
  obtain ⟨pollCredit, hpollCredit⟩ : ∃ pollCredit,
      db.pollCredit.insertAll? ((tmpPollCredit db).map newPollCredit) = some pollCredit := by
    refine Table.exists_insertAll? (fun pc hpc pc' hpc' => ?_) (by rw [List.map_map]; exact hnodup)
    obtain ⟨row, hrow, rfl⟩ := List.mem_map.mp hpc'
    exact ((hready.pollCredit pc hpc).trans_le (htells row hrow).fresh).ne
  let db' : CreditDatabase D := { db with
    message := message
    messageIdSeq := db.messageIdSeq + (tmpPollCredit db).length
    pollCredit := pollCredit }
  refine ⟨(tmpPollCredit db).map (warning db.now), db', ?_, ⟨?_, ?_, ?_, ?_, ?_, ?_⟩, ⟨?_, ?_, ?_⟩⟩
  · rw [exec, run_bind_of_ok (EStateM.run_get db)]
    dsimp only
    rw [hmessage, hpollCredit, List.length_map]
    rfl
  · rw [List.map_map]
    exact Table.rows_of_insertAll? hmessage
  · rw [List.map_map]
    exact Table.rows_of_insertAll? hpollCredit
  · intro w hw
    obtain ⟨row, hrow, rfl⟩ := List.mem_map.mp hw
    exact htells row hrow
  · rw [List.map_map]
    exact nodup_accounts
  · intro account
    rw [List.map_map]
    constructor
    · intro hmem
      obtain ⟨row, hrow, rfl⟩ := List.mem_map.mp hmem
      obtain ⟨hlow, hmay⟩ := mem_chosen.mp (List.mem_map_of_mem (f := (·.1)) hrow)
      exact ⟨⟨row.1.1, row.1.2, hlow, rfl⟩, hmay⟩
    · rintro ⟨⟨rc, l, hlow, rfl⟩, hmay⟩
      have hchosen : (rc, l) ∈ (tmpPollCredit db).map (·.1) := mem_chosen.mpr ⟨hlow, hmay⟩
      obtain ⟨row, hrow, hfst⟩ := List.mem_map.mp hchosen
      exact List.mem_map.mpr ⟨row, hrow, congrArg (·.1.account) hfst⟩
  · exact ⟨rfl, rfl, rfl, rfl, rfl⟩
  · intro m hm
    rcases (Table.mem_of_insertAll? hmessage).mp hm with hold | hnew
    · exact ⟨Nat.lt_add_right _ (hready.message m hold).1, (hready.message m hold).2⟩
    · obtain ⟨row, hrow, rfl⟩ := List.mem_map.mp hnew
      exact ⟨hlt row hrow, le_rfl⟩
  · intro pc hpc
    rcases (Table.mem_of_insertAll? hpollCredit).mp hpc with hold | hnew
    · exact Nat.lt_add_right _ (hready.pollCredit pc hold)
    · obtain ⟨row, hrow, rfl⟩ := List.mem_map.mp hnew
      exact hlt row hrow
  · exact hready.invoice

end CreateLowCreditMessages

section

variable [LT D]

/-- The messages of an account are those that it had and the one that a call has sent to it. -/
theorem Warns.isWarning_iff {sent : List (Warning D)} (h : Warns db db' sent) (hready : Ready db) :
    IsWarning db' account m ↔
      IsWarning db account m ∨ ∃ w ∈ sent, w.account = account ∧ w.message = m := by
  have hmessage : m ∈ db'.message ↔ m ∈ db.message ∨ m ∈ sent.map (·.message) := by
    rw [← Table.mem_rows, h.message, List.mem_append, Table.mem_rows]
  have hpollCredit : ∀ pc, pc ∈ db'.pollCredit ↔ pc ∈ db.pollCredit ∨ pc ∈ sent.map (·.pollCredit) := by
    intro pc
    rw [← Table.mem_rows, h.pollCredit, List.mem_append, Table.mem_rows]
  constructor
  · rintro ⟨hmem, hclid, pc, hpc, hid, hzone⟩
    rcases hmessage.mp hmem with hm | hm <;> rcases (hpollCredit pc).mp hpc with hpc | hpc
    · exact .inl ⟨hm, hclid, pc, hpc, hid, hzone⟩
    · obtain ⟨w, hw, rfl⟩ := List.mem_map.mp hpc
      have hfresh := (h.tells w hw).fresh
      rw [← (h.tells w hw).msgid, hid] at hfresh
      exact absurd (hready.message m hm).1 (not_lt.mpr hfresh)
    · obtain ⟨w, hw, rfl⟩ := List.mem_map.mp hm
      have hfresh := (h.tells w hw).fresh
      rw [← hid] at hfresh
      exact absurd (hready.pollCredit pc hpc) (not_lt.mpr hfresh)
    · obtain ⟨w, hw, rfl⟩ := List.mem_map.mp hm
      obtain ⟨w', hw', rfl⟩ := List.mem_map.mp hpc
      -- the two rows have one id, so that they are of one warning
      have hsame : w'.message = w.message := by
        refine Table.eq_of_key_eq (t := db'.message) ?_ hmem ((h.tells w' hw').msgid.symm.trans hid)
        rw [← Table.mem_rows, h.message]
        exact List.mem_append_right _ (List.mem_map_of_mem hw')
      have hclid' : w'.account.registrarId = account.registrarId := by
        rw [← (h.tells w' hw').clid, hsame, hclid]
      have hzone' : w'.account.zoneId = account.zoneId := (h.tells w' hw').zone.symm.trans hzone
      exact .inr ⟨w', hw', congrArg₂ Account.mk hclid' hzone', hsame⟩
  · rintro (⟨hm, hclid, pc, hpc, hid, hzone⟩ | ⟨w, hw, rfl, rfl⟩)
    · exact ⟨hmessage.mpr (.inl hm), hclid, pc, (hpollCredit pc).mpr (.inl hpc), hid, hzone⟩
    · have htells := h.tells w hw
      exact ⟨hmessage.mpr (.inr (List.mem_map_of_mem hw)), htells.clid, w.pollCredit,
        (hpollCredit _).mpr (.inr (List.mem_map_of_mem hw)), htells.msgid, htells.zone⟩

theorem Warns.isAdvance_iff {sent : List (Warning D)} (h : Warns db db' sent) :
    IsAdvance db' account i ↔ IsAdvance db account i := by
  rw [IsAdvance, h.same.2.1, h.same.2.2.1, IsAdvance]

end

/-- What happens between two times of a run; rows of the credits and the limits are changed at will. -/
inductive CreditAction (D : Type)
  | exec
  | changeCredits (registrarCredit : Table (RegistrarCredit D))
  | changeLimits (pollCreditZoneLimit : Table (PollCreditZoneLimit D))
  | createInvoices (rows : List Invoice)

structure CreditEvent (D : Type) where
  time : Timestamp
  action : CreditAction D

/-- Times increase, and an invoice is dated when it is created. -/
def CreditEvent.Admits (e : CreditEvent D) (db : CreditDatabase D) : Prop :=
  db.now < e.time ∧ ∀ rows, e.action = .createInvoices rows → ∀ i ∈ rows, i.crdate = e.time

def CreditAction.run [LT D] [DecidableLT D] (db : CreditDatabase D) : CreditAction D → CreditDatabase D
  | .exec => transaction CreateLowCreditMessages.exec db
  | .changeCredits registrarCredit => { db with registrarCredit := registrarCredit }
  | .changeLimits pollCreditZoneLimit => { db with pollCreditZoneLimit := pollCreditZoneLimit }
  | .createInvoices rows =>
    match db.invoice.insertAll? rows with
    | some invoice => { db with invoice := invoice }
    | none => db

def CreditEvent.next [LT D] [DecidableLT D] (e : CreditEvent D) (db : CreditDatabase D) :
    CreditDatabase D :=
  e.action.run { db with now := e.time }

/-- An advance invoice that was created after one message and before the other. -/
def PaidBetween (db : CreditDatabase D) (account : Account) (m m' : Message) : Prop :=
  ∃ i, IsAdvance db account i ∧ min m.crdate m'.crdate < i.crdate ∧ i.crdate < max m.crdate m'.crdate

/-- No warning since the start is repeated without an advance invoice. -/
def NotRepeated (start db : CreditDatabase D) : Prop :=
  ∀ account m m', IsWarning db account m → IsWarning db account m' → m ≠ m' →
    (m ∉ start.message ∨ m' ∉ start.message) → PaidBetween db account m m'

theorem Ready.advance (h : Ready db) {t : Timestamp} (ht : db.now < t) : Ready { db with now := t } where
  message m hm := ⟨(h.message m hm).1, (h.message m hm).2.trans ht.le⟩
  pollCredit := h.pollCredit
  invoice i hi := (h.invoice i hi).trans ht.le

theorem PaidBetween.symm (h : PaidBetween db account m m') : PaidBetween db account m' m := by
  obtain ⟨i, hi, hafter, hbefore⟩ := h
  exact ⟨i, hi, by rwa [min_comm], by rwa [max_comm]⟩

/-- What happens to other tables than those of the messages, and invoices that are added, repeat
nothing. -/
theorem NotRepeated.mono (h : NotRepeated start db) (hmessage : db'.message = db.message)
    (hpollCredit : db'.pollCredit = db.pollCredit)
    (hadvance : ∀ account i, IsAdvance db account i → IsAdvance db' account i) :
    NotRepeated start db' := by
  intro account m m' hm hm' hne hnew
  rw [IsWarning, hmessage, hpollCredit] at hm hm'
  obtain ⟨i, hi, hbetween⟩ := h account m m' hm hm' hne hnew
  exact ⟨i, hadvance account i hi, hbetween⟩

/-- Two states that say the same about the registrar in the zone. -/
structure AgreeOn (account : Account) (db db' : CreditDatabase D) : Prop where
  credit : ∀ d, (∃ rc ∈ db.registrarCredit, rc.account = account ∧ rc.credit = d) ↔
    ∃ rc ∈ db'.registrarCredit, rc.account = account ∧ rc.credit = d
  limit : ∀ d, (∃ l ∈ db.pollCreditZoneLimit, l.zone = account.zoneId ∧ l.credlimit = d) ↔
    ∃ l ∈ db'.pollCreditZoneLimit, l.zone = account.zoneId ∧ l.credlimit = d
  warned : ∀ t, (∃ m, IsWarning db account m ∧ m.crdate = t) ↔
    ∃ m, IsWarning db' account m ∧ m.crdate = t
  paid : ∀ t, (∃ i, IsAdvance db account i ∧ i.crdate = t) ↔
    ∃ i, IsAdvance db' account i ∧ i.crdate = t

theorem AgreeOn.symm (h : AgreeOn account db db') : AgreeOn account db' db :=
  ⟨fun d => (h.credit d).symm, fun d => (h.limit d).symm, fun t => (h.warned t).symm,
    fun t => (h.paid t).symm⟩

variable [LT D]

/-- A call comes after everything, and only warns an account again that has had an invoice since. -/
theorem NotRepeated.warns {t : Timestamp} {sent : List (Warning D)} (h : NotRepeated start db)
    (hready : Ready db) (ht : db.now < t) (hwarns : Warns { db with now := t } db' sent) :
    NotRepeated start db' := by
  have hready' := hready.advance ht
  -- an older message and one of the call
  have hpaid : ∀ {account m w}, IsWarning db account m → w ∈ sent → w.account = account →
      PaidBetween db' account m w.message := by
    rintro account m w hm hw rfl
    have hcrdate : w.message.crdate = t := (hwarns.tells w hw).crdate
    have hdue := (hwarns.due w.account).mp (List.mem_map_of_mem hw)
    rcases hdue.2 with hnever | ⟨i, hi, hafter⟩
    · exact absurd hm (hnever m)
    · refine ⟨i, hwarns.isAdvance_iff.mpr hi, ?_, ?_⟩
      · exact (min_le_left _ _).trans_lt (hafter m hm)
      · rw [hcrdate]
        exact ((hready.invoice i hi.1).trans_lt ht).trans_le (le_max_right _ _)
  intro account m m' hm hm' hne hnew
  rcases (hwarns.isWarning_iff hready').mp hm with hm | ⟨w, hw, haccount, rfl⟩ <;>
    rcases (hwarns.isWarning_iff hready').mp hm' with hm' | ⟨w', hw', haccount', rfl⟩
  · obtain ⟨i, hi, hbetween⟩ := h account m m' hm hm' hne hnew
    exact ⟨i, hwarns.isAdvance_iff.mpr hi, hbetween⟩
  · exact hpaid hm hw' haccount'
  · exact (hpaid hm' hw haccount).symm
  · have hsame : w = w' :=
      List.inj_on_of_nodup_map hwarns.once hw hw' (haccount.trans haccount'.symm)
    exact absurd (congrArg Warning.message hsame) hne

theorem AgreeOn.due (h : AgreeOn account db db') (hdue : Due db account) : Due db' account := by
  obtain ⟨⟨rc, l, ⟨hrc, hl, hzone, hlow⟩, rfl⟩, hmay⟩ := hdue
  obtain ⟨rc', hrc', haccount, hcredit⟩ := (h.credit rc.credit).mp ⟨rc, hrc, rfl, rfl⟩
  obtain ⟨l', hl', hzone', hlimit⟩ := (h.limit l.credlimit).mp ⟨l, hl, hzone, rfl⟩
  refine ⟨⟨rc', l', ⟨hrc', hl', by rw [hzone', haccount], by rwa [hcredit, hlimit]⟩, haccount⟩, ?_⟩
  rcases hmay with hnever | ⟨i, hi, hafter⟩
  · refine .inl fun m hm => ?_
    obtain ⟨m₀, hm₀, -⟩ := (h.warned m.crdate).mpr ⟨m, hm, rfl⟩
    exact hnever m₀ hm₀
  · obtain ⟨i', hi', hdate⟩ := (h.paid i.crdate).mp ⟨i, hi, rfl⟩
    refine .inr ⟨i', hi', fun m hm => ?_⟩
    obtain ⟨m₀, hm₀, hdate₀⟩ := (h.warned m.crdate).mpr ⟨m, hm, rfl⟩
    rw [hdate, ← hdate₀]
    exact hafter m₀ hm₀

variable [DecidableLT D]

theorem CreditEvent.next_ready {e : CreditEvent D} (hadmits : e.Admits db) (hready : Ready db)
    (h : NotRepeated start db) : Ready (e.next db) ∧ NotRepeated start (e.next db) := by
  obtain ⟨t, action⟩ := e
  obtain ⟨ht, hdated⟩ := hadmits
  have hready' : Ready { db with now := t } := hready.advance ht
  simp only [next]
  cases action with
  | exec =>
    obtain ⟨sent, db', hrun, hwarns, hafter⟩ := CreateLowCreditMessages.exec_warns hready'
    rw [CreditAction.run, transaction_of_ok hrun]
    exact ⟨hafter, h.warns hready ht hwarns⟩
  | changeCredits registrarCredit =>
    exact ⟨⟨hready'.message, hready'.pollCredit, hready'.invoice⟩, h.mono rfl rfl fun _ _ hi => hi⟩
  | changeLimits pollCreditZoneLimit =>
    exact ⟨⟨hready'.message, hready'.pollCredit, hready'.invoice⟩, h.mono rfl rfl fun _ _ hi => hi⟩
  | createInvoices rows =>
    rw [CreditAction.run]
    cases hinvoice : db.invoice.insertAll? rows with
    | none => exact ⟨hready', h.mono rfl rfl fun _ _ hi => hi⟩
    | some invoice =>
      refine ⟨⟨hready'.message, hready'.pollCredit, fun i hi => ?_⟩, h.mono rfl rfl fun _ i hi => ?_⟩
      · rcases (Table.mem_of_insertAll? hinvoice).mp hi with hold | hnew
        · exact hready'.invoice i hold
        · exact (hdated rows rfl i hnew).le
      · exact ⟨(Table.mem_of_insertAll? hinvoice).mpr (.inl hi.1), hi.2⟩

theorem run_notRepeated (hstart : Ready start)
    (h : Transition.Reachable CreditEvent.next CreditEvent.Admits (· = start) db) :
    Ready db ∧ NotRepeated start db := by
  refine h.invariant (I := fun db => Ready db ∧ NotRepeated start db) ?_ ?_
  · rintro _ rfl
    exact ⟨hstart, fun account m m' hm hm' _ hnew =>
      (hnew.elim (fun hm₀ => hm₀ hm.1) fun hm₀ => hm₀ hm'.1).elim⟩
  · rintro e db hadmits ⟨hready, hrepeated⟩
    exact e.next_ready hadmits hready hrepeated

/-- A call that is made now warns the registrar. -/
def GetsWarning (db : CreditDatabase D) (account : Account) : Prop :=
  ∃ n db' m, (CreateLowCreditMessages.exec : EStateM Exception (CreditDatabase D) Nat).run db = .ok n db' ∧
    IsWarning db' account m ∧ m ∉ db.message

theorem getsWarning_iff (hready : Ready db) : GetsWarning db account ↔ Due db account := by
  obtain ⟨sent, db', hrun, hwarns, -⟩ := CreateLowCreditMessages.exec_warns hready
  rw [← hwarns.due account]
  constructor
  · rintro ⟨n, db'', m, hrun', hm, hnew⟩
    rw [hrun] at hrun'
    cases hrun'
    rcases (hwarns.isWarning_iff hready).mp hm with hold | ⟨w, hw, rfl, -⟩
    · exact absurd hold.1 hnew
    · exact List.mem_map_of_mem hw
  · intro hmem
    obtain ⟨w, hw, rfl⟩ := List.mem_map.mp hmem
    refine ⟨sent.length, db', w.message, hrun,
      (hwarns.isWarning_iff hready).mpr (.inr ⟨w, hw, rfl, rfl⟩), fun hold => ?_⟩
    exact absurd (hready.message _ hold).1 (not_lt.mpr (hwarns.tells w hw).fresh)

/-- In every run no warning is repeated without an advance invoice, and a call warns those that are due;
this depends on nothing but their own credit, limit, warnings and invoices. -/
theorem warns_once_per_advance (hstart : Ready start)
    (h : Transition.Reachable CreditEvent.next CreditEvent.Admits (· = start) db) :
    NotRepeated start db ∧
      (∀ t, db.now < t → ∃ sent db', (CreateLowCreditMessages.exec :
        EStateM Exception (CreditDatabase D) Nat).run { db with now := t } = .ok sent.length db' ∧
          Warns { db with now := t } db' sent) ∧
      ∀ account db₂, Ready db₂ → AgreeOn account db db₂ → ∀ t t₂, db.now < t → db₂.now < t₂ →
        (GetsWarning { db with now := t } account ↔ GetsWarning { db₂ with now := t₂ } account) := by
  obtain ⟨hready, hrepeated⟩ := run_notRepeated hstart h
  refine ⟨hrepeated, fun t ht => ?_, fun account db₂ hready₂ hagree t t₂ ht ht₂ => ?_⟩
  · obtain ⟨sent, db', hrun, hwarns, -⟩ := CreateLowCreditMessages.exec_warns (hready.advance ht)
    exact ⟨sent, db', hrun, hwarns⟩
  · rw [getsWarning_iff (hready.advance ht), getsWarning_iff (hready₂.advance ht₂)]
    exact ⟨hagree.due, hagree.symm.due⟩

/-- The registrar 81 has a low credit in the zone 3. -/
def lowCredit : CreditDatabase Int where
  now := 0
  message := ∅
  messageIdSeq := 1
  pollCredit := ∅
  invoice := ∅
  invoicePrefix := ⟨[⟨1, some 0⟩, ⟨2, some 1⟩], by decide⟩
  registrarCredit := ⟨[⟨1, 50, ⟨81, 3⟩⟩], by decide⟩
  pollCreditZoneLimit := ⟨[⟨3, 100⟩], by decide⟩

theorem lowCredit_ready : Ready lowCredit :=
  ⟨fun _ h => absurd h Table.not_mem_empty, fun _ h => absurd h Table.not_mem_empty,
    fun _ h => absurd h Table.not_mem_empty⟩

example : returns CreateLowCreditMessages.exec lowCredit 1 := by decide +kernel

/-- Of the calls at 5, 6, 8 and 10 only the first one and the one after the advance invoice warn. -/
def creditEvents : List (CreditEvent Int) :=
  [⟨5, .exec⟩, ⟨6, .exec⟩, ⟨7, .createInvoices [⟨1, 3, 7, 81, 2⟩]⟩, ⟨8, .exec⟩,
    ⟨9, .createInvoices [⟨2, 3, 9, 81, 1⟩]⟩, ⟨10, .exec⟩]

def warnedTwice : CreditDatabase Int := creditEvents.foldl (fun db e => e.next db) lowCredit

theorem reachable_warnedTwice :
    Transition.Reachable CreditEvent.next CreditEvent.Admits (· = lowCredit) warnedTwice := by
  refine Transition.Reachable.run_of_admits (.init rfl) fun n e hn => ⟨?_, fun rows hrows => ?_⟩
  · have hlater : ∀ n < creditEvents.length, ∀ e ∈ creditEvents[n]?,
        ((creditEvents.take n).foldl (fun db e => e.next db) lowCredit).now < e.time := by
      decide +kernel
    exact hlater n (List.getElem?_eq_some_iff.mp hn).1 e hn
  · have he : e ∈ creditEvents := List.mem_of_getElem? hn
    simp only [creditEvents, List.mem_cons, List.not_mem_nil, or_false] at he
    rcases he with rfl | rfl | rfl | rfl | rfl | rfl <;> cases hrows <;> simp

theorem lowCredit_not_repeated :
    warnedTwice.message.rows.map (·.crdate) = [5, 10] ∧ NotRepeated lowCredit warnedTwice ∧
      ∃ db', (CreateLowCreditMessages.exec : EStateM Exception (CreditDatabase Int) Nat).run
        { warnedTwice with now := 12 } = .ok 0 db' ∧ Warns { warnedTwice with now := 12 } db' [] := by
  obtain ⟨hrepeated, hwarns, -⟩ := warns_once_per_advance lowCredit_ready reachable_warnedTwice
  obtain ⟨sent, db', hrun, htells⟩ := hwarns 12 (by decide +kernel)
  have hnone : returns CreateLowCreditMessages.exec { warnedTwice with now := 12 } 0 := by
    decide +kernel
  obtain ⟨hlength, -⟩ := EStateM.Result.ok.inj (hrun.symm.trans (run_of_returns hnone))
  obtain rfl := List.length_eq_zero_iff.mp hlength
  exact ⟨by decide +kernel, hrepeated, db', hrun, htells⟩

end LibFred.Poll
