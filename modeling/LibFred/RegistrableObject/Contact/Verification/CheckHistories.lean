import LibFred.Order.Clusters
import LibFred.RegistrableObject.Contact.Verification.InfoContactCheck

/-! Every test of a contact check with the history of its own states. -/
namespace LibFred.Verification

open Sql Clusters

variable {T L : Type}

/-- A state that is told is that of some columns. -/
structure TellsState (localTime : T → L) (tables : Tables T) (columns : TestState T)
    (state : ContactTestResultState L) : Prop where
  statusHandle : ∃ status ∈ tables.enumContactTestStatus,
    status.id = columns.enumContactTestStatusId ∧ state.statusHandle = status.handle
  localUpdateTime : state.localUpdateTime = localTime columns.updateTime
  logdRequestId : state.logdRequestId = columns.logdRequestId
  errorMsg : state.errorMsg = columns.errorMsg

/-- The rows are all the histories of the test, each of them once, in their order. -/
structure HistoriesOf (before : ContactTestResultHistory T → ContactTestResultHistory T → Prop)
    (tables : Tables T) (testId : Nat) (histories : List (ContactTestResultHistory T)) : Prop where
  nodup : histories.Nodup
  mem : ∀ h, h ∈ histories ↔ h ∈ tables.contactTestResultHistory ∧ h.contactTestResultId = testId
  ordered : histories.Pairwise before

/-- A test is told with its own histories, in their order, and its current state behind them. -/
structure TellsTest (localTime : T → L)
    (before : ContactTestResultHistory T → ContactTestResultHistory T → Prop)
    (tables tables' : Tables T) (test : ContactTestResult T) (data : ContactTestResultData L) :
    Prop where
  testHandle : ∃ testdef ∈ tables.enumContactTest,
    testdef.id = test.enumContactTestId ∧ data.testHandle = testdef.handle
  localCreateTime : data.localCreateTime = localTime test.createTime
  stateHistory : ∃ histories states current, HistoriesOf before tables' test.id histories ∧
    data.stateHistory = states ++ [current] ∧
    List.Forall₂ (fun h => TellsState localTime tables' h.toTestState) histories states ∧
    TellsState localTime tables test.toTestState current

/-- All tests of the check are told in the order of their ids. -/
structure TellsTests (localTime : T → L)
    (before : ContactTestResultHistory T → ContactTestResultHistory T → Prop)
    (tables tables' : Tables T) (checkId : Nat) (tests : List (ContactTestResult T))
    (result : List (ContactTestResultData L)) : Prop where
  mem : ∀ test, test ∈ tests ↔ test ∈ tables.contactTestResult ∧ test.contactCheckId = checkId
  ordered : tests.Pairwise fun a b => a.id < b.id
  told : List.Forall₂ (TellsTest localTime before tables tables') tests result

variable {tables tables' : Tables T} {checkId : Nat} {row row' : TestRow T}

theorem mem_selectTests : row ∈ selectTests tables checkId ↔
    row.1.1 ∈ tables.contactTestResult ∧ row.1.1.contactCheckId = checkId ∧
      row.1.2 ∈ tables.enumContactTest ∧ row.1.1.enumContactTestId = row.1.2.id ∧
      row.2 ∈ tables.enumContactTestStatus ∧ row.1.1.enumContactTestStatusId = row.2.id := by
  obtain ⟨⟨test, testdef⟩, status⟩ := row
  rw [selectTests, Sorting.mem_sort, mem_join, mem_join, Table.mem_select]
  simp only [Table.mem_rows, and_assoc]

/-- The keys of the joined rows are those of the tests. -/
theorem eq_of_mem_selectTests (h : row ∈ selectTests tables checkId)
    (h' : row' ∈ selectTests tables checkId) (hid : row.1.1.id = row'.1.1.id) : row = row' := by
  obtain ⟨htest, -, htestdef, hdef, hstatus, hst⟩ := mem_selectTests.mp h
  obtain ⟨htest', -, htestdef', hdef', hstatus', hst'⟩ := mem_selectTests.mp h'
  have heq : row.1.1 = row'.1.1 := Table.eq_of_key_eq htest htest' hid
  refine Prod.ext (Prod.ext heq ?_) ?_
  · refine Table.eq_of_key_eq htestdef htestdef' ?_
    change row.1.2.id = row'.1.2.id
    rw [← hdef, ← hdef', heq]
  · refine Table.eq_of_key_eq hstatus hstatus' ?_
    change row.2.id = row'.2.id
    rw [← hst, ← hst', heq]

theorem nodup_selectTests : (selectTests tables checkId).Nodup := by
  refine (Sorting.perm _ _).nodup_iff.mpr (nodup_join (nodup_join ?_ ?_) ?_)
  · exact tables.contactTestResult.nodup_rows.filter _
  · exact tables.enumContactTest.nodup_rows
  · exact tables.enumContactTestStatus.nodup_rows

theorem selectTests_ordered :
    (selectTests tables checkId).Pairwise fun a b => a.1.1.id < b.1.1.id := by
  have hordered : (selectTests tables checkId).Pairwise fun a b => a.1.1.id ≤ b.1.1.id :=
    (Sorting.ordered _ _).imp fun h => by simpa using h
  refine (hordered.and nodup_selectTests).imp_of_mem fun {a b} ha hb ⟨hle, hne⟩ => ?_
  exact lt_of_le_of_ne hle fun hid => hne (eq_of_mem_selectTests ha hb hid)

variable {localTime : T → L}

theorem tellsState_testState {state : TestState T} {status : EnumContactTestStatus}
    (hmem : status ∈ tables.enumContactTestStatus)
    (hid : state.enumContactTestStatusId = status.id) :
    TellsState localTime tables state (testState localTime state status) where
  statusHandle := ⟨status, hmem, hid.symm, rfl⟩
  localUpdateTime := rfl
  logdRequestId := rfl
  errorMsg := rfl

/-- The loop over the histories takes those that come next and are of the test. -/
theorem takeStates_eq (testId : Nat) (rows : List (HistoryRow T)) :
    takeStates localTime testId rows =
      ((rows.takeWhile (·.1.contactTestResultId = testId)).map
          fun row => testState localTime row.1.toTestState row.2,
        rows.dropWhile (·.1.contactTestResultId = testId)) := by
  induction rows with
  | nil => rfl
  | cons row rows ih =>
    by_cases h : row.1.contactTestResultId = testId
    · simp [takeStates, h, ih]
    · simp [takeStates, h]

def testData (localTime : T → L) (row : TestRow T) (own : List (HistoryRow T)) :
    ContactTestResultData L where
  testHandle := row.1.2.handle
  localCreateTime := localTime row.1.1.createTime
  stateHistory := own.map (fun history => testState localTime history.1.toTestState history.2) ++
    [testState localTime row.1.1.toTestState row.2]

/-- The loop over the tests distributes the histories among them. -/
theorem collectTests_eq (tests : List (TestRow T)) (rows : List (HistoryRow T)) :
    collectTests localTime tests rows =
      (List.zipWith (testData localTime) tests
          (distribute (·.1.contactTestResultId) (tests.map (·.1.1.id)) rows).1,
        (distribute (·.1.contactTestResultId) (tests.map (·.1.1.id)) rows).2) := by
  induction tests generalizing rows with
  | nil => rfl
  | cons row tests ih =>
    simp only [collectTests, takeStates_eq, ih]
    rfl

section Histories

variable [LinearOrder L] {testIds : List Nat} {history history' : HistoryRow T}

theorem mem_selectTestHistories : history ∈ selectTestHistories localTime tables testIds ↔
    history.1 ∈ tables.contactTestResultHistory ∧ history.1.contactTestResultId ∈ testIds ∧
      history.2 ∈ tables.enumContactTestStatus ∧
      history.1.enumContactTestStatusId = history.2.id := by
  obtain ⟨h, status⟩ := history
  rw [selectTestHistories, Sorting.mem_sort, mem_join, Table.mem_select]
  simp only [Table.mem_rows, and_assoc]

theorem eq_of_mem_selectTestHistories
    (h : history ∈ selectTestHistories localTime tables testIds)
    (h' : history' ∈ selectTestHistories localTime tables testIds)
    (hid : history.1.id = history'.1.id) : history = history' := by
  obtain ⟨hmem, -, hstatus, hst⟩ := mem_selectTestHistories.mp h
  obtain ⟨hmem', -, hstatus', hst'⟩ := mem_selectTestHistories.mp h'
  have heq : history.1 = history'.1 := Table.eq_of_key_eq hmem hmem' hid
  refine Prod.ext heq (Table.eq_of_key_eq hstatus hstatus' ?_)
  change history.2.id = history'.2.id
  rw [← hst, ← hst', heq]

theorem nodup_selectTestHistories (localTime : T → L) (tables : Tables T) (testIds : List Nat) :
    (selectTestHistories localTime tables testIds).Nodup := by
  refine (Sorting.perm _ _).nodup_iff.mpr (nodup_join ?_ ?_)
  · exact tables.contactTestResultHistory.nodup_rows.filter _
  · exact tables.enumContactTestStatus.nodup_rows

theorem selectTestHistories_ordered : (selectTestHistories localTime tables testIds).Pairwise
    fun a b => historyOrder localTime a ≤ historyOrder localTime b :=
  (Sorting.ordered _ _).imp fun h => by simpa using h

theorem testId_le (h : historyOrder localTime history ≤ historyOrder localTime history') :
    history.1.contactTestResultId ≤ history'.1.contactTestResultId := by
  obtain hlt | ⟨heq, -⟩ := Prod.Lex.toLex_le_toLex.mp h
  · exact le_of_lt hlt
  · exact le_of_eq heq

/-- The order of the histories of a test, by the local time that is told. -/
def ByLocalTime (localTime : T → L) (h h' : ContactTestResultHistory T) : Prop :=
  localTime h.updateTime < localTime h'.updateTime ∨
    localTime h.updateTime = localTime h'.updateTime ∧ h.id < h'.id

theorem byLocalTime_of_le (h : historyOrder localTime history ≤ historyOrder localTime history')
    (htest : history.1.contactTestResultId = history'.1.contactTestResultId)
    (hid : history.1.id ≠ history'.1.id) : ByLocalTime localTime history.1 history'.1 := by
  obtain hlt | ⟨-, hle⟩ := Prod.Lex.toLex_le_toLex.mp h
  · exact absurd hlt (by rw [htest]; exact lt_irrefl _)
  · obtain hlt | ⟨heq, hle⟩ := Prod.Lex.toLex_le_toLex.mp hle
    · exact .inl hlt
    · exact .inr ⟨heq, lt_of_le_of_ne hle hid⟩

/-- The histories that are left are none, and each test has got its own. -/
theorem collectTests_selected : collectTests localTime (selectTests tables checkId)
    (selectTestHistories localTime tables' ((selectTests tables checkId).map (·.1.1.id))) =
      ((selectTests tables checkId).map fun row => testData localTime row
        ((selectTestHistories localTime tables' ((selectTests tables checkId).map (·.1.1.id))).filter
          (·.1.contactTestResultId = row.1.1.id)), []) := by
  rw [collectTests_eq, distribute_eq]
  · rw [List.map_map, List.zipWith_map_right, List.zipWith_self]
    rfl
  · exact selectTestHistories_ordered.imp testId_le
  · exact List.pairwise_map.mpr selectTests_ordered
  · exact fun history h => (mem_selectTestHistories.mp h).2.1

/-- The histories that a test has got are all that it has, in the order of their local time. -/
theorem historiesOf_own {testId : Nat} (hid : testId ∈ testIds) :
    HistoriesOf (ByLocalTime localTime) tables testId
      (((selectTestHistories localTime tables testIds).filter
        (·.1.contactTestResultId = testId)).map Prod.fst) where
  nodup := by
    refine List.Nodup.map_on ?_ ((nodup_selectTestHistories localTime tables testIds).filter _)
    intro a ha b hb heq
    exact eq_of_mem_selectTestHistories (List.mem_filter.mp ha).1 (List.mem_filter.mp hb).1
      (congrArg ContactTestResultHistory.id heq)
  mem h := by
    rw [List.mem_map]
    constructor
    · rintro ⟨history, hmem, rfl⟩
      obtain ⟨hselected, htest⟩ := List.mem_filter.mp hmem
      exact ⟨(mem_selectTestHistories.mp hselected).1, of_decide_eq_true htest⟩
    · rintro ⟨hmem, rfl⟩
      obtain ⟨status, hstatus, hst⟩ := tables.historyStatusKnown h hmem
      refine ⟨(h, status), List.mem_filter.mpr ⟨?_, decide_eq_true rfl⟩, rfl⟩
      exact mem_selectTestHistories.mpr ⟨hmem, hid, hstatus, hst⟩
  ordered := by
    refine List.pairwise_map.mpr ?_
    have hordered := selectTestHistories_ordered.and
      (nodup_selectTestHistories localTime tables testIds)
    refine (hordered.filter _).imp_of_mem fun {a b} ha hb ⟨hle, hne⟩ => ?_
    obtain ⟨ha, hta⟩ := List.mem_filter.mp ha
    obtain ⟨hb, htb⟩ := List.mem_filter.mp hb
    refine byLocalTime_of_le hle ?_ fun hid => hne (eq_of_mem_selectTestHistories ha hb hid)
    exact (of_decide_eq_true hta).trans (of_decide_eq_true htb).symm

/-- What is told of a test that was selected. -/
theorem tellsTest_testData (hrow : row ∈ selectTests tables checkId)
    (hid : row.1.1.id ∈ testIds) :
    TellsTest localTime (ByLocalTime localTime) tables tables' row.1.1
      (testData localTime row ((selectTestHistories localTime tables' testIds).filter
        (·.1.contactTestResultId = row.1.1.id))) := by
  obtain ⟨-, -, htestdef, hdef, hstatus, hst⟩ := mem_selectTests.mp hrow
  refine ⟨⟨row.1.2, htestdef, hdef.symm, rfl⟩, rfl, _, _, _, historiesOf_own hid, rfl, ?_,
    tellsState_testState hstatus hst⟩
  refine List.forall₂_map_left_iff.mpr (List.forall₂_map_right_iff.mpr ?_)
  refine List.forall₂_same.mpr fun history hmem => ?_
  obtain ⟨-, -, hstatus, hst⟩ := mem_selectTestHistories.mp (List.mem_filter.mp hmem).1
  exact tellsState_testState hstatus hst

end Histories

theorem getTestData_ok [LinearOrder L] (localTime : T → L) (tables tables' : Tables T)
    (checkId : Nat) : ∃ tests result, getTestData localTime tables tables' checkId = .ok result ∧
      TellsTests localTime (ByLocalTime localTime) tables tables' checkId tests result := by
  refine ⟨(selectTests tables checkId).map (·.1.1),
    (selectTests tables checkId).map fun row => testData localTime row
      ((selectTestHistories localTime tables' ((selectTests tables checkId).map (·.1.1.id))).filter
        (·.1.contactTestResultId = row.1.1.id)), ?_, ?_, ?_, ?_⟩
  · unfold getTestData
    simp only [collectTests_selected]
    by_cases hempty : (selectTests tables checkId).isEmpty
    · rw [if_pos hempty, List.isEmpty_iff.mp hempty]
      rfl
    · rw [if_neg hempty]
      rfl
  · intro test
    rw [List.mem_map]
    constructor
    · rintro ⟨row, hrow, rfl⟩
      exact ⟨(mem_selectTests.mp hrow).1, (mem_selectTests.mp hrow).2.1⟩
    · rintro ⟨hmem, hcheck⟩
      obtain ⟨testdef, htestdef, hdef⟩ := tables.testKnown test hmem
      obtain ⟨status, hstatus, hst⟩ := tables.statusKnown test hmem
      exact ⟨((test, testdef), status),
        mem_selectTests.mpr ⟨hmem, hcheck, htestdef, hdef, hstatus, hst⟩, rfl⟩
  · exact List.pairwise_map.mpr selectTests_ordered
  · refine List.forall₂_map_left_iff.mpr (List.forall₂_map_right_iff.mpr ?_)
    refine List.forall₂_same.mpr fun row hrow => ?_
    exact tellsTest_testData hrow (List.mem_map.mpr ⟨row, hrow, rfl⟩)

section Order

variable {before before' : ContactTestResultHistory T → ContactTestResultHistory T → Prop}
  {test : ContactTestResult T} {data : ContactTestResultData L}

def ContactTestResultHistory.times (h : ContactTestResultHistory T) : Nat × Nat × T :=
  (h.id, h.contactTestResultId, h.updateTime)

/-- The tests have histories of the same ids and times, whatever else these tell. -/
def SameTimes (tables tables' : Tables T) : Prop :=
  tables'.contactTestResultHistory.rows.map (·.times) = tables.contactTestResultHistory.rows.map (·.times)

theorem SameTimes.exists_times (h : SameTimes tables tables') {row : ContactTestResultHistory T}
    (hrow : row ∈ tables'.contactTestResultHistory) :
    ∃ row' ∈ tables.contactTestResultHistory, row'.times = row.times :=
  List.mem_map.mp (h ▸ List.mem_map_of_mem (f := ContactTestResultHistory.times) hrow)

/-- The order of the local times and ids of each test's histories is one of their update times. -/
def InUpdateOrder [LE T] [LinearOrder L] (localTime : T → L) (tables tables' : Tables T) (checkId : Nat) : Prop :=
  ∀ test ∈ tables.contactTestResult, test.contactCheckId = checkId →
    ∀ h ∈ tables'.contactTestResultHistory, ∀ h' ∈ tables'.contactTestResultHistory,
      h.contactTestResultId = test.id → h'.contactTestResultId = test.id →
        ByLocalTime localTime h h' → h.updateTime ≤ h'.updateTime

theorem InUpdateOrder.sameTimes [LE T] [LinearOrder L] {tables'' : Tables T}
    (h : InUpdateOrder localTime tables tables' checkId) (hsame : SameTimes tables' tables'') :
    InUpdateOrder localTime tables tables'' checkId := by
  intro test htest hcheck r hr r' hr' hown hown' hbefore
  obtain ⟨q, hq, htimes⟩ := hsame.exists_times hr
  obtain ⟨q', hq', htimes'⟩ := hsame.exists_times hr'
  simp only [ContactTestResultHistory.times, Prod.mk.injEq] at htimes htimes'
  obtain ⟨hid, htestId, htime⟩ := htimes
  obtain ⟨hid', htestId', htime'⟩ := htimes'
  rw [← htime, ← htime']
  refine h test htest hcheck q hq q' hq' (htestId.trans hown) (htestId'.trans hown') ?_
  rw [ByLocalTime, htime, htime', hid, hid']
  exact hbefore

theorem TellsTest.mono (h : TellsTest localTime before tables tables' test data)
    (himp : ∀ r ∈ tables'.contactTestResultHistory, ∀ r' ∈ tables'.contactTestResultHistory,
      r.contactTestResultId = test.id → r'.contactTestResultId = test.id → before r r' → before' r r') :
    TellsTest localTime before' tables tables' test data := by
  obtain ⟨histories, states, current, hof, hrest⟩ := h.stateHistory
  refine ⟨h.testHandle, h.localCreateTime, histories, states, current, ⟨hof.nodup, hof.mem, ?_⟩, hrest⟩
  refine hof.ordered.imp_of_mem fun {a b} ha hb hab => ?_
  obtain ⟨hmem, hown⟩ := (hof.mem a).mp ha
  obtain ⟨hmem', hown'⟩ := (hof.mem b).mp hb
  exact himp a hmem b hmem' hown hown' hab

theorem forall₂_imp_of_mem {α β : Type} {R S : α → β → Prop} {l : List α} {m : List β}
    (h : List.Forall₂ R l m) (himp : ∀ a ∈ l, ∀ b, R a b → S a b) : List.Forall₂ S l m := by
  induction h with
  | nil => exact .nil
  | cons hab _ ih =>
    exact .cons (himp _ List.mem_cons_self _ hab) (ih fun a ha => himp a (List.mem_cons_of_mem _ ha))

theorem exists_forall₂_both {α β : Type} {R S : α → β → Prop} {l : List α} {m : List β} {a : α}
    (hR : List.Forall₂ R l m) (hS : List.Forall₂ S l m) (ha : a ∈ l) : ∃ b, R a b ∧ S a b := by
  induction hR with
  | nil => cases ha
  | cons hab _ ih =>
    obtain ⟨hab', hS⟩ := List.forall₂_cons.mp hS
    rcases List.mem_cons.mp ha with rfl | ha
    · exact ⟨_, hab, hab'⟩
    · exact ih hS ha

/-- The tests of a check come in one order only. -/
theorem TellsTests.tests_eq {tests tests' : List (ContactTestResult T)}
    {result result' : List (ContactTestResultData L)} {tables'' : Tables T}
    (h : TellsTests localTime before tables tables' checkId tests result)
    (h' : TellsTests localTime before' tables tables'' checkId tests' result') : tests = tests' := by
  have hnodup : ∀ {tests : List (ContactTestResult T)}, (tests.Pairwise fun a b => a.id < b.id) →
      tests.Nodup := fun hordered => hordered.imp fun hlt heq => absurd (heq ▸ hlt) (lt_irrefl _)
  have hperm := (List.perm_ext_iff_of_nodup (hnodup h.ordered) (hnodup h'.ordered)).mpr
    fun test => (h.mem test).trans (h'.mem test).symm
  exact hperm.eq_of_pairwise (fun _ _ _ _ hlt hgt => absurd hlt (lt_asymm hgt)) h.ordered h'.ordered

/-- Every history is of a log request of its own. -/
def Numbered (tables : Tables T) : Prop :=
  ∀ h ∈ tables.contactTestResultHistory, h.logdRequestId = some h.id

theorem eq_of_forall₂ {α β : Type} {R S : α → β → Prop} {l l' : List α} {m : List β}
    (hR : List.Forall₂ R l m) (hS : List.Forall₂ S l' m)
    (heq : ∀ a ∈ l, ∀ a' ∈ l', ∀ b, R a b → S a' b → a = a') : l = l' := by
  induction hR generalizing l' with
  | nil => rw [List.forall₂_nil_right_iff.mp hS]
  | cons hab _ ih =>
    obtain ⟨a', l'', hab', hrest, rfl⟩ := List.forall₂_cons_right_iff.mp hS
    rw [heq _ List.mem_cons_self a' List.mem_cons_self _ hab hab',
      ih hrest fun a ha a' ha' => heq a (List.mem_cons_of_mem _ ha) a' (List.mem_cons_of_mem _ ha')]

/-- Numbered histories that are told alike are the same ones in the same order. -/
theorem Numbered.histories_eq (hn : Numbered tables')
    {histories histories' : List (ContactTestResultHistory T)}
    {states : List (ContactTestResultState L)} {testId : Nat}
    (hof : HistoriesOf before tables' testId histories)
    (hof' : HistoriesOf before' tables' testId histories')
    (htold : List.Forall₂ (fun h => TellsState localTime tables' h.toTestState) histories states)
    (htold' : List.Forall₂ (fun h => TellsState localTime tables' h.toTestState) histories' states) :
    histories = histories' := by
  refine eq_of_forall₂ htold htold' fun h hh h' hh' state hstate hstate' => ?_
  obtain ⟨hmem, -⟩ := (hof.mem h).mp hh
  obtain ⟨hmem', -⟩ := (hof'.mem h').mp hh'
  have hid : some h.id = some h'.id := by
    rw [← hn h hmem, ← hn h' hmem', ← hstate.logdRequestId, ← hstate'.logdRequestId]
  exact Table.eq_of_key_eq hmem hmem' (Option.some.inj hid)

theorem byLocalTime_asymm [LinearOrder L] {h h' : ContactTestResultHistory T}
    (hbefore : ByLocalTime localTime h h') : ¬ ByLocalTime localTime h' h := by
  rintro (hlt | ⟨heq, hid⟩)
  · rcases hbefore with hlt' | ⟨heq', -⟩
    · exact lt_asymm hlt hlt'
    · exact hlt.ne' heq'
  · rcases hbefore with hlt' | ⟨-, hid'⟩
    · exact hlt'.ne heq.symm
    · exact lt_asymm hid hid'

/-- Numbered histories show the order in which they are told. -/
theorem Numbered.inUpdateOrder [LE T] [LinearOrder L] (hn : Numbered tables')
    {tests : List (ContactTestResult T)} {result : List (ContactTestResultData L)}
    (hresult : getTestData localTime tables tables' checkId = .ok result)
    (htells : TellsTests localTime (fun h h' => h.updateTime ≤ h'.updateTime) tables tables' checkId
      tests result) : InUpdateOrder localTime tables tables' checkId := by
  obtain ⟨tests', result', hresult', htells'⟩ := getTestData_ok localTime tables tables' checkId
  obtain rfl := Except.ok.inj (hresult.symm.trans hresult')
  obtain rfl := htells.tests_eq htells'
  intro test htest hcheck h hh h' hh' hown hown' hbefore
  obtain ⟨data, htold, htold'⟩ :=
    exists_forall₂_both htells.told htells'.told ((htells.mem test).mpr ⟨htest, hcheck⟩)
  obtain ⟨histories, states, current, hof, hstates, htold, -⟩ := htold.stateHistory
  obtain ⟨histories', states', current', hof', hstates', htold', -⟩ := htold'.stateHistory
  obtain ⟨rfl, -⟩ := List.append_inj' (hstates.symm.trans hstates') rfl
  obtain rfl := hn.histories_eq hof hof' htold htold'
  obtain ⟨i, hi, rfl⟩ := List.getElem_of_mem ((hof.mem h).mpr ⟨hh, hown⟩)
  obtain ⟨j, hj, rfl⟩ := List.getElem_of_mem ((hof.mem h').mpr ⟨hh', hown'⟩)
  rcases lt_trichotomy i j with hij | rfl | hji
  · exact List.pairwise_iff_getElem.mp hof.ordered i j hi hj hij
  · exact absurd hbefore (byLocalTime_asymm hbefore)
  · exact absurd hbefore (byLocalTime_asymm (List.pairwise_iff_getElem.mp hof'.ordered j i hj hi hji))

def ContactTestResultHistory.number (h : ContactTestResultHistory T) : ContactTestResultHistory T :=
  { h with logdRequestId := some h.id }

theorem ContactTestResultHistory.key_number (h : ContactTestResultHistory T) :
    Keyed.key h.number = Keyed.key h := rfl

def numbered (t : Table (ContactTestResultHistory T)) : Table (ContactTestResultHistory T) :=
  t.update (fun _ => True) ContactTestResultHistory.number ContactTestResultHistory.key_number

theorem mem_numbered {t : Table (ContactTestResultHistory T)} {row : ContactTestResultHistory T} :
    row ∈ numbered t ↔ ∃ h ∈ t, h.number = row := by
  rw [numbered, Table.mem_update]
  simp

theorem exists_numbered (tables : Tables T) : ∃ tables', SameTimes tables tables' ∧ Numbered tables' := by
  refine ⟨{ tables with
    contactTestResultHistory := numbered tables.contactTestResultHistory
    historyStatusKnown := ?_ }, ?_, ?_⟩
  · intro row hrow
    obtain ⟨h, hh, rfl⟩ := mem_numbered.mp hrow
    exact tables.historyStatusKnown h hh
  · exact Table.map_update ContactTestResultHistory.key_number fun _ => rfl
  · intro row hrow
    obtain ⟨h, -, rfl⟩ := mem_numbered.mp hrow
    rfl

end Order

/-- Every test of a check is told with its own histories in the order of their local time. This is
an order of their update time, whatever else the histories tell, exactly if the local time never
goes back between them. -/
theorem get_test_data_tells [LE T] [LinearOrder L] (localTime : T → L) (tables tables' : Tables T)
    (checkId : Nat) :
    (∃ tests result, getTestData localTime tables tables' checkId = .ok result ∧
      TellsTests localTime (ByLocalTime localTime) tables tables' checkId tests result) ∧
    ((∀ tables'', SameTimes tables' tables'' → ∃ tests result,
      getTestData localTime tables tables'' checkId = .ok result ∧
      TellsTests localTime (fun h h' => h.updateTime ≤ h'.updateTime) tables tables'' checkId tests
        result) ↔ InUpdateOrder localTime tables tables' checkId) := by
  refine ⟨getTestData_ok localTime tables tables' checkId, fun h => ?_, fun h tables'' hsame => ?_⟩
  · obtain ⟨tables'', hsame, hn⟩ := exists_numbered tables'
    obtain ⟨tests, result, hresult, htells⟩ := h tables'' hsame
    exact (hn.inUpdateOrder hresult htells).sameTimes hsame.symm
  · obtain ⟨tests, result, hresult, htells⟩ := getTestData_ok localTime tables tables'' checkId
    refine ⟨tests, result, hresult, htells.mem, htells.ordered, ?_⟩
    refine forall₂_imp_of_mem htells.told fun test htest data htold => htold.mono ?_
    obtain ⟨hmem, hcheck⟩ := (htells.mem test).mp htest
    exact fun r hr r' hr' hown hown' hbefore =>
      h.sameTimes hsame test hmem hcheck r hr r' hr' hown hown' hbefore

/-- Minutes of the day on which clocks go back by an hour. -/
def clockBack (utc : Nat) : Nat := if utc < 60 then utc + 120 else utc + 60

def updatedTwice : List (ContactTestResultHistory Nat) :=
  [⟨⟨none, some 31, 30, 1⟩, 11, 7⟩, ⟨⟨none, some 32, 70, 2⟩, 12, 7⟩]

def clockBackTables : Tables Nat where
  contactTestResult := ⟨[⟨⟨none, some 33, 200, 2⟩, 7, 10, 5, 3⟩], by decide⟩
  contactTestResultHistory := ⟨updatedTwice, by decide⟩
  enumContactTest := ⟨[⟨3, "name_syntax"⟩], by decide⟩
  enumContactTestStatus := ⟨[⟨1, "enqueued"⟩, ⟨2, "running"⟩], by decide⟩
  testKnown := fun test hmem => ⟨⟨3, "name_syntax"⟩, List.mem_cons_self, by
    rw [List.mem_singleton.mp hmem]⟩
  statusKnown := fun test hmem => ⟨⟨2, "running"⟩, List.mem_cons_of_mem _ List.mem_cons_self, by
    rw [List.mem_singleton.mp hmem]⟩
  historyStatusKnown := by
    intro history hmem
    obtain rfl | hmem := List.mem_cons.mp hmem
    · exact ⟨⟨1, "enqueued"⟩, List.mem_cons_self, rfl⟩
    · rw [List.mem_singleton.mp hmem]
      exact ⟨⟨2, "running"⟩, List.mem_cons_of_mem _ List.mem_cons_self, rfl⟩

theorem getTestData_clockBack : getTestData clockBack clockBackTables clockBackTables 5 =
    .ok [⟨"name_syntax", 130, [⟨"running", 130, some 32, none⟩, ⟨"enqueued", 150, some 31, none⟩,
      ⟨"running", 260, some 33, none⟩]⟩] := by
  decide +kernel

/-- A state that lasted over the change of the clocks is told behind the one that followed it. -/
theorem not_get_test_data_by_update_time : ¬ ∀ (localTime : Nat → Nat) (tables : Tables Nat)
    (checkId : Nat), ∃ tests result, getTestData localTime tables tables checkId = .ok result ∧
      TellsTests localTime (fun h h' => h.updateTime ≤ h'.updateTime) tables tables checkId tests
        result := by
  intro h
  obtain ⟨tests, result, hresult, htells⟩ := h clockBack clockBackTables 5
  rw [getTestData_clockBack] at hresult
  obtain rfl := Except.ok.inj hresult
  obtain ⟨test, tests', htest, hrest, rfl⟩ := List.forall₂_cons_right_iff.mp htells.told
  obtain ⟨histories, states, current, hof, hstates, htold, -⟩ := htest.stateHistory
  have hinit : states = [⟨"running", 130, some 32, none⟩, ⟨"enqueued", 150, some 31, none⟩] :=
    (List.dropLast_concat.symm.trans (congrArg List.dropLast hstates.symm))
  subst hinit
  obtain ⟨h₁, histories', htold₁, hrest', rfl⟩ := List.forall₂_cons_right_iff.mp htold
  obtain ⟨h₂, histories'', htold₂, -, rfl⟩ := List.forall₂_cons_right_iff.mp hrest'
  have hle : h₁.updateTime ≤ h₂.updateTime :=
    (List.pairwise_cons.mp hof.ordered).1 h₂ List.mem_cons_self
  have hmem₁ : h₁ ∈ updatedTwice := ((hof.mem h₁).mp List.mem_cons_self).1
  have hmem₂ : h₂ ∈ updatedTwice :=
    ((hof.mem h₂).mp (List.mem_cons_of_mem _ List.mem_cons_self)).1
  have hlocal₁ := htold₁.localUpdateTime
  have hlocal₂ := htold₂.localUpdateTime
  simp only [updatedTwice, List.mem_cons, List.not_mem_nil, or_false] at hmem₁ hmem₂
  obtain rfl | rfl := hmem₁
  · exact absurd hlocal₁ (by decide)
  · obtain rfl | rfl := hmem₂
    · exact absurd hle (by decide)
    · exact absurd hlocal₂ (by decide)

end LibFred.Verification
