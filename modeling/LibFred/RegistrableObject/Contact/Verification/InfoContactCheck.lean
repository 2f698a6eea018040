import LibFred.Order.Sorting
import LibFred.Sql.Join
import LibFred.Sql.Table
import Mathlib.Data.Prod.Lex

/-! The tests of a contact check with the histories of their states. -/
namespace LibFred.Verification

open Sql

variable {T L : Type}

/-- The columns of a state of a test, which the tables of tests and of their histories share. -/
structure TestState (T : Type) where
  errorMsg : Option String
  logdRequestId : Option Nat
  updateTime : T
  enumContactTestStatusId : Nat

structure ContactTestResult (T : Type) extends TestState T where
  id : Nat
  createTime : T
  contactCheckId : Nat
  enumContactTestId : Nat

structure ContactTestResultHistory (T : Type) extends TestState T where
  id : Nat
  contactTestResultId : Nat

structure EnumContactTest where
  id : Nat
  handle : String

structure EnumContactTestStatus where
  id : Nat
  handle : String

instance : Keyed (ContactTestResult T) Nat := ⟨ContactTestResult.id⟩
instance : Keyed (ContactTestResultHistory T) Nat := ⟨ContactTestResultHistory.id⟩
instance : Keyed EnumContactTest Nat := ⟨EnumContactTest.id⟩
instance : Keyed EnumContactTestStatus Nat := ⟨EnumContactTestStatus.id⟩

/-- What the foreign keys refer to is there. -/
structure Tables (T : Type) where
  contactTestResult : Table (ContactTestResult T)
  contactTestResultHistory : Table (ContactTestResultHistory T)
  enumContactTest : Table EnumContactTest
  enumContactTestStatus : Table EnumContactTestStatus
  testKnown : ∀ test ∈ contactTestResult,
    ∃ testdef ∈ enumContactTest, test.enumContactTestId = testdef.id
  statusKnown : ∀ test ∈ contactTestResult,
    ∃ status ∈ enumContactTestStatus, test.enumContactTestStatusId = status.id
  historyStatusKnown : ∀ history ∈ contactTestResultHistory,
    ∃ status ∈ enumContactTestStatus, history.enumContactTestStatusId = status.id

structure ContactTestResultState (L : Type) where
  statusHandle : String
  localUpdateTime : L
  logdRequestId : Option Nat
  errorMsg : Option String
  deriving DecidableEq

structure ContactTestResultData (L : Type) where
  testHandle : String
  localCreateTime : L
  stateHistory : List (ContactTestResultState L)
  deriving DecidableEq

abbrev TestRow (T : Type) := (ContactTestResult T × EnumContactTest) × EnumContactTestStatus

abbrev HistoryRow (T : Type) := ContactTestResultHistory T × EnumContactTestStatus

def selectTests (tables : Tables T) (checkId : Nat) : List (TestRow T) :=
  (Sorting.byKey fun row : TestRow T => row.1.1.id).sort
    (join (fun row status => row.1.enumContactTestStatusId = status.id)
      (join (fun test testdef => test.enumContactTestId = testdef.id)
        (tables.contactTestResult.select (·.contactCheckId = checkId)) tables.enumContactTest.rows)
      tables.enumContactTestStatus.rows)

section

variable [LinearOrder L] (localTime : T → L)

/-- ORDER BY id_ ASC, update_time_ ASC, history.id ASC, where update_time_ is the local time. -/
def historyOrder (row : HistoryRow T) : Nat ×ₗ L ×ₗ Nat :=
  toLex (row.1.contactTestResultId, toLex (localTime row.1.updateTime, row.1.id))

def selectTestHistories (tables : Tables T) (testIds : List Nat) : List (HistoryRow T) :=
  (Sorting.byKey (historyOrder localTime)).sort
    (join (fun history status => history.enumContactTestStatusId = status.id)
      (tables.contactTestResultHistory.select (·.contactTestResultId ∈ testIds))
      tables.enumContactTestStatus.rows)

def testState (state : TestState T) (status : EnumContactTestStatus) : ContactTestResultState L where
  statusHandle := status.handle
  localUpdateTime := localTime state.updateTime
  logdRequestId := state.logdRequestId
  errorMsg := state.errorMsg

/-- The loop over the history states of a test; the iterator stops at those of another one. -/
def takeStates (testId : Nat) :
    List (HistoryRow T) → List (ContactTestResultState L) × List (HistoryRow T)
  | [] => ([], [])
  | row :: rows =>
    if row.1.contactTestResultId ≠ testId then ([], row :: rows)
    else
      let taken := takeStates testId rows
      (testState localTime row.1.toTestState row.2 :: taken.1, taken.2)

/-- The loop over the tests; the histories that no test has taken come last. -/
def collectTests : List (TestRow T) → List (HistoryRow T) →
    List (ContactTestResultData L) × List (HistoryRow T)
  | [], rows => ([], rows)
  | ((test, testdef), status) :: tests, rows =>
    let taken := takeStates localTime test.id rows
    let collected := collectTests tests taken.2
    ({ testHandle := testdef.handle
       localCreateTime := localTime test.createTime
       stateHistory := taken.1 ++ [testState localTime test.toTestState status] } :: collected.1,
      collected.2)

/-- The tables may change between the query of the tests and that of their histories. -/
def getTestData (tables tables' : Tables T) (checkId : Nat) :
    Except String (List (ContactTestResultData L)) :=
  let tests := selectTests tables checkId
  if tests.isEmpty then .ok []
  else
    let histories := selectTestHistories localTime tables' (tests.map (·.1.1.id))
    let collected := collectTests localTime tests histories
    if collected.2.isEmpty then .ok collected.1
    else .error "found state history(s) for non-existent contact_tests"

end

end LibFred.Verification
