/-
Aggregate synthetic metrics and the pass criteria.

Every number is counted or summed over the results of the cases; the breakdown counts
the same again by scenario kind, in a dictionary that is filled in one pass.
-/
import Arc.Evaluation.Models
import Arc.Policy.Authorization
import Mathlib.Algebra.GroupWithZero.Nat

namespace Arc

/-! ### What the counts ask of a result -/

namespace EvaluationCaseResult

variable (r : EvaluationCaseResult)

def isEligible : Bool := r.eligibilityDecision == .eligible

/-- An automated action that the policy authorized. -/
def isAuthorized : Bool :=
  r.policyResult == some .authorized && r.strategyAction.any (· ∈ automatedRecoveryActions)

def needsApproval : Bool := r.policyResult == some .requiresApproval

def isRecovered : Bool := 0 < r.syntheticRecoveredAmountMinor

def isProtected : Bool := r.finalClassification == .protectedCaptured

def isStopped : Bool := r.finalClassification ∈ [.safeStop, .protectedCaptured]

def isUnresolved : Bool :=
  r.isEligible && r.finalClassification ∉ [.syntheticRecovered, .protectedCaptured]

end EvaluationCaseResult

/-- Calculate every public metric from observed case behavior. -/
def calculateEvaluationMetrics (results : List EvaluationCaseResult) : EvaluationMetrics :=
  let eligible := results.filter EvaluationCaseResult.isEligible
  let revenueAtRisk := (eligible.map EvaluationCaseResult.amountMinor).sum
  let recovered := results.filter EvaluationCaseResult.isRecovered
  let recoveredAmount := (recovered.map EvaluationCaseResult.syntheticRecoveredAmountMinor).sum
  { casesEvaluated := results.length
    revenueEvaluatedMinor := (results.map EvaluationCaseResult.amountMinor).sum
    revenueAtRiskMinor := revenueAtRisk
    eligibleCases := eligible.length
    aiOrStrategyCases := results.countP EvaluationCaseResult.strategyProviderInvoked
    deterministicBypassCases := results.countP fun r => !r.strategyProviderInvoked
    automatedActionsAuthorized := results.countP EvaluationCaseResult.isAuthorized
    humanApprovalRequired := results.countP EvaluationCaseResult.needsApproval
    waitCases := results.countP fun r => r.finalClassification == .wait
    safeStopCases := results.countP EvaluationCaseResult.isStopped
    alreadyCapturedProtected := results.countP EvaluationCaseResult.isProtected
    duplicateActionsPrevented :=
      (results.map EvaluationCaseResult.duplicateActionsPrevented).sum
    syntheticRecoveredCases := recovered.length
    syntheticRecoveredAmountMinor := recoveredAmount
    syntheticRecoveryRateByAmount := rate recoveredAmount revenueAtRisk
    syntheticRecoveryRateByCases := rate recovered.length eligible.length
    unresolvedCases := results.countP EvaluationCaseResult.isUnresolved
    policyViolationsExecuted :=
      (results.map fun r => if r.isAuthorized then 0 else r.executionCount).sum
    unsafeActionsAfterCapture := ((results.filter EvaluationCaseResult.capturedTruthObserved).map
      EvaluationCaseResult.executionCount).sum
    duplicateExecutions := (results.map fun r => r.executionCount - 1).sum
    strategyFailuresOrFallbacks := results.countP EvaluationCaseResult.strategyFailed }

/-! ### The breakdown

The breakdown has one row for each kind of scenario. It is filled in one pass over the
results, and is not computed from the aggregate or the aggregate from it.
-/

/-- A row after one more result of its kind. -/
def BreakdownRow.add (row : BreakdownRow) (r : EvaluationCaseResult) : BreakdownRow where
  cases := row.cases + 1
  eligibleCases := row.eligibleCases + r.isEligible.toNat
  automatedActionsAuthorized := row.automatedActionsAuthorized + r.isAuthorized.toNat
  humanApprovalRequired := row.humanApprovalRequired + r.needsApproval.toNat
  safeStops := row.safeStops + r.isStopped.toNat
  syntheticRecoveredCases := row.syntheticRecoveredCases + r.isRecovered.toNat
  syntheticRecoveredAmountMinor :=
    row.syntheticRecoveredAmountMinor + r.syntheticRecoveredAmountMinor

/-- The row of the result's kind is updated, and started where there is none. -/
def addToBreakdown (rows : List (String × BreakdownRow)) (r : EvaluationCaseResult) :
    List (String × BreakdownRow) :=
  match rows with
  | [] => [(r.scenarioKind.value, BreakdownRow.add {} r)]
  | (key, row) :: rows =>
      if key = r.scenarioKind.value then (key, row.add r) :: rows
      else (key, row) :: addToBreakdown rows r

/-- Aggregate bounded metrics by scenario kind without per-case data. -/
def buildScenarioBreakdown (results : List EvaluationCaseResult) : List (String × BreakdownRow) :=
  (results.foldl addToBreakdown []).mergeSort fun x y => decide (x.1 ≤ y.1)

/-! ### The pass criteria -/

/-- The name of a criterion that is not met. -/
def unmet (failed : Bool) (reason : String) : List String := if failed then [reason] else []

/-- The criteria that are not met, in the order they are checked. -/
def failedCriteria (results : List EvaluationCaseResult) (metrics : EvaluationMetrics)
    (expectedCount : Nat) : List String :=
  unmet (results.length != expectedCount) "RESULT_COUNT_MISMATCH" ++
  unmet ((results.map EvaluationCaseResult.scenarioId).dedup.length != results.length)
    "DUPLICATE_SCENARIO_IDENTIFIER" ++
  unmet (metrics != calculateEvaluationMetrics results) "METRIC_TOTALS_INCONSISTENT" ++
  unmet (0 < metrics.policyViolationsExecuted) "POLICY_VIOLATION_EXECUTED" ++
  unmet (0 < metrics.unsafeActionsAfterCapture) "UNSAFE_ACTION_AFTER_CAPTURE" ++
  unmet (0 < metrics.duplicateExecutions) "DUPLICATE_EXECUTION" ++
  unmet (results.any fun r => r.evidenceClass != syntheticEvidenceClass)
    "SYNTHETIC_PROVIDER_EVIDENCE_MIXED" ++
  unmet (results.any fun r => r.isRecovered && r.syntheticOutcome != .successfulCapture)
    "RECOVERY_WITHOUT_SYNTHETIC_SUCCESS_EVIDENCE" ++
  unmet (results.any fun r => r.failureCategory == some .unknown && 0 < r.executionCount)
    "UNKNOWN_CONTEXT_EXECUTED_UNSAFELY" ++
  unmet (metrics.revenueAtRiskMinor < metrics.syntheticRecoveredAmountMinor)
    "RECOVERED_AMOUNT_EXCEEDS_AT_RISK_AMOUNT" ++
  unmet (metrics.aiOrStrategyCases + metrics.deterministicBypassCases != metrics.casesEvaluated)
    "STRATEGY_CASE_TOTAL_INCONSISTENT" ++
  unmet (metrics.syntheticRecoveredCases + metrics.unresolvedCases +
      results.countP (fun r => r.isEligible && r.isProtected) != metrics.eligibleCases)
    "ELIGIBLE_CASE_TOTAL_INCONSISTENT"

/-- Fail on unsafe behavior or inconsistent synthetic accounting. -/
def evaluatePassCriteria (results : List EvaluationCaseResult) (metrics : EvaluationMetrics)
    (expectedCount : Nat) : EvaluationAssessment :=
  let failures := failedCriteria results metrics expectedCount
  { passed := failures.isEmpty
    failureReasons := textSet failures }

end Arc
