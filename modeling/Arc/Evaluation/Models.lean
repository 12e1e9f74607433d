/-
Typed contracts of the synthetic batch evaluation.

A scenario is one fixed case, and a result is what was observed of it.  The amounts and
counters of a scenario are numbers that are not negative; the age of its detection can
be any integer, and the instant it stands for need not exist.
-/
import Arc.Domain.Models

namespace Arc

def syntheticEvidenceClass : String := "SYNTHETIC_EVALUATION"

inductive ScenarioKind
  | alreadyCaptured
  | platformRetryActive
  | customerAuthentication
  | insufficientFunds
  | issuerBank
  | gatewayNetwork
  | retryExhausted
  | highValueApproval
  | attemptLimit
  | contactLimit
  | hardStop
  | incompleteUnknown
  | duplicateAction
  | staleCapture
  deriving DecidableEq, Repr

def ScenarioKind.value : ScenarioKind → String
  | alreadyCaptured => "already_captured"
  | platformRetryActive => "platform_retry_active"
  | customerAuthentication => "customer_authentication"
  | insufficientFunds => "insufficient_funds"
  | issuerBank => "issuer_bank"
  | gatewayNetwork => "gateway_network"
  | retryExhausted => "retry_exhausted"
  | highValueApproval => "high_value_approval"
  | attemptLimit => "attempt_limit"
  | contactLimit => "contact_limit"
  | hardStop => "hard_stop"
  | incompleteUnknown => "incomplete_unknown"
  | duplicateAction => "duplicate_action"
  | staleCapture => "stale_capture"

/-- Small scenario policy variants parsed by production validation. -/
inductive PolicyProfile
  | standard
  | blockFailureCategory
  | expiredRecoveryWindow
  deriving DecidableEq, Repr

def PolicyProfile.value : PolicyProfile → String
  | standard => "standard"
  | blockFailureCategory => "block_failure_category"
  | expiredRecoveryWindow => "expired_recovery_window"

/-- Controlled post-action outcome, never provider evidence. -/
inductive SyntheticOutcome
  | successfulCapture
  | unresolved
  | notApplicable
  deriving DecidableEq, Repr

/-- The mutually exclusive final class of a scenario. -/
inductive FinalClassification
  | wait
  | safeStop
  | protectedCaptured
  | syntheticRecovered
  | unresolved
  deriving DecidableEq, Repr

structure SyntheticScenario where
  scenarioId : String
  kind : ScenarioKind
  amountMinor : Nat
  identityKind : CaseIdentityKind
  paymentStatus : Option String
  subscriptionStatus : Option String
  paymentMethod : Option String
  errorReason : Option String
  errorSource : Option String
  errorStep : Option String
  attemptCount : Nat
  contactAttemptCount : Nat
  detectedMinutesAgo : Int
  offlineAction : Option RecoveryAction
  syntheticOutcome : SyntheticOutcome
  policyProfile : PolicyProfile := .standard
  executionRequestCount : Nat := 1
  staleCaptureBeforeExecution : Bool := false
  deriving DecidableEq, Repr

/-- Observed behavior of one scenario, from which the metrics are calculated. -/
structure EvaluationCaseResult where
  scenarioId : String
  scenarioKind : ScenarioKind
  amountMinor : Nat
  eligibilityDecision : EligibilityDecision
  eligibilityReasonCode : String
  failureCategory : Option FailureCategory := none
  recoveryDisposition : Option RecoveryDisposition := none
  strategyAction : Option RecoveryAction := none
  strategyProviderInvoked : Bool := false
  strategyFailed : Bool := false
  policyResult : Option PolicyDecisionResult := none
  policyReasonCode : Option String := none
  executionRequests : Nat := 0
  executionCount : Nat := 0
  duplicateActionsPrevented : Nat := 0
  capturedTruthObserved : Bool := false
  syntheticOutcome : SyntheticOutcome
  syntheticRecoveredAmountMinor : Nat := 0
  finalClassification : FinalClassification
  evidenceClass : String := syntheticEvidenceClass
  deriving DecidableEq, Repr

structure EvaluationMetrics where
  casesEvaluated : Nat
  revenueEvaluatedMinor : Nat
  revenueAtRiskMinor : Nat
  eligibleCases : Nat
  aiOrStrategyCases : Nat
  deterministicBypassCases : Nat
  automatedActionsAuthorized : Nat
  humanApprovalRequired : Nat
  waitCases : Nat
  safeStopCases : Nat
  alreadyCapturedProtected : Nat
  duplicateActionsPrevented : Nat
  syntheticRecoveredCases : Nat
  syntheticRecoveredAmountMinor : Nat
  syntheticRecoveryRateByAmount : ℚ
  syntheticRecoveryRateByCases : ℚ
  unresolvedCases : Nat
  policyViolationsExecuted : Nat
  unsafeActionsAfterCapture : Nat
  duplicateExecutions : Nat
  strategyFailuresOrFallbacks : Nat
  deriving DecidableEq

/-- Explicit safety verdict, never inferred from script completion. -/
structure EvaluationAssessment where
  passed : Bool
  failureReasons : List String
  deriving DecidableEq, Repr

/-- One row of the breakdown by scenario kind. -/
structure BreakdownRow where
  cases : Nat := 0
  eligibleCases : Nat := 0
  automatedActionsAuthorized : Nat := 0
  humanApprovalRequired : Nat := 0
  safeStops : Nat := 0
  syntheticRecoveredCases : Nat := 0
  syntheticRecoveredAmountMinor : Nat := 0
  deriving DecidableEq, Repr

structure EvaluationReport where
  evaluationName : String
  evaluationVersion : String
  datasetVersion : String
  datasetSeed : Nat
  strategyMode : String
  caseCount : Nat
  metrics : EvaluationMetrics
  scenarioBreakdown : List (String × BreakdownRow)
  assessment : EvaluationAssessment
  caseResults : List EvaluationCaseResult

end Arc
