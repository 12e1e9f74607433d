/-
The batch runner, which reuses ARC's control logic without a database.

A scenario is turned into a case and goes through eligibility, diagnosis, strategy and
policy as the services do it.  What is particular to the runner is the set of executed
action keys, which all scenarios of a batch share.  The strategy provider keeps a state
of its own; of an answer the runner reads the action.

The row of a case has a reference, which nothing here reads: the code stores the
scenario's identifier there, the model the reference of its identity.
-/
import Arc.Diagnosis.FailureClassifier
import Arc.Evaluation.Metrics
import Arc.Execution.Record
import Arc.Intelligence.Context

namespace Arc

def evaluationName : String := "ARC Batch Recovery Evaluation"
def evaluationVersion : String := "arc-batch-evaluation-v1"
def datasetVersion : String := "arc-synthetic-recovery-v1"
def datasetSeed : Nat := 1403

/-- 2026-08-24 12:00 UTC. -/
def evaluationClock : Int := seconds 1787572800

/-- The first and the last instant a `datetime` can stand for. -/
def firstInstant : Int := seconds (-62135596800)
def lastInstant : Int := seconds 253402300800 - 1

inductive EvaluationError
  /-- An instant that no `datetime` stands for. -/
  | overflow
  | policyConfiguration
  | control (e : Error)
  deriving DecidableEq, Repr

/-- The instant, where a `datetime` can stand for it. -/
def representable (instant : Int) : Except EvaluationError Int := do
  require (firstInstant ≤ instant ∧ instant ≤ lastInstant) .overflow
  return instant

/-- The identifiers that are derived from names. -/
class NameDigests [Platform] where
  /-- `uuid5` in the namespace of URLs. -/
  uuid5 : String → Uuid
  /-- SHA-256 of a text in UTF-8. -/
  sha256 : String → Digest

variable [Platform]

/-! ### The parts of one evaluation -/

def SyntheticScenario.detectedAt (scenario : SyntheticScenario) : Int :=
  evaluationClock - minutes scenario.detectedMinutesAgo

/-- The row of a scenario's case. -/
def scenarioRow (scenario : SyntheticScenario) : PaymentCase where
  id := 0
  caseReference := ⟨scenario.identityKind, Platform.caseDigest scenario.scenarioId⟩
  merchantId := "eval_merchant_v1"
  paymentId := if scenario.identityKind = .payment then some scenario.scenarioId else none
  subscriptionId := if scenario.identityKind = .payment then none else some scenario.scenarioId
  razorpayPaymentStatus := scenario.paymentStatus
  razorpaySubscriptionStatus := scenario.subscriptionStatus
  razorpayPaymentMethod := scenario.paymentMethod
  customerId := none
  amount := some scenario.amountMinor
  currency := some "INR"
  currentState := .reconciling
  errorReason := scenario.errorReason
  errorSource := scenario.errorSource
  errorStep := scenario.errorStep
  attemptCount := scenario.attemptCount
  contactAttemptCount := scenario.contactAttemptCount
  detectedAt := scenario.detectedAt
  lastReconciledAt := some (evaluationClock - minutes 1)

/-- `_payment_case` -/
def scenarioCase (scenario : SyntheticScenario) : Except EvaluationError PaymentCase := do
  let _ ← representable scenario.detectedAt
  return scenarioRow scenario

def evaluationPolicy (profile : PolicyProfile) : MerchantPolicy where
  id := 0
  merchantId := "eval_policy_" ++ profile.value
  automationEnabled := .bool true
  allowedActions := .arr ((textSet (automatedRecoveryActions.map RecoveryAction.value)).map .str)
  maxAutomatedAttempts := .int 3
  maxContactAttempts := .int 2
  recoveryWindowMinutes := .int 1440
  highValueThresholdMinor := .int 1000000
  requireApprovalAboveMinor := .int 1000000
  stoppingRules := .obj (if profile = .blockFailureCategory then
    [("blocked_failure_categories", .arr [.str "GATEWAY_OR_NETWORK"])] else [])

/-- `_policy_configuration` -/
def policyConfiguration (profile : PolicyProfile) : Except EvaluationError PolicyConfiguration :=
  requireSome (validatePolicy (evaluationPolicy profile)) .policyConfiguration

/-- `_execution_key` -/
def executionKey [NameDigests] (scenario : SyntheticScenario) (action : RecoveryAction) : Digest :=
  buildExecutionIdempotencyKey
    (NameDigests.uuid5 (scenario.scenarioId ++ ":policy"))
    (NameDigests.sha256 (scenario.scenarioId ++ ":" ++ action.value ++ ":" ++
      toString scenario.attemptCount ++ ":" ++ toString scenario.contactAttemptCount))
    (NameDigests.uuid5 (scenario.scenarioId ++ ":proposal"))
    action

/-- `_case_result`, with the defaults of what was not observed. -/
def caseResult (scenario : SyntheticScenario) (eligibility : EligibilityResult)
    (final : FinalClassification) : EvaluationCaseResult where
  scenarioId := scenario.scenarioId
  scenarioKind := scenario.kind
  amountMinor := scenario.amountMinor
  eligibilityDecision := eligibility.decision
  eligibilityReasonCode := eligibility.reasonCode
  syntheticOutcome := scenario.syntheticOutcome
  finalClassification := final

/-! ### Strategy -/

/-- A strategy provider with a state of its own; it may raise, and may answer nothing. -/
structure StrategyProvider (σ : Type) where
  mode : σ → String
  propose : σ → StrategyContext → SyntheticScenario → σ × Except String (Option RecoveryAction)

/-- Deterministic fixtures. -/
def offlineStrategyProvider : StrategyProvider Unit where
  mode := fun _ => "OFFLINE"
  propose := fun _ _ scenario =>
    match scenario.offlineAction with
    | none => ((), .error "Offline strategy fixture is missing")
    | some action => ((), .ok (some action))

/-- The action that was proposed, by rule or by the provider, where it is compatible. -/
def scenarioStrategy {σ : Type} (provider : StrategyProvider σ) (state : σ)
    (context : StrategyContext) (scenario : SyntheticScenario)
    (disposition : RecoveryDisposition) : σ × Option RecoveryAction :=
  let (state, strategy) : σ × Except String (Option RecoveryAction) :=
    match ruleStrategyFor disposition with
    | some rule => (state, .ok (some rule.action))
    | none => provider.propose state context scenario
  match strategy with
  | .ok (some action) => (state, if isActionCompatible disposition action then some action else none)
  | .ok none | .error _ => (state, none)

/-! ### Execution

The runner executes by a key and counts what it has executed under it. A key that occurs
again is not executed again, which is what the number of duplicates in the report is
about.
-/

/-- The keys executed so far, and what the requests of one scenario came to. -/
structure ExecutionTally where
  executedActionKeys : List Digest
  executionCount : Nat
  duplicatePrevented : Nat

/-- The loop over the execution requests of a scenario. -/
def requestExecutions (key : Digest) : Nat → ExecutionTally → ExecutionTally
  | 0, tally => tally
  | n + 1, tally =>
      if key ∈ tally.executedActionKeys then
        requestExecutions key n { tally with duplicatePrevented := tally.duplicatePrevented + 1 }
      else
        requestExecutions key n { tally with
          executedActionKeys := key :: tally.executedActionKeys
          executionCount := tally.executionCount + 1 }

/-- The result of an action that the policy authorized and no capture has overtaken. -/
def executeScenario [NameDigests] (scenario : SyntheticScenario) (action : RecoveryAction)
    (common : EvaluationCaseResult) (keys : List Digest) : List Digest × EvaluationCaseResult :=
  let tally :=
    requestExecutions (executionKey scenario action) scenario.executionRequestCount ⟨keys, 0, 0⟩
  let recoveredAmount :=
    if scenario.syntheticOutcome = .successfulCapture ∧ tally.executionCount = 1 then
      scenario.amountMinor else 0
  (tally.executedActionKeys, { common with
    executionRequests := scenario.executionRequestCount
    executionCount := tally.executionCount
    duplicateActionsPrevented := tally.duplicatePrevented
    syntheticRecoveredAmountMinor := recoveredAmount
    finalClassification := if 0 < recoveredAmount then .syntheticRecovered else .unresolved })

/-- What becomes of a proposal the policy has been evaluated for. -/
def concludeScenario [NameDigests] (scenario : SyntheticScenario) (c : PaymentCase)
    (action : RecoveryAction) (result : PolicyDecisionResult) (common : EvaluationCaseResult)
    (keys : List Digest) : List Digest × EvaluationCaseResult :=
  if action = .wait then (keys, { common with finalClassification := .wait })
  else if action = .noAction ∨ action = .escalateToHuman then
    (keys, { common with finalClassification := .safeStop })
  else if result = .blocked then (keys, { common with finalClassification := .safeStop })
  else if result = .requiresApproval then
    (keys, { common with finalClassification := .unresolved })
  else if action ∉ automatedRecoveryActions then
    (keys, { common with finalClassification := .safeStop })
  else if scenario.staleCaptureBeforeExecution then
    let current := assessEligibility
      { c with
        currentState := .recovered
        razorpayPaymentStatus := some "captured"
        lastReconciledAt := some evaluationClock } evaluationClock
    (keys, { common with
      capturedTruthObserved := current.decision == .stop
      finalClassification := .protectedCaptured })
  else executeScenario scenario action common keys

/-! ### One scenario -/

/-- What the scenarios of a batch share: the provider's state and the executed keys. -/
structure BatchState (σ : Type) where
  provider : σ
  executedActionKeys : List Digest

def capturedReasonCodes : List String := ["PAYMENT_ALREADY_CAPTURED", "STOP_ALREADY_RECOVERED"]

/-- The result of a case that is not eligible. -/
def ineligibleResult (scenario : SyntheticScenario) (eligibility : EligibilityResult) :
    EvaluationCaseResult :=
  let captured := decide (eligibility.reasonCode ∈ capturedReasonCodes)
  { caseResult scenario eligibility
      (if captured then .protectedCaptured
        else if eligibility.decision = .wait then .wait else .safeStop) with
    capturedTruthObserved := captured }

/-- The case as the services would store it once it is assessed and diagnosed. -/
def PaymentCase.assessed (c : PaymentCase) (eligibility : EligibilityResult)
    (diagnosis : FailureDiagnosis) : PaymentCase :=
  { c with
    eligibilityStatus := some eligibility.decision
    eligibilityReasonCode := some eligibility.reasonCode
    eligibilityEvaluatedAt := some evaluationClock
    assessmentFingerprint := some eligibility.assessmentFingerprint
    failureCategory := some diagnosis.failureCategory
    recoveryDisposition := some diagnosis.recoveryDisposition
    diagnosisReasonCode := some diagnosis.diagnosisReasonCode
    diagnosedAt := some evaluationClock
    currentState := .diagnosed }

def scenarioFacts (c : PaymentCase) (action : RecoveryAction) : AuthorizationFacts where
  action := action
  amountMinor := c.amount
  attemptCount := c.attemptCount
  contactAttemptCount := c.contactAttemptCount
  detectedAt := c.detectedAt
  failureCategory := c.failureCategory
  paymentMethod := c.razorpayPaymentMethod
  evaluatedAt := evaluationClock

/-- The policy's verdict; the end of the recovery window has to be an instant. -/
def authorizeScenario (c : PaymentCase) (action : RecoveryAction)
    (configuration : PolicyConfiguration) : Except EvaluationError AuthorizationEvaluation := do
  let policy := evaluateAuthorization (scenarioFacts c action) true (some configuration)
  match policy.recoveryWindowEndsAt with
  | none => return policy
  | some windowEnd =>
      let _ ← representable windowEnd
      return policy

/-- An eligible case, from its diagnosis on. -/
def evaluateEligible [NameDigests] {σ : Type} (provider : StrategyProvider σ)
    (state : BatchState σ) (scenario : SyntheticScenario) (c : PaymentCase)
    (eligibility : EligibilityResult) :
    Except EvaluationError (BatchState σ × EvaluationCaseResult) := do
  let diagnosis := classifyFailure c
  let c := c.assessed eligibility diagnosis
  let context ← (validateStrategyContext c evaluationClock).mapError .control
  let (providerState, action) :=
    scenarioStrategy provider state.provider context scenario diagnosis.recoveryDisposition
  let diagnosed : EvaluationCaseResult :=
    { caseResult scenario eligibility .safeStop with
      failureCategory := some diagnosis.failureCategory
      recoveryDisposition := some diagnosis.recoveryDisposition
      strategyProviderInvoked := (ruleStrategyFor diagnosis.recoveryDisposition).isNone }
  match action with
  | none =>
      return ({ state with provider := providerState }, { diagnosed with strategyFailed := true })
  | some action =>
      let configuration ← policyConfiguration scenario.policyProfile
      let policy ← authorizeScenario c action configuration
      let common : EvaluationCaseResult :=
        { diagnosed with
          strategyAction := some action
          policyResult := some policy.result
          policyReasonCode := some policy.reasonCode }
      let (keys, result) :=
        concludeScenario scenario c action policy.result common state.executedActionKeys
      return (⟨providerState, keys⟩, result)

/-- `_evaluate_scenario` -/
def evaluateScenario [NameDigests] {σ : Type} (provider : StrategyProvider σ)
    (state : BatchState σ) (scenario : SyntheticScenario) :
    Except EvaluationError (BatchState σ × EvaluationCaseResult) := do
  let c ← scenarioCase scenario
  let eligibility := assessEligibility c evaluationClock
  if eligibility.decision = .eligible then
    evaluateEligible provider state scenario c eligibility
  else return (state, ineligibleResult scenario eligibility)

/-! ### The batch -/

/-- The results of the scenarios in their order, each from the state the one before left. -/
def evaluateScenarios [NameDigests] {σ : Type} (provider : StrategyProvider σ) :
    BatchState σ → List SyntheticScenario →
      Except EvaluationError (BatchState σ × List EvaluationCaseResult)
  | state, [] => .ok (state, [])
  | state, scenario :: scenarios => do
      let (state, result) ← evaluateScenario provider state scenario
      let (state, results) ← evaluateScenarios provider state scenarios
      return (state, result :: results)

/-- The report of the results of a batch. -/
def evaluationReport (strategyMode : String) (caseCount : Nat)
    (results : List EvaluationCaseResult) : EvaluationReport :=
  let metrics := calculateEvaluationMetrics results
  { evaluationName := evaluationName
    evaluationVersion := evaluationVersion
    datasetVersion := datasetVersion
    datasetSeed := datasetSeed
    strategyMode := strategyMode
    caseCount := caseCount
    metrics := metrics
    scenarioBreakdown := buildScenarioBreakdown results
    assessment := evaluatePassCriteria results metrics caseCount
    caseResults := results }

/-- Evaluate a dataset without database, Razorpay, or implicit model access. -/
def runBatchEvaluation [NameDigests] {σ : Type} (provider : StrategyProvider σ) (initial : σ)
    (scenarios : List SyntheticScenario) : Except EvaluationError EvaluationReport := do
  let (state, results) ← evaluateScenarios provider ⟨initial, []⟩ scenarios
  return evaluationReport (provider.mode state.provider) scenarios.length results

end Arc
