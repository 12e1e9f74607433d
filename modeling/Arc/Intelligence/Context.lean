/-
The context a strategy is asked for, and its fingerprint.

A context is only built from a case whose stored assessment is current at the clock;
the bounds of its fields are those of the schema.
-/
import Arc.Integrations.Razorpay
import Arc.Intelligence.Compatibility
import Arc.Policy.Current

namespace Arc

variable [Platform]

/-- The snapshot of a case that is sent to the model. -/
structure StrategyContext where
  amountMinor : Option Nat
  currency : Option String
  paymentMethod : Option String
  paymentStatus : Option String
  subscriptionStatus : Option String
  failureCategory : FailureCategory
  recoveryDisposition : RecoveryDisposition
  diagnosisReasonCode : String
  errorReason : Option String
  errorSource : Option String
  errorStep : Option String
  attemptCount : Nat
  recoveryKind : CaseIdentityKind
  deriving DecidableEq, Repr

/-- An optional text of 1 to 100 characters. -/
def boundedContextText (value : Option String) : Bool := value.all (boundedText 1 100)

def StrategyContext.wellFormed (context : StrategyContext) : Bool :=
  context.currency.all (boundedText 3 3) && boundedContextText context.paymentMethod &&
    boundedContextText context.paymentStatus && boundedContextText context.subscriptionStatus &&
    boundedText 1 100 context.diagnosisReasonCode && boundedContextText context.errorReason &&
    boundedContextText context.errorSource && boundedContextText context.errorStep

def buildStrategyContext (c : PaymentCase) (failureCategory : FailureCategory)
    (recoveryDisposition : RecoveryDisposition) (diagnosisReasonCode : String) :
    StrategyContext where
  amountMinor := c.amount
  currency := c.currency.map upperStripped
  paymentMethod := normalized c.razorpayPaymentMethod
  paymentStatus := normalized c.razorpayPaymentStatus
  subscriptionStatus := normalized c.razorpaySubscriptionStatus
  failureCategory := failureCategory
  recoveryDisposition := recoveryDisposition
  diagnosisReasonCode := diagnosisReasonCode
  errorReason := normalized c.errorReason
  errorSource := normalized c.errorSource
  errorStep := normalized c.errorStep
  attemptCount := c.attemptCount
  recoveryKind := if (normalized c.razorpayPaymentStatus).isSome then .payment else .subscription

/-- The stored assessment is complete and is the one the clock gives. -/
def PaymentCase.assessmentIsCurrent (c : PaymentCase) (now : Int) : Bool :=
  let eligibility := assessEligibility c now
  c.eligibilityStatus == some .eligible &&
    c.eligibilityReasonCode == some eligibility.reasonCode &&
    c.assessmentFingerprint == some eligibility.assessmentFingerprint &&
    c.eligibilityEvaluatedAt.isSome && c.failureCategory.isSome &&
    c.recoveryDisposition.isSome && c.diagnosisReasonCode.isSome && c.diagnosedAt.isSome

/-- Recheck eligibility and diagnosis, then build the bounded context. -/
def validateStrategyContext (c : PaymentCase) (now : Int) : Except Error StrategyContext := do
  require ((assessEligibility c now).decision = .eligible)
    (.strategyNotAllowed "Current deterministic eligibility does not allow strategy")
  require (c.assessmentIsCurrent now)
    (.strategyNotAllowed "Current deterministic assessment is missing or stale")
  require c.diagnosisIsCurrent
    (.strategyNotAllowed "Current deterministic diagnosis is missing or stale")
  let failureCategory ← requireSome c.failureCategory
    (.strategyNotAllowed "Current deterministic diagnosis is missing")
  let recoveryDisposition ← requireSome c.recoveryDisposition
    (.strategyNotAllowed "Current deterministic diagnosis is missing")
  let diagnosisReasonCode ← requireSome c.diagnosisReasonCode
    (.strategyNotAllowed "Current deterministic diagnosis is missing")
  let context := buildStrategyContext c failureCategory recoveryDisposition diagnosisReasonCode
  require context.wellFormed
    (.strategyNotAllowed "Strategy context could not be built safely")
  return context

/-- `context.model_dump(mode="json")` -/
def StrategyContext.dump (context : StrategyContext) : Json :=
  .obj [
    ("amount_minor", .ofOption (fun n : Nat => .int n) context.amountMinor),
    ("currency", .ofText context.currency),
    ("payment_method", .ofText context.paymentMethod),
    ("payment_status", .ofText context.paymentStatus),
    ("subscription_status", .ofText context.subscriptionStatus),
    ("failure_category", .str context.failureCategory.value),
    ("recovery_disposition", .str context.recoveryDisposition.value),
    ("diagnosis_reason_code", .str context.diagnosisReasonCode),
    ("error_reason", .ofText context.errorReason),
    ("error_source", .ofText context.errorSource),
    ("error_step", .ofText context.errorStep),
    ("attempt_count", .int context.attemptCount),
    ("recovery_kind", .str context.recoveryKind.value)]

def buildStrategyInputFingerprint (assessmentFingerprint : Digest) (context : StrategyContext)
    (model : Option String) : Digest :=
  Platform.hashFacts <| .obj [
    ("assessment_fingerprint", Platform.hexdigest assessmentFingerprint),
    ("prompt_version", .str strategyPromptVersion),
    ("strategy_ruleset_version", .str strategyRulesetVersion),
    ("model", .ofText model),
    ("context", context.dump)]

end Arc
