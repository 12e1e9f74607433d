/-
The controlled values of the persistence models, and the exceptions the services
raise.

Each enumeration is stored under the text of its member, which is what `value`
gives; the texts reach the fingerprints and the policy columns, so they are part of
the behaviour.  Sets of enumeration members are kept as lists without repetition in
the alphabetical order of the texts (`RecoveryAction.setOf`), which is the order the
fingerprints write them in.
-/
import Arc.Domain.Value

namespace Arc

/-- Lifecycle states of a payment case. -/
inductive CaseState
  | detected
  | reconciling
  | diagnosed
  | decisioned
  | policyValidated
  | actioned
  | waitingForOutcome
  | recovered
  | exhausted
  | escalated
  deriving DecidableEq, Repr

def CaseState.value : CaseState → String
  | detected => "DETECTED"
  | reconciling => "RECONCILING"
  | diagnosed => "DIAGNOSED"
  | decisioned => "DECISIONED"
  | policyValidated => "POLICY_VALIDATED"
  | actioned => "ACTIONED"
  | waitingForOutcome => "WAITING_FOR_OUTCOME"
  | recovered => "RECOVERED"
  | exhausted => "EXHAUSTED"
  | escalated => "ESCALATED"

inductive EventProcessingStatus
  | received
  | processing
  | processed
  | failed
  | unsupported
  deriving DecidableEq, Repr

inductive EligibilityDecision
  | eligible
  | wait
  | stop
  | review
  deriving DecidableEq, Repr

def EligibilityDecision.value : EligibilityDecision → String
  | eligible => "ELIGIBLE"
  | wait => "WAIT"
  | stop => "STOP"
  | review => "REVIEW"

inductive FailureCategory
  | bankOrIssuer
  | customerAuthentication
  | customerFunds
  | customerInterruption
  | customerOrInstrumentRestriction
  | gatewayOrNetwork
  | merchantConfiguration
  | razorpayOrPlatform
  | subscriptionRetryExhausted
  | unknown
  deriving DecidableEq, Repr

namespace FailureCategory

def value : FailureCategory → String
  | bankOrIssuer => "BANK_OR_ISSUER"
  | customerAuthentication => "CUSTOMER_AUTHENTICATION"
  | customerFunds => "CUSTOMER_FUNDS"
  | customerInterruption => "CUSTOMER_INTERRUPTION"
  | customerOrInstrumentRestriction => "CUSTOMER_OR_INSTRUMENT_RESTRICTION"
  | gatewayOrNetwork => "GATEWAY_OR_NETWORK"
  | merchantConfiguration => "MERCHANT_CONFIGURATION"
  | razorpayOrPlatform => "RAZORPAY_OR_PLATFORM"
  | subscriptionRetryExhausted => "SUBSCRIPTION_RETRY_EXHAUSTED"
  | unknown => "UNKNOWN"

/-- Every category, in the alphabetical order of the texts. -/
def all : List FailureCategory :=
  [bankOrIssuer, customerAuthentication, customerFunds, customerInterruption,
    customerOrInstrumentRestriction, gatewayOrNetwork, merchantConfiguration,
    razorpayOrPlatform, subscriptionRetryExhausted, unknown]

def ofValue? (text : String) : Option FailureCategory := all.find? fun c => c.value == text

/-- The set of the categories listed. -/
def setOf (listed : List FailureCategory) : List FailureCategory :=
  all.filter fun c => c ∈ listed

theorem mem_setOf {listed : List FailureCategory} {c : FailureCategory} :
    c ∈ setOf listed ↔ c ∈ listed := by
  cases c <;> simp [setOf, all]

end FailureCategory

inductive RecoveryDisposition
  | customerActionRequired
  | retryLater
  | alternateMethodPreferred
  | merchantFixRequired
  | recoveryStrategyRequired
  | manualReview
  | unknown
  deriving DecidableEq, Repr

def RecoveryDisposition.value : RecoveryDisposition → String
  | customerActionRequired => "CUSTOMER_ACTION_REQUIRED"
  | retryLater => "RETRY_LATER"
  | alternateMethodPreferred => "ALTERNATE_METHOD_PREFERRED"
  | merchantFixRequired => "MERCHANT_FIX_REQUIRED"
  | recoveryStrategyRequired => "RECOVERY_STRATEGY_REQUIRED"
  | manualReview => "MANUAL_REVIEW"
  | unknown => "UNKNOWN"

/-- What a strategy may propose; a proposal never authorizes. -/
inductive RecoveryAction
  | createRecoveryLink
  | escalateToHuman
  | noAction
  | requestPaymentMethodUpdate
  | requestRetry
  | wait
  deriving DecidableEq, Repr

namespace RecoveryAction

def value : RecoveryAction → String
  | createRecoveryLink => "CREATE_RECOVERY_LINK"
  | escalateToHuman => "ESCALATE_TO_HUMAN"
  | noAction => "NO_ACTION"
  | requestPaymentMethodUpdate => "REQUEST_PAYMENT_METHOD_UPDATE"
  | requestRetry => "REQUEST_RETRY"
  | wait => "WAIT"

/-- Every action, in the alphabetical order of the texts. -/
def all : List RecoveryAction :=
  [createRecoveryLink, escalateToHuman, noAction, requestPaymentMethodUpdate,
    requestRetry, wait]

def ofValue? (text : String) : Option RecoveryAction := all.find? fun a => a.value == text

/-- The set of the actions listed. -/
def setOf (listed : List RecoveryAction) : List RecoveryAction :=
  all.filter fun a => a ∈ listed

theorem mem_setOf {listed : List RecoveryAction} {a : RecoveryAction} :
    a ∈ setOf listed ↔ a ∈ listed := by
  cases a <;> simp [setOf, all]

end RecoveryAction

inductive StrategySource
  | rule
  | ai
  deriving DecidableEq, Repr

inductive PolicyDecisionResult
  | authorized
  | requiresApproval
  | blocked
  deriving DecidableEq, Repr

def PolicyDecisionResult.value : PolicyDecisionResult → String
  | authorized => "AUTHORIZED"
  | requiresApproval => "REQUIRES_APPROVAL"
  | blocked => "BLOCKED"

inductive ApprovalStatus
  | pending
  | approved
  | rejected
  deriving DecidableEq, Repr

def ApprovalStatus.value : ApprovalStatus → String
  | pending => "PENDING"
  | approved => "APPROVED"
  | rejected => "REJECTED"

inductive RecoveryExecutionStatus
  | prepared
  | inProgress
  | succeeded
  | failed
  | indeterminate
  | cancelled
  | compensationRequired
  deriving DecidableEq, Repr

def RecoveryExecutionStatus.value : RecoveryExecutionStatus → String
  | prepared => "PREPARED"
  | inProgress => "IN_PROGRESS"
  | succeeded => "SUCCEEDED"
  | failed => "FAILED"
  | indeterminate => "INDETERMINATE"
  | cancelled => "CANCELLED"
  | compensationRequired => "COMPENSATION_REQUIRED"

/-- Which of Razorpay's two environments a credential belongs to. -/
inductive ProviderMode
  | test
  | live
  deriving DecidableEq, Repr

inductive OutcomeObservationSource
  | poll
  | webhookTriggered
  deriving DecidableEq, Repr

inductive RecoveryOutcomeStatus
  | pending
  | recovered
  | expired
  | cancelled
  | reviewRequired
  deriving DecidableEq, Repr

def RecoveryOutcomeStatus.value : RecoveryOutcomeStatus → String
  | pending => "PENDING"
  | recovered => "RECOVERED"
  | expired => "EXPIRED"
  | cancelled => "CANCELLED"
  | reviewRequired => "REVIEW_REQUIRED"

/-- The provider a recovery action is carried out by. -/
inductive ActionProvider
  | internal
  | razorpay
  deriving DecidableEq, Repr

/--
The exception classes of the services, each with its text.  `integrity` is the
database refusing a statement because of a constraint.
-/
inductive Error
  | invalidCaseTransition (text : String)
  | casePersistence (text : String)
  | webhookProcessing (text : String)
  | webhookEventNotFound (text : String)
  | paymentCaseNotFound (text : String)
  | strategyCaseNotFound (text : String)
  | strategyNotAllowed (text : String)
  | strategyConfiguration (text : String)
  | strategyStaleContext (text : String)
  | policyCaseNotFound (text : String)
  | policyEvaluationNotAllowed (text : String)
  | policyProposalNotCurrent (text : String)
  | currentAuthorization (text : String)
  | approvalNotFound (text : String)
  | approvalNotAllowed (text : String)
  | approvalDecisionConflict (text : String)
  | executionCaseNotFound (text : String)
  | executionNotPermitted (text : String)
  | executionRequiresPolicyReevaluation (text : String)
  | executionConfiguration (text : String)
  | recoveryObservationNotFound (text : String)
  | recoveryObservationConfiguration (text : String)
  | integrity
  deriving DecidableEq, Repr

end Arc
