/-
The rows of the persistence schema, and the database.

Every table is a `Store.Table`, keyed by its `id` column; the audit trail is a list
that transactions append to.  A row carries the columns some service reads, under
their names.  Columns the schema constrains to be non-negative are natural numbers.
The unique constraints other than the primary key are checked where a row is
inserted or a constrained column is written, and a violation is `Error.integrity`.

A transaction is a function from the database to a result and the database after
its commit; one that raises leaves the database as it was, which is the rollback.
-/
import Arc.Domain.Enums
import Arc.Store.Table

namespace Arc

open Store (Keyed Table)

variable [Platform]

/-! ### Cases and their audit trail

The trail is a list, and entries are only ever appended to it. What no service reads of
an entry, its data and its creation, is a parameter of the read models that show it.
-/

/-- Whether a case is about a payment or a subscription. -/
inductive CaseIdentityKind
  | payment
  | subscription
  deriving DecidableEq, Repr

def CaseIdentityKind.value : CaseIdentityKind → String
  | payment => "payment"
  | subscription => "subscription"

/-- `pay_` or `sub_`, and the digest of the identity. -/
structure CaseReference where
  identityKind : CaseIdentityKind
  digest : Digest
  deriving DecidableEq

structure PaymentCase where
  id : Uuid
  caseReference : CaseReference
  merchantId : String
  paymentId : Option String
  subscriptionId : Option String
  razorpayPaymentStatus : Option String := none
  razorpaySubscriptionStatus : Option String := none
  razorpayPaymentMethod : Option String := none
  customerId : Option String
  amount : Option Nat := none
  currency : Option String := none
  currentState : CaseState := .detected
  errorCode : Option String := none
  errorDescription : Option String := none
  errorSource : Option String := none
  errorStep : Option String := none
  errorReason : Option String := none
  eligibilityStatus : Option EligibilityDecision := none
  eligibilityReasonCode : Option String := none
  eligibilityEvaluatedAt : Option Int := none
  failureCategory : Option FailureCategory := none
  recoveryDisposition : Option RecoveryDisposition := none
  diagnosisReasonCode : Option String := none
  diagnosedAt : Option Int := none
  assessmentFingerprint : Option Digest := none
  attemptCount : Nat := 0
  contactAttemptCount : Nat := 0
  detectedAt : Int
  lastReconciledAt : Option Int := none
  resolvedAt : Option Int := none
  deriving DecidableEq

instance : Keyed PaymentCase Uuid := ⟨PaymentCase.id⟩

/-- One entry of the audit trail, with the state columns of its data. -/
structure CaseEvent where
  caseId : Uuid
  eventType : String
  source : String
  previousState : Option CaseState := none
  newState : Option CaseState := none
  reasonCode : Option String := none
  deriving DecidableEq, Repr

/-! ### The webhook ledger -/

structure WebhookEvent where
  id : Uuid
  razorpayEventId : String
  eventType : String
  accountId : Option String
  paymentId : Option String
  subscriptionId : Option String
  customerId : Option String
  rawPayload : Json
  rawBodySha256 : Option Digest
  processingStatus : EventProcessingStatus := .received
  processingStartedAt : Option Int := none
  processingAttemptCount : Nat := 0
  processedAt : Option Int := none
  processingError : Option String := none
  deriving DecidableEq

instance : Keyed WebhookEvent Uuid := ⟨WebhookEvent.id⟩

/-! ### From the proposal to the action -/

structure StrategyProposal where
  id : Uuid
  caseId : Uuid
  assessmentFingerprint : Digest
  strategyInputFingerprint : Digest
  source : StrategySource
  action : RecoveryAction
  reasonCode : String
  explanation : String
  reEvaluateAfterSeconds : Option Nat
  model : Option String
  supersededAt : Option Int := none
  deriving DecidableEq

instance : Keyed StrategyProposal Uuid := ⟨StrategyProposal.id⟩

/--
A policy row as it is stored.  The columns are JSON values, since the services
validate all of them before use.
-/
structure MerchantPolicy where
  id : Uuid
  merchantId : String
  automationEnabled : Json
  allowedActions : Json
  maxAutomatedAttempts : Json
  maxContactAttempts : Json
  recoveryWindowMinutes : Json
  highValueThresholdMinor : Json
  requireApprovalAboveMinor : Json
  stoppingRules : Json
  deriving DecidableEq

instance : Keyed MerchantPolicy Uuid := ⟨MerchantPolicy.id⟩

structure PolicyDecision where
  id : Uuid
  caseId : Uuid
  strategyProposalId : Uuid
  merchantPolicyId : Option Uuid
  strategyInputFingerprint : Digest
  policyFingerprint : Digest
  authorizationInputFingerprint : Digest
  result : PolicyDecisionResult
  reasonCode : String
  explanation : String
  recoveryWindowEndsAt : Option Int
  approvalThresholdMinor : Option Nat
  highValueThresholdMinor : Option Nat
  observedHighValue : Option Bool
  observedAmountMinor : Option Nat
  observedAttemptCount : Nat
  observedContactAttemptCount : Nat
  evaluatedAt : Int
  supersededAt : Option Int := none
  deriving DecidableEq

instance : Keyed PolicyDecision Uuid := ⟨PolicyDecision.id⟩

structure ApprovalRequest where
  id : Uuid
  caseId : Uuid
  policyDecisionId : Uuid
  status : ApprovalStatus
  requestedAt : Int
  decidedAt : Option Int := none
  decidedBy : Option String := none
  decisionNote : Option String := none
  deriving DecidableEq

instance : Keyed ApprovalRequest Uuid := ⟨ApprovalRequest.id⟩

structure RecoveryActionRecord where
  id : Uuid
  caseId : Uuid
  strategyProposalId : Uuid
  policyDecisionId : Uuid
  approvalRequestId : Option Uuid
  action : RecoveryAction
  executionStatus : RecoveryExecutionStatus := .prepared
  idempotencyKey : Digest
  requestFingerprint : Digest
  provider : ActionProvider
  externalReferenceId : Option String := none
  externalReference : Option String
  externalStatus : Option String := none
  externalUrl : Option String := none
  externalExpiresAt : Option Int
  executionStartedAt : Option Int := none
  executionAttemptCount : Nat := 0
  executedAt : Option Int := none
  failedAt : Option Int := none
  errorCode : Option String := none
  nextEvaluationAt : Option Int := none
  deriving DecidableEq

instance : Keyed RecoveryActionRecord Uuid := ⟨RecoveryActionRecord.id⟩

/-! ### Outcomes -/

structure RecoveryOutcomeObservation where
  id : Uuid
  caseId : Uuid
  recoveryActionId : Uuid
  source : OutcomeObservationSource
  providerMode : ProviderMode
  providerStatus : String
  outcomeStatus : RecoveryOutcomeStatus
  amountExpectedMinor : Nat
  amountPaidMinor : Nat
  currency : String
  providerPaymentId : Option String
  providerPaymentStatus : Option String
  evidenceFingerprint : Digest
  observedAt : Int
  deriving DecidableEq

instance : Keyed RecoveryOutcomeObservation Uuid := ⟨RecoveryOutcomeObservation.id⟩

structure RecoveryAttribution where
  id : Uuid
  caseId : Uuid
  recoveryActionId : Uuid
  outcomeObservationId : Uuid
  providerMode : ProviderMode
  providerPaymentLinkId : String
  providerReferenceId : String
  providerPaymentId : String
  recoveredAmountMinor : Nat
  currency : String
  attributionReasonCode : String
  evidenceFingerprint : Digest
  attributedAt : Int
  deriving DecidableEq

instance : Keyed RecoveryAttribution Uuid := ⟨RecoveryAttribution.id⟩

/-! ### The database

Constraints that a service relies on are checked where the row is written, with the
error SQLAlchemy raises. The tables themselves guarantee the primary key only.
-/

structure Db where
  cases : Table PaymentCase
  caseEvents : List CaseEvent
  webhookEvents : Table WebhookEvent
  strategyProposals : Table StrategyProposal
  merchantPolicies : Table MerchantPolicy
  policyDecisions : Table PolicyDecision
  approvalRequests : Table ApprovalRequest
  recoveryActions : Table RecoveryActionRecord
  outcomeObservations : Table RecoveryOutcomeObservation
  attributions : Table RecoveryAttribution

/-- The schema with no rows. -/
def Db.empty : Db where
  cases := Table.empty
  caseEvents := []
  webhookEvents := Table.empty
  strategyProposals := Table.empty
  merchantPolicies := Table.empty
  policyDecisions := Table.empty
  approvalRequests := Table.empty
  recoveryActions := Table.empty
  outcomeObservations := Table.empty
  attributions := Table.empty

/-- The policy row of a merchant; there is at most one. -/
def Db.policyFor (db : Db) (merchantId : String) : Option MerchantPolicy :=
  db.merchantPolicies.first? fun p => p.merchantId == merchantId

/-- The proposal of a case that is not superseded. -/
def Db.currentProposal (db : Db) (caseId : Uuid) : Option StrategyProposal :=
  db.strategyProposals.first? fun p => p.caseId == caseId && p.supersededAt.isNone

/-- The decision of a case that is not superseded. -/
def Db.currentDecision (db : Db) (caseId : Uuid) : Option PolicyDecision :=
  db.policyDecisions.first? fun d => d.caseId == caseId && d.supersededAt.isNone

/--
A case row under the lock of a transaction, and the audit entries the transaction
has added so far.
-/
structure CaseWork where
  row : PaymentCase
  events : List CaseEvent

/-- The locked case with nothing done to it yet. -/
def CaseWork.lock (row : PaymentCase) : CaseWork := ⟨row, []⟩

/-- Append an audit entry. -/
def CaseWork.audit (w : CaseWork) (e : CaseEvent) : CaseWork := { w with events := w.events ++ [e] }

/-- Commit the locked case: its row is written and its audit entries are appended. -/
def Db.commitCase (db : Db) (w : CaseWork) : Db :=
  { db with cases := db.cases.put w.row, caseEvents := db.caseEvents ++ w.events }

section

variable (db : Db) (w : CaseWork)

@[simp] theorem commitCase_cases : (db.commitCase w).cases = db.cases.put w.row := rfl
@[simp] theorem commitCase_caseEvents :
    (db.commitCase w).caseEvents = db.caseEvents ++ w.events := rfl
@[simp] theorem commitCase_webhookEvents :
    (db.commitCase w).webhookEvents = db.webhookEvents := rfl
@[simp] theorem commitCase_strategyProposals :
    (db.commitCase w).strategyProposals = db.strategyProposals := rfl
@[simp] theorem commitCase_merchantPolicies :
    (db.commitCase w).merchantPolicies = db.merchantPolicies := rfl
@[simp] theorem commitCase_policyDecisions :
    (db.commitCase w).policyDecisions = db.policyDecisions := rfl
@[simp] theorem commitCase_approvalRequests :
    (db.commitCase w).approvalRequests = db.approvalRequests := rfl
@[simp] theorem commitCase_recoveryActions :
    (db.commitCase w).recoveryActions = db.recoveryActions := rfl
@[simp] theorem commitCase_outcomeObservations :
    (db.commitCase w).outcomeObservations = db.outcomeObservations := rfl
@[simp] theorem commitCase_attributions :
    (db.commitCase w).attributions = db.attributions := rfl

end

/-- Committing a locked case that nothing was done to changes nothing. -/
theorem commitCase_lock {db : Db} {c : PaymentCase} (h : c ∈ db.cases) :
    db.commitCase (.lock c) = db := by
  simp [Db.commitCase, CaseWork.lock, Table.put_of_mem h]

end Arc
