/-
The recovery action row: how it is built, checked again, and claimed.

A row is keyed by its policy decision and carries the idempotency key and the
fingerprint of the request it stands for, so that a later claim can tell whether the
row still is the one it would build.
-/
import Arc.Approval.Service
import Arc.Integrations.Razorpay
import Arc.Policy.Current

namespace Arc

open Store

variable [Platform]

/-- How long a claimed action is left to its worker. -/
def executionLease : Int := seconds 120

/-- The longest life of a payment link. -/
def paymentLinkOperationalExpiry : Int := seconds (30 * 60)

def finalExecutionStatuses : List RecoveryExecutionStatus :=
  [.succeeded, .failed, .cancelled, .compensationRequired]

def executorRulesetVersion : String := "arc-recovery-executor-v1"
def paymentLinkDescription : String := "ARC recovery payment"

/-! ### Fingerprints -/

/-- Bind an execution to the exact authorization it acts under. -/
def buildExecutionIdempotencyKey (policyDecisionId : Uuid)
    (authorizationInputFingerprint : Digest) (strategyProposalId : Uuid)
    (action : RecoveryAction) : Digest :=
  Platform.hashFacts <| .obj [
    ("executor_ruleset_version", .str executorRulesetVersion),
    ("policy_decision_id", .int policyDecisionId),
    ("authorization_input_fingerprint", Platform.hexdigest authorizationInputFingerprint),
    ("strategy_proposal_id", .int strategyProposalId),
    ("action", .str action.value)]

/-- Hash the complete request contract of a payment link. -/
def buildPaymentLinkRequestFingerprint (action : RecoveryAction) (amountMinor : Nat)
    (currency referenceId : String) (expireBy : Int) : Digest :=
  Platform.hashFacts <| .obj [
    ("executor_ruleset_version", .str executorRulesetVersion),
    ("action", .str action.value),
    ("amount", .int amountMinor),
    ("currency", .str (upperStripped currency)),
    ("reference_id", .str referenceId),
    ("expire_by", .int expireBy),
    ("accept_partial", .bool false),
    ("description", .str paymentLinkDescription),
    ("notify", .obj [("email", .bool false), ("sms", .bool false)]),
    ("reminder_enable", .bool false)]

/-- Hash one internal action. -/
def buildInternalRequestFingerprint (action : RecoveryAction) (policyDecisionId : Uuid)
    (reEvaluateAfterSeconds : Option Nat) : Digest :=
  Platform.hashFacts <| .obj [
    ("executor_ruleset_version", .str executorRulesetVersion),
    ("action", .str action.value),
    ("policy_decision_id", .int policyDecisionId),
    ("re_evaluate_after_seconds", .ofOption (fun n : Nat => .int n) reEvaluateAfterSeconds)]

/-! ### Current inputs -/

/-- An error of the recomputation as the executor reports it. -/
def asPolicyReevaluation : Error → Error
  | .currentAuthorization text => .executionRequiresPolicyReevaluation text
  | e => e

/-- The stored decision is the one the recomputed inputs give. -/
def PolicyDecision.matchesInputs (decision : PolicyDecision) (c : PaymentCase)
    (proposal : StrategyProposal) (inputs : CurrentAuthorizationInputs) : Bool :=
  decision.strategyInputFingerprint == proposal.strategyInputFingerprint &&
    decision.policyFingerprint == inputs.policyFingerprint &&
    decision.authorizationInputFingerprint == inputs.authorizationInputFingerprint &&
    decision.result == inputs.evaluation.result &&
    decision.reasonCode == inputs.evaluation.reasonCode &&
    decision.recoveryWindowEndsAt == inputs.evaluation.recoveryWindowEndsAt &&
    decision.observedAmountMinor == c.amount &&
    decision.observedAttemptCount == c.attemptCount &&
    decision.observedContactAttemptCount == c.contactAttemptCount

/-- `_current_inputs` -/
def currentInputs (db : Db) (c : PaymentCase) (proposal : StrategyProposal)
    (decision : PolicyDecision) (evaluatedAt : Int) :
    Except Error CurrentAuthorizationInputs := do
  require (decision.strategyProposalId = proposal.id)
    (.executionRequiresPolicyReevaluation
      "Current policy decision does not reference current strategy")
  let inputs ← (recomputeCurrentAuthorizationInputs db c proposal evaluatedAt).mapError
    asPolicyReevaluation
  require (decision.matchesInputs c proposal inputs)
    (.executionRequiresPolicyReevaluation
      "Current deterministic authorization inputs have changed")
  require (decision.result ≠ .blocked ∧ inputs.evaluation.recoveryWindowExpired ≠ some true)
    (.executionRequiresPolicyReevaluation
      "Current policy decision no longer permits execution")
  return inputs

/-! ### Building a row

Everything a link request needs is computed when the row is built, and stored. The
expiry is bounded by the recovery window and by the operational limit, and truncated to
the seconds that the provider takes.
-/

/-- `arc_` and the hexadecimal digits of the row's id. -/
def referenceOf (recordId : Uuid) : String := "arc_" ++ uuidHex recordId

/-- What a payment link row is built from. -/
structure LinkIntent where
  amount : Nat
  currency : String
  expiresAt : Int

/-- The checks on amount, currency, window and expiry of a payment link. -/
def buildLinkIntent (c : PaymentCase) (decision : PolicyDecision) (now : Int) :
    Except Error LinkIntent := do
  let amount ← requireSome (c.amount.filter fun a => 0 < a)
    (.executionRequiresPolicyReevaluation
      "A positive amount is required for Payment Link execution")
  let currency ← requireSome (c.currency.filter fun x => (strip x).length = 3)
    (.executionRequiresPolicyReevaluation
      "A three-letter currency is required for Payment Link execution")
  let windowEnd ← requireSome (decision.recoveryWindowEndsAt.filter fun e => now < e)
    (.executionRequiresPolicyReevaluation "Authorized recovery window has expired")
  let expiresAt := min windowEnd (now + paymentLinkOperationalExpiry)
  require (unixSeconds now < unixSeconds expiresAt)
    (.executionRequiresPolicyReevaluation "Payment Link expiry is no longer executable")
  return ⟨amount, currency, expiresAt⟩

/-- `_build_record` -/
def buildRecord (c : PaymentCase) (proposal : StrategyProposal) (decision : PolicyDecision)
    (approval : Option ApprovalRequest) (inputs : CurrentAuthorizationInputs) (recordId : Uuid)
    (now : Int) : Except Error RecoveryActionRecord :=
  let idempotencyKey := buildExecutionIdempotencyKey decision.id
    inputs.authorizationInputFingerprint proposal.id proposal.action
  if proposal.action = .createRecoveryLink then do
    let intent ← buildLinkIntent c decision now
    return {
      id := recordId
      caseId := c.id
      strategyProposalId := proposal.id
      policyDecisionId := decision.id
      approvalRequestId := approval.map ApprovalRequest.id
      action := proposal.action
      idempotencyKey := idempotencyKey
      requestFingerprint := buildPaymentLinkRequestFingerprint proposal.action intent.amount
        intent.currency (referenceOf recordId) (unixSeconds intent.expiresAt)
      provider := .razorpay
      externalReference := some (referenceOf recordId)
      externalExpiresAt := some intent.expiresAt }
  else
    .ok {
      id := recordId
      caseId := c.id
      strategyProposalId := proposal.id
      policyDecisionId := decision.id
      approvalRequestId := approval.map ApprovalRequest.id
      action := proposal.action
      idempotencyKey := idempotencyKey
      requestFingerprint := buildInternalRequestFingerprint proposal.action decision.id
        proposal.reEvaluateAfterSeconds
      provider := .internal
      externalReference := none
      externalExpiresAt := none }

/-- The request fingerprint a stored row is expected to carry. -/
def expectedRequestFingerprint (record : RecoveryActionRecord) (c : PaymentCase)
    (proposal : StrategyProposal) (decision : PolicyDecision) : Except Error Digest :=
  if record.action = .createRecoveryLink then
    match c.amount, c.currency, record.externalReference, record.externalExpiresAt with
    | some amount, some currency, some reference, some expiresAt =>
        .ok (buildPaymentLinkRequestFingerprint record.action amount currency reference
          (unixSeconds expiresAt))
    | _, _, _, _ =>
        .error (.executionConfiguration "Payment Link execution intent is incomplete")
  else
    .ok (buildInternalRequestFingerprint record.action decision.id proposal.reEvaluateAfterSeconds)

/-- `_validate_existing_record` -/
def validateExistingRecord (record : RecoveryActionRecord) (c : PaymentCase)
    (proposal : StrategyProposal) (decision : PolicyDecision) : Except Error Unit := do
  require (record.caseId = c.id ∧ record.strategyProposalId = proposal.id ∧
      record.action = proposal.action ∧
      record.idempotencyKey = buildExecutionIdempotencyKey decision.id
        decision.authorizationInputFingerprint proposal.id proposal.action)
    (.executionRequiresPolicyReevaluation
      "Existing recovery action does not match current authorization")
  let expected ← expectedRequestFingerprint record c proposal decision
  require (record.requestFingerprint = expected)
    (.executionRequiresPolicyReevaluation
      "Existing recovery request fingerprint is inconsistent")

/-! ### Claiming a row

A claim starts a row, raises its attempt and notes the instant. The lease is nothing
more than that instant: it runs out by the clock, and no column says so.
-/

/-- Whether the lease of a row in progress is still running at `now`. -/
def hasFreshLease (record : RecoveryActionRecord) (now : Int) : Bool :=
  record.executionStatus == .inProgress &&
    record.executionStartedAt.any fun startedAt => now - executionLease < startedAt

/-- The row of a newly claimed action. -/
def RecoveryActionRecord.start (record : RecoveryActionRecord) (now : Int) :
    RecoveryActionRecord :=
  { record with
    executionStatus := .inProgress
    executionStartedAt := some now
    executionAttemptCount := record.executionAttemptCount + 1
    failedAt := none
    errorCode := none }

/-- What a worker keeps of the action it has claimed. -/
structure ExecutionClaim where
  recoveryActionId : Uuid
  caseId : Uuid
  action : RecoveryAction
  amountMinor : Option Nat
  currency : Option String
  referenceId : Option String
  expireBy : Option Int
  deriving DecidableEq, Repr

def toClaim (record : RecoveryActionRecord) (c : PaymentCase) : ExecutionClaim where
  recoveryActionId := record.id
  caseId := record.caseId
  action := record.action
  amountMinor := c.amount
  currency := c.currency
  referenceId := record.externalReference
  expireBy := record.externalExpiresAt.map unixSeconds

/-- The request of a claim, within the bounds of the request schema. -/
def paymentLinkRequest (claim : ExecutionClaim) : Except Error PaymentLinkCreateRequest :=
  match claim.amountMinor, claim.currency, claim.referenceId, claim.expireBy with
  | some amount, some currency, some referenceId, some expireBy =>
      if 0 < amount ∧ boundedText 3 3 (upperStripped currency) ∧ boundedText 1 40 referenceId ∧
          0 < expireBy then
        .ok ⟨amount, upperStripped (upperStripped currency), referenceId, expireBy⟩
      else .error (.executionConfiguration "Payment Link request is out of bounds")
  | _, _, _, _ => .error (.executionConfiguration "Payment Link execution claim is incomplete")

def matchesRequest (snapshot : PaymentLinkSnapshot) (request : PaymentLinkCreateRequest) : Bool :=
  snapshot.referenceId == request.referenceId && snapshot.amount == request.amount &&
    snapshot.currency == request.currency

/-- The provider columns of a row, from a link snapshot. -/
def RecoveryActionRecord.withProjection (record : RecoveryActionRecord)
    (snapshot : PaymentLinkSnapshot) : RecoveryActionRecord :=
  { record with
    externalReferenceId := some snapshot.id
    externalReference := some snapshot.referenceId
    externalStatus := some snapshot.status
    externalUrl := some snapshot.shortUrl }

def boundedErrorCode (value : String) : String :=
  let normalized := upperStripped value
  if normalized = "" ∨ 100 < normalized.length then "RECOVERY_EXECUTION_FAILED" else normalized

end Arc
