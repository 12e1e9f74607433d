/-
Execution of recovery actions.

A claim, the provider calls, and a finalization are separate: `prepareAndClaim`
commits before the provider is asked, and each finalization locks the case and the
row again.  `finalizeExternalSuccess` and `finalizeCompensation` act on the row they
find, whatever its status and whoever claimed it last; the other finalizations stop
at a final row.
-/
import Arc.Execution.Record

namespace Arc

open Store

variable [Platform]

def executionAuditSource : String := "RECOVERY_EXECUTOR"

structure RecoveryExecutionResult where
  recoveryActionId : Uuid
  caseId : Uuid
  policyDecisionId : Uuid
  action : RecoveryAction
  executionStatus : RecoveryExecutionStatus
  caseState : CaseState
  reasonCode : String
  executionAttemptCount : Nat
  externalReferenceId : Option String
  externalReference : Option String
  externalStatus : Option String
  externalUrl : Option String
  idempotent : Bool

def executionResult (record : RecoveryActionRecord) (c : PaymentCase) (reasonCode : String)
    (idempotent : Bool) : RecoveryExecutionResult where
  recoveryActionId := record.id
  caseId := record.caseId
  policyDecisionId := record.policyDecisionId
  action := record.action
  executionStatus := record.executionStatus
  caseState := c.currentState
  reasonCode := reasonCode
  executionAttemptCount := record.executionAttemptCount
  externalReferenceId := record.externalReferenceId
  externalReference := record.externalReference
  externalStatus := record.externalStatus
  externalUrl := record.externalUrl
  idempotent := idempotent

/-- One audit entry of the execution ledger. -/
def executionAudit (record : RecoveryActionRecord) (eventType : String) : CaseEvent where
  caseId := record.caseId
  eventType := eventType
  source := executionAuditSource

def lockExecutionCase (db : Db) (caseId : Uuid) : Except Error PaymentCase :=
  requireSome (db.cases.get? caseId) (.executionCaseNotFound "Payment case was not found")

def lockRecord (db : Db) (recordId : Uuid) : Except Error RecoveryActionRecord :=
  requireSome (db.recoveryActions.get? recordId)
    (.executionConfiguration "Recovery action ledger row was not found")

/-- One `INSERT` of an action, with its unique constraints checked. -/
def insertRecord (records : Table RecoveryActionRecord) (r : RecoveryActionRecord) :
    Except Error (Table RecoveryActionRecord) :=
  if records.any fun x => x.policyDecisionId == r.policyDecisionId ||
      x.idempotencyKey == r.idempotencyKey ||
      (r.externalReference.isSome && x.externalReference == r.externalReference) then
    .error .integrity
  else requireSome (records.insert? r) .integrity

/-- One `UPDATE` of an action, with its unique reference checked. -/
def flushRecord (records : Table RecoveryActionRecord) (r : RecoveryActionRecord) :
    Except Error (Table RecoveryActionRecord) :=
  if records.any fun x => x.id != r.id && r.externalReference.isSome &&
      x.externalReference == r.externalReference then
    .error .integrity
  else .ok (records.put r)

/-- The action row of a decision; there is at most one. -/
def Db.actionFor (db : Db) (policyDecisionId : Uuid) : Option RecoveryActionRecord :=
  db.recoveryActions.first? fun r => r.policyDecisionId == policyDecisionId

/-! ### Claiming

The early return for a row in a final status, which includes one that waits for its
compensation, comes before the row is compared with the inputs. A row under a running
lease is left to the worker that has it.
-/

/-- The row to claim, built and inserted when the decision has none, and the audit so far. -/
def prepareRecord (db : Db) (c : PaymentCase) (proposal : StrategyProposal)
    (decision : PolicyDecision) (approval : Option ApprovalRequest)
    (inputs : CurrentAuthorizationInputs) (existing : Option RecoveryActionRecord)
    (newId : Uuid) (now : Int) :
    Except Error (Table RecoveryActionRecord × RecoveryActionRecord × CaseWork) :=
  match existing with
  | none => do
      let record ← buildRecord c proposal decision approval inputs newId now
      let records ← insertRecord db.recoveryActions record
      return (records, record,
        (CaseWork.lock c).audit (executionAudit record "RECOVERY_ACTION_PREPARED"))
  | some record => do
      validateExistingRecord record c proposal decision
      return (db.recoveryActions, record, .lock c)

/-- The part of a claim that follows the checks of authority. -/
def claimRecord (db : Db) (records : Table RecoveryActionRecord) (record : RecoveryActionRecord)
    (w : CaseWork) (now : Int) : Db × (ExecutionClaim ⊕ RecoveryExecutionResult) :=
  if hasFreshLease record now then
    ({ db with recoveryActions := records }.commitCase w,
      .inr (executionResult record w.row "EXECUTION_ALREADY_PROCESSING" true))
  else
    let started := record.start now
    ({ db with recoveryActions := records.put started }.commitCase
        (w.audit (executionAudit started "RECOVERY_ACTION_STARTED")),
      .inl (toClaim started w.row))

/-- `_prepare_and_claim`: claim the action of the current decision, or say why not. -/
def prepareAndClaim (db : Db) (caseId newId : Uuid) (now : Int) :
    Except Error (Db × (ExecutionClaim ⊕ RecoveryExecutionResult)) := do
  let c ← lockExecutionCase db caseId
  let proposal ← requireSome (db.currentProposal c.id)
    (.executionRequiresPolicyReevaluation "A current strategy proposal is required")
  let decision ← requireSome (db.currentDecision c.id)
    (.executionRequiresPolicyReevaluation "A current policy decision is required")
  let existing := db.actionFor decision.id
  match existing.filter fun r => r.executionStatus ∈ finalExecutionStatuses with
  | some record => return (db, .inr (executionResult record c "RECOVERY_ACTION_ALREADY_FINAL" true))
  | none =>
      require (c.currentState = .policyValidated)
        (.executionRequiresPolicyReevaluation
          "Case state requires policy reevaluation before execution")
      let inputs ← currentInputs db c proposal decision now
      let approval := db.approvalFor decision.id
      require (isExecutionPermitted decision approval)
        (.executionNotPermitted "Current authorization does not permit execution")
      let (records, record, w) ←
        prepareRecord db c proposal decision approval inputs existing newId now
      return claimRecord db records record w now

/-! ### Finalizing

Each finalizer is a transaction of its own that locks the case and the row again. What
they compare before they write differs, and it is stated as the source has it: the
status in some, the context of the authorization in one, the owner of the claim in none.
-/

/-- Whether the authority a claim was made under still holds. -/
def postRequestContextIsCurrent (db : Db) (c : PaymentCase) (record : RecoveryActionRecord)
    (evaluatedAt : Int) : Except Error Bool :=
  if c.currentState ≠ .policyValidated then .ok false
  else
    match db.strategyProposals.get? record.strategyProposalId,
        db.policyDecisions.get? record.policyDecisionId with
    | some proposal, some decision =>
        if proposal.supersededAt.isSome || decision.supersededAt.isSome then .ok false
        else
          match currentInputs db c proposal decision evaluatedAt with
          | .ok _ => .ok (isExecutionPermitted decision (db.approvalFor decision.id))
          | .error (.executionRequiresPolicyReevaluation _) => .ok false
          | .error e => .error e
    | _, _ => .ok false

/-- The two transitions of an action that waits for its outcome. -/
def moveCaseToWaiting (w : CaseWork) : Except Error CaseWork := do
  let w ← transitionCase w .actioned "RECOVERY_ACTION_EXECUTED" executionAuditSource
  transitionCase w .waitingForOutcome "AWAITING_RECOVERY_OUTCOME" executionAuditSource

/-- The entry that closes a successful execution. -/
def succeededAudit (record : RecoveryActionRecord) (previousState newState : CaseState) :
    CaseEvent :=
  { executionAudit record "RECOVERY_ACTION_SUCCEEDED" with
    previousState := some previousState
    newState := some newState }

/-- Where an internal action sends its case. -/
def moveCaseForInternalAction (w : CaseWork) (action : RecoveryAction) : Except Error CaseWork :=
  match action with
  | .wait => moveCaseToWaiting w
  | .escalateToHuman =>
      transitionCase w .escalated "RECOVERY_ACTION_ESCALATED_TO_HUMAN" executionAuditSource
  | _ => transitionCase w .exhausted "RECOVERY_NO_ACTION_SELECTED" executionAuditSource

/-- When the case of a `WAIT` is looked at again. -/
def nextEvaluation (db : Db) (record : RecoveryActionRecord) (now : Int) : Option Int :=
  if record.action = .wait then
    match (db.strategyProposals.get? record.strategyProposalId).bind
        StrategyProposal.reEvaluateAfterSeconds with
    | some after => some (now + seconds after)
    | none => record.nextEvaluationAt
  else record.nextEvaluationAt

/-- An internal action that has no executor escalates its case. -/
def failUnsupported (db : Db) (c : PaymentCase) (record : RecoveryActionRecord) (now : Int) :
    Except Error (Db × RecoveryExecutionResult) := do
  let record := { record with
    executionStatus := .failed
    failedAt := some now
    errorCode := some "EXECUTOR_ACTION_NOT_IMPLEMENTED" }
  let w := (CaseWork.lock c).audit (executionAudit record "EXECUTOR_ACTION_NOT_IMPLEMENTED")
  let w ← transitionCase w .escalated "EXECUTOR_ACTION_NOT_IMPLEMENTED" executionAuditSource
  return ({ db with recoveryActions := db.recoveryActions.put record }.commitCase w,
    executionResult record w.row "EXECUTOR_ACTION_NOT_IMPLEMENTED" false)

/-- A supported internal action is done by moving its case. -/
def succeedInternal (db : Db) (c : PaymentCase) (record : RecoveryActionRecord) (now : Int) :
    Except Error (Db × RecoveryExecutionResult) := do
  let record := { record with
    executionStatus := .succeeded
    executedAt := some now
    nextEvaluationAt := nextEvaluation db record now }
  let w ← moveCaseForInternalAction (.lock c) record.action
  let w := w.audit (succeededAudit record c.currentState w.row.currentState)
  return ({ db with recoveryActions := db.recoveryActions.put record }.commitCase w,
    executionResult record w.row "RECOVERY_ACTION_SUCCEEDED" false)

/-- A claim whose authority is gone cancels an internal action. -/
def cancelStale (db : Db) (c : PaymentCase) (record : RecoveryActionRecord) :
    Db × RecoveryExecutionResult :=
  let record := { record with
    executionStatus := .cancelled
    errorCode := some "EXECUTION_REQUIRES_POLICY_REEVALUATION" }
  ({ db with recoveryActions := db.recoveryActions.put record }.commitCase
      ((CaseWork.lock c).audit (executionAudit record "EXECUTION_BLOCKED_STALE_AUTHORIZATION")),
    executionResult record c "EXECUTION_REQUIRES_POLICY_REEVALUATION" false)

/-- `_execute_internal` -/
def executeInternal (db : Db) (claim : ExecutionClaim) (now : Int) :
    Except Error (Db × RecoveryExecutionResult) := do
  let c ← lockExecutionCase db claim.caseId
  let record ← lockRecord db claim.recoveryActionId
  if record.executionStatus ∈ finalExecutionStatuses then
    return (db, executionResult record c "RECOVERY_ACTION_ALREADY_FINAL" true)
  else
    let isCurrent ← postRequestContextIsCurrent db c record now
    if isCurrent = false then return cancelStale db c record
    else
      match record.action with
      | .requestRetry | .requestPaymentMethodUpdate => failUnsupported db c record now
      | .wait | .noAction | .escalateToHuman => succeedInternal db c record now
      | .createRecoveryLink =>
          .error (.executionConfiguration "Recovery action has no bounded executor")

/--
How a provider problem is recorded.  It is left open whether the link exists, or it is
known that it does not.
-/
structure ProviderProblem where
  status : RecoveryExecutionStatus
  errorCode : String
  eventType : String
  known : (status = .indeterminate ∧ eventType = "RECOVERY_ACTION_INDETERMINATE") ∨
    (status = .failed ∧ eventType = "RECOVERY_ACTION_FAILED")
  deriving DecidableEq, Repr

def indeterminateProblem (errorCode : String) : ProviderProblem :=
  ⟨.indeterminate, errorCode, "RECOVERY_ACTION_INDETERMINATE", .inl ⟨rfl, rfl⟩⟩

def failedProblem (errorCode : String) : ProviderProblem :=
  ⟨.failed, errorCode, "RECOVERY_ACTION_FAILED", .inr ⟨rfl, rfl⟩⟩

/-- `_finalize_provider_problem` -/
def finalizeProviderProblem (db : Db) (claim : ExecutionClaim) (problem : ProviderProblem)
    (now : Int) : Except Error (Db × RecoveryExecutionResult) := do
  let c ← lockExecutionCase db claim.caseId
  let record ← lockRecord db claim.recoveryActionId
  if record.executionStatus ∈ finalExecutionStatuses then
    return (db, executionResult record c "RECOVERY_ACTION_ALREADY_FINAL" true)
  else
    let record := { record with
      executionStatus := problem.status
      errorCode := some (boundedErrorCode problem.errorCode)
      failedAt := if problem.status = .failed then some now else record.failedAt }
    return ({ db with recoveryActions := db.recoveryActions.put record }.commitCase
        ((CaseWork.lock c).audit (executionAudit record problem.eventType)),
      executionResult record c (boundedErrorCode problem.errorCode) false)

structure ExternalFinalization where
  result : RecoveryExecutionResult
  compensationRequired : Bool

/-- The row and the case of a link that is handed to the customer. -/
def succeedExternal (db : Db) (c : PaymentCase) (record : RecoveryActionRecord) (adopted : Bool)
    (now : Int) : Except Error (Db × ExternalFinalization) := do
  let record := { record with
    executionStatus := .succeeded
    executedAt := some now
    failedAt := none
    errorCode := none }
  let counted := { c with
    attemptCount := c.attemptCount + 1
    contactAttemptCount :=
      if record.action ∈ customerContactActions then c.contactAttemptCount + 1
      else c.contactAttemptCount }
  let w ← moveCaseToWaiting (.lock counted)
  let w := if adopted then w.audit (executionAudit record "RECOVERY_ACTION_ADOPTED_EXISTING") else w
  let w := w.audit (succeededAudit record c.currentState w.row.currentState)
  let records ← flushRecord db.recoveryActions record
  return ({ db with recoveryActions := records }.commitCase w,
    ⟨executionResult record w.row "RECOVERY_ACTION_SUCCEEDED" false, false⟩)

/-- The row of a link that has to be cancelled again. -/
def requireCompensation (db : Db) (c : PaymentCase) (record : RecoveryActionRecord) :
    Except Error (Db × ExternalFinalization) := do
  let record := { record with
    executionStatus := .compensationRequired
    errorCode := some "EXECUTION_BLOCKED_STALE_AUTHORIZATION" }
  let records ← flushRecord db.recoveryActions record
  return ({ db with recoveryActions := records }.commitCase
      ((CaseWork.lock c).audit (executionAudit record "EXECUTION_BLOCKED_STALE_AUTHORIZATION")),
    ⟨executionResult record c "EXECUTION_BLOCKED_STALE_AUTHORIZATION" false, true⟩)

/-- `_finalize_external_success` -/
def finalizeExternalSuccess (db : Db) (claim : ExecutionClaim) (snapshot : PaymentLinkSnapshot)
    (adopted : Bool) (now : Int) : Except Error (Db × ExternalFinalization) := do
  let c ← lockExecutionCase db claim.caseId
  let record ← lockRecord db claim.recoveryActionId
  let record := record.withProjection snapshot
  let isCurrent ← postRequestContextIsCurrent db c record now
  if isCurrent then succeedExternal db c record adopted now
  else requireCompensation db c record

/-- What a cancellation came to: the cancelled link, or the reason code of the failure. -/
abbrev CancellationOutcome := PaymentLinkSnapshot ⊕ String

/-- `_compensate`, up to its finalization: the gateway's answer and the status check. -/
def cancellationOutcome (paymentLinkId : String) (out : HttpOutcome PaymentLinkSnapshot) :
    CancellationOutcome :=
  match cancelLink paymentLinkId out with
  | .ok cancelled =>
      if cancelled.status = "cancelled" then .inl cancelled
      else .inr "EXECUTION_CONFIGURATION_ERROR"
  | .error e => .inr e.reasonCode

/-- The row after a compensation, and the entry it leaves. -/
def compensatedRecord (record : RecoveryActionRecord) (original : PaymentLinkSnapshot)
    (outcome : CancellationOutcome) : RecoveryActionRecord × String :=
  match outcome with
  | .inl cancelled =>
      ({ record.withProjection cancelled with executionStatus := .cancelled, errorCode := none },
        "RECOVERY_ACTION_COMPENSATED")
  | .inr errorCode =>
      ({ record.withProjection original with
          executionStatus := .compensationRequired
          errorCode := some (boundedErrorCode errorCode) },
        "RECOVERY_ACTION_COMPENSATION_REQUIRED")

/-- `_finalize_compensation` -/
def finalizeCompensation (db : Db) (claim : ExecutionClaim) (original : PaymentLinkSnapshot)
    (outcome : CancellationOutcome) : Except Error (Db × RecoveryExecutionResult) := do
  let c ← lockExecutionCase db claim.caseId
  let record ← lockRecord db claim.recoveryActionId
  let (record, eventType) := compensatedRecord record original outcome
  let records ← flushRecord db.recoveryActions record
  return ({ db with recoveryActions := records }.commitCase
      ((CaseWork.lock c).audit (executionAudit record eventType)),
    executionResult record c (record.errorCode.getD eventType) false)

end Arc
