/-
Policy evaluation, in one transaction under the case lock.

The current proposal is evaluated afresh; a decision with the same authorization
fingerprint is returned or made current again, otherwise a new one replaces the
current one.  At most one decision of a case is not superseded: the partial unique
index is checked after every row a flush writes.
-/
import Arc.Policy.Current
import Arc.Reconciliation.StateMachine

namespace Arc

open Store

variable [Platform]

def policyAuditSource : String := "MERCHANT_POLICY"

structure PolicyEvaluationResult where
  policyDecisionId : Uuid
  caseId : Uuid
  strategyProposalId : Uuid
  caseState : CaseState
  action : RecoveryAction
  result : PolicyDecisionResult
  reasonCode : String
  explanation : String
  policyFingerprint : Digest
  authorizationInputFingerprint : Digest
  idempotent : Bool

/-- The stops that exhaust a case instead of escalating it. -/
def hardStopReasons : List String :=
  ["MAX_AUTOMATED_ATTEMPTS_REACHED", "MAX_CUSTOMER_CONTACTS_REACHED", "RECOVERY_WINDOW_EXPIRED",
    "STOPPING_RULE_FAILURE_CATEGORY", "STOPPING_RULE_PAYMENT_METHOD"]

/-- An error of the recomputation as `evaluate_policy` reports it. -/
def asProposalNotCurrent : Error → Error
  | .currentAuthorization text => .policyProposalNotCurrent text
  | e => e

def findIdenticalDecision (db : Db) (caseId : Uuid) (fingerprint : Digest) :
    Option PolicyDecision :=
  db.policyDecisions.first? fun d =>
    d.caseId == caseId && d.authorizationInputFingerprint == fingerprint

def buildDecision (c : PaymentCase) (proposal : StrategyProposal)
    (inputs : CurrentAuthorizationInputs) (newId : Uuid) (evaluatedAt : Int) : PolicyDecision where
  id := newId
  caseId := c.id
  strategyProposalId := proposal.id
  merchantPolicyId := inputs.merchantPolicy.map MerchantPolicy.id
  strategyInputFingerprint := proposal.strategyInputFingerprint
  policyFingerprint := inputs.policyFingerprint
  authorizationInputFingerprint := inputs.authorizationInputFingerprint
  result := inputs.evaluation.result
  reasonCode := inputs.evaluation.reasonCode
  explanation := inputs.evaluation.explanation
  recoveryWindowEndsAt := inputs.evaluation.recoveryWindowEndsAt
  approvalThresholdMinor := inputs.evaluation.approvalThresholdMinor
  highValueThresholdMinor := inputs.evaluation.highValueThresholdMinor
  observedHighValue := inputs.evaluation.observedHighValue
  observedAmountMinor := c.amount
  observedAttemptCount := c.attemptCount
  observedContactAttemptCount := c.contactAttemptCount
  evaluatedAt := evaluatedAt

/-- Another decision of the same case is not superseded. -/
def otherCurrent (decisions : Table PolicyDecision) (d : PolicyDecision) : Bool :=
  decisions.any fun x => x.caseId == d.caseId && x.supersededAt.isNone && x.id != d.id

/-- One `UPDATE` of a decision, with the index checked after it. -/
def flushDecision (decisions : Table PolicyDecision) (d : PolicyDecision) :
    Except Error (Table PolicyDecision) :=
  if d.supersededAt.isNone && otherCurrent decisions d then .error .integrity
  else .ok (decisions.put d)

/-- One `INSERT` of a decision, with the constraints on the case checked. -/
def insertDecision (decisions : Table PolicyDecision) (d : PolicyDecision) :
    Except Error (Table PolicyDecision) :=
  if otherCurrent decisions d || (decisions.any fun x =>
      x.caseId == d.caseId && x.authorizationInputFingerprint == d.authorizationInputFingerprint) then
    .error .integrity
  else requireSome (decisions.insert? d) .integrity

def PolicyDecision.superseded (d : PolicyDecision) (at' : Int) : PolicyDecision :=
  { d with supersededAt := some at' }

/--
The decisions after an evaluation, and the one that is current.  The updates of one
flush are written in the order of the primary keys, and before its inserts.
-/
def replaceDecision (decisions : Table PolicyDecision) (current existing : Option PolicyDecision)
    (new : PolicyDecision) (evaluatedAt : Int) :
    Except Error (Table PolicyDecision × PolicyDecision) :=
  match current, existing with
  | none, none => do
      let decisions ← insertDecision decisions new
      return (decisions, new)
  | some current, none => do
      let decisions ← flushDecision decisions (current.superseded evaluatedAt)
      let decisions ← insertDecision decisions new
      return (decisions, new)
  | none, some existing => do
      let reactivated := { existing with supersededAt := none }
      let decisions ← flushDecision decisions reactivated
      return (decisions, reactivated)
  | some current, some existing => do
      let reactivated := { existing with supersededAt := none }
      if current.id ≤ existing.id then
        let decisions ← flushDecision decisions (current.superseded evaluatedAt)
        let decisions ← flushDecision decisions reactivated
        return (decisions, reactivated)
      else
        let decisions ← flushDecision decisions reactivated
        let decisions ← flushDecision decisions (current.superseded evaluatedAt)
        return (decisions, reactivated)

/-- The state a decision sends its case to, and the reason recorded with the change. -/
def policyTarget (decision : PolicyDecision) : CaseState × String :=
  match decision.result with
  | .authorized => (.policyValidated, "POLICY_AUTHORIZED")
  | .requiresApproval => (.policyValidated, "POLICY_REQUIRES_APPROVAL")
  | .blocked =>
      if decision.reasonCode ∈ hardStopReasons then (.exhausted, decision.reasonCode)
      else (.escalated, decision.reasonCode)

def applyPolicyTransition (w : CaseWork) (decision : PolicyDecision) : Except Error CaseWork :=
  transitionCase w (policyTarget decision).1 (policyTarget decision).2 policyAuditSource

def policyAuditEventType (result : PolicyDecisionResult) (reevaluated : Bool) : String :=
  if reevaluated then "POLICY_REEVALUATED"
  else
    match result with
    | .authorized => "POLICY_AUTHORIZED"
    | .requiresApproval => "POLICY_REQUIRES_APPROVAL"
    | .blocked => "POLICY_BLOCKED"

def appendPolicyAudit (w : CaseWork) (decision : PolicyDecision) (previousState : CaseState)
    (reevaluated : Bool) : CaseWork :=
  w.audit
    { caseId := w.row.id
      eventType := policyAuditEventType decision.result reevaluated
      source := policyAuditSource
      previousState := some previousState
      newState := some w.row.currentState
      reasonCode := some decision.reasonCode }

def policyResult (decision : PolicyDecision) (c : PaymentCase) (action : RecoveryAction)
    (idempotent : Bool) : PolicyEvaluationResult where
  policyDecisionId := decision.id
  caseId := decision.caseId
  strategyProposalId := decision.strategyProposalId
  caseState := c.currentState
  action := action
  result := decision.result
  reasonCode := decision.reasonCode
  explanation := decision.explanation
  policyFingerprint := decision.policyFingerprint
  authorizationInputFingerprint := decision.authorizationInputFingerprint
  idempotent := idempotent

/-- The part of an evaluation that follows the search for an identical decision. -/
def persistEvaluation (db : Db) (c : PaymentCase) (proposal : StrategyProposal)
    (inputs : CurrentAuthorizationInputs) (existing : Option PolicyDecision) (newId : Uuid)
    (evaluatedAt : Int) : Except Error (Db × PolicyEvaluationResult) := do
  let current := db.currentDecision c.id
  let (decisions, decision) ← replaceDecision db.policyDecisions current existing
    (buildDecision c proposal inputs newId evaluatedAt) evaluatedAt
  let w ← applyPolicyTransition (.lock c) decision
  let w := appendPolicyAudit w decision c.currentState current.isSome
  return ({ db with policyDecisions := decisions }.commitCase w,
    policyResult decision w.row proposal.action false)

/-- Persist or idempotently return one authorization of the current proposal. -/
def evaluatePolicy (db : Db) (caseId : Uuid) (strategyProposalId : Option Uuid) (newId : Uuid)
    (evaluatedAt : Int) : Except Error (Db × PolicyEvaluationResult) := do
  let c ← requireSome (db.cases.get? caseId) (.policyCaseNotFound "Payment case was not found")
  require (c.currentState = .decisioned ∨ c.currentState = .policyValidated)
    (.policyEvaluationNotAllowed "Case state does not allow merchant policy evaluation")
  let proposal ← requireSome (db.currentProposal c.id)
    (.policyProposalNotCurrent "A current strategy proposal is required")
  require (strategyProposalId.all fun id => id == proposal.id)
    (.policyProposalNotCurrent "Only the current strategy proposal may be evaluated")
  let inputs ← (recomputeCurrentAuthorizationInputs db c proposal evaluatedAt).mapError
    asProposalNotCurrent
  let existing := findIdenticalDecision db c.id inputs.authorizationInputFingerprint
  match existing.filter fun d => d.supersededAt.isNone with
  | some decision => return (db, policyResult decision c proposal.action true)
  | none => persistEvaluation db c proposal inputs existing newId evaluatedAt

end Arc
