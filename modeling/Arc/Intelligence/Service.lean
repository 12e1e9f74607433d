/-
Strategy generation in two transactions, with the model called in between.

The first transaction takes a snapshot of the case under its lock; the second locks
the case again and persists a proposal only when the context recomputed from the row
is the one the snapshot was taken from.  A stale or incompatible proposal leaves an
audit entry behind and nothing else, and that entry is committed although the call
raises: the result of `persistLocked` is a database together with an outcome.
-/
import Arc.Intelligence.Context
import Arc.Reconciliation.StateMachine

namespace Arc

open Store

variable [Platform]

def strategyAuditSource : String := "STRATEGY_ENGINE"
def strategyIncompatibleReason : String := "STRATEGY_INCOMPATIBLE_WITH_DIAGNOSIS"
def strategyStaleReason : String := "STRATEGY_DISCARDED_STALE_CONTEXT"

/-- The validated answer of the model. -/
structure StrategyModelResult where
  action : RecoveryAction
  explanation : String
  reEvaluateAfterSeconds : Option Nat
  model : String
  deriving DecidableEq, Repr

structure StrategyGenerationResult where
  proposalId : Uuid
  caseId : Uuid
  caseState : CaseState
  source : StrategySource
  action : RecoveryAction
  reasonCode : String
  explanation : String
  reEvaluateAfterSeconds : Option Nat
  assessmentFingerprint : Digest
  strategyInputFingerprint : Digest
  idempotent : Bool

/-- What a generation keeps of the case while the model is called. -/
structure StrategySnapshot where
  caseId : Uuid
  assessmentFingerprint : Digest
  context : StrategyContext
  strategyInputFingerprint : Digest
  configuredModel : Option String
  ruleStrategy : Option RuleStrategy
  deriving DecidableEq

def lockStrategyCase (db : Db) (caseId : Uuid) : Except Error PaymentCase :=
  requireSome (db.cases.get? caseId) (.strategyCaseNotFound "Payment case was not found")

def findIdenticalProposal (db : Db) (caseId : Uuid) (fingerprint : Digest) :
    Option StrategyProposal :=
  db.strategyProposals.first? fun p =>
    p.caseId == caseId && p.strategyInputFingerprint == fingerprint

/-- Whether a strategy may be generated for the case as it stands. -/
def generationStateAllowed (db : Db) (c : PaymentCase) : Bool :=
  c.currentState == .diagnosed ||
    (c.currentState == .decisioned &&
      (db.currentProposal c.id).any fun current =>
        c.assessmentFingerprint.any fun fingerprint => current.assessmentFingerprint != fingerprint)

def validateGenerationState (db : Db) (c : PaymentCase) : Except Error Unit :=
  require (generationStateAllowed db c)
    (.strategyNotAllowed "Case state does not allow strategy generation")

def strategyResult (proposal : StrategyProposal) (caseState : CaseState) (idempotent : Bool) :
    StrategyGenerationResult where
  proposalId := proposal.id
  caseId := proposal.caseId
  caseState := caseState
  source := proposal.source
  action := proposal.action
  reasonCode := proposal.reasonCode
  explanation := proposal.explanation
  reEvaluateAfterSeconds := proposal.reEvaluateAfterSeconds
  assessmentFingerprint := proposal.assessmentFingerprint
  strategyInputFingerprint := proposal.strategyInputFingerprint
  idempotent := idempotent

/-- The configured model, which a rule strategy does without. -/
def configuredModel (model : String) (ruleStrategy : Option RuleStrategy) :
    Except Error (Option String) :=
  if ruleStrategy.isSome then .ok none
  else if model = "" ∨ 100 < model.length then
    .error (.strategyConfiguration "OpenAI strategy model configuration is invalid")
  else .ok (some model)

/-- `_prepare_snapshot`: an existing identical proposal, or a snapshot to generate from. -/
def prepareSnapshot (db : Db) (caseId : Uuid) (model : String) (now : Int) :
    Except Error (StrategySnapshot ⊕ StrategyGenerationResult) := do
  let c ← lockStrategyCase db caseId
  let context ← validateStrategyContext c now
  let ruleStrategy := ruleStrategyFor context.recoveryDisposition
  let configured ← configuredModel model ruleStrategy
  let assessmentFingerprint ← requiredAssessmentFingerprint c
  let inputFingerprint := buildStrategyInputFingerprint assessmentFingerprint context configured
  match findIdenticalProposal db caseId inputFingerprint with
  | some existing => return .inr (strategyResult existing c.currentState true)
  | none =>
      validateGenerationState db c
      return .inl
        { caseId := caseId
          assessmentFingerprint := assessmentFingerprint
          context := context
          strategyInputFingerprint := inputFingerprint
          configuredModel := configured
          ruleStrategy := ruleStrategy }

/-! ### Audit entries -/

def strategyAudit (c : PaymentCase) (eventType : String) (reasonCode : Option String) :
    CaseEvent where
  caseId := c.id
  eventType := eventType
  source := strategyAuditSource
  reasonCode := reasonCode

def appendGenerated (w : CaseWork) (proposal : StrategyProposal) (previousState : CaseState) :
    CaseWork :=
  w.audit
    { caseId := w.row.id
      eventType :=
        if previousState = .decisioned then "STRATEGY_REGENERATED"
        else if proposal.source = .rule then "STRATEGY_RULE_GENERATED"
        else "STRATEGY_GENERATED"
      source := strategyAuditSource
      previousState := some previousState
      newState := some w.row.currentState
      reasonCode := some proposal.reasonCode }

/-! ### Persisting a proposal

The second transaction locks the case and compares it with the snapshot of the first
one. A proposal that is identical to a stored one is returned instead of a new one.
-/

/-- The action proposed: the rule's, or else the model's. -/
def proposedAction (snapshot : StrategySnapshot) (modelResult : Option StrategyModelResult) :
    Option RecoveryAction :=
  match snapshot.ruleStrategy with
  | some rule => some rule.action
  | none => modelResult.map StrategyModelResult.action

def buildProposal (snapshot : StrategySnapshot) (action : RecoveryAction)
    (modelResult : Option StrategyModelResult) (newId : Uuid) : StrategyProposal where
  id := newId
  caseId := snapshot.caseId
  assessmentFingerprint := snapshot.assessmentFingerprint
  strategyInputFingerprint := snapshot.strategyInputFingerprint
  source := if snapshot.ruleStrategy.isSome then .rule else .ai
  action := action
  reasonCode :=
    match snapshot.ruleStrategy with
    | some rule => rule.reasonCode
    | none => aiReasonCode action
  explanation :=
    match snapshot.ruleStrategy, modelResult with
    | some rule, _ => rule.explanation
    | none, some result => result.explanation
    | none, none => ""
  reEvaluateAfterSeconds :=
    if snapshot.ruleStrategy.isSome then none
    else modelResult.bind StrategyModelResult.reEvaluateAfterSeconds
  model :=
    if snapshot.ruleStrategy.isSome then none else modelResult.map StrategyModelResult.model

def StrategyProposal.superseded (p : StrategyProposal) (at' : Int) : StrategyProposal :=
  { p with supersededAt := some at' }

/--
Supersede the current proposal and insert the new one: the update is written before
the insert, and the constraints on the case are checked.
-/
def replaceProposal (proposals : Table StrategyProposal) (current : Option StrategyProposal)
    (new : StrategyProposal) (persistedAt : Int) : Except Error (Table StrategyProposal) :=
  let proposals :=
    match current with
    | some current => proposals.put (current.superseded persistedAt)
    | none => proposals
  if proposals.any fun p => p.caseId == new.caseId &&
      (p.supersededAt.isNone || p.strategyInputFingerprint == new.strategyInputFingerprint) then
    .error .integrity
  else requireSome (proposals.insert? new) .integrity

/-- A diagnosed case becomes decisioned; a decisioned one stays so. -/
def moveDiagnosedCaseToDecisioned (w : CaseWork) : Except Error CaseWork :=
  if w.row.currentState = .diagnosed then
    transitionCase w .decisioned "STRATEGY_PROPOSAL_ACCEPTED" strategyAuditSource
  else .ok w

/-- Insert an accepted proposal and move the case. -/
def acceptProposal (db : Db) (c : PaymentCase) (snapshot : StrategySnapshot)
    (action : RecoveryAction) (modelResult : Option StrategyModelResult) (newId : Uuid)
    (persistedAt : Int) : Except Error (Db × StrategyGenerationResult) := do
  let proposal := buildProposal snapshot action modelResult newId
  let proposals ← replaceProposal db.strategyProposals (db.currentProposal c.id) proposal persistedAt
  let w ← moveDiagnosedCaseToDecisioned (.lock c)
  let w := appendGenerated w proposal c.currentState
  return ({ db with strategyProposals := proposals }.commitCase w,
    strategyResult proposal w.row.currentState false)

/-- The context recomputed from the locked row is the one the snapshot was taken from. -/
def snapshotIsCurrent (c : PaymentCase) (snapshot : StrategySnapshot) (now : Int) : Bool :=
  match validateStrategyContext c now, c.assessmentFingerprint with
  | .ok context, some assessment =>
      assessment == snapshot.assessmentFingerprint && context == snapshot.context &&
        buildStrategyInputFingerprint assessment context snapshot.configuredModel
          == snapshot.strategyInputFingerprint
  | _, _ => false

/-- An outcome that is an error although its audit entry is committed. -/
def commitAudit (db : Db) (c : PaymentCase) (entry : CaseEvent) {α : Type} (e : Error) :
    Db × Except Error α :=
  (db.commitCase ((CaseWork.lock c).audit entry), .error e)

/-- `_persist_locked` -/
def persistLocked (db : Db) (snapshot : StrategySnapshot)
    (modelResult : Option StrategyModelResult) (newId : Uuid) (now persistedAt : Int) :
    Except Error (Db × Except Error StrategyGenerationResult) := do
  let c ← lockStrategyCase db snapshot.caseId
  if snapshotIsCurrent c snapshot now = false then
    return commitAudit db c (strategyAudit c strategyStaleReason (some strategyStaleReason))
      (.strategyStaleContext
        "Strategy proposal was discarded because case truth changed")
  else
    match findIdenticalProposal db snapshot.caseId snapshot.strategyInputFingerprint with
    | some existing => return (db, .ok (strategyResult existing c.currentState true))
    | none =>
        validateGenerationState db c
        let action ← requireSome (proposedAction snapshot modelResult)
          (.strategyNotAllowed "AI strategy did not provide a model result")
        if isActionCompatible snapshot.context.recoveryDisposition action = false then
          return commitAudit db c
            (strategyAudit c "STRATEGY_PROPOSAL_REJECTED" (some strategyIncompatibleReason))
            (.strategyNotAllowed "Strategy proposal is incompatible with diagnosis")
        else
          let (db', result) ← acceptProposal db c snapshot action modelResult newId persistedAt
          return (db', .ok result)

/-- What a call answers after its insert was refused: the identical proposal, if there is one. -/
def resultAfterConflict (db : Db) (snapshot : StrategySnapshot) :
    Except Error StrategyGenerationResult := do
  let existing ← requireSome
    (findIdenticalProposal db snapshot.caseId snapshot.strategyInputFingerprint)
    (.strategyNotAllowed "Strategy proposal could not be persisted safely")
  let c ← lockStrategyCase db snapshot.caseId
  return strategyResult existing c.currentState true

/-- `_record_generation_failure`: an audit entry, when the case exists. -/
def recordGenerationFailure (db : Db) (snapshot : StrategySnapshot) (reasonCode : String) : Db :=
  match db.cases.get? snapshot.caseId with
  | none => db
  | some c =>
      db.commitCase
        ((CaseWork.lock c).audit
          (strategyAudit c "STRATEGY_GENERATION_FAILED" (some reasonCode)))

end Arc
