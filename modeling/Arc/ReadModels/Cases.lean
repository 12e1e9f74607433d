/-
The case list and the case detail.

Both project one row of `payment_cases` and, of each table that hangs on it, the row that
speaks for the case: of the proposals and the decisions the last that is not superseded,
of the approvals the one of that decision, of the actions, the observations and the
attributions the latest.  The list is filtered, sorted by `detected_at` and the case
reference, and cut into pages.  How the database compares two references is its own
business (its collation), so the order of references is a parameter of the list.
-/
import Arc.Approval.Service
import Arc.Persistence.PaymentCases
import Arc.ReadModels.Lists

namespace Arc

open Store

attribute [local instance] instantOrder

variable [Platform]

/-- When the database created the rows of a case. -/
structure CaseRowsCreatedAt extends RowsCreatedAt where
  strategyProposals : Uuid → Int

/-! ### The rows that speak for a case

The projections search the loaded rows in memory. Of the proposals and the decisions it
is the last one loaded that is not superseded, of the approvals the one of that
decision, and of the other rows the latest by an instant.
-/

section

variable (createdAt : CaseRowsCreatedAt) (db : Db) (caseId : Uuid)

/-- `_current` of the proposals of a case: of those not superseded, the last created. -/
def currentStrategyOf : Option StrategyProposal :=
  (db.strategyProposals.select fun p => p.caseId == caseId && p.supersededAt.isNone).argmax
    fun p => createdAt.strategyProposals p.id

/-- `_approval_for_decision`: of the approvals of the decision, the last requested. -/
def approvalForDecision : Option PolicyDecision → Option ApprovalRequest
  | none => none
  | some decision =>
      (db.approvalRequests.select fun a =>
        a.caseId == caseId && a.policyDecisionId == decision.id).argmax ApprovalRequest.requestedAt

end

/-! ### The case list -/

structure CaseListItem where
  caseReference : CaseReference
  amountMinor : Option Nat
  currency : Option String
  currentState : CaseState
  resolutionKind : ResolutionKind
  paymentMethod : Option String
  failureCategory : Option FailureCategory
  recoveryDisposition : Option RecoveryDisposition
  eligibilityStatus : Option EligibilityDecision
  detectedAt : Int
  resolvedAt : Option Int
  strategyAction : Option RecoveryAction
  strategyProvenance : StrategyProvenance
  policyResult : Option PolicyDecisionResult
  approvalStatus : Option ApprovalStatus
  recoveryExecutionStatus : Option RecoveryExecutionStatus
  outcomeStatus : Option RecoveryOutcomeStatus
  recoveredAmountMinor : Option Nat
  providerMode : Option ProviderMode
  dataOrigin : Option DataOrigin

/-- The filters of the case list; an absent one lets every case through. -/
structure CaseFilter where
  state : Option CaseState := none
  failureCategory : Option FailureCategory := none
  providerMode : Option ProviderMode := none

section

variable (createdAt : CaseRowsCreatedAt) (db : Db)

/-- `_case_list_item` -/
def caseListItem (c : PaymentCase) : CaseListItem :=
  let proposal := currentStrategyOf createdAt db c.id
  let decision := currentDecisionOf db c.id
  let approval := approvalForDecision db c.id decision
  let action := latestAction createdAt.toCreatedAt db c.id
  let outcome := caseOutcome createdAt.toRowsCreatedAt db c.id
  let attribution := latestAttribution createdAt.toCreatedAt db c.id
  { caseReference := c.caseReference
    amountMinor := c.amount
    currency := c.currency
    currentState := c.currentState
    resolutionKind := caseResolution createdAt.toCreatedAt db c
    paymentMethod := c.razorpayPaymentMethod
    failureCategory := c.failureCategory
    recoveryDisposition := c.recoveryDisposition
    eligibilityStatus := c.eligibilityStatus
    detectedAt := c.detectedAt
    resolvedAt := c.resolvedAt
    strategyAction := proposal.map StrategyProposal.action
    strategyProvenance := strategyProvenance proposal
    policyResult := decision.map PolicyDecision.result
    approvalStatus := approval.map ApprovalRequest.status
    recoveryExecutionStatus := action.map RecoveryActionRecord.executionStatus
    outcomeStatus := outcome.map RecoveryOutcomeObservation.outcomeStatus
    recoveredAmountMinor := attribution.map RecoveryAttribution.recoveredAmountMinor
    providerMode :=
      match attribution with
      | some a => some a.providerMode
      | none => outcome.map RecoveryOutcomeObservation.providerMode
    dataOrigin := dataOrigin db c.id outcome attribution }

/-- The `where` clauses of `list_case_summaries`. -/
def CaseFilter.admits (filter : CaseFilter) (c : PaymentCase) : Bool :=
  (filter.state.all fun state => c.currentState == state) &&
  (filter.failureCategory.all fun category => c.failureCategory == some category) &&
  (filter.providerMode.all fun mode =>
    db.outcomeObservations.any fun o => o.caseId == c.id && o.providerMode == mode)

/-- The cases the list is about, before they are put in order. -/
def caseListRows (filter : CaseFilter) : List PaymentCase :=
  db.cases.select fun c => filter.admits db c

variable (collation : LinearOrder CaseReference)

/-- `order_by(detected_at.desc(), case_reference)` -/
def listedBefore (c c' : PaymentCase) : Prop :=
  c'.detectedAt < c.detectedAt ∨
    c.detectedAt = c'.detectedAt ∧ collation.le c.caseReference c'.caseReference

instance listedBeforeDecidable : DecidableRel (listedBefore collation) := fun c c' =>
  have := collation.toDecidableLE c.caseReference c'.caseReference
  inferInstanceAs (Decidable (_ ∨ _ ∧ _))

def listCaseSummaries (filter : CaseFilter) (limit offset : Nat) : List CaseListItem :=
  (page limit offset ((caseListRows db filter).insertionSort (listedBefore collation))).map
    (caseListItem createdAt db)

end

/-! ### The case detail -/

structure CaseProjection where
  caseReference : CaseReference
  amountMinor : Option Nat
  currency : Option String
  currentState : CaseState
  resolutionKind : ResolutionKind
  paymentMethod : Option String
  attemptCount : Nat
  contactAttemptCount : Nat
  detectedAt : Int
  resolvedAt : Option Int

structure DiagnosisProjection where
  eligibilityStatus : Option EligibilityDecision
  eligibilityReasonCode : Option String
  failureCategory : Option FailureCategory
  recoveryDisposition : Option RecoveryDisposition
  diagnosisReasonCode : Option String
  diagnosedAt : Option Int

structure StrategyProjection where
  action : RecoveryAction
  source : StrategySource
  provenance : StrategyProvenance
  model : Option String
  reasonCode : String
  explanation : String
  confidenceAuthority : Option String
  createdAt : Int

structure PolicyProjection where
  result : PolicyDecisionResult
  reasonCode : String
  explanation : String
  approvalThresholdMinor : Option Nat
  evaluatedAt : Int

structure ApprovalProjection where
  approvalRequestId : Uuid
  approvalStatus : ApprovalStatus
  requestedAt : Int
  decidedAt : Option Int

structure ExecutionProjection where
  action : RecoveryAction
  executionStatus : RecoveryExecutionStatus
  provider : ActionProvider
  externalStatus : Option String
  executionAttemptCount : Nat
  executedAt : Option Int
  nextEvaluationAt : Option Int

structure OutcomeProjection where
  outcomeStatus : RecoveryOutcomeStatus
  providerMode : ProviderMode
  providerStatus : String
  amountExpectedMinor : Nat
  amountPaidMinor : Nat
  currency : String
  observedAt : Int

structure AttributionProjection where
  providerMode : ProviderMode
  recoveredAmountMinor : Nat
  currency : String
  reasonCode : String
  attributedAt : Int

structure CaseDetail where
  dataOrigin : Option DataOrigin
  paymentCase : CaseProjection
  diagnosis : DiagnosisProjection
  strategy : Option StrategyProjection
  policy : Option PolicyProjection
  approval : Option ApprovalProjection
  execution : Option ExecutionProjection
  outcome : Option OutcomeProjection
  attribution : Option AttributionProjection

/-- A name of at most a hundred characters, the first of one kind and the rest of another. -/
def isBoundedName (first rest : Char → Bool) (s : String) : Bool :=
  match s.toList with
  | [] => false
  | c :: cs => first c && cs.all rest && cs.length ≤ 99

/-- `[A-Za-z0-9][A-Za-z0-9._:-]{0,99}` -/
def isStrategyModelName (s : String) : Bool :=
  isBoundedName Char.isAlphanum (fun c => c.isAlphanum || ['.', '_', ':', '-'].contains c) s

/-- `_safe_strategy_model` -/
def safeStrategyModel (proposal : StrategyProposal) : Option String :=
  if proposal.source = .rule then none
  else proposal.model.bind fun model =>
    if isStrategyModelName (strip model) then some (strip model) else none

section

variable (createdAt : CaseRowsCreatedAt) (db : Db)

def caseProjection (c : PaymentCase) : CaseProjection where
  caseReference := c.caseReference
  amountMinor := c.amount
  currency := c.currency
  currentState := c.currentState
  resolutionKind := caseResolution createdAt.toCreatedAt db c
  paymentMethod := c.razorpayPaymentMethod
  attemptCount := c.attemptCount
  contactAttemptCount := c.contactAttemptCount
  detectedAt := c.detectedAt
  resolvedAt := c.resolvedAt

def diagnosisProjection (c : PaymentCase) : DiagnosisProjection where
  eligibilityStatus := c.eligibilityStatus
  eligibilityReasonCode := c.eligibilityReasonCode
  failureCategory := c.failureCategory
  recoveryDisposition := c.recoveryDisposition
  diagnosisReasonCode := c.diagnosisReasonCode
  diagnosedAt := c.diagnosedAt

/-- `_strategy_projection` -/
def strategyProjection (proposal : StrategyProposal) : StrategyProjection where
  action := proposal.action
  source := proposal.source
  provenance := strategyProvenance (some proposal)
  model := safeStrategyModel proposal
  reasonCode := proposal.reasonCode
  explanation := proposal.explanation
  confidenceAuthority := if proposal.source = .ai then some "MODEL_OBSERVABILITY_ONLY" else none
  createdAt := createdAt.strategyProposals proposal.id

/-- `_policy_projection` -/
def policyProjection (decision : PolicyDecision) : PolicyProjection where
  result := decision.result
  reasonCode := decision.reasonCode
  explanation := decision.explanation
  approvalThresholdMinor := decision.approvalThresholdMinor
  evaluatedAt := decision.evaluatedAt

/-- `_approval_projection` -/
def approvalProjection (approval : ApprovalRequest) : ApprovalProjection where
  approvalRequestId := approval.id
  approvalStatus := approval.status
  requestedAt := approval.requestedAt
  decidedAt := approval.decidedAt

/-- `_execution_projection` -/
def executionProjection (action : RecoveryActionRecord) : ExecutionProjection where
  action := action.action
  executionStatus := action.executionStatus
  provider := action.provider
  externalStatus := action.externalStatus
  executionAttemptCount := action.executionAttemptCount
  executedAt := action.executedAt
  nextEvaluationAt := action.nextEvaluationAt

/-- `_outcome_projection` -/
def outcomeProjection (outcome : RecoveryOutcomeObservation) : OutcomeProjection where
  outcomeStatus := outcome.outcomeStatus
  providerMode := outcome.providerMode
  providerStatus := outcome.providerStatus
  amountExpectedMinor := outcome.amountExpectedMinor
  amountPaidMinor := outcome.amountPaidMinor
  currency := outcome.currency
  observedAt := outcome.observedAt

/-- `_attribution_projection` -/
def attributionProjection (attribution : RecoveryAttribution) : AttributionProjection where
  providerMode := attribution.providerMode
  recoveredAmountMinor := attribution.recoveredAmountMinor
  currency := attribution.currency
  reasonCode := attribution.attributionReasonCode
  attributedAt := attribution.attributedAt

def caseDetail (c : PaymentCase) : CaseDetail :=
  let decision := currentDecisionOf db c.id
  let outcome := caseOutcome createdAt.toRowsCreatedAt db c.id
  let attribution := latestAttribution createdAt.toCreatedAt db c.id
  { dataOrigin := dataOrigin db c.id outcome attribution
    paymentCase := caseProjection createdAt db c
    diagnosis := diagnosisProjection c
    strategy := (currentStrategyOf createdAt db c.id).map (strategyProjection createdAt)
    policy := decision.map policyProjection
    approval := (approvalForDecision db c.id decision).map approvalProjection
    execution := (latestAction createdAt.toCreatedAt db c.id).map executionProjection
    outcome := outcome.map outcomeProjection
    attribution := attribution.map attributionProjection }

def getCaseDetail (reference : CaseReference) : Option CaseDetail :=
  (db.caseByReference reference).map (caseDetail createdAt db)

end

/-! ### One row where there is one -/

omit [Platform] in
/-- Of at most one row the latest is the first. -/
theorem argmax_select_eq_first? {ρ κ β : Type} [Keyed ρ κ] [DecidableEq κ] [Preorder β]
    [DecidableLT β] {t : Table ρ} {p : ρ → Bool} (f : ρ → β)
    (hone : ∀ r ∈ t, ∀ r' ∈ t, p r = true → p r' = true → r = r') :
    (t.select p).argmax f = t.first? p := by
  cases hlatest : (t.select p).argmax f with
  | none =>
      rw [List.argmax_eq_none, List.eq_nil_iff_forall_not_mem] at hlatest
      refine (Table.first?_eq_none.mpr fun r hr => ?_).symm
      by_contra hp
      exact hlatest r (Table.mem_select.mpr ⟨hr, by simpa using hp⟩)
  | some r =>
      obtain ⟨hr, hp⟩ := Table.mem_select.mp (List.argmax_mem hlatest)
      exact (Table.first?_eq_some_of_unique hr hp fun r' hr' hp' => hone r' hr' r hr hp' hp).symm

/-- Where at most one proposal of a case is open, it is the one the services take as current. -/
theorem currentStrategyOf_eq {createdAt : CaseRowsCreatedAt} {db : Db} {caseId : Uuid}
    (hone : ∀ p ∈ db.strategyProposals, ∀ p' ∈ db.strategyProposals, p.caseId = p'.caseId →
      p.supersededAt = none → p'.supersededAt = none → p = p') :
    currentStrategyOf createdAt db caseId = db.currentProposal caseId := by
  refine argmax_select_eq_first? _ fun p hp p' hp' hcond hcond' => ?_
  simp only [Bool.and_eq_true, beq_iff_eq, Option.isNone_iff_eq_none] at hcond hcond'
  exact hone p hp p' hp' (hcond.1.trans hcond'.1.symm) hcond.2 hcond'.2

/-- Where a decision has at most one approval, it is the one the services find. -/
theorem approvalForDecision_eq {db : Db} {caseId : Uuid} {d : PolicyDecision}
    (hone : ∀ a ∈ db.approvalRequests, ∀ a' ∈ db.approvalRequests,
      a.policyDecisionId = a'.policyDecisionId → a = a')
    (hcase : ∀ a ∈ db.approvalRequests, a.policyDecisionId = d.id → a.caseId = caseId) :
    approvalForDecision db caseId (some d) = db.approvalFor d.id := by
  have hrows : (db.approvalRequests.select fun a => a.caseId == caseId && a.policyDecisionId == d.id) =
      db.approvalRequests.select fun a => a.policyDecisionId == d.id := by
    refine List.filter_congr fun a ha => ?_
    by_cases hdecision : a.policyDecisionId = d.id
    · simp [hdecision, hcase a ha hdecision]
    · simp [hdecision]
  dsimp only [approvalForDecision]
  rw [hrows]
  refine argmax_select_eq_first? _ fun a ha a' ha' hcond hcond' => ?_
  simp only [beq_iff_eq] at hcond hcond'
  exact hone a ha a' ha' (hcond.trans hcond'.symm)

end Arc
