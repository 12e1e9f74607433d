/-
What the services do to the row of a case.

`resolved_at` is written in two places: a report that finds its case closed stamps it
unless it is stamped, and an observation stamps the case it closes.  The other
services close cases as well, and leave the column as it is.  So each transaction
leaves a case at rest, stamps a closed one, or closes it without a stamp; none of these
writes the counters of the case.
-/
import Arc.Proofs.Assessments
import Arc.Proofs.Authority

namespace Arc

open Store

variable [Platform]

/-! ### One row

Three relations between a row and a later one are enough: it is at rest, it is stamped,
or it is closed without a stamp. They compose as a transaction does its work, so that
each service has one relation from the row it locks to the row it commits.
-/

/-- What a case has counted: its attempts, and those that reached the customer. -/
def PaymentCase.counters (c : PaymentCase) : Nat × Nat :=
  (c.attemptCount, c.contactAttemptCount)

/-- The stamp and the counters are the same, and so is whether the case is closed. -/
structure PaymentCase.AtRest (c c' : PaymentCase) : Prop where
  counters_eq : c'.counters = c.counters
  stamp_eq : c'.resolvedAt = c.resolvedAt
  closed_iff : c'.currentState ∈ terminalCaseStates ↔ c.currentState ∈ terminalCaseStates

/-- The case is at rest, or it is closed and stamped, under the stamp it had if it had one. -/
inductive PaymentCase.Stamps (c c' : PaymentCase) : Prop
  | rests (h : c.AtRest c')
  | stamped (hcounters : c'.counters = c.counters)
      (hclosed : c'.currentState ∈ terminalCaseStates) (hstamp : c'.resolvedAt ≠ none)
      (hkept : c.currentState ∈ terminalCaseStates → ∀ t, c.resolvedAt = some t →
        c'.resolvedAt = some t)

/-- The case was closed, and not stamped. -/
structure PaymentCase.Unstamped (c c' : PaymentCase) : Prop where
  counters_eq : c'.counters = c.counters
  stamp_eq : c'.resolvedAt = c.resolvedAt
  opened : c.currentState ∉ terminalCaseStates
  closed : c'.currentState ∈ terminalCaseStates

/-- The case was closed without a stamp, and not as recovered. -/
structure PaymentCase.GivenUp (c c' : PaymentCase) : Prop extends c.Unstamped c' where
  unrecovered : c'.currentState ≠ .recovered

theorem PaymentCase.AtRest.refl (c : PaymentCase) : c.AtRest c := ⟨rfl, rfl, Iff.rfl⟩

theorem PaymentCase.AtRest.trans {c c' c'' : PaymentCase} (h : c.AtRest c') (h' : c'.AtRest c'') :
    c.AtRest c'' :=
  ⟨h'.counters_eq.trans h.counters_eq, h'.stamp_eq.trans h.stamp_eq, h'.closed_iff.trans h.closed_iff⟩

/-- Writing other columns leaves a case at rest. -/
theorem PaymentCase.AtRest.write {c c' : PaymentCase} (hcounters : c'.counters = c.counters)
    (hstamp : c'.resolvedAt = c.resolvedAt) (hstate : c'.currentState = c.currentState) :
    c.AtRest c' := ⟨hcounters, hstamp, by rw [hstate]⟩

theorem PaymentCase.Stamps.counters_eq {c c' : PaymentCase} (h : c.Stamps c') :
    c'.counters = c.counters := by
  cases h with
  | rests h => exact h.counters_eq
  | stamped hcounters => exact hcounters

theorem PaymentCase.AtRest.stamps {c c' c'' : PaymentCase} (h : c.AtRest c') (h' : c'.Stamps c'') :
    c.Stamps c'' := by
  cases h' with
  | rests h' => exact .rests (h.trans h')
  | stamped hcounters hclosed hstamp hkept =>
      refine .stamped (hcounters.trans h.counters_eq) hclosed hstamp fun hterminal t ht => ?_
      exact hkept (h.closed_iff.mpr hterminal) t (h.stamp_eq.trans ht)

/-- A change to an open state leaves a case at rest. -/
theorem transitionCase_atRest {w w' : CaseWork} {t : CaseState} {reason source : String}
    (h : transitionCase w t reason source = .ok w') (ht : t ∉ terminalCaseStates) :
    w.row.AtRest w'.row := by
  rcases transitionCase_eq_ok.mp h with ⟨-, rfl⟩ | ⟨-, hallowed, rfl⟩
  · exact .refl _
  · refine ⟨rfl, rfl, iff_of_false ht fun hterminal => ?_⟩
    simp [allowedTransitions_terminal hterminal] at hallowed

/-- A change to a terminal state closes an open case, and does not stamp it. -/
theorem transitionCase_unstamped {w w' : CaseWork} {t : CaseState} {reason source : String}
    (h : transitionCase w t reason source = .ok w') (ht : t ∈ terminalCaseStates)
    (hopen : w.row.currentState ∉ terminalCaseStates) : w.row.Unstamped w'.row := by
  rw [transitionCase_row h]
  exact ⟨rfl, rfl, hopen, ht⟩

theorem transitionCase_givenUp {w w' : CaseWork} {t : CaseState} {reason source : String}
    (h : transitionCase w t reason source = .ok w') (ht : t ∈ terminalCaseStates)
    (hne : t ≠ .recovered) (hopen : w.row.currentState ∉ terminalCaseStates) :
    w.row.GivenUp w'.row := by
  refine ⟨transitionCase_unstamped h ht hopen, ?_⟩
  rw [transitionCase_row h]
  exact hne

theorem persistAssessment_atRest {c : PaymentCase} {eligibility : EligibilityResult}
    {diagnosis : Option FailureDiagnosis} {at' : Int} {w : CaseWork}
    (h : persistAssessment c eligibility diagnosis at' = .ok w) : c.AtRest w.row := by
  have hcounters : (c.assessedRow eligibility diagnosis at').counters = c.counters := by
    cases diagnosis <;> rfl
  have hstamp : (c.assessedRow eligibility diagnosis at').resolvedAt = c.resolvedAt := by
    cases diagnosis <;> rfl
  rcases persistAssessment_row h with hrow | ⟨hstate, -, hrow⟩
  · rw [hrow]
    exact .write hcounters hstamp (assessedRow_state _ _ _ _)
  · rw [hrow]
    refine ⟨hcounters, hstamp, iff_of_false ?_ ?_⟩
    · show CaseState.diagnosed ∉ terminalCaseStates
      decide
    · rw [hstate]
      decide

theorem moveDiagnosedCaseToDecisioned_atRest {w w' : CaseWork}
    (h : moveDiagnosedCaseToDecisioned w = .ok w') : w.row.AtRest w'.row := by
  unfold moveDiagnosedCaseToDecisioned at h
  split at h
  · exact transitionCase_atRest h (by decide)
  · cases h
    exact .refl _

theorem moveDetectedCaseToReconciling_atRest {w w' : CaseWork}
    (h : moveDetectedCaseToReconciling w = .ok w') : w.row.AtRest w'.row := by
  unfold moveDetectedCaseToReconciling at h
  split at h
  · exact transitionCase_atRest h (by decide)
  · cases h
    exact .refl _

/-! ### Stamping services -/

/-- A report that finds its case closed in the given state stamps it. -/
theorem resolveIfAllowed_stamps {w w' : CaseWork} {state : CaseState} {reason reason' : String}
    {at' : Int} (h : resolveIfAllowed w state reason at' = .ok (w', reason'))
    (hstate : state ∈ terminalCaseStates) : w.row.Stamps w'.row := by
  obtain ⟨w₁, hmove, h⟩ := bind_eq_ok.mp h
  cases h
  obtain ⟨w₂, hmove', hrow, hmoved⟩ := transitionIfAllowed_ok w state reason
  cases hmove.symm.trans hmove'
  unfold PaymentCase.resolveIn
  split
  · rename_i hin
    refine .stamped ?_ (by simpa [hin] using hstate) (Option.some_ne_none _) fun _ t ht => ?_
    · rw [hrow]
      rfl
    have hsame : w₁.row.resolvedAt = w.row.resolvedAt := by rw [hrow]
    simp [hsame, ht]
  · -- the case is not in that state, so it has not been moved
    rename_i hnot
    have hkept : w₁.row.currentState = w.row.currentState := by
      rw [hmoved]
      split
      · rename_i hcan
        rw [if_pos hcan] at hmoved
        exact absurd hmoved hnot
      · rfl
    refine .rests (.write ?_ ?_ hkept)
    · rw [hrow]
      rfl
    · rw [hrow]

/-- An observation stamps the waiting case it closes. -/
theorem closeWaitingCase_stamps {w w' : CaseWork} {state : CaseState} {reason : String} {at' : Int}
    (h : closeWaitingCase w state reason at' = .ok w') (hstate : state ∈ terminalCaseStates) :
    w.row.Stamps w'.row := by
  unfold closeWaitingCase at h
  split at h
  · rename_i hwaiting
    obtain ⟨w₁, hmove, h⟩ := bind_eq_ok.mp h
    cases h
    refine .stamped ?_ ?_ (Option.some_ne_none _) fun hterminal => ?_
    · show w₁.row.counters = w.row.counters
      rw [transitionCase_row hmove]
      rfl
    · show w₁.row.currentState ∈ terminalCaseStates
      rw [transitionCase_row hmove]
      exact hstate
    · rw [hwaiting] at hterminal
      exact absurd hterminal (by decide)
  · cases h
    exact .rests (.refl _)

theorem applyOutcomeTransition_stamps {w w' : CaseWork} {classification : OutcomeClassification}
    {attribution : Option RecoveryAttribution} {at' : Int}
    (h : applyOutcomeTransition w classification attribution at' = .ok w') :
    w.row.Stamps w'.row := by
  unfold applyOutcomeTransition at h
  simp only at h
  split at h
  · cases h
    exact .rests (.refl _)
  · split at h
    · cases h
    · have hclosed := closeWaitingCase_stamps h (by decide)
      exact hclosed
  all_goals
    have hclosed := closeWaitingCase_stamps h (by decide)
    exact hclosed

theorem paymentLifecycle_stamps {w w' : CaseWork} {eventType status reason : String} {at' : Int}
    (h : paymentLifecycle w eventType status at' = .ok (w', reason)) : w.row.Stamps w'.row := by
  unfold paymentLifecycle at h
  split at h
  · exact resolveIfAllowed_stamps h (by decide)
  split at h
  · exact resolveIfAllowed_stamps h (by decide)
  · cases h
    exact .rests (.refl _)

theorem applyPaymentTruth_stamps {w w' : CaseWork} {event : WebhookEvent}
    {snapshot : PaymentSnapshot} {created : Bool} {at' : Int} {reason : String}
    (h : applyPaymentTruth w event snapshot created at' = .ok (w', reason)) :
    w.row.Stamps w'.row := by
  obtain ⟨w₁, hmove, h⟩ := bind_eq_ok.mp h
  obtain ⟨⟨w₂, reason⟩, hlife, h⟩ := bind_eq_ok.mp h
  cases h
  have hmoved := moveDetectedCaseToReconciling_atRest hmove
  rw [initializeCaseAudit_row] at hmoved
  have hwritten : w₁.row.AtRest (w₁.row.withPaymentTruth event snapshot at') := .write rfl rfl rfl
  exact (hmoved.trans hwritten).stamps (paymentLifecycle_stamps hlife)

theorem subscriptionLifecycle_stamps {w w' : CaseWork} {status reason : String} {at' : Int}
    (h : subscriptionLifecycle w status at' = .ok (w', reason)) : w.row.Stamps w'.row := by
  unfold subscriptionLifecycle at h
  split at h
  · cases h
    exact .rests (.refl _)
  split at h
  · cases h
    exact .rests (.refl _)
  split at h
  · exact resolveIfAllowed_stamps h (by decide)
  split at h
  · exact resolveIfAllowed_stamps h (by decide)
  split at h <;>
  · cases h
    exact .rests (.refl _)

theorem applySubscriptionTruth_stamps {w w' : CaseWork} {snapshot : SubscriptionSnapshot}
    {created : Bool} {at' : Int} {reason : String}
    (h : applySubscriptionTruth w snapshot created at' = .ok (w', reason)) :
    w.row.Stamps w'.row := by
  obtain ⟨w₁, hmove, h⟩ := bind_eq_ok.mp h
  obtain ⟨⟨w₂, reason⟩, hlife, h⟩ := bind_eq_ok.mp h
  cases h
  have hmoved : (initializeCaseAudit w created).row.AtRest w₁.row := by
    unfold startSubscriptionReconciliation at hmove
    split at hmove
    · exact moveDetectedCaseToReconciling_atRest hmove
    · cases hmove
      exact .refl _
  rw [initializeCaseAudit_row] at hmoved
  have hwritten : w₁.row.AtRest (w₁.row.withSubscriptionTruth snapshot at') := .write rfl rfl rfl
  exact (hmoved.trans hwritten).stamps (subscriptionLifecycle_stamps hlife)

/-! ### Closing services

Three services close a case by a plain transition, which writes no stamp: an evaluation
that blocks, an operator who rejects, and an internal action. Each is read back with the
checks that lead to it, because the condition of the equivalence is about the state
before the step.
-/

/-- The checks of an evaluation pass, and `decision` is the one it makes current. -/
structure Evaluates (db : Db) (caseId : Uuid) (proposalId : Option Uuid) (newId : Uuid) (at' : Int)
    (c : PaymentCase) (decisions : Table PolicyDecision) (decision : PolicyDecision) : Prop where
  stored : db.cases.get? caseId = some c
  state : c.currentState = .decisioned ∨ c.currentState = .policyValidated
  replaced : ∃ proposal inputs, db.currentProposal c.id = some proposal ∧
    (proposalId.all fun id => id == proposal.id) = true ∧
    recomputeCurrentAuthorizationInputs db c proposal at' = .ok inputs ∧
    (findIdenticalDecision db c.id inputs.authorizationInputFingerprint).filter
      (fun d => d.supersededAt.isNone) = none ∧
    replaceDecision db.policyDecisions (db.currentDecision c.id)
      (findIdenticalDecision db c.id inputs.authorizationInputFingerprint)
      (buildDecision c proposal inputs newId at') at' = .ok (decisions, decision)

theorem policyTarget_terminal {decision : PolicyDecision} :
    (policyTarget decision).1 ∈ terminalCaseStates ↔ decision.result = .blocked := by
  unfold policyTarget
  split
  · rename_i h
    simp [h, terminalCaseStates]
  · rename_i h
    simp [h, terminalCaseStates]
  · rename_i h
    split <;> simp [h, terminalCaseStates]

theorem policyTarget_unrecovered (decision : PolicyDecision) :
    (policyTarget decision).1 ≠ .recovered := by
  unfold policyTarget
  split
  · simp
  · simp
  · split <;> simp

/-- What an evaluation does to the cases. -/
theorem evaluatePolicy_cases {db db' : Db} {caseId newId : Uuid} {proposalId : Option Uuid}
    {at' : Int} {result : PolicyEvaluationResult}
    (h : evaluatePolicy db caseId proposalId newId at' = .ok (db', result)) :
    db' = db ∨ ∃ c decisions decision w,
      Evaluates db caseId proposalId newId at' c decisions decision ∧
      applyPolicyTransition (.lock c) decision = .ok w ∧ db'.cases = db.cases.put w.row := by
  obtain ⟨c, hc, h⟩ := bind_eq_ok.mp h
  rw [requireSome_eq_ok] at hc
  obtain ⟨_, hstate, h⟩ := bind_eq_ok.mp h
  rw [require_eq_ok] at hstate
  obtain ⟨proposal, hproposal, h⟩ := bind_eq_ok.mp h
  rw [requireSome_eq_ok] at hproposal
  obtain ⟨_, hnamed, h⟩ := bind_eq_ok.mp h
  rw [require_eq_ok] at hnamed
  obtain ⟨inputs, hinputs, h⟩ := bind_eq_ok.mp h
  simp only at h
  split at h
  · cases h
    exact .inl rfl
  · rename_i hnew
    obtain ⟨⟨decisions, decision⟩, hreplace, h⟩ := bind_eq_ok.mp h
    obtain ⟨w, hw, h⟩ := bind_eq_ok.mp h
    cases h
    exact .inr ⟨c, decisions, decision, w, ⟨hc, hstate, proposal, inputs, hproposal, hnamed,
      mapError_eq_ok.mp hinputs, hnew, hreplace⟩, hw, rfl⟩

/-- An evaluation whose checks pass commits. -/
theorem Evaluates.ok {db : Db} {caseId newId : Uuid} {proposalId : Option Uuid} {at' : Int}
    {c : PaymentCase} {decisions : Table PolicyDecision} {decision : PolicyDecision}
    (h : Evaluates db caseId proposalId newId at' c decisions decision) :
    ∃ db' result w, evaluatePolicy db caseId proposalId newId at' = .ok (db', result) ∧
      applyPolicyTransition (.lock c) decision = .ok w ∧ db'.cases = db.cases.put w.row := by
  obtain ⟨hc, hstate, proposal, inputs, hproposal, hnamed, hrecomputed, hnew, hreplace⟩ := h
  obtain ⟨w, hw⟩ := applyPolicyTransition_ok hstate decision
  have hinputs : (recomputeCurrentAuthorizationInputs db c proposal at').mapError
      asProposalNotCurrent = .ok inputs := mapError_eq_ok.mpr hrecomputed
  refine ⟨({ db with policyDecisions := decisions }).commitCase
    (appendPolicyAudit w decision c.currentState (db.currentDecision c.id).isSome),
    policyResult decision w.row proposal.action false, w, ?_, hw, rfl⟩
  simp only [evaluatePolicy, hc, requireSome, require, if_pos hstate, hproposal, if_pos hnamed,
    hinputs, hnew, persistEvaluation, hreplace, hw, bind, Except.bind]
  rfl

/-- A case with a validated policy can be closed in every terminal state. -/
theorem transitionCase_close_ok {w : CaseWork} {t : CaseState} {reason source : String}
    (hstate : w.row.currentState = .policyValidated) (ht : t ∈ terminalCaseStates) :
    ∃ w', transitionCase w t reason source = .ok w' := by
  have hdiffers : w.row.currentState ≠ t := by
    rw [hstate]
    rintro rfl
    exact absurd ht (by decide)
  have hallowed : t ∈ allowedTransitions w.row.currentState := by
    rw [hstate]
    exact List.mem_cons_of_mem _ ht
  exact ⟨_, transitionCase_eq_ok.mpr (.inr ⟨hdiffers, hallowed, rfl⟩)⟩

/-- The checks of a decision on an approval pass, and it is a rejection. -/
structure Rejects (db : Db) (approval : ApprovalRequest) (decision : OperatorDecision)
    (c : PaymentCase) : Prop where
  stored : db.cases.get? approval.caseId = some c
  rejected : decision.decision = .rejected
  operator : ∃ operator, boundedRequired decision.decidedBy 100 "operator" = .ok operator
  note : ∃ note, boundedOptional decision.note 500 "note" = .ok note
  request : ∃ stored, db.approvalRequests.get? approval.id = some stored
  pending : approval.status = .pending
  context : ∃ policyDecision, db.policyDecisions.get? approval.policyDecisionId =
    some policyDecision ∧ validateCurrentApprovalContext c policyDecision = .ok ()

theorem validateCurrentApprovalContext_state {c : PaymentCase} {decision : PolicyDecision}
    (h : validateCurrentApprovalContext c decision = .ok ()) :
    c.currentState = .policyValidated := by
  obtain ⟨_, hstate, -⟩ := bind_eq_ok.mp h
  exact require_eq_ok.mp hstate

/-- What a decision on an approval does to the cases. -/
theorem decideApproval_cases {db db' : Db} {approval : ApprovalRequest}
    {decision : OperatorDecision} {at' : Int} {result : ApprovalRequestResult}
    (h : decideApproval db approval decision at' = .ok (db', result)) :
    db' = db ∨ ∃ c row, db.cases.get? approval.caseId = some c ∧ row.id = c.id ∧
      (c.AtRest row ∨ Rejects db approval decision c ∧ c.GivenUp row) ∧
      db'.cases = db.cases.put row := by
  obtain ⟨_, -, h⟩ := bind_eq_ok.mp h
  obtain ⟨operator, hoperator, h⟩ := bind_eq_ok.mp h
  obtain ⟨note, hnote, h⟩ := bind_eq_ok.mp h
  obtain ⟨c, hc, h⟩ := bind_eq_ok.mp h
  have hc := requireSome_eq_ok.mp hc
  obtain ⟨stored, hstored, h⟩ := bind_eq_ok.mp h
  rw [requireSome_eq_ok] at hstored
  split at h
  · obtain ⟨_, -, h⟩ := bind_eq_ok.mp h
    cases h
    exact .inl rfl
  · rename_i hpending
    obtain ⟨policyDecision, hpolicy, h⟩ := bind_eq_ok.mp h
    rw [requireSome_eq_ok] at hpolicy
    obtain ⟨_, hvalid, h⟩ := bind_eq_ok.mp h
    obtain ⟨_, -, h⟩ := bind_eq_ok.mp h
    obtain ⟨w, hw, h⟩ := bind_eq_ok.mp h
    cases h
    have hstate := validateCurrentApprovalContext_state hvalid
    refine .inr ⟨c, w.row, hc, (escalateRejected_advances hw).id_eq, ?_, rfl⟩
    unfold escalateRejected at hw
    split at hw
    · rename_i hrejected
      have hopen : c.currentState ∉ terminalCaseStates := by
        rw [hstate]
        decide
      have hclosed := transitionCase_givenUp hw (by decide) (by decide) hopen
      exact .inr ⟨⟨hc, hrejected, ⟨operator, hoperator⟩, ⟨note, hnote⟩, ⟨stored, hstored⟩,
        not_not.mp hpending, policyDecision, hpolicy, hvalid⟩, hclosed⟩
    · cases hw
      exact .inl (.refl _)

/-- A rejection whose checks pass commits, and closes the case without a stamp. -/
theorem Rejects.ok {db : Db} {approval : ApprovalRequest} {decision : OperatorDecision}
    {c : PaymentCase} (h : Rejects db approval decision c) (at' : Int) :
    ∃ db' result row, decideApproval db approval decision at' = .ok (db', result) ∧
      row.id = c.id ∧ c.Unstamped row ∧ db'.cases = db.cases.put row := by
  obtain ⟨operator, hoperator⟩ := h.operator
  obtain ⟨note, hnote⟩ := h.note
  obtain ⟨stored, hstored⟩ := h.request
  obtain ⟨policyDecision, hpolicy, hvalid⟩ := h.context
  have hstate := validateCurrentApprovalContext_state hvalid
  have hcase : approval.caseId = c.id := (Table.get?_key h.stored).symm
  let decided := stored.decided approval decision.decision operator note at'
  let audited := (CaseWork.lock c).audit (approvalAudit decided)
  obtain ⟨w, hw⟩ : ∃ w, transitionCase audited .escalated "HUMAN_APPROVAL_REJECTED"
      approvalAuditSource = .ok w := transitionCase_close_ok hstate (by decide)
  have hopen : c.currentState ∉ terminalCaseStates := by
    rw [hstate]
    decide
  refine ⟨({ db with approvalRequests := db.approvalRequests.put decided }).commitCase w,
    approvalResult decided w.row false, w.row, ?_, (transitionCase_advances hw).id_eq,
    transitionCase_unstamped hw (by decide) hopen, rfl⟩
  have hescalated : escalateRejected audited decision.decision = .ok w := by
    unfold escalateRejected
    rw [if_pos h.rejected]
    exact hw
  unfold decideApproval
  rw [show require (decision.decision = .approved ∨ decision.decision = .rejected) _ = .ok () from
    require_eq_ok.mpr (.inr h.rejected), hoperator, hnote]
  simp only [lockApprovalCase, h.stored, requireSome, hstored, hpolicy, hvalid, h.pending, require,
    if_pos hcase, ne_eq, not_true_eq_false, if_false, bind, Except.bind]
  rw [show escalateRejected ((CaseWork.lock c).audit (approvalAudit decided)) decision.decision =
    .ok w from hescalated]
  rfl

/-- The context of an internal action is current, and the action is one that closes its case. -/
structure ClosesInternally (db : Db) (claim : ExecutionClaim) (now : Int) (c : PaymentCase)
    (record : RecoveryActionRecord) : Prop where
  locked : Locked db claim c record
  not_final : record.executionStatus ∉ finalExecutionStatuses
  current : postRequestContextIsCurrent db c record now = .ok true
  closes : record.action ≠ .wait ∧ record.action ≠ .createRecoveryLink

theorem failUnsupported_cases {db db' : Db} {c : PaymentCase} {record : RecoveryActionRecord}
    {now : Int} {result : RecoveryExecutionResult} (hopen : c.currentState ∉ terminalCaseStates)
    (h : failUnsupported db c record now = .ok (db', result)) :
    ∃ row, row.id = c.id ∧ c.GivenUp row ∧ db'.cases = db.cases.put row := by
  obtain ⟨w, hw, h⟩ := bind_eq_ok.mp h
  cases h
  have hclosed := transitionCase_givenUp hw (by decide) (by decide) hopen
  exact ⟨w.row, (transitionCase_extends hw).id_eq, hclosed, rfl⟩

theorem moveCaseForInternalAction_cases {w w' : CaseWork} {action : RecoveryAction}
    (h : moveCaseForInternalAction w action = .ok w')
    (hopen : w.row.currentState ∉ terminalCaseStates) :
    (action = .wait ∧ w.row.AtRest w'.row) ∨ (action ≠ .wait ∧ w.row.GivenUp w'.row) := by
  unfold moveCaseForInternalAction at h
  split at h
  · obtain ⟨w₁, hactioned, hwaiting⟩ := bind_eq_ok.mp h
    exact .inl ⟨rfl, (transitionCase_atRest hactioned (by decide)).trans
      (transitionCase_atRest hwaiting (by decide))⟩
  · exact .inr ⟨by decide, transitionCase_givenUp h (by decide) (by decide) hopen⟩
  · rename_i hwait _
    exact .inr ⟨hwait, transitionCase_givenUp h (by decide) (by decide) hopen⟩

theorem succeedInternal_cases {db db' : Db} {c : PaymentCase} {record : RecoveryActionRecord}
    {now : Int} {result : RecoveryExecutionResult} (hopen : c.currentState ∉ terminalCaseStates)
    (h : succeedInternal db c record now = .ok (db', result)) :
    ∃ row, row.id = c.id ∧ ((record.action = .wait ∧ c.AtRest row) ∨
      (record.action ≠ .wait ∧ c.GivenUp row)) ∧ db'.cases = db.cases.put row := by
  obtain ⟨w, hw, h⟩ := bind_eq_ok.mp h
  cases h
  exact ⟨w.row, (moveCaseForInternalAction_eq_ok hw).1.id_eq,
    moveCaseForInternalAction_cases hw hopen, rfl⟩

/-- What an internal execution does to the cases. -/
theorem executeInternal_cases {db db' : Db} {claim : ExecutionClaim} {now : Int}
    {result : RecoveryExecutionResult} (h : executeInternal db claim now = .ok (db', result)) :
    db' = db ∨ ∃ c record row, Locked db claim c record ∧ row.id = c.id ∧
      (c.AtRest row ∨ ClosesInternally db claim now c record ∧ c.GivenUp row) ∧
      db'.cases = db.cases.put row := by
  obtain ⟨c, hc, h⟩ := bind_eq_ok.mp h
  obtain ⟨record, hrecord, h⟩ := bind_eq_ok.mp h
  have hlocked : Locked db claim c record := .of_eq_ok hc hrecord
  split at h
  · cases h
    exact .inl rfl
  rename_i hfinal
  obtain ⟨current, hcurrent, h⟩ := bind_eq_ok.mp h
  split at h
  · cases h
    exact .inr ⟨c, record, c, hlocked, rfl, .inl (.refl _), rfl⟩
  rename_i htrue
  rw [Bool.not_eq_false] at htrue
  subst htrue
  have hopen : c.currentState ∉ terminalCaseStates := by
    rw [postRequestContextIsCurrent_true hcurrent]
    decide
  have hcloses : record.action ≠ .wait → record.action ≠ .createRecoveryLink →
      ClosesInternally db claim now c record :=
    fun hwait hlink => ⟨hlocked, hfinal, hcurrent, hwait, hlink⟩
  have hdone : succeedInternal db c record now = .ok (db', result) →
      record.action ≠ .createRecoveryLink → ∃ row, row.id = c.id ∧
      (c.AtRest row ∨ ClosesInternally db claim now c record ∧ c.GivenUp row) ∧
      db'.cases = db.cases.put row := by
    intro h hlink
    obtain ⟨row, hid, ⟨-, hrest⟩ | ⟨hwait, hclosed⟩, hdb⟩ := succeedInternal_cases hopen h
    · exact ⟨row, hid, .inl hrest, hdb⟩
    · exact ⟨row, hid, .inr ⟨hcloses hwait hlink, hclosed⟩, hdb⟩
  have hfailed : failUnsupported db c record now = .ok (db', result) → record.action ≠ .wait →
      record.action ≠ .createRecoveryLink → ∃ row, row.id = c.id ∧
      (c.AtRest row ∨ ClosesInternally db claim now c record ∧ c.GivenUp row) ∧
      db'.cases = db.cases.put row := by
    intro h hwait hlink
    obtain ⟨row, hid, hclosed, hdb⟩ := failUnsupported_cases hopen h
    exact ⟨row, hid, .inr ⟨hcloses hwait hlink, hclosed⟩, hdb⟩
  refine .inr ⟨c, record, ?_⟩
  cases haction : record.action <;> rw [haction] at h hdone hfailed
  case createRecoveryLink => cases h
  case requestRetry | requestPaymentMethodUpdate =>
    obtain ⟨row, hrow⟩ := hfailed h (by decide) (by decide)
    exact ⟨row, hlocked, hrow⟩
  all_goals
    obtain ⟨row, hrow⟩ := hdone h (by decide)
    exact ⟨row, hlocked, hrow⟩

/-- An internal action that closes its case commits, and does not stamp it. -/
theorem ClosesInternally.ok {db : Db} {claim : ExecutionClaim} {now : Int} {c : PaymentCase}
    {record : RecoveryActionRecord} (h : ClosesInternally db claim now c record) :
    ∃ db' result row, executeInternal db claim now = .ok (db', result) ∧ row.id = c.id ∧
      c.Unstamped row ∧ db'.cases = db.cases.put row := by
  have hstate := postRequestContextIsCurrent_true h.current
  have hopen : c.currentState ∉ terminalCaseStates := by
    rw [hstate]
    decide
  obtain ⟨hwait, hlink⟩ := h.closes
  -- all checks pass, so the execution is what it does with the action
  have hrejects : record.action = .requestRetry ∨ record.action = .requestPaymentMethodUpdate →
      executeInternal db claim now = failUnsupported db c record now := by
    unfold executeInternal lockExecutionCase lockRecord
    rintro (haction | haction) <;>
      simp only [h.locked.case_eq, h.locked.record_eq, requireSome, if_neg h.not_final, h.current, bind,
        Except.bind, Bool.true_eq_false, if_false, haction]
  have hacts : record.action = .noAction ∨ record.action = .escalateToHuman →
      executeInternal db claim now = succeedInternal db c record now := by
    unfold executeInternal lockExecutionCase lockRecord
    rintro (haction | haction) <;>
      simp only [h.locked.case_eq, h.locked.record_eq, requireSome, if_neg h.not_final, h.current, bind,
        Except.bind, Bool.true_eq_false, if_false, haction]
  have hunsupported : ∃ out, failUnsupported db c record now = .ok out := by
    let failed := { record with
      executionStatus := .failed
      failedAt := some now
      errorCode := some "EXECUTOR_ACTION_NOT_IMPLEMENTED" }
    obtain ⟨w, hw⟩ : ∃ w, transitionCase
        ((CaseWork.lock c).audit (executionAudit failed "EXECUTOR_ACTION_NOT_IMPLEMENTED"))
        .escalated "EXECUTOR_ACTION_NOT_IMPLEMENTED" executionAuditSource = .ok w :=
      transitionCase_close_ok hstate (by decide)
    exact ⟨_, bind_eq_ok.mpr ⟨w, hw, rfl⟩⟩
  have hsucceeded : ∃ out, succeedInternal db c record now = .ok out := by
    have hmoved : ∃ w, moveCaseForInternalAction (.lock c) record.action = .ok w := by
      unfold moveCaseForInternalAction
      split
      · contradiction
      · exact transitionCase_close_ok hstate (by decide)
      · exact transitionCase_close_ok hstate (by decide)
    obtain ⟨w, hw⟩ := hmoved
    exact ⟨_, bind_eq_ok.mpr ⟨w, hw, rfl⟩⟩
  obtain ⟨⟨db₁, result₁⟩, hunsupported⟩ := hunsupported
  obtain ⟨⟨db₂, result₂⟩, hsucceeded⟩ := hsucceeded
  obtain ⟨row₁, hid₁, hclosed₁, hdb₁⟩ := failUnsupported_cases hopen hunsupported
  obtain ⟨row₂, hid₂, hclosed₂, hdb₂⟩ := succeedInternal_cases hopen hsucceeded
  replace hclosed₂ : c.GivenUp row₂ := hclosed₂.elim (fun h => absurd h.1 hwait) And.right
  cases haction : record.action with
  | createRecoveryLink => exact absurd haction hlink
  | wait => exact absurd haction hwait
  | requestRetry | requestPaymentMethodUpdate =>
      rw [hrejects (by simp [haction])]
      exact ⟨db₁, result₁, row₁, hunsupported, hid₁, hclosed₁.toUnstamped, hdb₁⟩
  | noAction | escalateToHuman =>
      rw [hacts (by simp [haction])]
      exact ⟨db₂, result₂, row₂, hsucceeded, hid₂, hclosed₂.toUnstamped, hdb₂⟩

end Arc
