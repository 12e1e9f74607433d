/-
What the services between the report and the execution commit.

Assessment, strategy, policy and approval each lock one case.  Either they change
nothing, or they write one table of their own together with that case, whose row and
entries advance without touching what the provider reported.
-/
import Arc.Approval.Service
import Arc.Assessment
import Arc.Intelligence.Service
import Arc.Policy.Service
import Arc.Proofs.CaseEffect

namespace Arc

open Store

variable [Platform]

/-! ### Assessment -/

theorem moveReconcilingCaseToDiagnosed_advances {w w' : CaseWork}
    (h : moveReconcilingCaseToDiagnosed w = .ok w') : Advances w w' := by
  unfold moveReconcilingCaseToDiagnosed at h
  split at h
  · exact transitionCase_advances h
  · cases h
    exact .refl _

theorem persistAssessment_advances {c : PaymentCase} {eligibility : EligibilityResult}
    {diagnosis : Option FailureDiagnosis} {at' : Int} {w : CaseWork}
    (h : persistAssessment c eligibility diagnosis at' = .ok w) : Advances (.lock c) w := by
  have hassessed : Advances (.lock c)
      ((CaseWork.lock (c.withEligibility eligibility at')).audit
        (eligibilityAudit (c.withEligibility eligibility at') c.currentState)) := by
    refine (Advances.write (c.withEligibility eligibility at') rfl rfl rfl rfl).trans ?_
    refine .audit rfl ?_ ?_ <;> simp [eligibilityAudit, caseStateTransition, reservedEventTypes]
  unfold persistAssessment at h
  simp only at h
  split at h
  · cases h
    exact hassessed.trans (.write _ rfl rfl rfl rfl)
  · rename_i diagnosis
    obtain ⟨w₁, hmove, h⟩ := bind_eq_ok.mp h
    cases h
    have hmoved := moveReconcilingCaseToDiagnosed_advances hmove
    have hdiagnosed := hassessed.trans
      (.write ((c.withEligibility eligibility at').withDiagnosis diagnosis at') rfl rfl rfl rfl)
    refine (hdiagnosed.trans hmoved).trans (.audit rfl ?_ ?_) <;>
    · unfold diagnosisAudit
      split <;> simp [caseStateTransition, reservedEventTypes]

/-- **What an assessment commits**: nothing, or the new assessment of its case. -/
theorem assessCase_eq_ok {db db' : Db} {caseId : Uuid} {at' : Int} {result : CaseAssessmentResult}
    (h : assessCase db caseId at' = .ok (db', result)) :
    db' = db ∨ ∃ c w, db.cases.get? caseId = some c ∧ Advances (.lock c) w ∧
      db' = db.commitCase w := by
  obtain ⟨c, hc, h⟩ := bind_eq_ok.mp h
  rw [requireSome_eq_ok] at hc
  simp only at h
  generalize (if (assessEligibility c at').decision = .eligible then some (classifyFailure c)
    else none) = diagnosis at h
  split at h
  · cases h
    exact .inl rfl
  · obtain ⟨w, hw, h⟩ := bind_eq_ok.mp h
    cases h
    exact .inr ⟨c, w, hc, persistAssessment_advances hw, rfl⟩

/-! ### Strategy

A generation ends in one of three transactions: the accepted proposal with its
transition, the entry of a failure, or nothing, where the case has changed while the
model was asked. The lemma about the locked case says what was compared to find that
out.
-/

theorem lockStrategyCase_eq_ok {db : Db} {caseId : Uuid} {c : PaymentCase} :
    lockStrategyCase db caseId = .ok c ↔ db.cases.get? caseId = some c := requireSome_eq_ok

theorem moveDiagnosedCaseToDecisioned_advances {w w' : CaseWork}
    (h : moveDiagnosedCaseToDecisioned w = .ok w') : Advances w w' := by
  unfold moveDiagnosedCaseToDecisioned at h
  split at h
  · exact transitionCase_advances h
  · cases h
    exact .refl _

theorem appendGenerated_advances (w : CaseWork) (proposal : StrategyProposal)
    (previousState : CaseState) : Advances w (appendGenerated w proposal previousState) := by
  refine .audit rfl ?_ ?_ <;>
  · simp only
    repeat' split
    all_goals decide

theorem acceptProposal_eq_ok {db db' : Db} {c : PaymentCase} {snapshot : StrategySnapshot}
    {action : RecoveryAction} {modelResult : Option StrategyModelResult} {newId : Uuid} {at' : Int}
    {result : StrategyGenerationResult}
    (h : acceptProposal db c snapshot action modelResult newId at' = .ok (db', result)) :
    ∃ proposals w, replaceProposal db.strategyProposals (db.currentProposal c.id)
        (buildProposal snapshot action modelResult newId) at' = .ok proposals ∧
      Advances (.lock c) w ∧ db' = ({ db with strategyProposals := proposals }).commitCase w := by
  obtain ⟨proposals, hreplace, h⟩ := bind_eq_ok.mp h
  obtain ⟨w, hmove, h⟩ := bind_eq_ok.mp h
  cases h
  exact ⟨proposals, _, hreplace,
    (moveDiagnosedCaseToDecisioned_advances hmove).trans (appendGenerated_advances _ _ _), rfl⟩

/-- An entry of the strategy engine, on a case that is otherwise left alone. -/
theorem strategyAudit_advances (c : PaymentCase) {eventType : String} {reason : Option String}
    (hkind : eventType ≠ caseStateTransition) (hkind' : eventType ∉ reservedEventTypes) :
    Advances (.lock c) ((CaseWork.lock c).audit (strategyAudit c eventType reason)) :=
  .audit rfl hkind hkind'

/-- **What a generation commits**: nothing, one entry, or the accepted proposal. -/
theorem persistLocked_eq_ok {db db' : Db} {snapshot : StrategySnapshot}
    {modelResult : Option StrategyModelResult} {newId : Uuid} {now at' : Int}
    {outcome : Except Error StrategyGenerationResult}
    (h : persistLocked db snapshot modelResult newId now at' = .ok (db', outcome)) :
    db' = db ∨
    (∃ c w, db.cases.get? snapshot.caseId = some c ∧ Advances (.lock c) w ∧ w.row = c ∧
      db' = db.commitCase w) ∨
    (∃ c action proposals w, db.cases.get? snapshot.caseId = some c ∧
      snapshotIsCurrent c snapshot now = true ∧ generationStateAllowed db c = true ∧
      replaceProposal db.strategyProposals (db.currentProposal c.id)
        (buildProposal snapshot action modelResult newId) at' = .ok proposals ∧
      Advances (.lock c) w ∧ db' = ({ db with strategyProposals := proposals }).commitCase w) := by
  obtain ⟨c, hc, h⟩ := bind_eq_ok.mp h
  rw [lockStrategyCase_eq_ok] at hc
  split at h
  · cases h
    exact .inr (.inl ⟨c, _, hc, strategyAudit_advances c (by decide) (by decide), rfl, rfl⟩)
  rename_i hcurrent
  split at h
  · cases h
    exact .inl rfl
  obtain ⟨_, hstate, h⟩ := bind_eq_ok.mp h
  obtain ⟨action, haction, h⟩ := bind_eq_ok.mp h
  split at h
  · cases h
    exact .inr (.inl ⟨c, _, hc, strategyAudit_advances c (by decide) (by decide), rfl, rfl⟩)
  · obtain ⟨⟨db₁, result⟩, haccept, h⟩ := bind_eq_ok.mp h
    cases h
    obtain ⟨proposals, w, hreplace, hw, hdb⟩ := acceptProposal_eq_ok haccept
    exact .inr (.inr ⟨c, action, proposals, w, hc, by simpa using hcurrent,
      require_eq_ok.mp hstate, hreplace, hw, hdb⟩)

/-- A failed generation leaves an entry, or nothing when the case is gone. -/
theorem recordGenerationFailure_cases (db : Db) (snapshot : StrategySnapshot)
    (reasonCode : String) :
    recordGenerationFailure db snapshot reasonCode = db ∨
    ∃ c w, db.cases.get? snapshot.caseId = some c ∧ Advances (.lock c) w ∧ w.row = c ∧
      recordGenerationFailure db snapshot reasonCode = db.commitCase w := by
  unfold recordGenerationFailure
  split
  · exact .inl rfl
  · rename_i c hc
    exact .inr ⟨c, _, hc, strategyAudit_advances c (by decide) (by decide), rfl, rfl⟩

/-! ### Policy

An evaluation either returns the current decision or writes a new one, and then sends
the case where its result asks. The transition is allowed in every state the lock
accepts, so `applyPolicyTransition_ok` leaves no error to account for.
-/

theorem appendPolicyAudit_advances (w : CaseWork) (decision : PolicyDecision)
    (previousState : CaseState) (reevaluated : Bool) :
    Advances w (appendPolicyAudit w decision previousState reevaluated) := by
  refine .audit rfl ?_ ?_ <;>
  · simp only [policyAuditEventType]
    repeat' split
    all_goals decide

/-- **What an evaluation commits**: nothing, or the decisions and the state they call for. -/
theorem evaluatePolicy_eq_ok {db db' : Db} {caseId : Uuid} {proposalId : Option Uuid}
    {newId : Uuid} {at' : Int} {result : PolicyEvaluationResult}
    (h : evaluatePolicy db caseId proposalId newId at' = .ok (db', result)) :
    db' = db ∨ ∃ c proposal inputs decisions decision w, db.cases.get? caseId = some c ∧
      (c.currentState = .decisioned ∨ c.currentState = .policyValidated) ∧
      db.currentProposal c.id = some proposal ∧
      recomputeCurrentAuthorizationInputs db c proposal at' = .ok inputs ∧
      replaceDecision db.policyDecisions (db.currentDecision c.id)
        (findIdenticalDecision db c.id inputs.authorizationInputFingerprint)
        (buildDecision c proposal inputs newId at') at' = .ok (decisions, decision) ∧
      applyPolicyTransition (.lock c) decision = .ok w ∧
      db' = ({ db with policyDecisions := decisions }).commitCase
        (appendPolicyAudit w decision c.currentState (db.currentDecision c.id).isSome) := by
  obtain ⟨c, hc, h⟩ := bind_eq_ok.mp h
  rw [requireSome_eq_ok] at hc
  obtain ⟨_, hstate, h⟩ := bind_eq_ok.mp h
  rw [require_eq_ok] at hstate
  obtain ⟨proposal, hproposal, h⟩ := bind_eq_ok.mp h
  rw [requireSome_eq_ok] at hproposal
  obtain ⟨_, -, h⟩ := bind_eq_ok.mp h
  obtain ⟨inputs, hinputs, h⟩ := bind_eq_ok.mp h
  simp only at h
  split at h
  · cases h
    exact .inl rfl
  · obtain ⟨⟨decisions, decision⟩, hreplace, h⟩ := bind_eq_ok.mp h
    obtain ⟨w, hw, h⟩ := bind_eq_ok.mp h
    cases h
    exact .inr ⟨c, proposal, inputs, decisions, decision, w, hc, hstate, hproposal,
      mapError_eq_ok.mp hinputs, hreplace, hw, rfl⟩

theorem evaluatePolicy_advances {c : PaymentCase} {decision : PolicyDecision} {w : CaseWork}
    (h : applyPolicyTransition (.lock c) decision = .ok w) (previousState : CaseState)
    (reevaluated : Bool) :
    Advances (.lock c) (appendPolicyAudit w decision previousState reevaluated) :=
  (transitionCase_advances h).trans (appendPolicyAudit_advances _ _ _ _)

/-- The case of an evaluation can always be sent where its decision sends it. -/
theorem applyPolicyTransition_ok {c : PaymentCase}
    (hstate : c.currentState = .decisioned ∨ c.currentState = .policyValidated)
    (decision : PolicyDecision) : ∃ w, applyPolicyTransition (.lock c) decision = .ok w := by
  have htarget : (policyTarget decision).1 ∈
      [CaseState.policyValidated, .exhausted, .escalated] := by
    unfold policyTarget
    repeat' split
    all_goals simp
  have hallowed : c.currentState = (policyTarget decision).1 ∨
      (policyTarget decision).1 ∈ allowedTransitions c.currentState := by
    simp only [List.mem_cons, List.not_mem_nil, or_false] at htarget
    rcases hstate with h | h <;> rcases htarget with ht | ht | ht <;> rw [h, ht] <;> decide
  unfold applyPolicyTransition
  by_cases hsame : c.currentState = (policyTarget decision).1
  · exact ⟨_, transitionCase_eq_ok.mpr (.inl ⟨hsame, rfl⟩)⟩
  · exact ⟨_, transitionCase_eq_ok.mpr
      (.inr ⟨hsame, hallowed.resolve_left hsame, rfl⟩)⟩

/-! ### Approval -/

theorem approvalAudit_advances {c : PaymentCase} {approval : ApprovalRequest}
    (hcase : approval.caseId = c.id) :
    Advances (.lock c) ((CaseWork.lock c).audit (approvalAudit approval)) := by
  refine .audit hcase ?_ ?_ <;>
  · unfold approvalAudit approvalEventType
    cases approval.status <;> simp [caseStateTransition, reservedEventTypes]

/-- What a request for approval commits: nothing, or a pending request. -/
theorem ensureApprovalRequest_eq_ok {db db' : Db} {decision : PolicyDecision} {newId : Uuid}
    {at' : Int} {result : ApprovalRequestResult}
    (h : ensureApprovalRequest db decision newId at' = .ok (db', result)) :
    db' = db ∨ ∃ c approvals w, db.cases.get? decision.caseId = some c ∧
      c.currentState = .policyValidated ∧
      db.approvalFor decision.id = none ∧
      db.approvalRequests.insert? (newApprovalRequest c decision newId at') = some approvals ∧
      Advances (.lock c) w ∧ w.row = c ∧
      db' = ({ db with approvalRequests := approvals }).commitCase w := by
  obtain ⟨c, hc, h⟩ := bind_eq_ok.mp h
  obtain ⟨_, -, h⟩ := bind_eq_ok.mp h
  obtain ⟨_, hvalid, h⟩ := bind_eq_ok.mp h
  obtain ⟨_, hstate, -⟩ := bind_eq_ok.mp hvalid
  split at h
  · cases h
    exact .inl rfl
  · rename_i hnone
    obtain ⟨approvals, hinsert, h⟩ := bind_eq_ok.mp h
    cases h
    exact .inr ⟨c, approvals, _, requireSome_eq_ok.mp hc, require_eq_ok.mp hstate, hnone,
      requireSome_eq_ok.mp hinsert, approvalAudit_advances rfl, rfl, rfl⟩

theorem escalateRejected_advances {w w' : CaseWork} {decision : ApprovalStatus}
    (h : escalateRejected w decision = .ok w') : Advances w w' := by
  unfold escalateRejected at h
  split at h
  · exact transitionCase_advances h
  · cases h
    exact .refl _

/-- A stored request and a copy of it agree on the columns nothing ever writes. -/
structure ApprovalRequest.SameRequest (stored copy : ApprovalRequest) : Prop where
  id_eq : stored.id = copy.id
  case_eq : stored.caseId = copy.caseId
  decision_eq : stored.policyDecisionId = copy.policyDecisionId

/--
What a decision on an approval commits: nothing, or the decided request and, for a
rejection, the escalation of its case.
-/
theorem decideApproval_eq_ok {db db' : Db} {approval : ApprovalRequest}
    {decision : OperatorDecision} {at' : Int} {result : ApprovalRequestResult}
    (hcopy : ∃ stored ∈ db.approvalRequests, stored.SameRequest approval)
    (h : decideApproval db approval decision at' = .ok (db', result)) :
    db' = db ∨ ∃ c stored operator note w, db.cases.get? approval.caseId = some c ∧
      db.approvalRequests.get? approval.id = some stored ∧ stored.SameRequest approval ∧
      approval.status = .pending ∧ c.currentState = .policyValidated ∧ Advances (.lock c) w ∧
      db' = ({ db with
        approvalRequests := db.approvalRequests.put
          (stored.decided approval decision.decision operator note at') }).commitCase w := by
  obtain ⟨_, -, h⟩ := bind_eq_ok.mp h
  obtain ⟨operator, -, h⟩ := bind_eq_ok.mp h
  obtain ⟨note, -, h⟩ := bind_eq_ok.mp h
  obtain ⟨c, hc, h⟩ := bind_eq_ok.mp h
  have hc := requireSome_eq_ok.mp hc
  obtain ⟨stored, hstored, h⟩ := bind_eq_ok.mp h
  rw [requireSome_eq_ok] at hstored
  obtain ⟨copied, hcopied, hsame⟩ := hcopy
  have hget : db.approvalRequests.get? copied.id = some copied := Table.get?_of_mem hcopied
  rw [hsame.id_eq, hstored] at hget
  cases hget
  split at h
  · obtain ⟨_, -, h⟩ := bind_eq_ok.mp h
    cases h
    exact .inl rfl
  · rename_i hpending
    obtain ⟨policyDecision, -, h⟩ := bind_eq_ok.mp h
    obtain ⟨_, hvalid, h⟩ := bind_eq_ok.mp h
    obtain ⟨_, hstate, -⟩ := bind_eq_ok.mp hvalid
    obtain ⟨_, hcase, h⟩ := bind_eq_ok.mp h
    rw [require_eq_ok] at hcase
    obtain ⟨w, hw, h⟩ := bind_eq_ok.mp h
    cases h
    have haudit : (stored.decided approval decision.decision operator note at').caseId = c.id :=
      hsame.case_eq.trans hcase
    exact .inr ⟨c, stored, operator, note, w, hc, hstored, hsame, not_not.mp hpending,
      require_eq_ok.mp hstate, (approvalAudit_advances haudit).trans (escalateRejected_advances hw),
      rfl⟩

end Arc
