/-
Execution authority.

A claim for a payment link is only committed by `prepareAndClaim`, and what that
transaction checks under the case lock is spread over several functions.  Here it is
read back into one statement, `LinkAuthority`, which holds in the state the claim is
committed in, whether the row is built for the claim or reclaimed.  A worker that asks
the gateway for a link got its claim in such a transaction.
-/
import Arc.Proofs.Webhook

namespace Arc

open Store

variable [Platform]

/-! ### What a claim has checked

The transaction checks under the lock on the case, in several functions that each return
what the next one needs. The lemmas read them back in the order of the source, and
`LinkAuthority` is their conjunction at the clock of the claim.
-/

/-- Under the case lock at `now`, the action of the current decision may be executed. -/
structure LinkAuthority (db : Db) (c : PaymentCase) (proposal : StrategyProposal)
    (decision : PolicyDecision) (now : Int) : Prop where
  stored : db.cases.get? c.id = some c
  state : c.currentState = .policyValidated
  proposal_current : db.currentProposal c.id = some proposal
  decision_current : db.currentDecision c.id = some decision
  proposal_open : proposal ∈ db.strategyProposals ∧ proposal.caseId = c.id ∧
    proposal.supersededAt = none
  decision_open : decision ∈ db.policyDecisions ∧ decision.caseId = c.id ∧
    decision.supersededAt = none
  belongs : decision.strategyProposalId = proposal.id
  eligible : (assessEligibility c now).decision = .eligible
  fresh : c.FreshAt now
  confirmed : c.FailureConfirmed
  /-- The rules, run again on the locked case and the policy row, give the decision. -/
  rules : ∃ evaluation, evaluation = evaluateAuthorization (authorizationFacts c proposal now)
      (db.policyFor c.merchantId).isSome ((db.policyFor c.merchantId).bind validatePolicy) ∧
    evaluation.result = decision.result ∧ evaluation.reasonCode = decision.reasonCode ∧
    evaluation.recoveryWindowEndsAt = decision.recoveryWindowEndsAt
  permitted : decision.result = .authorized ∨ (decision.result = .requiresApproval ∧
    ∃ approval ∈ db.approvalRequests, approval.policyDecisionId = decision.id ∧
      approval.caseId = c.id ∧ approval.status = .approved)
  action : proposal.action = .createRecoveryLink
  limits : ∃ policy configuration windowEnd, db.policyFor c.merchantId = some policy ∧
    validatePolicy policy = some configuration ∧
    .createRecoveryLink ∈ configuration.allowedActions ∧
    decision.recoveryWindowEndsAt = some windowEnd ∧ now ≤ windowEnd ∧
    c.attemptCount < configuration.maxAutomatedAttempts ∧
    c.contactAttemptCount < configuration.maxContactAttempts

/-- **What the current inputs of an execution have passed.** -/
theorem currentInputs_eq_ok {db : Db} {c : PaymentCase} {proposal : StrategyProposal}
    {decision : PolicyDecision} {now : Int} {inputs : CurrentAuthorizationInputs}
    (h : currentInputs db c proposal decision now = .ok inputs) :
    decision.strategyProposalId = proposal.id ∧ ProposalCurrent c proposal now ∧
      inputs = inputsOf c proposal now (db.policyFor c.merchantId) ∧
      decision.matchesInputs c proposal inputs = true ∧ decision.result ≠ .blocked := by
  obtain ⟨_, hbelongs, h⟩ := bind_eq_ok.mp h
  obtain ⟨inputs', hinputs, h⟩ := bind_eq_ok.mp h
  obtain ⟨_, hmatches, h⟩ := bind_eq_ok.mp h
  obtain ⟨_, hblocked, h⟩ := bind_eq_ok.mp h
  cases h
  have hrecomputed : recomputeCurrentAuthorizationInputs db c proposal now = .ok inputs :=
    mapError_eq_ok.mp hinputs
  obtain ⟨hcurrent, hinputs⟩ := recompute_eq_ok.mp hrecomputed
  exact ⟨require_eq_ok.mp hbelongs, hcurrent, hinputs, require_eq_ok.mp hmatches,
    (require_eq_ok.mp hblocked).1⟩

theorem currentProposal_eq_some {db : Db} {caseId : Uuid} {proposal : StrategyProposal}
    (h : db.currentProposal caseId = some proposal) :
    proposal ∈ db.strategyProposals ∧ proposal.caseId = caseId ∧ proposal.supersededAt = none := by
  obtain ⟨hmem, hcond⟩ := Table.first?_mem h
  simp only [Bool.and_eq_true, beq_iff_eq, Option.isNone_iff_eq_none] at hcond
  exact ⟨hmem, hcond.1, hcond.2⟩

theorem currentDecision_eq_some {db : Db} {caseId : Uuid} {decision : PolicyDecision}
    (h : db.currentDecision caseId = some decision) :
    decision ∈ db.policyDecisions ∧ decision.caseId = caseId ∧ decision.supersededAt = none := by
  obtain ⟨hmem, hcond⟩ := Table.first?_mem h
  simp only [Bool.and_eq_true, beq_iff_eq, Option.isNone_iff_eq_none] at hcond
  exact ⟨hmem, hcond.1, hcond.2⟩

/-- A decision that may be executed is authorized, or approved by an operator. -/
theorem isExecutionPermitted_eq_true {db : Db} {decision : PolicyDecision}
    (h : isExecutionPermitted decision (db.approvalFor decision.id) = true) :
    decision.result = .authorized ∨ (decision.result = .requiresApproval ∧
      ∃ approval ∈ db.approvalRequests, approval.policyDecisionId = decision.id ∧
        approval.caseId = decision.caseId ∧ approval.status = .approved) := by
  unfold isExecutionPermitted isExecutionAuthorized at h
  simp only [Bool.or_eq_true, Bool.and_eq_true, beq_iff_eq] at h
  rcases h with h | ⟨⟨hresult, -⟩, happroval⟩
  · exact .inl h.1
  · cases hfound : db.approvalFor decision.id with
    | none => simp [hfound] at happroval
    | some approval =>
        simp only [hfound, Option.any_some, Bool.and_eq_true, beq_iff_eq] at happroval
        exact .inr ⟨hresult, approval, (Table.first?_mem hfound).1, happroval.1.2,
          happroval.1.1, happroval.2⟩

/-- **The authority of a claim for a link.** -/
theorem Authority.link {db : Db} {c : PaymentCase} {proposal : StrategyProposal}
    {decision : PolicyDecision} {inputs : CurrentAuthorizationInputs} {now : Int}
    (h : Authority db c proposal decision inputs now)
    (haction : proposal.action = .createRecoveryLink) :
    LinkAuthority db c proposal decision now := by
  obtain ⟨hbelongs, hcurrent, hinputs, hmatches, hblocked⟩ := currentInputs_eq_ok h.inputs_eq
  have hdecision := currentDecision_eq_some h.decision_current
  have heligible : (assessEligibility c now).decision = .eligible := by
    have hcond := hcurrent.eligible
    unfold PaymentCase.eligibilityIsCurrent at hcond
    simp only [Bool.and_eq_true, beq_iff_eq] at hcond
    exact hcond.1.1.1
  obtain ⟨-, -, hfresh, hconfirmed⟩ := eligible_iff.mp heligible
  subst hinputs
  simp only [PolicyDecision.matchesInputs, Bool.and_eq_true, beq_iff_eq] at hmatches
  obtain ⟨⟨⟨⟨⟨⟨⟨⟨-, -⟩, -⟩, hresult⟩, hreason⟩, hwindow⟩, -⟩, -⟩, -⟩ := hmatches
  have hresult' : (evaluateAuthorization (authorizationFacts c proposal now)
      (db.policyFor c.merchantId).isSome ((db.policyFor c.merchantId).bind validatePolicy)).result
      ≠ .blocked := fun hb => hblocked (hresult.trans hb)
  have hexternal : (authorizationFacts c proposal now).action ∉ safeInternalActions := by
    simp [authorizationFacts, haction, safeInternalActions]
  obtain ⟨hpresent, configuration, hconfiguration, hlimits, hend⟩ :=
    evaluateAuthorization_external hexternal hresult'
  obtain ⟨policy, hpolicy⟩ := Option.isSome_iff_exists.mp hpresent
  exact
    { stored := h.stored
      state := h.state
      proposal_current := h.proposal_current
      decision_current := h.decision_current
      proposal_open := currentProposal_eq_some h.proposal_current
      decision_open := hdecision
      belongs := hbelongs
      eligible := heligible
      fresh := hfresh
      confirmed := hconfirmed
      rules := ⟨_, rfl, hresult.symm, hreason.symm, hwindow.symm⟩
      permitted := by
        have hpermitted := isExecutionPermitted_eq_true h.permitted
        rwa [hdecision.2.1] at hpermitted
      action := haction
      limits := by
        refine ⟨policy, configuration, recoveryWindowEnd _ configuration, hpolicy, ?_, ?_,
          hwindow.trans hend, hlimits.window, hlimits.attempts, hlimits.contacts ?_⟩
        · rwa [hpolicy] at hconfiguration
        · have hallowed := hlimits.allowed
          simp only [authorizationFacts, haction] at hallowed
          exact hallowed
        · simp [authorizationFacts, haction, customerContactActions] }

/-! ### Claims along a run

An executor keeps its claim in its phase until the row is finalized. So a worker that
sends a creation holds a claim, and looking back along the run there is the step that
committed it, in whose state the authority was complete.
-/

/-- In its provider phases an executor holds a claim for a link. -/
def ExecutorPhase.ActionOk : ExecutorPhase → Prop
  | .idle | .claimed _ => True
  | .creating held | .awaiting held _ | .linked held _ _ | .troubled held _
  | .compensating held _ | .cancelling held _ | .compensated held _ _ =>
      held.claim.action = .createRecoveryLink

theorem ExecutorStep.actionOk {s : System} {phase : ExecutorPhase} {l : ExecutorLabel}
    {m : ExecutorMove} (h : ExecutorStep s phase l m) (hok : phase.ActionOk) :
    m.phase.ActionOk := by
  cases h with
  | lookedUp haction hrequest =>
      simp only [afterLookup]
      split
      · exact haction
      · exact haction
      · split <;> exact haction
      · exact haction
  | answered hrequest =>
      simp only [afterCreate]
      split <;> exact hok
  | @finalized held snapshot adopted required now c record record' w hnow hlocked h hfree =>
      cases required
      · trivial
      · exact hok
  | ended | claimed | internal | problem | compensated => trivial
  | sent | cancelSent | cancelAnswered => exact hok

theorem actionOk_reachable {clock : Int} {s : System}
    (h : Run.Reachable step (System.initial clock) s) (worker : Nat) :
    (s.executors worker).ActionOk := by
  refine h.invariant (I := fun s => (s.executors worker).ActionOk) trivial fun s l s' hok hs => ?_
  rcases step_executors hs worker with hsame | ⟨el, m, -, hm, hphase, -⟩
  · rwa [hsame]
  · rw [hphase]
    exact hm.actionOk hok

/-- The step committed a claim of an executor. -/
structure ClaimStep (x : Run.Step System Label) (worker : Nat) (caseId newId : Uuid) (now : Int)
    (held : HeldClaim) : Prop where
  label : x.label = .executor worker (.prepare caseId newId now)
  phase : x.post.executors worker = .claimed held

/-- A claim step is a commit of `prepareAndClaim`. -/
theorem ClaimStep.claims {x : Run.Step System Label} {worker : Nat} {caseId newId : Uuid}
    {now : Int} {held : HeldClaim} (hclaim : ClaimStep x worker caseId newId now held)
    (h : step x.pre x.label = some x.post) :
    now ≤ x.pre.clock ∧ Claims x.pre.db caseId newId now x.post.db held.claim ∧
      held.lease = leaseOf x.post.db held.claim.recoveryActionId := by
  obtain ⟨hlabel, hphase⟩ := hclaim
  rw [hlabel] at h
  obtain ⟨m, hm, hpost⟩ := Option.map_eq_some_iff.mp h
  rw [← hpost] at hphase ⊢
  replace hphase : m.phase = .claimed held := by simpa using hphase
  have hcases := executorStep_cases hm
  generalize x.pre.executors worker = phase at hcases
  cases hcases with
  | ended => cases hphase
  | claimed hnow hclaims =>
      cases hphase
      exact ⟨hnow, hclaims, rfl⟩

/-- **Every claim an executor holds was committed in an earlier step of that executor.** -/
theorem held_claimed {clock : Int} {tr : List (Run.Step System Label)} {s : System}
    (h : RunTrace clock tr s) {worker : Nat} {held : HeldClaim}
    (hheld : (s.executors worker).held? = some held) :
    ∃ y ∈ tr, ∃ caseId newId now, ClaimStep y worker caseId newId now held := by
  induction h with
  | nil => cases hheld
  | @snoc tr s s' l htr hs ih =>
      have hold : (s.executors worker).held? = some held →
          ∃ y ∈ tr ++ [⟨s, l, s'⟩], ∃ caseId newId now, ClaimStep y worker caseId newId now held := by
        intro hprev
        obtain ⟨y, hy, hclaim⟩ := ih hprev
        exact ⟨y, List.mem_append_left _ hy, hclaim⟩
      rcases step_executors hs worker with hsame | ⟨el, m, rfl, hm, hphase, -⟩
      · exact hold (hsame ▸ hheld)
      · rw [hphase] at hheld
        rcases hm.held hheld with hprev | ⟨caseId, newId, now, claim, rfl, hidle, -, -⟩
        · exact hold hprev
        · refine ⟨⟨s, _, s'⟩, by simp, caseId, newId, now, rfl, ?_⟩
          rw [hidle] at hm
          show s'.executors worker = .claimed held
          rw [hphase]
          cases hm with
          | ended => cases hheld
          | claimed hnow h =>
              cases hheld
              rfl

/-- The state a claim for a link is committed in has full authority for it. -/
theorem ClaimStep.authority {x : Run.Step System Label} {worker : Nat} {caseId newId : Uuid}
    {now : Int} {held : HeldClaim} (hclaim : ClaimStep x worker caseId newId now held)
    (h : step x.pre x.label = some x.post) (haction : held.claim.action = .createRecoveryLink) :
    now ≤ x.pre.clock ∧ held.claim.caseId = caseId ∧
      ∃ c proposal decision, c.id = caseId ∧ LinkAuthority x.pre.db c proposal decision now := by
  obtain ⟨hnow, hcommitted, -⟩ := hclaim.claims h
  obtain ⟨c, proposal, decision, inputs, record, hrow⟩ := hcommitted.row
  refine ⟨hnow, ?_, c, proposal, decision, hrow.case_id, hrow.authority.link ?_⟩
  · rw [hrow.claim_eq]
    exact hrow.case_eq.trans hrow.case_id
  · rw [hrow.claim_eq] at haction
    exact hrow.action_eq.symm.trans haction

/-- A creation is sent for a claim of a link that was committed before. -/
theorem sent_claimed {clock : Int} {before : List (Run.Step System Label)} {s s' : System}
    {worker : Nat} (h : RunTrace clock before s)
    (hs : step s (.executor worker .sendCreate) = some s') :
    ∃ held y caseId newId now, s.executors worker = .creating held ∧ y ∈ before ∧
      ClaimStep y worker caseId newId now held ∧ held.claim.action = .createRecoveryLink := by
  obtain ⟨m, hm, -⟩ := Option.map_eq_some_iff.mp hs
  have hok := actionOk_reachable ⟨before, h⟩ worker
  cases hphase : s.executors worker with
  | creating held =>
      rw [hphase] at hok
      have hheld : (s.executors worker).held? = some held := by
        rw [hphase]
        rfl
      obtain ⟨y, hy, caseId, newId, now, hclaim⟩ := held_claimed h hheld
      exact ⟨held, y, caseId, newId, now, rfl, hy, hclaim, hok⟩
  | _ =>
      rw [hphase] at hm
      cases hm

/--
**Execution authority.**  Along every run, a claim for a payment link is committed in a
state that has full authority for it, under the case lock and at the clock reading of
the claim; and every creation the gateway is asked for was claimed so before.
-/
theorem execution_authorized {clock : Int} {tr : List (Run.Step System Label)} {s : System}
    (h : RunTrace clock tr s) :
    (∀ x ∈ tr, ∀ worker caseId newId now held, ClaimStep x worker caseId newId now held →
      held.claim.action = .createRecoveryLink →
      now ≤ x.pre.clock ∧ held.claim.caseId = caseId ∧
      ∃ c proposal decision, c.id = caseId ∧ LinkAuthority x.pre.db c proposal decision now) ∧
    (∀ before x after, tr = before ++ x :: after → ∀ worker,
      x.label = .executor worker .sendCreate →
      ∃ held y caseId newId now, x.pre.executors worker = .creating held ∧ y ∈ before ∧
        ClaimStep y worker caseId newId now held ∧ held.claim.caseId = caseId ∧
        ∃ c proposal decision, c.id = caseId ∧ LinkAuthority y.pre.db c proposal decision now) := by
  have hclaims : ∀ x ∈ tr, ∀ worker caseId newId now held,
      ClaimStep x worker caseId newId now held → held.claim.action = .createRecoveryLink →
      now ≤ x.pre.clock ∧ held.claim.caseId = caseId ∧
      ∃ c proposal decision, c.id = caseId ∧ LinkAuthority x.pre.db c proposal decision now := by
    intro x hx worker caseId newId now held hclaim haction
    exact hclaim.authority (h.step_of_mem hx) haction
  refine ⟨hclaims, ?_⟩
  rintro before x after rfl worker hlabel
  obtain ⟨m, hbefore, hrest⟩ := h.of_append
  obtain ⟨rfl, hstep, -⟩ := hrest.of_cons
  rw [hlabel] at hstep
  obtain ⟨held, y, caseId, newId, now, hphase, hy, hclaim, haction⟩ := sent_claimed hbefore hstep
  obtain ⟨-, hcase, hauthority⟩ :=
    hclaims y (List.mem_append_left _ hy) worker caseId newId now held hclaim haction
  exact ⟨held, y, caseId, newId, now, hphase, hy, hclaim, hcase, hauthority⟩

end Arc

namespace Arc

attribute [local instance] asciiPlatform

theorem execution_authorized_recovered : ∃ tr s, RunTrace 0 tr s ∧
    tr.map Run.Step.label = recoveredRun ∧
    ∃ x ∈ tr, x.label = .executor 0 .sendCreate ∧
      ∃ y ∈ tr, ∃ caseId newId now held, ClaimStep y 0 caseId newId now held ∧
        now ≤ y.pre.clock ∧
        ∃ c proposal decision, c.id = caseId ∧ LinkAuthority y.pre.db c proposal decision now := by
  have hrun : (Run.replay step (System.initial 0) recoveredRun).isSome = true := by decide +kernel
  obtain ⟨tr, s, htr, hlabels, -⟩ := Run.Trace.of_isSome hrun
  have hsent : Label.executor 0 .sendCreate ∈ tr.map Run.Step.label := by
    rw [hlabels]
    simp [recoveredRun, authorizedRun]
  obtain ⟨x, hx, hlabel⟩ := List.mem_map.mp hsent
  obtain ⟨before, after, rfl⟩ := List.append_of_mem hx
  obtain ⟨-, hsends⟩ := execution_authorized htr
  obtain ⟨held, y, caseId, newId, now, -, hy, hclaim, -, hauthority⟩ :=
    hsends before x after rfl 0 hlabel
  have hmem : y ∈ before ++ x :: after := List.mem_append_left _ hy
  exact ⟨_, s, htr, hlabels, x, hx, hlabel, y, hmem, caseId, newId, now, held, hclaim,
    (hclaim.claims (htr.step_of_mem hmem)).1, hauthority⟩

end Arc
