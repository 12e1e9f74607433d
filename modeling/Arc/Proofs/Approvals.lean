/-
Approvals along a run.

An approval is written twice at most in its ordinary life: it is requested as pending,
and it is answered while its decision is the current one.  It never becomes pending
again.  A claim under a decision that requires approval uses the one approval of that
decision, and what the claim recomputes is what the decision recorded.

A decider can hold a copy of the approval that was read before another has answered.
It then answers a second time; the row is not pending then, and does not become so.
-/
import Arc.Proofs.Proposals
import Arc.Proofs.Verdicts

namespace Arc

open Store

variable [Platform]

/-! ### What writes an approval

Two services write approvals: `ensureApprovalRequest` adds one that is pending, and
`decideApproval` answers one. The second works on the copy it has read, so `Answerable`
is about the copy; the row itself may have been answered since.
-/

/-- The approval can be answered: its decision is the current one of a validated case. -/
structure Answerable (db : Db) (a : ApprovalRequest) (c : PaymentCase) (d : PolicyDecision) :
    Prop where
  stored : db.cases.get? a.caseId = some c
  state : c.currentState = .policyValidated
  current : db.currentDecision c.id = some d
  decision_eq : d.id = a.policyDecisionId
  result : d.result = .requiresApproval

/-- A decision on a copy that is pending has found the approval answerable. -/
theorem decideApproval_answerable {db db' : Db} {approval : ApprovalRequest}
    {decision : OperatorDecision} {at' : Int} {result : ApprovalRequestResult}
    (hone : OneCurrent db.policyDecisions) (hpending : approval.status = .pending)
    (h : decideApproval db approval decision at' = .ok (db', result)) :
    decision.decision ≠ .pending ∧ ∃ c d, Answerable db approval c d := by
  obtain ⟨_, hdecision, h⟩ := bind_eq_ok.mp h
  rw [require_eq_ok] at hdecision
  obtain ⟨operator, -, h⟩ := bind_eq_ok.mp h
  obtain ⟨note, -, h⟩ := bind_eq_ok.mp h
  obtain ⟨c, hc, h⟩ := bind_eq_ok.mp h
  obtain ⟨stored, -, h⟩ := bind_eq_ok.mp h
  simp only [hpending, ne_eq, not_true_eq_false, if_false] at h
  obtain ⟨d, hd, h⟩ := bind_eq_ok.mp h
  obtain ⟨_, hvalid, -⟩ := bind_eq_ok.mp h
  obtain ⟨_, hstate, hvalid⟩ := bind_eq_ok.mp hvalid
  obtain ⟨hcase, hopen, hresult⟩ := require_eq_ok.mp hvalid
  have hget := requireSome_eq_ok.mp hd
  have hcurrent := hone.currentDecision (Table.mem_of_get? hget) hopen
  rw [hcase] at hcurrent
  refine ⟨?_, c, d, requireSome_eq_ok.mp hc, require_eq_ok.mp hstate, hcurrent,
    Table.get?_key hget, hresult⟩
  rcases hdecision with h | h <;> rw [h] <;> decide

/-- What a step makes of the approvals. -/
inductive ApprovalsWritten (db : Db) : Table ApprovalRequest → Prop
  | same : ApprovalsWritten db db.approvalRequests
  | requested {a : ApprovalRequest} {approvals : Table ApprovalRequest}
      (hnone : db.approvalFor a.policyDecisionId = none)
      (hinsert : db.approvalRequests.insert? a = some approvals) : ApprovalsWritten db approvals
  | answered {a a' : ApprovalRequest} {c : PaymentCase} {d : PolicyDecision}
      (ha : a ∈ db.approvalRequests) (hsame : a.SameRequest a') (hdecided : a'.status ≠ .pending)
      (hanswerable : Answerable db a c d) : ApprovalsWritten db (db.approvalRequests.put a')

theorem step_approvals {s s' : System} {l : Label} (hhints : HintsOk s)
    (hone : OneCurrent s.db.policyDecisions) (h : step s l = some s') :
    ApprovalsWritten s.db s'.db.approvalRequests := by
  have hcommit := step_commit hhints h
  generalize hdb : s'.db = db' at hcommit ⊢
  cases hcommit with
  | executed hmoved =>
      rw [hmoved.frame]
      exact .same
  | reconciled hphase howns hstatus hresult =>
      rw [reconcileEntity_frame hresult]
      exact .same
  | requested hphase hc hstate hnone hinsert hw => exact .requested hnone hinsert
  | @answered worker approval stored decision operator note c w hphase hc hstored hsame hpending
      hstate hw =>
      obtain ⟨m, hm, rfl⟩ := Option.map_eq_some_iff.mp h
      replace hdb : m.db = _ := hdb
      rw [hphase] at hm
      simp only [approverStep] at hm
      split at hm
      · rename_i db'' result hdecide
        cases hm
        obtain ⟨hdecided, c', d, hanswerable⟩ := decideApproval_answerable hone hpending hdecide
        refine .answered (Table.mem_of_get? hstored) ⟨rfl, rfl, rfl⟩ hdecided (c := c') (d := d) ?_
        exact ⟨hsame.case_eq ▸ hanswerable.stored, hanswerable.state, hanswerable.current,
          hanswerable.decision_eq.trans hsame.decision_eq.symm, hanswerable.result⟩
      · cases hm
        -- a decision that raises leaves the approvals as they are
        have hrows := congrArg Db.approvalRequests hdb
        simp only [commitCase_approvalRequests] at hrows ⊢
        rw [← hrows]
        exact .same
  | _ => exact .same

/-! ### What a write keeps

Uniqueness for a decision is kept by the check of `ensureApprovalRequest`, and "not
pending" is kept because an answer never writes `PENDING`, whatever copy it was decided
on.
-/

/-- No two approvals are of one decision. -/
def OneRequest (approvals : Table ApprovalRequest) : Prop :=
  ∀ a ∈ approvals, ∀ a' ∈ approvals, a.policyDecisionId = a'.policyDecisionId → a = a'

theorem ApprovalsWritten.one {db : Db} {approvals : Table ApprovalRequest}
    (h : ApprovalsWritten db approvals) (hone : OneRequest db.approvalRequests) :
    OneRequest approvals := by
  cases h with
  | same => exact hone
  | @requested a _ hnone hinsert =>
      have hfree : ∀ x ∈ db.approvalRequests, x.policyDecisionId ≠ a.policyDecisionId := by
        intro x hx heq
        have := Table.first?_eq_none.mp hnone x hx
        simp [heq] at this
      intro x hx x' hx' heq
      rcases (Table.insert?_mem hinsert).mp hx with hx | rfl <;>
        rcases (Table.insert?_mem hinsert).mp hx' with hx' | rfl
      · exact hone x hx x' hx' heq
      · exact absurd heq (hfree x hx)
      · exact absurd heq.symm (hfree x' hx')
      · rfl
  | @answered a a' c d ha hsame hdecided hanswerable =>
      have hrows := fun x => Table.mem_put_of_mem ha hsame.id_eq.symm (x := x)
      have hown : ∀ x ∈ db.approvalRequests, x.id ≠ a'.id →
          x.policyDecisionId ≠ a'.policyDecisionId := by
        intro x hx hne heq
        have hx' := hone x hx a ha (heq.trans hsame.decision_eq.symm)
        exact hne (hx' ▸ hsame.id_eq)
      intro x hx x' hx' heq
      rcases (hrows x).mp hx with ⟨hold, hne⟩ | rfl <;>
        rcases (hrows x').mp hx' with ⟨hold', hne'⟩ | rfl
      · exact hone x hold x' hold' heq
      · exact absurd heq (hown x hold hne)
      · exact absurd heq.symm (hown x' hold' hne')
      · rfl

/-- The approval has been answered. -/
def Answered (db : Db) (id : Uuid) : Prop :=
  ∃ a ∈ db.approvalRequests, a.id = id ∧ a.status ≠ .pending

/-- **An answer is final**: an approval that is not pending does not become pending again. -/
theorem ApprovalsWritten.final {db : Db} {approvals : Table ApprovalRequest} {id : Uuid}
    (h : ApprovalsWritten db approvals) (hanswered : Answered db id) :
    ∃ a ∈ approvals, a.id = id ∧ a.status ≠ .pending := by
  obtain ⟨x, hx, hid, hstatus⟩ := hanswered
  cases h with
  | same => exact ⟨x, hx, hid, hstatus⟩
  | requested hnone hinsert => exact ⟨x, (Table.insert?_mem hinsert).mpr (.inl hx), hid, hstatus⟩
  | @answered a a' c d ha hsame hdecided hanswerable =>
      have hrows := fun x => Table.mem_put_of_mem ha hsame.id_eq.symm (x := x)
      by_cases hkey : x.id = a'.id
      · exact ⟨a', (hrows a').mpr (.inr rfl), hkey.symm.trans hid, hdecided⟩
      · exact ⟨x, (hrows x).mpr (.inl ⟨hx, hkey⟩), hid, hstatus⟩

theorem oneRequest_trace {clock : Int} {tr : List (Run.Step System Label)} {s : System}
    (h : RunTrace clock tr s) : OneRequest s.db.approvalRequests := by
  induction h with
  | nil => exact fun a ha => absurd ha (Table.not_mem_empty _)
  | @snoc tr s s' l htr hs ih =>
      obtain ⟨hhints, -, -⟩ := audited_reachable ⟨tr, htr⟩
      exact (step_approvals hhints (decisionsOk_trace htr).one hs).one ih

/-- An answer is final along a whole run. -/
theorem answered_final {clock : Int} {before tr : List (Run.Step System Label)} {m s : System}
    (hbefore : RunTrace clock before m) (h : Run.Trace step m tr s) {id : Uuid}
    (hanswered : Answered m.db id) : Answered s.db id := by
  induction h with
  | nil => exact hanswered
  | @snoc tr s s' l htr hs ih =>
      have hrun := hbefore.append htr
      obtain ⟨hhints, -, -⟩ := audited_reachable ⟨_, hrun⟩
      exact (step_approvals hhints (decisionsOk_trace hrun).one hs).final ih

/-! ### Claims under a decision -/

/-- The step takes the approval out of `PENDING`. -/
structure LeavesPending (x : Run.Step System Label) (id : Uuid) : Prop where
  pending : ∃ a ∈ x.pre.db.approvalRequests, a.id = id ∧ a.status = .pending
  answered : Answered x.post.db id

theorem LeavesPending.answerable {x : Run.Step System Label} {id : Uuid} (h : LeavesPending x id)
    (hwritten : ApprovalsWritten x.pre.db x.post.db.approvalRequests) :
    ∃ a ∈ x.pre.db.approvalRequests, a.id = id ∧ ∃ c d, Answerable x.pre.db a c d := by
  obtain ⟨⟨a, ha, hid, hpending⟩, b, hb, hbid, hanswered⟩ := h
  generalize x.post.db.approvalRequests = approvals at hb hwritten
  have hkey : ∀ y ∈ x.pre.db.approvalRequests, y.id = id → y = a :=
    fun y hy hyid => Table.eq_of_key_eq hy ha (hyid.trans hid.symm)
  cases hwritten with
  | same => exact absurd (hkey b hb hbid ▸ hpending) hanswered
  | requested hnone hinsert =>
      rcases (Table.insert?_mem hinsert).mp hb with hb | rfl
      · exact absurd (hkey b hb hbid ▸ hpending) hanswered
      · exact absurd (hid.trans hbid.symm) (Table.insert?_fresh hinsert ha)
  | @answered r r' c d hr hsame hdecided hanswerable =>
      rcases (Table.mem_put_of_mem hr hsame.id_eq.symm).mp hb with ⟨hb, -⟩ | rfl
      · exact absurd (hkey b hb hbid ▸ hpending) hanswered
      · exact ⟨r, hr, hsame.id_eq.trans hbid, c, d, hanswerable⟩

/-- The one approval of the decision is approved. -/
structure Approved (db : Db) (d : PolicyDecision) : Prop where
  some' : ∃ a ∈ db.approvalRequests, a.policyDecisionId = d.id ∧ a.status = .approved
  only : ∀ a ∈ db.approvalRequests, a.policyDecisionId = d.id → a.status = .approved

/-- The step claims an action of the case under the decision. -/
structure ClaimsUnder (x : Run.Step System Label) (caseId : Uuid) (held : HeldClaim)
    (c : PaymentCase) (proposal : StrategyProposal) (d : PolicyDecision) : Prop where
  stored : x.pre.db.cases.get? caseId = some c
  proposal_current : x.pre.db.currentProposal c.id = some proposal
  decision_current : x.pre.db.currentDecision c.id = some d
  row : ∃ r ∈ x.post.db.recoveryActions, r.id = held.claim.recoveryActionId ∧
    r.policyDecisionId = d.id ∧ r.action = proposal.action

/--
The action, the counters and the fingerprints of one evaluation of a case are those of
another.
-/
structure SameAuthorization (db : Db) (c : PaymentCase) (proposal : StrategyProposal) (now : Int)
    (db₀ : Db) (c₀ : PaymentCase) (proposal₀ : StrategyProposal) (now₀ : Int) : Prop where
  action : proposal.action = proposal₀.action
  amount : c.amount = c₀.amount
  attempts : c.attemptCount = c₀.attemptCount
  contacts : c.contactAttemptCount = c₀.contactAttemptCount
  policy : (db.inputsFor c proposal now).policyFingerprint =
    (db₀.inputsFor c₀ proposal₀ now₀).policyFingerprint
  authorization : (db.inputsFor c proposal now).authorizationInputFingerprint =
    (db₀.inputsFor c₀ proposal₀ now₀).authorizationInputFingerprint

/-- A decision that matches the inputs recomputed has been made from the same. -/
theorem MadeBy.sameAuthorization {y : Run.Step System Label} {d : PolicyDecision}
    {c₀ : PaymentCase} {proposal₀ : StrategyProposal} (h : MadeBy y d c₀ proposal₀) {db : Db}
    {c : PaymentCase} {proposal : StrategyProposal} {now : Int}
    (haction : proposal.action = proposal₀.action)
    (hmatches : d.matchesInputs c proposal (db.inputsFor c proposal now) = true) :
    SameAuthorization db c proposal now y.pre.db c₀ proposal₀ y.pre.clock := by
  simp only [PolicyDecision.matchesInputs, Bool.and_eq_true, beq_iff_eq] at hmatches
  obtain ⟨⟨⟨⟨⟨⟨⟨⟨-, hpolicy⟩, hauthorization⟩, -⟩, -⟩, -⟩, hamount⟩, hattempts⟩, hcontacts⟩ := hmatches
  have hmade := h.columns
  have column : ∀ {α : Type} (f : PolicyDecision → α), f d.reactivated =
      f (buildDecision c₀ proposal₀ (y.pre.db.inputsFor c₀ proposal₀ y.pre.clock) d.id
        y.pre.clock) := fun f => congrArg f hmade
  exact
    { action := haction
      amount := hamount.symm.trans (column PolicyDecision.observedAmountMinor)
      attempts := hattempts.symm.trans (column PolicyDecision.observedAttemptCount)
      contacts := hcontacts.symm.trans (column PolicyDecision.observedContactAttemptCount)
      policy := hpolicy.symm.trans (column PolicyDecision.policyFingerprint)
      authorization := hauthorization.symm.trans
        (column PolicyDecision.authorizationInputFingerprint) }

/-- The action of a claim is the one its decision was made on, and so is the rest. -/
theorem Authority.asDecided {y : Run.Step System Label} {tr : List (Run.Step System Label)}
    {s : System} (hhints : HintsOk y.pre) (h : Run.Trace step y.pre tr s) {c c₀ : PaymentCase}
    {proposal proposal₀ : StrategyProposal} {d : PolicyDecision}
    {inputs : CurrentAuthorizationInputs} {now : Int}
    (hauth : Authority s.db c proposal d inputs now) (hmade : MadeBy y d c₀ proposal₀) :
    SameAuthorization s.db c proposal now y.pre.db c₀ proposal₀ y.pre.clock := by
  obtain ⟨hbelongs, -, hinputs, hmatches, -⟩ := currentInputs_eq_ok hauth.inputs_eq
  rw [hinputs] at hmatches
  refine hmade.sameAuthorization ?_ hmatches
  obtain ⟨hmem, -, -⟩ := currentProposal_eq_some hauth.proposal_current
  obtain ⟨hmem₀, -, -⟩ := currentProposal_eq_some hmade.evaluable.proposal_current
  obtain ⟨kept, hkept, hsame⟩ := proposal_kept hhints h hmem₀
  have hid : d.strategyProposalId = proposal₀.id :=
    congrArg PolicyDecision.strategyProposalId hmade.columns
  have hkeptId := congrArg StrategyProposal.id hsame
  have hkeptAction := congrArg StrategyProposal.action hsame
  have hkey : kept = proposal :=
    Table.eq_of_key_eq hkept hmem (hkeptId.trans (hid.symm.trans hbelongs))
  rw [← hkey]
  exact hkeptAction

/--
**Approval authority.**  Along every run an approval leaves `PENDING` once at most, and
only while its policy decision is the current one of a validated case and asks for
approval.  A claim under a decision that asks for approval finds the one approval of
that decision approved; and the action, the counters and the fingerprints it
recomputes are those an earlier evaluation made the decision from.
-/
theorem approval_authority {clock : Int} {tr : List (Run.Step System Label)} {s : System}
    (h : RunTrace clock tr s) :
    (∀ before x between y after, tr = before ++ x :: (between ++ y :: after) → ∀ id,
      LeavesPending x id → ¬ LeavesPending y id) ∧
    (∀ x ∈ tr, ∀ id, LeavesPending x id →
      ∃ a ∈ x.pre.db.approvalRequests, a.id = id ∧ ∃ c d, Answerable x.pre.db a c d) ∧
    (∀ before x after, tr = before ++ x :: after → ∀ worker caseId newId now held,
      ClaimStep x worker caseId newId now held →
      ∃ c proposal d, ClaimsUnder x caseId held c proposal d ∧
        (d.result = .requiresApproval → Approved x.pre.db d ∧
          ∃ y ∈ before, ∃ c₀ proposal₀, MadeBy y d c₀ proposal₀ ∧
            SameAuthorization x.pre.db c proposal now y.pre.db c₀ proposal₀ y.pre.clock)) := by
  refine ⟨?_, ?_, ?_⟩
  · rintro before x between y after rfl id hx hy
    obtain ⟨m, hbefore, hrest⟩ := h.of_append
    obtain ⟨rfl, hstep, hrest⟩ := hrest.of_cons
    obtain ⟨m, hbetween, hrest⟩ := hrest.of_append
    obtain ⟨rfl, -, -⟩ := hrest.of_cons
    obtain ⟨a, ha, hid, hanswered⟩ := answered_final (hbefore.snoc hstep) hbetween hx.answered
    obtain ⟨b, hb, hbid, hpending⟩ := hy.pending
    have hkey : a = b := Table.eq_of_key_eq ha hb (hid.trans hbid.symm)
    exact hanswered (hkey ▸ hpending)
  · intro x hx id hleaves
    obtain ⟨before, after, rfl, hbefore, -⟩ := h.split hx
    obtain ⟨hhints, -, -⟩ := audited_reachable ⟨before, hbefore⟩
    exact hleaves.answerable
      (step_approvals hhints (decisionsOk_trace hbefore).one (h.step_of_mem hx))
  · rintro before x after rfl worker caseId newId now held hclaim
    obtain ⟨m, hbefore, hrest⟩ := h.of_append
    obtain ⟨rfl, hstep, -⟩ := hrest.of_cons
    obtain ⟨-, hclaims, -⟩ := hclaim.claims hstep
    obtain ⟨c, proposal, d, inputs, record, hrow⟩ := hclaims.row
    have hauth := hrow.authority
    refine ⟨c, proposal, d, ⟨?_, hauth.proposal_current, hauth.decision_current, ?_⟩, fun hasks => ?_⟩
    · rw [← hrow.case_id]
      exact hauth.stored
    · refine ⟨record.start now, (hrow.rows _).mpr (.inr rfl), ?_, hrow.decision_eq, hrow.action_eq⟩
      rw [hrow.claim_eq]
      rfl
    · constructor
      · rcases isExecutionPermitted_eq_true hauth.permitted with hresult | ⟨-, a, ha, hdecision, -,
            happroved⟩
        · rw [hasks] at hresult
          cases hresult
        · refine ⟨⟨a, ha, hdecision, happroved⟩, fun a' ha' hdecision' => ?_⟩
          rw [oneRequest_trace hbefore a' ha' a ha (hdecision'.trans hdecision.symm)]
          exact happroved
      · obtain ⟨hmem, -, -⟩ := currentDecision_eq_some hauth.decision_current
        obtain ⟨y, hy, c₀, proposal₀, hmade⟩ := (decisionsOk_trace hbefore).made d hmem
        obtain ⟨earlier, later, rfl, hearlier, hlater⟩ := hbefore.split hy
        obtain ⟨hhints, -, -⟩ := audited_reachable ⟨earlier, hearlier⟩
        have hfrom := hlater.cons (hbefore.step_of_mem hy)
        exact ⟨y, hy, c₀, proposal₀, hmade, hauth.asDecided hhints hfrom hmade⟩

end Arc

namespace Arc

attribute [local instance] asciiPlatform

/-- Amounts above 500 need an approval. -/
def approvalPolicy : MerchantPolicy := { samplePolicy with requireApprovalAboveMinor := .int 500 }

/-- The policy is relaxed and restored between the approval and the claim. -/
def approvedRun : List Label :=
  .service (.setPolicy approvalPolicy) :: authorizedRun.tail ++ [
  .approver 0 (.requestHint 30),
  .approver 0 (.request 70),
  .approver 0 (.decideHint 70 ⟨.approved, "operator", none⟩),
  .approver 0 .decide,
  .service (.setPolicy samplePolicy),
  .service (.evaluatePolicy 10 none 29),
  .service (.setPolicy approvalPolicy),
  .service (.evaluatePolicy 10 none 32),
  .executor 0 (.prepare 10 40 0)]

theorem approval_authority_approved : ∃ tr s, RunTrace 0 tr s ∧
    tr.map Run.Step.label = approvedRun ∧
    (s.db.recoveryActions.get? 40).map RecoveryActionRecord.policyDecisionId = some 30 ∧
    (s.db.policyDecisions.get? 30).map PolicyDecision.result = some .requiresApproval ∧
    ∀ before x after, tr = before ++ x :: after → ∀ worker caseId newId now held,
      ClaimStep x worker caseId newId now held →
      ∃ c proposal d, ClaimsUnder x caseId held c proposal d ∧
        (d.result = .requiresApproval → Approved x.pre.db d) := by
  have hrun : (Run.replay step (System.initial 0) approvedRun).isSome = true := by decide +kernel
  obtain ⟨tr, s, htr, hlabels, hs⟩ := Run.Trace.of_isSome hrun
  have hrows : ((Run.replay step (System.initial 0) approvedRun).map fun s =>
      ((s.db.recoveryActions.get? 40).map RecoveryActionRecord.policyDecisionId,
        (s.db.policyDecisions.get? 30).map PolicyDecision.result)) =
      some (some 30, some .requiresApproval) := by decide +kernel
  rw [hs] at hrows
  simp only [Option.map_some, Option.some.injEq, Prod.mk.injEq] at hrows
  refine ⟨tr, s, htr, hlabels, hrows.1, hrows.2, ?_⟩
  intro before x after hsplit worker caseId newId now held hclaim
  obtain ⟨c, proposal, d, hunder, happroved⟩ :=
    (approval_authority htr).2.2 before x after hsplit worker caseId newId now held hclaim
  exact ⟨c, proposal, d, hunder, fun hasks => (happroved hasks).1⟩

end Arc
