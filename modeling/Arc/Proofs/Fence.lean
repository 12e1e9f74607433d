/-
The fence after the provider call.

A worker that has been given a link locks its case and its row again and checks that
the authority of its claim still holds.  `StillAuthorized` is what that check asks, and
`AuthorityLost` are the ways in which other transactions can have taken the authority
away meanwhile; each of them fails the check.  The case is then left as it is, the row
asks for compensation, and what the gateway answers to the cancellation decides how the
row ends.
-/
import Arc.Proofs.Approvals
import Arc.Proofs.Attempts
import Arc.Proofs.Fingerprints
import Arc.System.Timing

namespace Arc

open Store

variable [Platform]

/-! ### The check

`_post_request_context_is_current` recomputes the inputs under the lock and turns every
error of that into the answer "not current". So there is no error to propagate, and the
answer is yes exactly for an authority that still holds.
-/

/-- The authority of a claim still holds at `now`. -/
structure StillAuthorized (db : Db) (c : PaymentCase) (record : RecoveryActionRecord)
    (proposal : StrategyProposal) (d : PolicyDecision) (now : Int) : Prop where
  state : c.currentState = .policyValidated
  proposal_eq : db.strategyProposals.get? record.strategyProposalId = some proposal
  decision_eq : db.policyDecisions.get? record.policyDecisionId = some d
  proposal_open : proposal.supersededAt = none
  decision_open : d.supersededAt = none
  inputs : ∃ inputs, currentInputs db c proposal d now = .ok inputs
  permitted : isExecutionPermitted d (db.approvalFor d.id) = true

theorem recompute_error {db : Db} {c : PaymentCase} {proposal : StrategyProposal} {now : Int}
    {e : Error} (h : recomputeCurrentAuthorizationInputs db c proposal now = .error e) :
    ∃ text, e = .currentAuthorization text := by
  rcases bind_eq_error.mp h with h | ⟨_, hvalid, h⟩
  · rcases bind_eq_error.mp h with h | ⟨_, -, h⟩
    · exact ⟨_, (require_eq_error.mp h).2⟩
    rcases bind_eq_error.mp h with h | ⟨_, -, h⟩
    · exact ⟨_, (require_eq_error.mp h).2⟩
    rcases bind_eq_error.mp h with h | ⟨_, -, h⟩
    · exact ⟨_, (require_eq_error.mp h).2⟩
    · exact ⟨_, (require_eq_error.mp h).2⟩
  · -- a proposal that is current rests on an assessment, so the fingerprint is there
    have hassessment := (validateCurrentProposal_eq_ok.mp hvalid).assessment
    simp [requiredAssessmentFingerprint, requireSome, hassessment, bind, Except.bind, pure,
      Except.pure] at h

/-- The inputs of an execution are refused with a call for reevaluation only. -/
theorem currentInputs_error {db : Db} {c : PaymentCase} {proposal : StrategyProposal}
    {d : PolicyDecision} {now : Int} {e : Error} (h : currentInputs db c proposal d now = .error e) :
    ∃ text, e = .executionRequiresPolicyReevaluation text := by
  rcases bind_eq_error.mp h with h | ⟨_, -, h⟩
  · exact ⟨_, (require_eq_error.mp h).2⟩
  rcases bind_eq_error.mp h with h | ⟨inputs, -, h⟩
  · cases hrecompute : recomputeCurrentAuthorizationInputs db c proposal now with
    | ok inputs =>
        rw [hrecompute] at h
        cases h
    | error e' =>
        obtain ⟨text, rfl⟩ := recompute_error hrecompute
        rw [hrecompute] at h
        cases h
        exact ⟨_, rfl⟩
  rcases bind_eq_error.mp h with h | ⟨_, -, h⟩
  · exact ⟨_, (require_eq_error.mp h).2⟩
  rcases bind_eq_error.mp h with h | ⟨_, -, h⟩
  · exact ⟨_, (require_eq_error.mp h).2⟩
  · cases h

/-- **The check never raises, and passes exactly when the authority still holds.** -/
theorem postRequestContextIsCurrent_eq_ok (db : Db) (c : PaymentCase)
    (record : RecoveryActionRecord) (now : Int) :
    ∃ isCurrent, postRequestContextIsCurrent db c record now = .ok isCurrent ∧
      (isCurrent = true → ∃ proposal d, StillAuthorized db c record proposal d now) := by
  unfold postRequestContextIsCurrent
  split
  · exact ⟨false, rfl, fun h => by cases h⟩
  rename_i hstate
  split
  · rename_i proposal d hproposal hdecision
    split
    · exact ⟨false, rfl, fun h => by cases h⟩
    rename_i hopen
    simp only [Bool.or_eq_true, Option.isSome_iff_ne_none, not_or, not_not] at hopen
    split
    · rename_i inputs hinputs
      exact ⟨_, rfl, fun hpermitted => ⟨proposal, d, not_not.mp hstate, hproposal, hdecision,
        hopen.1, hopen.2, ⟨inputs, hinputs⟩, hpermitted⟩⟩
    · exact ⟨false, rfl, fun h => by cases h⟩
    · rename_i e hnot herror
      obtain ⟨text, rfl⟩ := currentInputs_error herror
      exact absurd rfl (hnot text)
  · exact ⟨false, rfl, fun h => by cases h⟩

/-- Without the authority the check fails. -/
theorem postRequestContextIsCurrent_false {db : Db} {c : PaymentCase}
    {record : RecoveryActionRecord} {now : Int}
    (h : ∀ proposal d, ¬ StillAuthorized db c record proposal d now) :
    postRequestContextIsCurrent db c record now = .ok false := by
  obtain ⟨isCurrent, hok, htrue⟩ := postRequestContextIsCurrent_eq_ok db c record now
  cases isCurrent with
  | false => exact hok
  | true =>
      obtain ⟨proposal, d, hstill⟩ := htrue rfl
      exact absurd hstill (h proposal d)

/-! ### Ways to lose the authority

Four of the five kinds of change can be seen in the rows. The fifth is an input that
differs from the one the row was claimed with, and it is noticed because the fingerprint
of the decision stands for the inputs of that time.
-/

/-- The hashed inputs of a case as the rows of `db` give them. -/
def Db.hashedInputs (db : Db) (c : PaymentCase) (proposal : StrategyProposal) (now : Int) :
    HashedInputs :=
  hashedInputsOf c proposal now (db.policyFor c.merchantId)

/-- What has taken the authority of a claim away, given the inputs of the claim. -/
inductive AuthorityLost (claimed : HashedInputs) (db : Db) (c : PaymentCase)
    (record : RecoveryActionRecord) (now : Int) : Prop
  /-- The case is no longer `POLICY_VALIDATED`. -/
  | moved (h : c.currentState ≠ .policyValidated)
  | proposalSuperseded {proposal : StrategyProposal} (hproposal : proposal ∈ db.strategyProposals)
      (hid : proposal.id = record.strategyProposalId) (h : proposal.supersededAt ≠ none)
  | decisionSuperseded {d : PolicyDecision} (hd : d ∈ db.policyDecisions)
      (hid : d.id = record.policyDecisionId) (h : d.supersededAt ≠ none)
  /-- The inputs cannot be recomputed any more, or are not those of the claim. -/
  | inputsChanged {proposal : StrategyProposal} (hproposal : proposal ∈ db.strategyProposals)
      (hid : proposal.id = record.strategyProposalId)
      (h : ∀ inputs, recomputeCurrentAuthorizationInputs db c proposal now = .ok inputs →
        db.hashedInputs c proposal now ≠ claimed)
  /-- The decision asks for an approval, and there is none that is approved. -/
  | unapproved {d : PolicyDecision} (hd : d ∈ db.policyDecisions)
      (hid : d.id = record.policyDecisionId) (hasks : d.result = .requiresApproval)
      (h : ∀ a ∈ db.approvalRequests, a.policyDecisionId = d.id → a.status ≠ .approved)

/-- The inputs a claim was committed with, by the step that committed it. -/
structure ClaimInputs (y : Run.Step System Label) (worker : Nat) (held : HeldClaim)
    (claimed : HashedInputs) : Prop where
  claim : ∃ caseId newId now c proposal, ClaimStep y worker caseId newId now held ∧
    y.pre.db.cases.get? caseId = some c ∧ y.pre.db.currentProposal c.id = some proposal ∧
    claimed = y.pre.db.hashedInputs c proposal now

theorem ClaimStep.inputs {y : Run.Step System Label} {worker : Nat} {caseId newId : Uuid}
    {now : Int} {held : HeldClaim} (h : ClaimStep y worker caseId newId now held)
    (hstep : step y.pre y.label = some y.post) : ∃ claimed, ClaimInputs y worker held claimed := by
  obtain ⟨-, hclaims, -⟩ := h.claims hstep
  obtain ⟨c, proposal, d, inputs, record, hrow⟩ := hclaims.row
  have hstored := hrow.authority.stored
  rw [hrow.case_id] at hstored
  exact ⟨_, caseId, newId, now, c, proposal, h, hstored, hrow.authority.proposal_current, rfl⟩

theorem matchesInputs_fingerprint {d : PolicyDecision} {c : PaymentCase}
    {proposal : StrategyProposal} {inputs : CurrentAuthorizationInputs}
    (h : d.matchesInputs c proposal inputs = true) :
    d.authorizationInputFingerprint = inputs.authorizationInputFingerprint := by
  simp only [PolicyDecision.matchesInputs, Bool.and_eq_true, beq_iff_eq] at h
  exact h.1.1.1.1.1.1.2

section

variable (hhash : Function.Injective Platform.hashFacts)
  (hhex : Function.Injective Platform.hexdigest)

include hhash hhex

/-- While the check passes, the inputs are those the claim was committed with. -/
theorem StillAuthorized.inputs_claimed {y : Run.Step System Label} {worker : Nat}
    {held : HeldClaim} {claimed : HashedInputs} {between : List (Run.Step System Label)}
    {s : System} (hhints : HintsOk y.pre) (hstep : step y.pre y.label = some y.post)
    (hbetween : Run.Trace step y.post between s) (hclaim : ClaimInputs y worker held claimed)
    {c : PaymentCase} {record : RecoveryActionRecord} (hlocked : Locked s.db held.claim c record)
    {proposal : StrategyProposal} {d : PolicyDecision} {now : Int}
    (h : StillAuthorized s.db c record proposal d now) :
    s.db.hashedInputs c proposal now = claimed := by
  obtain ⟨caseId, newId, now₀, c₀, proposal₀, hcommitted, hc₀, hproposal₀, rfl⟩ := hclaim.claim
  obtain ⟨-, hclaims, -⟩ := hcommitted.claims hstep
  obtain ⟨c₁, proposal₁, d₀, inputs₀, record₀, hrow⟩ := hclaims.row
  have hauth := hrow.authority
  obtain rfl : c₀ = c₁ := by
    have hstored := hauth.stored
    rw [hrow.case_id, hc₀] at hstored
    exact Option.some.inj hstored
  obtain rfl : proposal₀ = proposal₁ := by
    have hcurrent := hauth.proposal_current
    rw [hproposal₀] at hcurrent
    exact Option.some.inj hcurrent
  -- the row is still the one of the claim's decision, and so is the decision it names
  have hhints' := hintsOk_step hhints hstep
  obtain ⟨r, hr, hsame⟩ := action_kept hhints' hbetween ((hrow.rows _).mpr (.inr rfl))
  have hrecordId : r.id = record.id := by
    have hkey : record.id = held.claim.recoveryActionId := Table.get?_key hlocked.record_eq
    rw [hsame.id_eq, hkey, hrow.claim_eq]
    rfl
  obtain rfl : r = record :=
    Table.eq_of_key_eq hr (Table.mem_of_get? hlocked.record_eq) hrecordId
  have hdecisionId : r.policyDecisionId = d₀.id := hsame.decision_eq.trans hrow.decision_eq
  obtain ⟨d', hd', hkept⟩ := decision_kept hhints (hbetween.cons hstep)
    (currentDecision_eq_some hauth.decision_current).1
  have hid : d'.id = d₀.id := by
    have hid' := congrArg PolicyDecision.id hkept
    exact hid'
  have hkey : d.id = r.policyDecisionId := Table.get?_key h.decision_eq
  obtain rfl : d = d' := Table.eq_of_key_eq (Table.mem_of_get? h.decision_eq) hd'
    (hkey.trans (hdecisionId.trans hid.symm))
  have hfingerprint : d.authorizationInputFingerprint = d₀.authorizationInputFingerprint := by
    have hfingerprint' := congrArg PolicyDecision.authorizationInputFingerprint hkept
    exact hfingerprint'
  obtain ⟨inputs, hinputs⟩ := h.inputs
  obtain ⟨-, -, rfl, hmatches, -⟩ := currentInputs_eq_ok hinputs
  obtain ⟨-, -, rfl, hmatches₀, -⟩ := currentInputs_eq_ok hauth.inputs_eq
  refine hashedInputs_determined hhash hhex ?_
  rw [← matchesInputs_fingerprint hmatches, hfingerprint, matchesInputs_fingerprint hmatches₀]

/-- **However the authority was lost, the check does not pass.** -/
theorem AuthorityLost.not_authorized {y : Run.Step System Label} {worker : Nat}
    {held : HeldClaim} {claimed : HashedInputs} {between : List (Run.Step System Label)}
    {s : System} (hhints : HintsOk y.pre) (hstep : step y.pre y.label = some y.post)
    (hbetween : Run.Trace step y.post between s) (hclaim : ClaimInputs y worker held claimed)
    {c : PaymentCase} {record : RecoveryActionRecord} (hlocked : Locked s.db held.claim c record)
    {now : Int} (hlost : AuthorityLost claimed s.db c record now) (proposal : StrategyProposal)
    (d : PolicyDecision) : ¬ StillAuthorized s.db c record proposal d now := by
  intro hstill
  have hproposalRow : ∀ {p : StrategyProposal}, p ∈ s.db.strategyProposals →
      p.id = record.strategyProposalId → p = proposal := by
    intro p hp hid
    exact Table.eq_of_key_eq hp (Table.mem_of_get? hstill.proposal_eq)
      (hid.trans (Table.get?_key hstill.proposal_eq).symm)
  have hdecisionRow : ∀ {x : PolicyDecision}, x ∈ s.db.policyDecisions →
      x.id = record.policyDecisionId → x = d := by
    intro x hx hid
    exact Table.eq_of_key_eq hx (Table.mem_of_get? hstill.decision_eq)
      (hid.trans (Table.get?_key hstill.decision_eq).symm)
  cases hlost with
  | moved hmoved => exact hmoved hstill.state
  | proposalSuperseded hp hid hsuperseded =>
      obtain rfl := hproposalRow hp hid
      exact hsuperseded hstill.proposal_open
  | decisionSuperseded hd hid hsuperseded =>
      obtain rfl := hdecisionRow hd hid
      exact hsuperseded hstill.decision_open
  | inputsChanged hp hid hchanged =>
      obtain rfl := hproposalRow hp hid
      obtain ⟨inputs, hinputs⟩ := hstill.inputs
      obtain ⟨-, hcurrent, hinputs', -, -⟩ := currentInputs_eq_ok hinputs
      exact hchanged inputs (recompute_eq_ok.mpr ⟨hcurrent, hinputs'⟩)
        (hstill.inputs_claimed hhash hhex hhints hstep hbetween hclaim hlocked)
  | unapproved hd hid hasks hnone =>
      obtain rfl := hdecisionRow hd hid
      rcases isExecutionPermitted_eq_true hstill.permitted with hauthorized |
        ⟨-, a, ha, hdecision, -, happroved⟩
      · rw [hasks] at hauthorized
        cases hauthorized
      · exact hnone a ha hdecision happroved

end

/-! ### References

A compensation writes the reference the gateway has answered with, and references are
unique in the table. `Referenced` says that the rows and the snapshots in the hands of
the executors have the references of their own actions, so that such a write collides
with no other row.
-/

/-- A snapshot that an executor acts on has the reference of its claim. -/
def ExecutorPhase.ReferenceOk : ExecutorPhase → Prop
  | .linked held snapshot _ | .compensating held snapshot | .cancelling held snapshot =>
      held.claim.referenceId = some snapshot.referenceId
  | .compensated held snapshot outcome => held.claim.referenceId = some snapshot.referenceId ∧
      ∀ cancelled, outcome = .inl cancelled → cancelled.referenceId = snapshot.referenceId
  | _ => True

/-- The reference of an action is its own, and does not change. -/
structure Referenced (s : System) : Prop where
  held : ∀ worker held, (s.executors worker).held? = some held → ∀ r ∈ s.db.recoveryActions,
    r.id = held.claim.recoveryActionId → r.externalReference = held.claim.referenceId
  phase : ∀ worker, (s.executors worker).ReferenceOk
  unique : ∀ r ∈ s.db.recoveryActions, ∀ r' ∈ s.db.recoveryActions,
    r.externalReference.isSome = true → r.externalReference = r'.externalReference → r = r'

theorem referenced_initial (clock : Int) : Referenced (System.initial clock) :=
  ⟨fun _ _ h => (by cases h), fun _ => trivial, fun _ hr => absurd hr (Table.not_mem_empty _)⟩

/-- What a step does to the references of the actions. -/
inductive ReferenceEffect (db db' : Db) : Prop
  | kept (h : ∀ r' ∈ db'.recoveryActions, ∃ r ∈ db.recoveryActions, r.id = r'.id ∧
      r.externalReference = r'.externalReference)
  | added (new : RecoveryActionRecord) (hfresh : ∀ r ∈ db.recoveryActions, r.id ≠ new.id)
      (hunused : new.externalReference.isSome = true →
        ∀ r ∈ db.recoveryActions, r.externalReference ≠ new.externalReference)
      (hrows : ∀ r, r ∈ db'.recoveryActions ↔ r ∈ db.recoveryActions ∨ r = new)

theorem ReferenceEffect.of_rows {db db' : Db} (h : db'.recoveryActions = db.recoveryActions) :
    ReferenceEffect db db' := .kept fun r hr => ⟨r, h ▸ hr, rfl, rfl⟩

theorem ReferenceEffect.of_put {db db' : Db} {r r' : RecoveryActionRecord}
    (hrows : db'.recoveryActions = db.recoveryActions.put r') (hr : r ∈ db.recoveryActions)
    (hid : r'.id = r.id) (href : r'.externalReference = r.externalReference) :
    ReferenceEffect db db' := by
  refine .kept fun x hx => ?_
  rw [hrows] at hx
  rcases (Table.mem_put_of_mem hr hid).mp hx with ⟨hx, -⟩ | rfl
  · exact ⟨x, hx, rfl, rfl⟩
  · exact ⟨r, hr, hid.symm, href.symm⟩

theorem Claims.referenceEffect {db db' : Db} {caseId newId : Uuid} {now : Int}
    {claim : ExecutionClaim} (h : Claims db caseId newId now db' claim) :
    ReferenceEffect db db' := by
  obtain ⟨c, proposal, decision, inputs, record, hrow⟩ := h.row
  rcases hrow.origin with hbuilt | hreclaimed
  · refine .added (record.start now) hbuilt.new (fun hsome r hr => hbuilt.unused r hr hsome)
      fun r => ?_
    rw [hrow.rows]
    exact or_congr ⟨fun hr => hr.1, fun hr => ⟨hr, hbuilt.new r hr⟩⟩ Iff.rfl
  · refine .kept fun r hr => ?_
    rcases (hrow.rows r).mp hr with ⟨hr, -⟩ | rfl
    · exact ⟨r, hr, rfl, rfl⟩
    · exact ⟨record, hreclaimed.mem, rfl, rfl⟩

theorem Referenced.executor {s : System} (h : Referenced s) {worker : Nat} {l : ExecutorLabel}
    {m : ExecutorMove} (hm : ExecutorStep s (s.executors worker) l m) :
    ReferenceEffect s.db m.db := by
  -- the locked row has the reference of the claim, which is the snapshot's
  have hheld := h.held worker
  have hphase := h.phase worker
  generalize s.executors worker = phase at hm hheld hphase
  have hrow : ∀ {held c record}, phase.held? = some held → Locked s.db held.claim c record →
      record.externalReference = held.claim.referenceId := fun hp hlocked =>
    hheld _ hp _ (Table.mem_of_get? hlocked.record_eq) (Table.get?_key hlocked.record_eq)
  cases hm with
  | claimed hnow hclaims => exact hclaims.referenceEffect
  | internal hnow haction hlocked hopen hout =>
      refine .of_put rfl (Table.mem_of_get? hlocked.record_eq) hout.count.1.id_eq ?_
      cases hout <;> rfl
  | @problem held problem now c record hnow hlocked hopen =>
      exact .of_put rfl (Table.mem_of_get? hlocked.record_eq) rfl rfl
  | @finalized held snapshot adopted required now c record record' w hnow hlocked hout hfree =>
      refine .of_put rfl (Table.mem_of_get? hlocked.record_eq) hout.count.1.id_eq ?_
      rw [hrow rfl hlocked, show held.claim.referenceId = some snapshot.referenceId from hphase]
      cases hout <;> rfl
  | @compensated held snapshot outcome c record hlocked hfree =>
      obtain ⟨hsame, -, -, -, -, href, -⟩ := compensatedRecord_cases record snapshot outcome
      refine .of_put rfl (Table.mem_of_get? hlocked.record_eq) hsame.id_eq ?_
      obtain ⟨hclaim, hanswered⟩ := hphase
      rw [href, hrow rfl hlocked, hclaim]
      cases outcome with
      | inl cancelled => exact congrArg some (hanswered cancelled rfl)
      | inr errorCode => rfl
  | _ => exact .of_rows rfl

theorem Commit.referenceEffect {s : System} {l : Label} {db' : Db} (hok : Referenced s)
    (h : Commit s l db') : ReferenceEffect s.db db' := by
  cases h with
  | executed h => exact hok.executor h
  | reconciled hphase howns hstatus hresult =>
      have hframe := congrArg Db.recoveryActions (reconcileEntity_frame hresult)
      exact .of_rows hframe
  | observed hworker hobservable hevidence hinsert hw hmoves =>
      exact .of_put rfl (Table.mem_of_get? hobservable.action_eq) rfl rfl
  | _ => exact .of_rows rfl

/-- A step of an executor acts on the link of its claim. -/
theorem ExecutorStep.referenceOk {s : System} {worker : Nat} {l : ExecutorLabel} {m : ExecutorMove}
    (hm : ExecutorStep s (s.executors worker) l m) (hphase : (s.executors worker).ReferenceOk)
    (hanswers : AnswersAsked s (.executor worker l)) : m.phase.ReferenceOk := by
  generalize hbefore : s.executors worker = phase at hm hphase
  cases hm with
  | @lookedUp held request out haction hrequest =>
      show (afterLookup held request out).ReferenceOk
      unfold afterLookup
      split
      · trivial
      · trivial
      · split
        · rename_i snapshot hanswer hmatches
          simp only [matchesRequest, Bool.and_eq_true, beq_iff_eq] at hmatches
          exact (paymentLinkRequest_reference hrequest).trans (congrArg some hmatches.1.1.symm)
        · trivial
      · trivial
  | @answered held call request out hrequest =>
      show (afterCreate held request out).ReferenceOk
      unfold afterCreate
      split
      · rename_i snapshot hcreated
        exact (paymentLinkRequest_reference hrequest).trans
          (congrArg some (createLink_reference hcreated).symm)
      · trivial
      · trivial
  | @finalized held snapshot adopted required now c record record' w hnow hlocked hout hfree =>
      cases required with
      | false => trivial
      | true => exact hphase
  | cancelSent => exact hphase
  | @cancelAnswered held snapshot out =>
      refine ⟨hphase, fun cancelled hcancelled => ?_⟩
      simpa [AnswersAsked, hbefore, hcancelled] using hanswers
  | _ => trivial

theorem referenced_step {x : Run.Step System Label} (hhints : HintsOk x.pre) (hheld : HeldOk x.pre)
    (hok : Referenced x.pre) (hanswers : AnswersAsked x.pre x.label) (hs : step x.pre x.label = some x.post) :
    Referenced x.post := by
  have heffect := (step_commit hhints hs).referenceEffect hok
  refine ⟨fun worker held hclaim r' hr' hid => ?_, fun worker => ?_, ?_⟩
  · -- the row of a claim that was held before the step
    have hold : (x.pre.executors worker).held? = some held →
        r'.externalReference = held.claim.referenceId := by
      intro hbefore
      cases heffect with
      | kept hkept =>
          obtain ⟨r, hr, hsame, href⟩ := hkept r' hr'
          exact href.symm.trans (hok.held worker held hbefore r hr (hsame.trans hid))
      | added new hfresh hunused hrows =>
          rcases (hrows r').mp hr' with hr | rfl
          · exact hok.held worker held hbefore r' hr hid
          · obtain ⟨r, hr, hcarries⟩ := hheld worker held hbefore
            exact absurd (hcarries.id_eq.trans hid.symm) (hfresh r hr)
    rcases step_executors hs worker with hsame | ⟨el, m, hlabel, hm, hphase, hdb, -⟩
    · exact hold (hsame ▸ hclaim)
    rw [hphase] at hclaim
    rcases hm.held hclaim with hbefore | ⟨caseId, newId, now, claim, -, -, hclaims, rfl⟩
    · exact hold hbefore
    · obtain ⟨c, proposal, decision, inputs, record, hrow⟩ := hclaims.row
      rw [hdb] at hr'
      obtain rfl : r' = record.start now := by
        refine Table.eq_of_key_eq hr' ((hrow.rows _).mpr (.inr rfl)) (hid.trans ?_)
        rw [hrow.claim_eq]
        rfl
      rw [hrow.claim_eq]
      rfl
  · rcases step_executors hs worker with hsame | ⟨el, m, hlabel, hm, hphase, -⟩
    · rw [hsame]
      exact hok.phase worker
    · rw [hphase]
      exact hm.referenceOk (hok.phase worker) (hlabel ▸ hanswers)
  · intro r₁ hr₁ r₂ hr₂ hsome hsame
    cases heffect with
    | kept hkept =>
        obtain ⟨r, hr, hid, href⟩ := hkept r₁ hr₁
        obtain ⟨r', hr', hid', href'⟩ := hkept r₂ hr₂
        have hrow : r = r' :=
          hok.unique r hr r' hr' (href ▸ hsome) (href.trans (hsame.trans href'.symm))
        exact Table.eq_of_key_eq hr₁ hr₂ (hid.symm.trans ((congrArg _ hrow).trans hid'))
    | added new hfresh hunused hrows =>
        rcases (hrows r₁).mp hr₁ with hr₁ | hnew₁ <;> rcases (hrows r₂).mp hr₂ with hr₂ | hnew₂
        · exact hok.unique r₁ hr₁ r₂ hr₂ hsome hsame
        · subst hnew₂
          exact absurd hsame (hunused (hsame ▸ hsome) r₁ hr₁)
        · subst hnew₁
          exact absurd hsame.symm (hunused hsome r₂ hr₂)
        · rw [hnew₁, hnew₂]

theorem referenced_trace {clock : Int} {tr : List (Run.Step System Label)} {s : System}
    (h : RunTrace clock tr s) (hanswers : ∀ x ∈ tr, AnswersAsked x.pre x.label) : Referenced s := by
  induction h with
  | nil => exact referenced_initial clock
  | @snoc tr s s' l htr hs ih =>
      have hok := settled_reachable ⟨tr, htr⟩
      exact referenced_step (x := ⟨s, l, s'⟩) hok.hints hok.held
        (ih fun x hx => hanswers x (List.mem_append_left _ hx)) (hanswers _ (by simp)) hs

/-! ### Rows that ask for compensation -/

/-- A worker that holds a claim on a row finalizes its link, or its compensation. -/
def FinalizesRow (x : Run.Step System Label) (id : Uuid) : Prop :=
  ∃ worker l held, x.label = .executor worker l ∧
    ((∃ now, l = .finalizeSuccess now) ∨ l = .finalizeCompensation) ∧
    (x.pre.executors worker).held? = some held ∧ held.claim.recoveryActionId = id

/-- **A row that asks for compensation is left alone by everything else.** -/
theorem compensationRequired_kept {x : Run.Step System Label} (hok : HintsOk x.pre)
    (hs : step x.pre x.label = some x.post) {id : Uuid} {r : RecoveryActionRecord}
    (hrow : x.pre.db.recoveryActions.get? id = some r)
    (hstatus : r.executionStatus = .compensationRequired) (hother : ¬ FinalizesRow x id) :
    x.post.db.recoveryActions.get? id = some r := by
  have hcommit := step_commit hok hs
  have hr := Table.mem_of_get? hrow
  have hid : r.id = id := Table.get?_key hrow
  have hfinal : r.executionStatus ∈ finalExecutionStatuses := by rw [hstatus]; decide
  -- the transactions of executors that hold no claim on the row write another one
  have hput : ∀ {record record' : RecoveryActionRecord}, record'.id = record.id →
      id ≠ record.id → (x.pre.db.recoveryActions.put record').get? id = some r := by
    intro record record' hsame hne
    have hkey : id ≠ Keyed.key record' := fun h => hne (h.trans hsame)
    rw [Table.get?_put_of_ne hkey, hrow]
  have hopen : ∀ {record : RecoveryActionRecord}, record ∈ x.pre.db.recoveryActions →
      record.executionStatus ∉ finalExecutionStatuses → id ≠ record.id := by
    intro record hrecord hstill hsame
    obtain rfl : r = record := Table.eq_of_key_eq hr hrecord (hid.trans hsame)
    exact hstill hfinal
  have hheld : ∀ {worker l held c record}, x.label = .executor worker l →
      ((∃ now, l = .finalizeSuccess now) ∨ l = .finalizeCompensation) →
      (x.pre.executors worker).held? = some held → Locked x.pre.db held.claim c record →
      id ≠ record.id := by
    intro worker l held c record hlabel hl hheld hlocked hsame
    exact hother ⟨worker, l, held, hlabel, hl, hheld,
      (Table.get?_key hlocked.record_eq).symm.trans hsame.symm⟩
  generalize hlabel : x.label = label at hcommit
  generalize hdb : x.post.db = db' at hcommit ⊢
  cases hcommit with
  | @executed worker l m h =>
      generalize hphase : x.pre.executors worker = phase at h
      cases h with
      | claimed hnow hclaims =>
          obtain ⟨c, proposal, decision, inputs, record, hclaimed⟩ := hclaims.row
          have hne : r.id ≠ record.id := by
            intro hsame
            rcases hclaimed.origin with hbuilt | hreclaimed
            · exact hbuilt.new r hr hsame
            · exact hopen hreclaimed.mem hreclaimed.not_final (hid.symm.trans hsame)
          exact hid ▸ Table.get?_of_mem ((hclaimed.rows r).mpr (.inl ⟨hr, hne⟩))
      | internal hnow haction hlocked hstill hout =>
          exact hput hout.count.1.id_eq (hopen (Table.mem_of_get? hlocked.record_eq) hstill)
      | @problem held problem now c record hnow hlocked hstill =>
          have hne : id ≠ record.id := hopen (Table.mem_of_get? hlocked.record_eq) hstill
          exact hput (rfl : (record.withProblem problem now).id = record.id) hne
      | finalized hnow hlocked hout hfree =>
          exact hput hout.count.1.id_eq
            (hheld hlabel (.inl ⟨_, rfl⟩) (by rw [hphase]; rfl) hlocked)
      | @compensated held snapshot outcome c record hlocked hfree =>
          exact hput (compensatedRecord_cases record snapshot outcome).1.id_eq
            (hheld hlabel (.inr rfl) (by rw [hphase]; rfl) hlocked)
      | _ => exact hrow
  | reconciled hphase howns hopen hresult =>
      have hframe := congrArg Db.recoveryActions (reconcileEntity_frame hresult)
      simpa [hframe] using hrow
  | observed hworker hobservable hevidence hinsert hw hmoves =>
      refine hput rfl fun hsame => ?_
      obtain rfl := Table.eq_of_key_eq hr (Table.mem_of_get? hobservable.action_eq)
        (hid.trans hsame)
      rw [hobservable.succeeded] at hstatus
      cases hstatus
  | _ => exact hrow

/-- The outcome of a compensation is what the gateway answered to an earlier cancellation. -/
theorem compensated_answered {clock : Int} {tr : List (Run.Step System Label)} {s : System}
    (h : RunTrace clock tr s) {worker : Nat} {held : HeldClaim} {snapshot : PaymentLinkSnapshot}
    {outcome : CancellationOutcome}
    (hphase : s.executors worker = .compensated held snapshot outcome) :
    ∃ y ∈ tr, ∃ out, y.label = .executor worker (.cancelAnswer out) ∧
      y.pre.executors worker = .cancelling held snapshot ∧
      outcome = cancellationOutcome snapshot.id out := by
  induction h with
  | nil => cases hphase
  | @snoc tr s s' l htr hs ih =>
      rcases step_executors hs worker with hsame | ⟨el, m, rfl, hm, hafter, -⟩
      · obtain ⟨y, hy, hanswered⟩ := ih (hsame ▸ hphase)
        exact ⟨y, List.mem_append_left _ hy, hanswered⟩
      rw [hafter] at hphase
      refine ⟨⟨s, .executor worker el, s'⟩, by simp, ?_⟩
      generalize hbefore : s.executors worker = phase at hm
      cases hm with
      | cancelAnswered =>
          cases hphase
          exact ⟨_, rfl, rfl, rfl⟩
      | lookedUp haction hrequest =>
          unfold afterLookup at hphase
          split at hphase
          · cases hphase
          · cases hphase
          · split at hphase <;> cases hphase
          · cases hphase
      | answered hrequest =>
          unfold afterCreate at hphase
          split at hphase <;> cases hphase
      | @finalized held snapshot adopted required now c record record' w hnow hlocked hout hfree =>
          cases required <;> cases hphase
      | _ => cases hphase

/-! ### The fence

A finalization that finds the authority lost, and the compensation after it, are stated
with all they write and all they leave. Where the reference they would write is taken,
the database refuses the transaction and the state stays as it was.
-/

/-- What a worker is about to write has the reference of another action. -/
def Collides (s : System) (worker : Nat) : Prop :=
  match s.executors worker with
  | .linked held snapshot _ => ∃ r, s.db.recoveryActions.get? held.claim.recoveryActionId = some r ∧
      ReferenceTaken s.db r (some snapshot.referenceId)
  | .compensated held snapshot outcome => ∃ r,
      s.db.recoveryActions.get? held.claim.recoveryActionId = some r ∧
        ReferenceTaken s.db r (compensatedRecord r snapshot outcome).1.externalReference
  | _ => False

/--
The step leaves the case as it is.  The row of the link asks for compensation, unless the
database refuses its reference, and then nothing is written.
-/
structure Withheld (x : Run.Step System Label) (worker : Nat) (held : HeldClaim)
    (snapshot : PaymentLinkSnapshot) (c : PaymentCase) (record : RecoveryActionRecord) : Prop where
  case_eq : x.post.db.cases.get? c.id = some c
  row_eq : ¬ Collides x.pre worker →
    x.post.db.recoveryActions.get? record.id = some (record.staleWith snapshot)
  compensates : ¬ Collides x.pre worker → x.post.executors worker = .compensating held snapshot
  refused : Collides x.pre worker → x.post.db = x.pre.db

/--
The step records in the row of a link what the gateway answered to its cancellation, unless
the database refuses the reference of the answer, and then nothing is written.
-/
structure Compensated (x : Run.Step System Label) (worker : Nat) (paymentLinkId : String)
    (out : HttpOutcome PaymentLinkSnapshot) (c : PaymentCase) (id : Uuid) : Prop where
  case_eq : x.post.db.cases.get? c.id = some c
  row : ¬ Collides x.pre worker → ∃ record', x.post.db.recoveryActions.get? id = some record' ∧
    (record'.executionStatus = .cancelled ∨ record'.executionStatus = .compensationRequired) ∧
    (record'.executionStatus = .cancelled ↔
      ∃ cancelled, cancelLink paymentLinkId out = .ok cancelled ∧ cancelled.status = "cancelled")
  refused : Collides x.pre worker → x.post.db = x.pre.db

theorem cancellationOutcome_inl (paymentLinkId : String) (out : HttpOutcome PaymentLinkSnapshot) :
    (∃ cancelled, cancellationOutcome paymentLinkId out = .inl cancelled) ↔
      ∃ cancelled, cancelLink paymentLinkId out = .ok cancelled ∧
        cancelled.status = "cancelled" := by
  unfold cancellationOutcome
  cases cancelLink paymentLinkId out with
  | error e => simp
  | ok answer => by_cases hstatus : answer.status = "cancelled" <;> simp [hstatus]

/-- The reference of a row is free for every write that leaves it the reference of its claim. -/
theorem Referenced.free {s : System} (h : Referenced s) {worker : Nat} {held : HeldClaim}
    (hheld : (s.executors worker).held? = some held) {record : RecoveryActionRecord}
    (hget : s.db.recoveryActions.get? held.claim.recoveryActionId = some record)
    {reference : String} (hclaim : held.claim.referenceId = some reference) :
    ∀ x ∈ s.db.recoveryActions, x.id ≠ record.id → x.externalReference ≠ some reference := by
  intro x hx hne hsame
  have hrecord := Table.mem_of_get? hget
  have href : record.externalReference = some reference :=
    (h.held worker held hheld record hrecord (Table.get?_key hget)).trans hclaim
  have hrow : record = x := h.unique record hrecord x hx (by rw [href]; rfl) (by rw [href, hsame])
  exact hne (hrow ▸ rfl)

/-- A reference that belongs to the claim is taken by no other action. -/
theorem Referenced.not_collides {s : System} (h : Referenced s) (worker : Nat) :
    ¬ Collides s worker := by
  have hphase := h.phase worker
  have hfree : ∀ {held : HeldClaim} {reference : String} {r : RecoveryActionRecord},
      (s.executors worker).held? = some held → held.claim.referenceId = some reference →
      s.db.recoveryActions.get? held.claim.recoveryActionId = some r →
      ¬ ReferenceTaken s.db r (some reference) := by
    rintro held reference r hholds hclaim hr ⟨x, hx, hne, hsame⟩
    exact h.free hholds hr hclaim x hx hne hsame
  unfold Collides
  split
  · rename_i held snapshot adopted hbefore
    rw [hbefore] at hphase hfree
    rintro ⟨r, hr, htaken⟩
    exact hfree rfl hphase hr htaken
  · rename_i held snapshot outcome hbefore
    rw [hbefore] at hphase hfree
    rintro ⟨r, hr, htaken⟩
    rw [(compensatedRecord_cases r snapshot outcome).2.2.2.2.2.1] at htaken
    cases outcome with
    | inl cancelled => exact hfree rfl (hphase.1.trans (congrArg some (hphase.2 _ rfl).symm)) hr htaken
    | inr errorCode => exact hfree rfl hphase.1 hr htaken
  · exact id

theorem finalizeSuccess_withheld {x : Run.Step System Label}
    (hs : step x.pre x.label = some x.post) {worker : Nat} {held : HeldClaim}
    {snapshot : PaymentLinkSnapshot} {adopted : Bool} {now : Int} {c : PaymentCase}
    {record : RecoveryActionRecord} (hlabel : x.label = .executor worker (.finalizeSuccess now))
    (hphase : x.pre.executors worker = .linked held snapshot adopted)
    (hlocked : Locked x.pre.db held.claim c record)
    (hcontext : postRequestContextIsCurrent x.pre.db c record now = .ok false) :
    Withheld x worker held snapshot c record := by
  obtain ⟨s, label, s'⟩ := x
  simp only at hlabel hphase hlocked hcontext hs
  subst hlabel
  obtain ⟨m, hm, rfl⟩ := Option.map_eq_some_iff.mp hs
  have hc : s.db.cases.get? c.id = some c :=
    Table.get?_of_mem (Table.mem_of_get? hlocked.case_eq)
  have hrow : s.db.recoveryActions.get? record.id = some record :=
    Table.get?_of_mem (Table.mem_of_get? hlocked.record_eq)
  rw [hphase] at hm
  by_cases hcollides : Collides s worker
  · -- the database refuses the write, whatever the check has said
    have hdb : m.db = s.db := by
      cases executorStep_cases hm with
      | ended => rfl
      | finalized hnow hlocked' hout hfree =>
          obtain ⟨r, hr, y, hy, hne, hsame⟩ : ∃ r,
              s.db.recoveryActions.get? held.claim.recoveryActionId = some r ∧
                ReferenceTaken s.db r (some snapshot.referenceId) := by
            simpa only [Collides, hphase] using hcollides
          obtain rfl := Option.some.inj (hr.symm.trans hlocked'.record_eq)
          exact absurd hsame (hfree y hy hne)
    refine ⟨?_, fun h => absurd hcollides h, fun h => absurd hcollides h, fun _ => hdb⟩
    show m.db.cases.get? c.id = some c
    rw [hdb, hc]
  · obtain ⟨result, hfinalize⟩ := finalizeExternalSuccess_stale hlocked adopted now hcontext
      fun y hy hne hsame => hcollides <| by
        simpa only [Collides, hphase] using ⟨record, hlocked.record_eq, y, hy, hne, hsame⟩
    simp only [executorStep, hfinalize, Option.ite_none_right_eq_some, Option.some.injEq] at hm
    obtain ⟨-, rfl⟩ := hm
    refine ⟨Table.get?_put_self hc, fun _ => Table.get?_put_self hrow, fun _ => ?_,
      fun h => absurd h hcollides⟩
    simp

theorem finalizeCompensation_compensated {x : Run.Step System Label}
    (hs : step x.pre x.label = some x.post) {worker : Nat} {held : HeldClaim}
    {snapshot : PaymentLinkSnapshot} {out : HttpOutcome PaymentLinkSnapshot} {c : PaymentCase}
    {record : RecoveryActionRecord} (hlabel : x.label = .executor worker .finalizeCompensation)
    (hphase : x.pre.executors worker =
      .compensated held snapshot (cancellationOutcome snapshot.id out))
    (hlocked : Locked x.pre.db held.claim c record) :
    Compensated x worker snapshot.id out c record.id := by
  have hanswer := cancellationOutcome_inl snapshot.id out
  generalize cancellationOutcome snapshot.id out = outcome at hphase hanswer
  obtain ⟨hsame, -, -, -, hstatus, -⟩ := compensatedRecord_cases record snapshot outcome
  obtain ⟨s, label, s'⟩ := x
  simp only at hlabel hphase hlocked hs
  subst hlabel
  obtain ⟨m, hm, rfl⟩ := Option.map_eq_some_iff.mp hs
  have hc : s.db.cases.get? c.id = some c :=
    Table.get?_of_mem (Table.mem_of_get? hlocked.case_eq)
  have hrow : s.db.recoveryActions.get? record.id = some record :=
    Table.get?_of_mem (Table.mem_of_get? hlocked.record_eq)
  rw [hphase] at hm
  by_cases hcollides : Collides s worker
  · have hdb : m.db = s.db := by
      cases executorStep_cases hm with
      | ended => rfl
      | compensated hlocked' hfree =>
          obtain ⟨r, hr, y, hy, hne, htaken⟩ : ∃ r,
              s.db.recoveryActions.get? held.claim.recoveryActionId = some r ∧
                ReferenceTaken s.db r (compensatedRecord r snapshot outcome).1.externalReference := by
            simpa only [Collides, hphase] using hcollides
          obtain rfl := Option.some.inj (hr.symm.trans hlocked'.record_eq)
          exact absurd htaken (hfree y hy hne)
    refine ⟨?_, fun h => absurd hcollides h, fun _ => hdb⟩
    show m.db.cases.get? c.id = some c
    rw [hdb, hc]
  · obtain ⟨result, hfinalize⟩ := finalizeCompensation_ok snapshot outcome hlocked
      fun y hy hne htaken => hcollides <| by
        simpa only [Collides, hphase] using ⟨record, hlocked.record_eq, y, hy, hne, htaken⟩
    simp only [executorStep, hfinalize, Option.some.injEq] at hm
    subst hm
    refine ⟨Table.get?_put_self hc, fun _ => ⟨(compensatedRecord record snapshot outcome).1, ?_, ?_, ?_⟩,
      fun h => absurd h hcollides⟩
    · have hkey : Keyed.key (compensatedRecord record snapshot outcome).1 = record.id := hsame.id_eq
      show (s.db.recoveryActions.put _).get? record.id = _
      rw [← hkey]
      exact Table.get?_put_self (hkey ▸ hrow)
    · rw [hstatus]
      cases outcome with
      | inl cancelled => exact .inl rfl
      | inr errorCode => exact .inr rfl
    · rw [hstatus, ← hanswer]
      cases outcome with
      | inl cancelled => simp
      | inr errorCode => simp

section

variable (hhash : Function.Injective Platform.hashFacts)
  (hhex : Function.Injective Platform.hexdigest)

include hhash hhex

/--
**A link that is confirmed after its authority was lost is withheld.**  Whatever other
transactions have committed between a claim and the finalization of its link, if the case
has moved, its proposal or its decision is superseded, an input differs from those of the
claim, or the approval is not given, then the case stays as it is and the row asks for
compensation, and no step takes that back but a finalization of the row itself.  A
compensation leaves the case as it is, and the row is cancelled exactly when the gateway
answered the cancellation of the link with a cancelled link.

The database refuses to write a reference that another action has; then nothing changes.
That happens in no run whose cancellations are answered with the link asked for.
-/
theorem authority_fenced {clock : Int} {tr : List (Run.Step System Label)} {s : System}
    (h : RunTrace clock tr s) :
    (∀ before y between x after worker held claimed snapshot adopted now c record,
      tr = before ++ y :: (between ++ x :: after) → ClaimInputs y worker held claimed →
      x.label = .executor worker (.finalizeSuccess now) →
      x.pre.executors worker = .linked held snapshot adopted →
      Locked x.pre.db held.claim c record → AuthorityLost claimed x.pre.db c record now →
      Withheld x worker held snapshot c record ∧
      (¬ Collides x.pre worker → ∀ mid z rest, after = mid ++ z :: rest →
        (∀ u ∈ mid ++ [z], ¬ FinalizesRow u record.id) →
        z.post.db.recoveryActions.get? record.id = some (record.staleWith snapshot))) ∧
    (∀ before x after worker held snapshot outcome c record,
      tr = before ++ x :: after → x.label = .executor worker .finalizeCompensation →
      x.pre.executors worker = .compensated held snapshot outcome →
      Locked x.pre.db held.claim c record →
      ∃ y ∈ before, ∃ out, y.label = .executor worker (.cancelAnswer out) ∧
        y.pre.executors worker = .cancelling held snapshot ∧
        Compensated x worker snapshot.id out c record.id) ∧
    ((∀ x ∈ tr, AnswersAsked x.pre x.label) → ∀ x ∈ tr, ∀ worker, ¬ Collides x.pre worker) := by
  refine ⟨?_, ?_, ?_⟩
  · rintro before y between x after worker held claimed snapshot adopted now c record rfl hclaim
      hlabel hphase hlocked hlost
    obtain ⟨m, hbefore, hrest⟩ := h.of_append
    obtain ⟨rfl, hy, hrest⟩ := hrest.of_cons
    obtain ⟨m, hbetween, hrest⟩ := hrest.of_append
    obtain ⟨rfl, hx, hafter⟩ := hrest.of_cons
    have hprefix : RunTrace clock (before ++ y :: between) x.pre :=
      Run.Trace.append hbefore (hbetween.cons hy)
    have hcontext := postRequestContextIsCurrent_false
      (hlost.not_authorized hhash hhex (settled_reachable ⟨_, hbefore⟩).hints hy hbetween hclaim
        hlocked)
    have hwithheld := finalizeSuccess_withheld hx hlabel hphase hlocked hcontext
    refine ⟨hwithheld, ?_⟩
    rintro hfree mid z rest rfl hother
    -- the row stays as it was left, along the steps that follow
    obtain ⟨m, hmid, hrest⟩ := hafter.of_append
    obtain ⟨rfl, hz, -⟩ := hrest.of_cons
    have hkept : HintsOk z.post ∧
        z.post.db.recoveryActions.get? record.id = some (record.staleWith snapshot) := by
      refine (hmid.snoc hz).invariant (I := fun s => HintsOk s ∧
        s.db.recoveryActions.get? record.id = some (record.staleWith snapshot))
        ⟨(settled_reachable ⟨_, hprefix.snoc hx⟩).hints, hwithheld.row_eq hfree⟩ ?_
      rintro u hu ⟨hhints, hrow⟩ hstep
      exact ⟨hintsOk_step hhints hstep,
        compensationRequired_kept hhints hstep hrow rfl (hother u hu)⟩
    exact hkept.2
  · rintro before x after worker held snapshot outcome c record rfl hlabel hphase hlocked
    obtain ⟨m, hbefore, hrest⟩ := h.of_append
    obtain ⟨rfl, hx, -⟩ := hrest.of_cons
    obtain ⟨y, hy, out, hcancel, hcancelling, rfl⟩ := compensated_answered hbefore hphase
    exact ⟨y, hy, out, hcancel, hcancelling,
      finalizeCompensation_compensated hx hlabel hphase hlocked⟩
  · intro hanswers x hx worker
    obtain ⟨before, after, rfl, hbefore, -⟩ := h.split hx
    have hreferenced : Referenced x.pre :=
      referenced_trace hbefore fun z hz => hanswers z (List.mem_append_left _ hz)
    exact hreferenced.not_collides worker

end

end Arc

namespace Arc

attribute [local instance] asciiPlatform

/-- The payment is captured while the creation of the link is in flight. -/
def capturedRun : List Label := authorizedRun ++ [
  .executor 0 (.prepare 10 40 0),
  .executor 0 (.lookup (.response 200 (some []))),
  .executor 0 .sendCreate,
  .provider (.applyCreate 0 "plink_1"),
  .executor 0 (.createAnswer (.response 200 (some sampleLink))),
  .service (.ingest samplePayload "evt_2" (.str "d") 2),
  .processor 0 (.claim 2),
  .processor 0 (.fetch (.response 200 (some { samplePayment with status := "captured" })) .noResponse),
  .processor 0 (.apply ⟨11, 0⟩)]

/-- The link is finalized after all, and its cancellation is asked for and answered. -/
def withheldRun : List Label := [
  .executor 0 .sendCancel,
  .provider (.moveLink "plink_1" .cancelled),
  .executor 0 (.cancelAnswer (.response 200 (some { sampleLink with status := "cancelled" })))]

/-- The phase of an executor that finalizes, with the state of its case and the status of its row. -/
def finalizing (s : System) (worker : Nat) : Option (CaseState × RecoveryExecutionStatus) :=
  match s.executors worker with
  | .linked held _ _ | .compensated held _ _ =>
      (s.db.cases.get? held.claim.caseId).bind fun c =>
        (s.db.recoveryActions.get? held.claim.recoveryActionId).map fun r =>
          (c.currentState, r.executionStatus)
  | _ => none

theorem finalizing_eq_some {s : System} {worker : Nat} {state : CaseState}
    {status : RecoveryExecutionStatus} (h : finalizing s worker = some (state, status)) :
    ∃ held snapshot c record, ((∃ adopted, s.executors worker = .linked held snapshot adopted) ∨
        ∃ outcome, s.executors worker = .compensated held snapshot outcome) ∧
      Locked s.db held.claim c record ∧ c.currentState = state ∧ record.executionStatus = status := by
  unfold finalizing at h
  split at h
  · rename_i held link adopted hphase
    obtain ⟨c, hc, h⟩ := Option.bind_eq_some_iff.mp h
    obtain ⟨record, hrecord, h⟩ := Option.map_eq_some_iff.mp h
    cases h
    exact ⟨held, link, c, record, .inl ⟨adopted, hphase⟩, ⟨hc, hrecord⟩, rfl, rfl⟩
  · rename_i held link outcome hphase
    obtain ⟨c, hc, h⟩ := Option.bind_eq_some_iff.mp h
    obtain ⟨record, hrecord, h⟩ := Option.map_eq_some_iff.mp h
    cases h
    exact ⟨held, link, c, record, .inr ⟨outcome, hphase⟩, ⟨hc, hrecord⟩, rfl, rfl⟩
  · cases h

/-- An executor takes the step that finalizes a link only where it has one. -/
theorem linked_of_step {s s' : System} {worker : Nat} {now : Int} {held : HeldClaim}
    {snapshot : PaymentLinkSnapshot}
    (h : (∃ adopted, s.executors worker = .linked held snapshot adopted) ∨
      ∃ outcome, s.executors worker = .compensated held snapshot outcome)
    (hs : step s (.executor worker (.finalizeSuccess now)) = some s') :
    ∃ adopted, s.executors worker = .linked held snapshot adopted := by
  obtain hlinked | ⟨outcome, hphase⟩ := h
  · exact hlinked
  · obtain ⟨m, hm, -⟩ := Option.map_eq_some_iff.mp hs
    rw [hphase] at hm
    cases hm

theorem compensated_of_step {s s' : System} {worker : Nat} {held : HeldClaim}
    {snapshot : PaymentLinkSnapshot}
    (h : (∃ adopted, s.executors worker = .linked held snapshot adopted) ∨
      ∃ outcome, s.executors worker = .compensated held snapshot outcome)
    (hs : step s (.executor worker .finalizeCompensation) = some s') :
    ∃ outcome, s.executors worker = .compensated held snapshot outcome := by
  obtain ⟨adopted, hphase⟩ | hcompensated := h
  · obtain ⟨m, hm, -⟩ := Option.map_eq_some_iff.mp hs
    rw [hphase] at hm
    cases hm
  · exact hcompensated

theorem authority_fenced_captured : ∃ tr s, RunTrace 0 tr s ∧
    tr.map Run.Step.label = capturedRun ++ .executor 0 (.finalizeSuccess 0) :: withheldRun ++
      [.executor 0 .finalizeCompensation] ∧
    (∃ x ∈ tr, ∃ held snapshot c record, c.currentState = .recovered ∧
      x.label = .executor 0 (.finalizeSuccess 0) ∧ Withheld x 0 held snapshot c record ∧
      ¬ Collides x.pre 0) ∧
    (∃ x ∈ tr, ∃ linkId out c, ∃ record : RecoveryActionRecord,
      record.executionStatus = .compensationRequired ∧ x.label = .executor 0 .finalizeCompensation ∧
      Compensated x 0 linkId out c record.id ∧ ¬ Collides x.pre 0) ∧
    (s.db.recoveryActions.get? 40).map RecoveryActionRecord.executionStatus = some .cancelled := by
  have hrun : ((Run.replay (Run.guarded AnswersAsked step) (System.initial 0) capturedRun).bind
      fun s => (step s (.executor 0 (.finalizeSuccess 0))).bind fun s₁ =>
        (Run.replay (Run.guarded AnswersAsked step) s₁ withheldRun).bind fun s₂ =>
          (step s₂ (.executor 0 .finalizeCompensation)).map fun s₃ =>
            (finalizing s 0, finalizing s₂ 0,
              (s₃.db.recoveryActions.get? 40).map RecoveryActionRecord.executionStatus)) =
      some (some (.recovered, .inProgress), some (.recovered, .compensationRequired),
        some .cancelled) := by decide +kernel
  obtain ⟨s, hs, hrun⟩ := Option.bind_eq_some_iff.mp hrun
  obtain ⟨s₁, hs₁, hrun⟩ := Option.bind_eq_some_iff.mp hrun
  obtain ⟨s₂, hs₂, hrun⟩ := Option.bind_eq_some_iff.mp hrun
  obtain ⟨s₃, hs₃, hfacts⟩ := Option.map_eq_some_iff.mp hrun
  simp only [Prod.mk.injEq] at hfacts
  obtain ⟨hfinalizing, hrecording, hcancelled⟩ := hfacts
  obtain ⟨held, snapshot, c, record, hphase, hlocked, hstate, -⟩ := finalizing_eq_some hfinalizing
  obtain ⟨adopted, hphase⟩ := linked_of_step hphase hs₁
  obtain ⟨held', snapshot', c', record', hphase', hlocked', -, hstatus⟩ :=
    finalizing_eq_some hrecording
  obtain ⟨outcome, hphase'⟩ := compensated_of_step hphase' hs₃
  obtain ⟨tr₁, htr₁, hlabels₁⟩ := Run.Trace.of_replay hs
  obtain ⟨htr₁, hanswers₁⟩ := htr₁.of_guarded
  obtain ⟨tr₂, htr₂, hlabels₂⟩ := Run.Trace.of_replay hs₂
  obtain ⟨htr₂, hanswers₂⟩ := htr₂.of_guarded
  have hheld : (s.executors 0).held? = some held := by rw [hphase]; rfl
  obtain ⟨y, hy, caseId, newId, now, hclaim⟩ := held_claimed htr₁ hheld
  obtain ⟨claimed, hinputs⟩ := hclaim.inputs (htr₁.step_of_mem hy)
  have hlost : AuthorityLost claimed s.db c record 0 := .moved (by rw [hstate]; decide)
  obtain ⟨before, between, rfl, -, -⟩ := htr₁.split hy
  have htr := (((htr₁.snoc hs₁).append htr₂).snoc hs₃)
  have hanswers : ∀ x ∈ before ++ y :: between ++ [⟨s, .executor 0 (.finalizeSuccess 0), s₁⟩] ++ tr₂ ++
      [⟨s₂, .executor 0 .finalizeCompensation, s₃⟩], AnswersAsked x.pre x.label := by
    refine List.forall_mem_append.mpr ⟨List.forall_mem_append.mpr ⟨?_, hanswers₂⟩, ?_⟩
    · refine List.forall_mem_append.mpr ⟨hanswers₁, ?_⟩
      exact List.forall_mem_singleton.mpr trivial
    · exact List.forall_mem_singleton.mpr trivial
  obtain ⟨hfirst, hsecond, hfree⟩ :=
    authority_fenced Function.injective_id Function.injective_id htr
  have hfree := hfree hanswers
  obtain ⟨hwithheld, -⟩ := hfirst before y between ⟨s, _, s₁⟩
    (tr₂ ++ [⟨s₂, .executor 0 .finalizeCompensation, s₃⟩]) 0 held claimed snapshot adopted 0 c record
    (by simp) hinputs rfl hphase hlocked hlost
  obtain ⟨-, -, out, -, -, hcompensated⟩ := hsecond _ ⟨s₂, _, s₃⟩ [] 0 held' snapshot' outcome c'
    record' rfl rfl hphase' hlocked'
  refine ⟨_, s₃, htr, ?_, ?_, ?_, hcancelled⟩
  · simp [← hlabels₁, hlabels₂]
  · exact ⟨⟨s, _, s₁⟩, by simp, held, snapshot, c, record, hstate, rfl, hwithheld,
      hfree ⟨s, .executor 0 (.finalizeSuccess 0), s₁⟩ (by simp) 0⟩
  · exact ⟨⟨s₂, _, s₃⟩, by simp, snapshot'.id, out, c', record', hstatus, rfl, hcompensated,
      hfree ⟨s₂, .executor 0 .finalizeCompensation, s₃⟩ (by simp) 0⟩

end Arc
