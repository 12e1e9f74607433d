/-
The chain of custody.

A proposal is about a case, a decision about a proposal, a request for approval about a
decision, an action about a proposal and its decision, an observation about an action and
an attribution about an observation.  The rows carry identifiers only, so that the row an
identifier names is there, is the right one and is of the same case is a fact about the
services.  `Custody` says it of every row of the database.

A row enters its table in one kind of step.  `Custody` is kept because the rows it rests
on are there at that step, and because later versions of them (`Db.Later`) still agree
with it.
-/
import Arc.Proofs.History

namespace Arc

open Store

section

variable [Platform]

/-! ### What a row rests on -/

/-- The decision is about the proposal. -/
structure PolicyDecision.About (d : PolicyDecision) (p : StrategyProposal) : Prop where
  proposal_eq : d.strategyProposalId = p.id
  case_eq : d.caseId = p.caseId
  input_eq : d.strategyInputFingerprint = p.strategyInputFingerprint

/-- The request asks for approval of the decision. -/
structure ApprovalRequest.About (a : ApprovalRequest) (d : PolicyDecision) : Prop where
  decision_eq : a.policyDecisionId = d.id
  case_eq : a.caseId = d.caseId
  result : d.result = .requiresApproval

/-- The action is the proposed one, and the decision allows it. -/
structure RecoveryActionRecord.About (r : RecoveryActionRecord) (d : PolicyDecision)
    (p : StrategyProposal) : Prop where
  decision_eq : r.policyDecisionId = d.id
  strategy_eq : r.strategyProposalId = p.id
  case_eq : r.caseId = d.caseId
  action_eq : r.action = p.action
  allowed : d.result ≠ .blocked

/-- An operator has answered the request the action was built with. -/
def RecoveryActionRecord.Answered (r : RecoveryActionRecord) (d : PolicyDecision) (db : Db) : Prop :=
  ∃ a ∈ db.approvalRequests, r.approvalRequestId = some a.id ∧ a.policyDecisionId = d.id ∧
    a.status ≠ .pending

/-- The observation is of the link the action handed over. -/
structure RecoveryOutcomeObservation.About (o : RecoveryOutcomeObservation)
    (r : RecoveryActionRecord) : Prop where
  action_eq : o.recoveryActionId = r.id
  case_eq : o.caseId = r.caseId
  link : r.action = .createRecoveryLink
  executed : r.executedAt ≠ none

/-- The attribution counts what the observation has seen. -/
structure RecoveryAttribution.About (a : RecoveryAttribution) (o : RecoveryOutcomeObservation) :
    Prop where
  observation_eq : a.outcomeObservationId = o.id
  action_eq : a.recoveryActionId = o.recoveryActionId
  case_eq : a.caseId = o.caseId
  evidence_eq : a.evidenceFingerprint = o.evidenceFingerprint
  mode_eq : a.providerMode = o.providerMode
  recovered : o.outcomeStatus = .recovered
  payment_eq : o.providerPaymentId = some a.providerPaymentId
  expected_eq : a.recoveredAmountMinor = o.amountExpectedMinor
  paid_eq : a.recoveredAmountMinor = o.amountPaidMinor
  positive : 0 < a.recoveredAmountMinor
  currency_eq : a.currency = o.currency

/-- **Every row rests on the rows it names**, all of one case. -/
structure Custody (db : Db) : Prop where
  proposals : ∀ p ∈ db.strategyProposals, ∃ c ∈ db.cases, p.caseId = c.id
  decisions : ∀ d ∈ db.policyDecisions, ∃ p ∈ db.strategyProposals, d.About p
  approvals : ∀ a ∈ db.approvalRequests, ∃ d ∈ db.policyDecisions, a.About d
  actions : ∀ r ∈ db.recoveryActions, ∃ d ∈ db.policyDecisions, ∃ p ∈ db.strategyProposals,
    d.About p ∧ r.About d p ∧ (d.result = .requiresApproval → r.Answered d db)
  observations : ∀ o ∈ db.outcomeObservations, ∃ r ∈ db.recoveryActions, o.About r
  attributions : ∀ a ∈ db.attributions, ∃ o ∈ db.outcomeObservations, a.About o

/-! ### Later versions

A row may rest on another one that is rewritten afterwards. What a relation reads of the
other row are columns that no later version changes, except for the status of an
approval and of an action, where it is enough that they do not go back.
-/

theorem StrategyProposal.Continues.columns {p p' : StrategyProposal} (h : p.Continues p') :
    p'.id = p.id ∧ p'.caseId = p.caseId ∧ p'.action = p.action ∧
      p'.strategyInputFingerprint = p.strategyInputFingerprint := by
  have hid := congrArg StrategyProposal.id h.reopened_eq
  have hcase := congrArg StrategyProposal.caseId h.reopened_eq
  have haction := congrArg StrategyProposal.action h.reopened_eq
  have hinput := congrArg StrategyProposal.strategyInputFingerprint h.reopened_eq
  exact ⟨hid, hcase, haction, hinput⟩

theorem PolicyDecision.Continues.columns {d d' : PolicyDecision} (h : d.Continues d') :
    d'.id = d.id ∧ d'.caseId = d.caseId ∧ d'.result = d.result ∧
      d'.strategyProposalId = d.strategyProposalId ∧
      d'.strategyInputFingerprint = d.strategyInputFingerprint := by
  have hid := congrArg PolicyDecision.id h.reactivated_eq
  have hcase := congrArg PolicyDecision.caseId h.reactivated_eq
  have hresult := congrArg PolicyDecision.result h.reactivated_eq
  have hproposal := congrArg PolicyDecision.strategyProposalId h.reactivated_eq
  have hinput := congrArg PolicyDecision.strategyInputFingerprint h.reactivated_eq
  exact ⟨hid, hcase, hresult, hproposal, hinput⟩

theorem PolicyDecision.About.later {d d' : PolicyDecision} {p p' : StrategyProposal}
    (h : d.About p) (hd : d.Continues d') (hp : p.Continues p') : d'.About p' := by
  obtain ⟨hid, hcase, -, hinput⟩ := hp.columns
  obtain ⟨-, hdcase, -, hproposal, hdinput⟩ := hd.columns
  exact ⟨by rw [hproposal, hid, h.proposal_eq], by rw [hdcase, hcase, h.case_eq],
    by rw [hdinput, hinput, h.input_eq]⟩

theorem ApprovalRequest.About.later {a a' : ApprovalRequest} {d d' : PolicyDecision}
    (h : a.About d) (ha : a.Continues a') (hd : d.Continues d') : a'.About d' := by
  obtain ⟨hid, hcase, hresult, -, -⟩ := hd.columns
  exact ⟨by rw [← ha.decision_eq, hid, h.decision_eq], by rw [← ha.case_eq, hcase, h.case_eq],
    hresult.trans h.result⟩

theorem RecoveryActionRecord.About.later {r r' : RecoveryActionRecord} {d d' : PolicyDecision}
    {p p' : StrategyProposal} (h : r.About d p) (hr : r.Continues r') (hd : d.Continues d')
    (hp : p.Continues p') : r'.About d' p' := by
  obtain ⟨hpid, -, haction, -⟩ := hp.columns
  obtain ⟨hid, hcase, hresult, -, -⟩ := hd.columns
  exact ⟨by rw [hr.decision_eq, hid, h.decision_eq], by rw [hr.strategy_eq, hpid, h.strategy_eq],
    by rw [hr.case_eq, hcase, h.case_eq], by rw [hr.action_eq, haction, h.action_eq],
    hresult ▸ h.allowed⟩

theorem RecoveryActionRecord.Answered.later {r r' : RecoveryActionRecord} {d d' : PolicyDecision}
    {db db' : Db} (h : r.Answered d db) (hlater : db.Later db') (hr : r.Continues r')
    (hd : d.Continues d') : r'.Answered d' db' := by
  obtain ⟨a, ha, hid, hdecision, hanswered⟩ := h
  obtain ⟨a', ha', -, hcontinues⟩ := hlater.approvalRequests a ha
  refine ⟨a', ha', ?_, ?_, hcontinues.answered hanswered⟩
  · rw [hr.approval_eq, hid, hcontinues.id_eq]
  · rw [← hcontinues.decision_eq, hd.columns.1, hdecision]

theorem RecoveryOutcomeObservation.About.later {o : RecoveryOutcomeObservation}
    {r r' : RecoveryActionRecord} (h : o.About r) (hr : r.Continues r') : o.About r' :=
  ⟨by rw [hr.id_eq, h.action_eq], by rw [hr.case_eq, h.case_eq], by rw [hr.action_eq, h.link],
    hr.executed h.executed⟩

/-! ### New rows

A row is added by one kind of transaction, and that transaction has just read the rows
it will rest on. So the step that adds a row founds it, and `Custody.later` keeps what
was founded.
-/

/-- A new row of each table rests on rows that are stored when it is added. -/
structure Founded (db db' : Db) : Prop where
  proposals : ∀ p ∈ db'.strategyProposals, (∀ q ∈ db.strategyProposals, q.id ≠ p.id) →
    ∃ c ∈ db.cases, p.caseId = c.id
  decisions : ∀ d ∈ db'.policyDecisions, (∀ e ∈ db.policyDecisions, e.id ≠ d.id) →
    ∃ p ∈ db.strategyProposals, d.About p
  approvals : ∀ a ∈ db'.approvalRequests, (∀ b ∈ db.approvalRequests, b.id ≠ a.id) →
    ∃ d ∈ db.policyDecisions, a.About d
  actions : ∀ r ∈ db'.recoveryActions, (∀ q ∈ db.recoveryActions, q.id ≠ r.id) →
    ∃ d ∈ db.policyDecisions, ∃ p ∈ db.strategyProposals,
      d.About p ∧ r.About d p ∧ (d.result = .requiresApproval → r.Answered d db)
  observations : ∀ o ∈ db'.outcomeObservations, (∀ q ∈ db.outcomeObservations, q.id ≠ o.id) →
    ∃ r ∈ db.recoveryActions, o.About r
  attributions : ∀ a ∈ db'.attributions, (∀ b ∈ db.attributions, b.id ≠ a.id) →
    ∃ o ∈ db'.outcomeObservations, a.About o

/-- Custody is kept where no row is lost and every new row is founded. -/
theorem Custody.later {db db' : Db} (h : Custody db) (hlater : db.Later db')
    (hnew : Founded db db') : Custody db' where
  proposals := by
    intro p' hp'
    have hcase : ∃ c ∈ db.cases, p'.caseId = c.id := by
      rcases hlater.strategyProposals.old_or_new hp' with ⟨p, hp, -, hcontinues⟩ | hfresh
      · rw [hcontinues.columns.2.1]
        exact h.proposals p hp
      · exact hnew.proposals p' hp' hfresh
    obtain ⟨c, hc, hid⟩ := hcase
    obtain ⟨c', hc', hkey, -⟩ := hlater.cases c hc
    exact ⟨c', hc', hid.trans hkey.symm⟩
  decisions := by
    intro d' hd'
    have habout : ∃ p ∈ db.strategyProposals, d'.About p := by
      rcases hlater.policyDecisions.old_or_new hd' with ⟨d, hd, -, hcontinues⟩ | hfresh
      · obtain ⟨p, hp, habout⟩ := h.decisions d hd
        exact ⟨p, hp, habout.later hcontinues (.refl p)⟩
      · exact hnew.decisions d' hd' hfresh
    obtain ⟨p, hp, habout⟩ := habout
    obtain ⟨p', hp', -, hcontinues⟩ := hlater.strategyProposals p hp
    exact ⟨p', hp', habout.later (.refl d') hcontinues⟩
  approvals := by
    intro a' ha'
    have habout : ∃ d ∈ db.policyDecisions, a'.About d := by
      rcases hlater.approvalRequests.old_or_new ha' with ⟨a, ha, -, hcontinues⟩ | hfresh
      · obtain ⟨d, hd, habout⟩ := h.approvals a ha
        exact ⟨d, hd, habout.later hcontinues (.refl d)⟩
      · exact hnew.approvals a' ha' hfresh
    obtain ⟨d, hd, habout⟩ := habout
    obtain ⟨d', hd', -, hcontinues⟩ := hlater.policyDecisions d hd
    exact ⟨d', hd', habout.later (.refl a') hcontinues⟩
  actions := by
    intro r' hr'
    have hrests : ∃ d ∈ db.policyDecisions, ∃ p ∈ db.strategyProposals,
        d.About p ∧ r'.About d p ∧ (d.result = .requiresApproval → r'.Answered d db) := by
      rcases hlater.recoveryActions.old_or_new hr' with ⟨r, hr, -, hcontinues⟩ | hfresh
      · obtain ⟨d, hd, p, hp, hdecides, habout, hanswered⟩ := h.actions r hr
        refine ⟨d, hd, p, hp, hdecides, habout.later hcontinues (.refl d) (.refl p), fun hasks => ?_⟩
        obtain ⟨a, ha, hid, hrest⟩ := hanswered hasks
        exact ⟨a, ha, hcontinues.approval_eq.trans hid, hrest⟩
      · exact hnew.actions r' hr' hfresh
    obtain ⟨d, hd, p, hp, hdecides, habout, hanswered⟩ := hrests
    obtain ⟨d', hd', -, hdlater⟩ := hlater.policyDecisions d hd
    obtain ⟨p', hp', -, hplater⟩ := hlater.strategyProposals p hp
    refine ⟨d', hd', p', hp', hdecides.later hdlater hplater,
      habout.later (.refl r') hdlater hplater, fun hasks => ?_⟩
    rw [hdlater.columns.2.2.1] at hasks
    exact (hanswered hasks).later hlater (.refl r') hdlater
  observations := by
    intro o' ho'
    have habout : ∃ r ∈ db.recoveryActions, o'.About r := by
      rcases hlater.outcomeObservations.old_or_new ho' with ⟨o, ho, -, rfl⟩ | hfresh
      · exact h.observations o ho
      · exact hnew.observations o' ho' hfresh
    obtain ⟨r, hr, habout⟩ := habout
    obtain ⟨r', hr', -, hcontinues⟩ := hlater.recoveryActions r hr
    exact ⟨r', hr', habout.later hcontinues⟩
  attributions := by
    intro a' ha'
    rcases hlater.attributions.old_or_new ha' with ⟨a, ha, -, rfl⟩ | hfresh
    · obtain ⟨o, ho, habout⟩ := h.attributions a ha
      obtain ⟨o', ho', -, rfl⟩ := hlater.outcomeObservations o ho
      exact ⟨o, ho', habout⟩
    · exact hnew.attributions a' ha' hfresh

theorem step_proposals_founded {s s' : System} {l : Label} (hhints : HintsOk s)
    (h : step s l = some s') : ∀ p ∈ s'.db.strategyProposals,
      (∀ q ∈ s.db.strategyProposals, q.id ≠ p.id) → ∃ c ∈ s.db.cases, p.caseId = c.id := by
  rcases step_proposals hhints h with hsame | ⟨worker, snapshot, modelResult, newId, hpersist⟩
  · exact fun p hp hnew => absurd rfl (hnew p (hsame ▸ hp))
  rcases hpersist.persisted h with hdb | ⟨outcome, -, hpersisted⟩
  · replace hdb : s'.db = s.db := hdb
    exact fun p hp hnew => absurd rfl (hnew p (hdb ▸ hp))
  replace hpersisted : Persisted s.db snapshot modelResult newId s.clock s'.db outcome := hpersisted
  generalize s'.db = db' at hpersisted ⊢
  cases hpersisted with
  | discarded hc => exact fun p hp hnew => absurd rfl (hnew p hp)
  | identical hc hcurrent hexisting => exact fun p hp hnew => absurd rfl (hnew p hp)
  | @accepted c action proposals w hok hreplace hw hstate =>
      obtain ⟨-, hinsert⟩ := (replaceProposal_eq_ok currentProposal_mem).mp hreplace
      intro p hp hnew
      rcases (Table.insert?_mem hinsert).mp hp with hp | rfl
      · obtain ⟨q, hq, rfl⟩ := (mem_supersedeCurrent currentProposal_mem).mp hp
        exact absurd (q.after_id _ _).symm (hnew q hq)
      · have hid : c.id = snapshot.caseId := Table.get?_key hok.stored
        exact ⟨c, Table.mem_of_get? hok.stored, hid.symm⟩

theorem step_decisions_founded {s s' : System} {l : Label} (hhints : HintsOk s)
    (h : step s l = some s') : ∀ d ∈ s'.db.policyDecisions,
      (∀ e ∈ s.db.policyDecisions, e.id ≠ d.id) → ∃ p ∈ s.db.strategyProposals, d.About p := by
  rcases step_decisions hhints h with hsame | ⟨proposalId, newId, result, c, proposal, -, hevaluable,
    hevaluated⟩
  · exact fun d hd hnew => absurd rfl (hnew d (hsame ▸ hd))
  obtain ⟨hproposal, hcase, -⟩ := currentProposal_eq_some hevaluable.proposal_current
  generalize s'.db = db' at hevaluated ⊢
  cases hevaluated with
  | reused hidentical hopen => exact fun d hd hnew => absurd rfl (hnew d hd)
  | @replaced decisions d w hrows hreplace hw =>
      obtain ⟨hd, hmem⟩ := replaceDecision_eq_ok hrows hreplace
      intro e he hnew
      rcases (hmem e).mp he with rfl | ⟨y, hy, -, rfl⟩
      · cases hidentical : s.db.identicalDecision c proposal s.clock with
        | none =>
            rw [hidentical] at hd
            replace hd : e = buildDecision c proposal (s.db.inputsFor c proposal s.clock) newId
              s.clock := hd
            rw [hd]
            exact ⟨proposal, hproposal, rfl, hcase.symm, rfl⟩
        | some existing =>
            rw [hidentical] at hd
            replace hd : e = existing.reactivated := hd
            have hid : existing.id = e.id := by rw [hd]; rfl
            exact absurd hid (hnew existing (findIdenticalDecision_some hidentical).1)
      · exact absurd (y.after_id _ _).symm (hnew y hy)

/-! ### Requests for approval -/

/-- The decisions approvers have read are stored. -/
def RequestsOk (s : System) : Prop :=
  ∀ worker d, s.approvers worker = .requesting d → ∃ d' ∈ s.db.policyDecisions, d'.Continues d

/-- Where the decision an approver asks about comes from. -/
theorem approverStep_requesting {s : System} {phase : ApproverPhase} {l : ApproverLabel}
    {m : Move ApproverPhase} {d : PolicyDecision} (h : approverStep s phase l = some m)
    (hphase : m.phase = .requesting d) : d ∈ s.db.policyDecisions := by
  cases l with
  | requestHint policyDecisionId =>
      cases phase with
      | idle =>
          simp only [approverStep] at h
          split at h
          · rename_i read hread
            cases h
            cases hphase
            exact Table.mem_of_get? (requireSome_eq_ok.mp hread)
          · cases h
            cases hphase
      | _ => cases h
  | decideHint approvalRequestId decision =>
      cases phase with
      | idle =>
          simp only [approverStep] at h
          split at h <;>
          · cases h
            cases hphase
      | _ => cases h
  | request newId =>
      cases phase with
      | requesting d' =>
          simp only [approverStep] at h
          split at h <;>
          · cases h
            cases hphase
      | _ => cases h
  | decide =>
      cases phase with
      | deciding approval decision =>
          simp only [approverStep] at h
          split at h <;>
          · cases h
            cases hphase
      | _ => cases h
  | crash =>
      cases phase <;>
      · cases h
        cases hphase

theorem requestsOk_step {s s' : System} {l : Label} (hhints : HintsOk s) (hok : RequestsOk s)
    (h : step s l = some s') : RequestsOk s' := by
  intro worker d hphase
  have hread : ∃ d' ∈ s.db.policyDecisions, d'.Continues d := by
    rcases step_approvers h worker with hsame | ⟨al, m, -, hm, hnew, -⟩
    · exact hok worker d (hsame ▸ hphase)
    · exact ⟨d, approverStep_requesting hm (hnew ▸ hphase), .refl d⟩
  obtain ⟨d', hd', hcopy⟩ := hread
  obtain ⟨d'', hd'', -, hlater⟩ := step_decisions_later hhints h d' hd'
  exact ⟨d'', hd'', ⟨hcopy.reactivated_eq.trans hlater.reactivated_eq.symm⟩⟩

/-- A request that is added asks about the decision that was read. -/
theorem ensureApprovalRequest_about {db db' : Db} {d : PolicyDecision} {newId : Uuid} {at' : Int}
    {result : ApprovalRequestResult}
    (h : ensureApprovalRequest db d newId at' = .ok (db', result)) :
    ∀ a ∈ db'.approvalRequests, (∀ b ∈ db.approvalRequests, b.id ≠ a.id) → a.About d := by
  obtain ⟨c, hc, h⟩ := bind_eq_ok.mp h
  obtain ⟨_, -, h⟩ := bind_eq_ok.mp h
  obtain ⟨_, hvalid, h⟩ := bind_eq_ok.mp h
  obtain ⟨_, -, hvalid⟩ := bind_eq_ok.mp hvalid
  obtain ⟨hcase, -, hresult⟩ := require_eq_ok.mp hvalid
  split at h
  · cases h
    exact fun a ha hnew => absurd rfl (hnew a ha)
  · obtain ⟨approvals, hinsert, h⟩ := bind_eq_ok.mp h
    cases h
    intro a ha hnew
    rcases (Table.insert?_mem (requireSome_eq_ok.mp hinsert)).mp ha with ha | rfl
    · exact absurd rfl (hnew a ha)
    · exact ⟨rfl, hcase.symm, hresult⟩

theorem step_approvals_founded {s s' : System} {l : Label} (hhints : HintsOk s)
    (hok : RequestsOk s) (h : step s l = some s') : ∀ a ∈ s'.db.approvalRequests,
      (∀ b ∈ s.db.approvalRequests, b.id ≠ a.id) → ∃ d ∈ s.db.policyDecisions, a.About d := by
  have hcommit := step_commit hhints h
  generalize hdb : s'.db = db' at hcommit
  cases hcommit with
  | executed hm =>
      rw [hm.frame]
      exact fun a ha hnew => absurd rfl (hnew a ha)
  | reconciled hphase howns hstatus hresult =>
      rw [reconcileEntity_frame hresult]
      exact fun a ha hnew => absurd rfl (hnew a ha)
  | @requested worker newId d c approvals w hphase =>
      obtain ⟨m, hm, rfl⟩ := Option.map_eq_some_iff.mp h
      rw [← hdb]
      rw [hphase] at hm
      simp only [approverStep] at hm
      split at hm
      · rename_i db' result hrequest
        cases hm
        intro a ha hnew
        have habout := ensureApprovalRequest_about hrequest a ha hnew
        obtain ⟨d', hd', hcopy⟩ := hok worker d hphase
        obtain ⟨hid, hcase, hresult, -, -⟩ := hcopy.columns
        exact ⟨d', hd', habout.decision_eq.trans hid, habout.case_eq.trans hcase,
          hresult.symm.trans habout.result⟩
      · cases hm
        exact fun a ha hnew => absurd rfl (hnew a ha)
  | @answered worker approval stored decision operator note c w hphase hc hstored hsame hpending
      hstate hw =>
      have hmem := Table.mem_of_get? hstored
      have hid : (stored.decided approval decision.decision operator note s.clock).id = stored.id :=
        rfl
      intro a ha hnew
      rcases (Table.mem_put_of_mem hmem hid).mp ha with ⟨ha, -⟩ | rfl
      · exact absurd rfl (hnew a ha)
      · exact absurd hid.symm (hnew stored hmem)
  | _ => exact fun a ha hnew => absurd rfl (hnew a ha)

/-! ### Actions and outcomes

An action is added by the transaction that claims it, with the proposal, the decision
and the approval it has checked. An observation and an attribution are added for the
action that was validated in the same transaction.
-/

theorem buildRecord_approval {c : PaymentCase} {proposal : StrategyProposal}
    {decision : PolicyDecision} {approval : Option ApprovalRequest}
    {inputs : CurrentAuthorizationInputs} {newId : Uuid} {now : Int} {r : RecoveryActionRecord}
    (h : buildRecord c proposal decision approval inputs newId now = .ok r) :
    r.approvalRequestId = approval.map ApprovalRequest.id := by
  unfold buildRecord at h
  split at h
  · obtain ⟨intent, -, h⟩ := bind_eq_ok.mp h
    cases h
    rfl
  · cases h
    rfl

/-- A decision that may be executed and asks for an approval has one, which is approved. -/
theorem isExecutionPermitted_approved {d : PolicyDecision} {approval : Option ApprovalRequest}
    (h : isExecutionPermitted d approval = true) : d.result ≠ .blocked ∧
      (d.result = .requiresApproval → ∃ a, approval = some a ∧ a.policyDecisionId = d.id ∧
        a.status = .approved) := by
  unfold isExecutionPermitted isExecutionAuthorized at h
  simp only [Bool.or_eq_true, Bool.and_eq_true, beq_iff_eq] at h
  rcases h with ⟨hresult, -⟩ | ⟨⟨hresult, -⟩, hany⟩
  · rw [hresult]
    exact ⟨by decide, fun h => (by cases h)⟩
  · refine ⟨by rw [hresult]; decide, fun _ => ?_⟩
    obtain ⟨a, rfl⟩ : ∃ a, approval = some a := by
      cases approval with
      | none => cases hany
      | some a => exact ⟨a, rfl⟩
    simp only [Option.any_some, Bool.and_eq_true, beq_iff_eq] at hany
    exact ⟨a, rfl, hany.1.2, hany.2⟩

theorem step_actions_founded {x : Run.Step System Label} (hhints : HintsOk x.pre)
    (hcustody : Custody x.pre.db) (h : step x.pre x.label = some x.post) :
    ∀ r ∈ x.post.db.recoveryActions, (∀ q ∈ x.pre.db.recoveryActions, q.id ≠ r.id) →
      ∃ d ∈ x.pre.db.policyDecisions, ∃ p ∈ x.pre.db.strategyProposals,
        d.About p ∧ r.About d p ∧ (d.result = .requiresApproval → r.Answered d x.pre.db) := by
  intro r hr hnew
  obtain ⟨worker, c, p, d, inputs, builtAt, record, hbuild, rfl⟩ := step_builds hhints h hr hnew
  obtain ⟨hp, hpcase, -⟩ := currentProposal_eq_some hbuild.authority.proposal_current
  obtain ⟨hd, hdcase, -⟩ := currentDecision_eq_some hbuild.authority.decision_current
  obtain ⟨hallowed, happroved⟩ := isExecutionPermitted_approved hbuild.authority.permitted
  obtain ⟨-, hcase, hdecision, hstrategy, haction, -⟩ := buildRecord_eq_ok hbuild.build
  have hdecides : d.About p := by
    obtain ⟨q, hq, habout⟩ := hcustody.decisions d hd
    have hid : q.id = p.id :=
      habout.proposal_eq.symm.trans (currentInputs_belongs hbuild.authority.inputs_eq)
    rwa [Table.eq_of_key_eq hq hp hid] at habout
  refine ⟨d, hd, p, hp, hdecides, ⟨hdecision, hstrategy, hcase.trans hdcase.symm, haction, hallowed⟩,
    fun hasks => ?_⟩
  obtain ⟨a, happroval, hadecision, hstatus⟩ := happroved hasks
  refine ⟨a, (Table.first?_mem happroval).1, ?_, hadecision, by rw [hstatus]; decide⟩
  show record.approvalRequestId = some a.id
  rw [buildRecord_approval hbuild.build, happroval]
  rfl

theorem Commit.observations_founded {s : System} {l : Label} {db' : Db}
    (hexecuted : Executed s.db) (h : Commit s l db') : ∀ o ∈ db'.outcomeObservations,
      (∀ q ∈ s.db.outcomeObservations, q.id ≠ o.id) → ∃ r ∈ s.db.recoveryActions, o.About r := by
  cases h with
  | executed hm =>
      rw [hm.frame]
      exact fun o ho hnew => absurd rfl (hnew o ho)
  | reconciled hphase howns hstatus hresult =>
      rw [reconcileEntity_frame hresult]
      exact fun o ho hnew => absurd rfl (hnew o ho)
  | @observed l claim snapshot source fresh action c attributions observation observations w
      hworker hobservable hevidence hinsert hw hmoves =>
      intro o ho hnew
      rcases (Table.insert?_mem hinsert).mp ho with ho | rfl
      · exact absurd rfl (hnew o ho)
      have haction := Table.mem_of_get? hobservable.action_eq
      have hid : action.id = claim.expected.recoveryActionId :=
        Table.get?_key hobservable.action_eq
      have hcase : c.id = action.caseId := Table.get?_key hobservable.case_eq
      have hdone := hexecuted.succeeded action haction hobservable.succeeded
      refine ⟨action, haction, ?_⟩
      cases hevidence <;> exact ⟨hid.symm, hcase, hobservable.link, hdone⟩
  | _ => exact fun o ho hnew => absurd rfl (hnew o ho)

theorem Commit.attributions_founded {s : System} {l : Label} {db' : Db} (h : Commit s l db') :
    ∀ a ∈ db'.attributions, (∀ b ∈ s.db.attributions, b.id ≠ a.id) →
      ∃ o ∈ db'.outcomeObservations, a.About o := by
  cases h with
  | executed hm =>
      rw [hm.frame]
      exact fun a ha hnew => absurd rfl (hnew a ha)
  | reconciled hphase howns hstatus hresult =>
      rw [reconcileEntity_frame hresult]
      exact fun a ha hnew => absurd rfl (hnew a ha)
  | @observed l claim snapshot source fresh action c attributions observation observations w
      hworker hobservable hevidence hinsert hw hmoves =>
      have hstored : observation ∈ observations := (Table.insert?_mem hinsert).mpr (.inr rfl)
      intro a ha hnew
      replace ha : a ∈ attributions := ha
      cases hevidence with
      | kept => exact absurd rfl (hnew a ha)
      | @attributed payment attributions classification hpayments hcaptured hamount hpaid hrecovered
          hpayment hopen hattributed =>
          rcases (Table.insert?_mem (insertAttribution_eq_some hattributed).1).mp ha with ha | rfl
          · exact absurd rfl (hnew a ha)
          · refine ⟨_, hstored, ?_⟩
            exact
              { observation_eq := rfl
                action_eq := rfl
                case_eq := rfl
                evidence_eq := rfl
                mode_eq := rfl
                recovered := hrecovered
                payment_eq := by simp [newObservation, newAttribution, hpayment]
                expected_eq := rfl
                paid_eq := hpaid.symm
                positive := hobservable.positive
                currency_eq := rfl }
  | _ => exact fun a ha hnew => absurd rfl (hnew a ha)

/-! ### Runs -/

theorem custody_trace {clock : Int} {tr : List (Run.Step System Label)} {s : System}
    (h : RunTrace clock tr s) : RequestsOk s ∧ Custody s.db := by
  induction h with
  | nil =>
      refine ⟨fun worker d hphase => (by cases hphase), ?_⟩
      exact
        { proposals := fun p hp => absurd hp (Table.not_mem_empty p)
          decisions := fun d hd => absurd hd (Table.not_mem_empty d)
          approvals := fun a ha => absurd ha (Table.not_mem_empty a)
          actions := fun r hr => absurd hr (Table.not_mem_empty r)
          observations := fun o ho => absurd ho (Table.not_mem_empty o)
          attributions := fun a ha => absurd ha (Table.not_mem_empty a) }
  | @snoc tr s s' l htr hs ih =>
      obtain ⟨hrequests, hcustody⟩ := ih
      have htracked := tracked_trace htr
      have hcommit := step_commit htracked.hints hs
      refine ⟨requestsOk_step htracked.hints hrequests hs,
        hcustody.later (step_later (x := ⟨s, l, s'⟩) htracked hs) ?_⟩
      exact
        { proposals := step_proposals_founded htracked.hints hs
          decisions := step_decisions_founded htracked.hints hs
          approvals := step_approvals_founded htracked.hints hrequests hs
          actions := step_actions_founded (x := ⟨s, l, s'⟩) htracked.hints hcustody hs
          observations := hcommit.observations_founded htracked.executed
          attributions := hcommit.attributions_founded }

/-- The rows a counted amount goes back to, from its observation to its case. -/
structure Traced (db : Db) (a : RecoveryAttribution) (o : RecoveryOutcomeObservation)
    (r : RecoveryActionRecord) (d : PolicyDecision) (p : StrategyProposal) (c : PaymentCase) :
    Prop where
  observation : o ∈ db.outcomeObservations ∧ a.About o
  action : r ∈ db.recoveryActions ∧ o.About r
  decision : d ∈ db.policyDecisions ∧ r.About d p
  proposal : p ∈ db.strategyProposals ∧ d.About p ∧ p.action = .createRecoveryLink
  approval : d.result = .requiresApproval → r.Answered d db
  case_mem : c ∈ db.cases
  one_case : a.caseId = c.id ∧ o.caseId = c.id ∧ r.caseId = c.id ∧ d.caseId = c.id ∧
    p.caseId = c.id

/--
**Every counted amount has its chain of custody**: in every reachable state each row rests on
the rows it names, and from an attribution they lead back to the case it is counted for.
-/
theorem revenue_traced {clock : Int} {tr : List (Run.Step System Label)} {s : System}
    (h : RunTrace clock tr s) : Custody s.db ∧
      ∀ a ∈ s.db.attributions, ∃ o r d p c, Traced s.db a o r d p c := by
  obtain ⟨-, hcustody⟩ := custody_trace h
  refine ⟨hcustody, fun a ha => ?_⟩
  obtain ⟨o, ho, hcounts⟩ := hcustody.attributions a ha
  obtain ⟨r, hr, hobserves⟩ := hcustody.observations o ho
  obtain ⟨d, hd, p, hp, hdecides, hrests, hanswered⟩ := hcustody.actions r hr
  obtain ⟨c, hc, hcase⟩ := hcustody.proposals p hp
  have hd' : d.caseId = c.id := hdecides.case_eq.trans hcase
  have hr' : r.caseId = c.id := hrests.case_eq.trans hd'
  have ho' : o.caseId = c.id := hobserves.case_eq.trans hr'
  exact ⟨o, r, d, p, c,
    { observation := ⟨ho, hcounts⟩
      action := ⟨hr, hobserves⟩
      decision := ⟨hd, hrests⟩
      proposal := ⟨hp, hdecides, hrests.action_eq.symm.trans hobserves.link⟩
      approval := hanswered
      case_mem := hc
      one_case := ⟨hcounts.case_eq.trans ho', ho', hr', hd', hcase⟩ }⟩

end

section

attribute [local instance] asciiPlatform

/-- The amount a run recovers, and where it comes from. -/
theorem revenue_traced_recovered : ∃ tr s, RunTrace 0 tr s ∧
    tr.map Run.Step.label = recoveredRun ∧ s.db.attributions.rows.length = 1 ∧
    ∀ a ∈ s.db.attributions, ∃ o r d p c, Traced s.db a o r d p c := by
  have hrun : (Run.replay step (System.initial 0) recoveredRun).isSome = true := by decide +kernel
  obtain ⟨tr, s, htr, hlabels, hs⟩ := Run.Trace.of_isSome hrun
  have hrows : ((Run.replay step (System.initial 0) recoveredRun).map fun s =>
      s.db.attributions.rows.length) = some 1 := by decide +kernel
  rw [hs, Option.map_some, Option.some.injEq] at hrows
  exact ⟨tr, s, htr, hlabels, hrows, (revenue_traced htr).2⟩

end

end Arc
