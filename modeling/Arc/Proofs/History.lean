/-
What a run never takes back.

Every table of the schema is kept as evidence.  No step deletes a row, and each table has
its own columns that nothing writes again: what a delivery said, what a proposal, a
decision or an action was built from, what an operator was asked.  A row that has come to
its end stays there: a processed event, a superseded proposal, an answered request, a
final action, a closed case.  Observations, attributions and the audit trail are never
written again at all.

Each table has one lemma for one step; `Db.Later` holds them together, and it composes
along a run.
-/
import Arc.Proofs.Approvals
import Arc.Proofs.Attempts
import Arc.Proofs.Ledger
import Arc.Proofs.Requests
import Arc.Proofs.Strategies
import Arc.Store.Later

namespace Arc

open Store

/-! ### Versions of a row

For every table there is a relation between a row and a later version of it: the columns
that nothing writes again are equal, and the others may move in one direction only. Each
is a preorder, which is all that a run needs of it.
-/

section

variable [Platform]

/-- A case and a later version of it. -/
structure PaymentCase.Continues (c c' : PaymentCase) : Prop where
  reference_eq : c'.caseReference = c.caseReference
  merchant_eq : c'.merchantId = c.merchantId
  detected_eq : c'.detectedAt = c.detectedAt
  moved : ∃ changes, Chain c.currentState changes c'.currentState
  attempts_le : c.attemptCount ≤ c'.attemptCount
  contacts_le : c.contactAttemptCount ≤ c'.contactAttemptCount
  read_le : ∀ r, c.lastReconciledAt = some r → ∃ r', c'.lastReconciledAt = some r' ∧ r ≤ r'

theorem PaymentCase.Continues.refl (c : PaymentCase) : c.Continues c :=
  ⟨rfl, rfl, rfl, ⟨[], .nil _⟩, le_refl _, le_refl _, fun r hr => ⟨r, hr, le_refl r⟩⟩

theorem PaymentCase.Continues.trans (c c' c'' : PaymentCase) (h : c.Continues c')
    (h' : c'.Continues c'') : c.Continues c'' := by
  obtain ⟨changes, hchain⟩ := h.moved
  obtain ⟨changes', hchain'⟩ := h'.moved
  refine ⟨h'.reference_eq.trans h.reference_eq, h'.merchant_eq.trans h.merchant_eq,
    h'.detected_eq.trans h.detected_eq, ⟨_, hchain.append hchain'⟩,
    h.attempts_le.trans h'.attempts_le, h.contacts_le.trans h'.contacts_le, fun r hr => ?_⟩
  obtain ⟨r', hr', hle⟩ := h.read_le r hr
  obtain ⟨r'', hr'', hle'⟩ := h'.read_le r' hr'
  exact ⟨r'', hr'', hle.trans hle'⟩

/-- A closed case stays as it was closed. -/
theorem PaymentCase.Continues.closed {c c' : PaymentCase} (h : c.Continues c')
    (hclosed : c.currentState ∈ terminalCaseStates) : c'.currentState = c.currentState := by
  obtain ⟨changes, hchain⟩ := h.moved
  exact (hchain.eq_nil_of_terminal hclosed).2

/-- An event of the ledger and a later version of it. -/
structure WebhookEvent.Continues (e e' : WebhookEvent) : Prop where
  delivered_eq : e'.delivered = e.delivered
  attempts_le : e.processingAttemptCount ≤ e'.processingAttemptCount
  processed : e.processingStatus = .processed → e' = e

theorem WebhookEvent.Continues.refl (e : WebhookEvent) : e.Continues e :=
  ⟨rfl, le_refl _, fun _ => rfl⟩

theorem WebhookEvent.Continues.trans (e e' e'' : WebhookEvent) (h : e.Continues e')
    (h' : e'.Continues e'') : e.Continues e'' := by
  refine ⟨h'.delivered_eq.trans h.delivered_eq, h.attempts_le.trans h'.attempts_le, fun hdone => ?_⟩
  obtain rfl := h.processed hdone
  exact h'.processed hdone

/-- A proposal and a later version of it. -/
structure StrategyProposal.Continues (p p' : StrategyProposal) : Prop where
  reopened_eq : p'.reopened = p.reopened
  superseded : p.supersededAt ≠ none → p' = p

theorem StrategyProposal.Continues.refl (p : StrategyProposal) : p.Continues p :=
  ⟨rfl, fun _ => rfl⟩

theorem StrategyProposal.Continues.trans (p p' p'' : StrategyProposal) (h : p.Continues p')
    (h' : p'.Continues p'') : p.Continues p'' := by
  refine ⟨h'.reopened_eq.trans h.reopened_eq, fun hended => ?_⟩
  obtain rfl := h.superseded hended
  exact h'.superseded hended

/-- The policy of a merchant and a later one of the same merchant. -/
structure MerchantPolicy.Continues (p p' : MerchantPolicy) : Prop where
  merchant_eq : p'.merchantId = p.merchantId

omit [Platform] in
theorem MerchantPolicy.Continues.refl (p : MerchantPolicy) : p.Continues p := ⟨rfl⟩

omit [Platform] in
theorem MerchantPolicy.Continues.trans (p p' p'' : MerchantPolicy) (h : p.Continues p')
    (h' : p'.Continues p'') : p.Continues p'' := ⟨h'.merchant_eq.trans h.merchant_eq⟩

/-- A decision and a later version of it, which may be superseded, or current again. -/
structure PolicyDecision.Continues (d d' : PolicyDecision) : Prop where
  reactivated_eq : d'.reactivated = d.reactivated

theorem PolicyDecision.Continues.refl (d : PolicyDecision) : d.Continues d := ⟨rfl⟩

theorem PolicyDecision.Continues.trans (d d' d'' : PolicyDecision) (h : d.Continues d')
    (h' : d'.Continues d'') : d.Continues d'' := ⟨h'.reactivated_eq.trans h.reactivated_eq⟩

/-- A request for approval and a later version of it. -/
structure ApprovalRequest.Continues (a a' : ApprovalRequest) : Prop extends a.SameRequest a' where
  requested_eq : a'.requestedAt = a.requestedAt
  answered : a.status ≠ .pending → a'.status ≠ .pending
  decided : a.decidedAt ≠ none → a'.decidedAt ≠ none

omit [Platform] in
theorem ApprovalRequest.Continues.refl (a : ApprovalRequest) : a.Continues a :=
  ⟨⟨rfl, rfl, rfl⟩, rfl, fun h => h, fun h => h⟩

omit [Platform] in
theorem ApprovalRequest.Continues.trans (a a' a'' : ApprovalRequest) (h : a.Continues a')
    (h' : a'.Continues a'') : a.Continues a'' :=
  ⟨⟨h.id_eq.trans h'.id_eq, h.case_eq.trans h'.case_eq, h.decision_eq.trans h'.decision_eq⟩,
    h'.requested_eq.trans h.requested_eq, fun h₀ => h'.answered (h.answered h₀),
    fun h₀ => h'.decided (h.decided h₀)⟩

/-- An action and a later version of it. -/
structure RecoveryActionRecord.Continues (r r' : RecoveryActionRecord) : Prop
    extends r.Retains r' where
  attempts_le : r.executionAttemptCount ≤ r'.executionAttemptCount
  approval_eq : r'.approvalRequestId = r.approvalRequestId
  executed : r.executedAt ≠ none → r'.executedAt ≠ none

theorem RecoveryActionRecord.Continues.refl (r : RecoveryActionRecord) : r.Continues r :=
  ⟨.refl r, le_refl _, rfl, fun h => h⟩

theorem RecoveryActionRecord.Continues.trans (r r' r'' : RecoveryActionRecord)
    (h : r.Continues r') (h' : r'.Continues r'') : r.Continues r'' :=
  ⟨h.toRetains.trans h'.toRetains, h.attempts_le.trans h'.attempts_le,
    h'.approval_eq.trans h.approval_eq, fun h₀ => h'.executed (h.executed h₀)⟩

/-! ### Versions of a database -/

/-- A database and what a run may make of it. -/
structure Db.Later (db db' : Db) : Prop where
  cases : db.cases.Later PaymentCase.Continues db'.cases
  caseEvents : db.caseEvents <+: db'.caseEvents
  webhookEvents : db.webhookEvents.Later WebhookEvent.Continues db'.webhookEvents
  strategyProposals : db.strategyProposals.Later StrategyProposal.Continues db'.strategyProposals
  merchantPolicies : db.merchantPolicies.Later MerchantPolicy.Continues db'.merchantPolicies
  policyDecisions : db.policyDecisions.Later PolicyDecision.Continues db'.policyDecisions
  approvalRequests : db.approvalRequests.Later ApprovalRequest.Continues db'.approvalRequests
  recoveryActions : db.recoveryActions.Later RecoveryActionRecord.Continues db'.recoveryActions
  outcomeObservations : db.outcomeObservations.Later Eq db'.outcomeObservations
  attributions : db.attributions.Later Eq db'.attributions

theorem Db.Later.refl (db : Db) : db.Later db where
  cases := .refl PaymentCase.Continues.refl _
  caseEvents := List.prefix_refl _
  webhookEvents := .refl WebhookEvent.Continues.refl _
  strategyProposals := .refl StrategyProposal.Continues.refl _
  merchantPolicies := .refl MerchantPolicy.Continues.refl _
  policyDecisions := .refl PolicyDecision.Continues.refl _
  approvalRequests := .refl ApprovalRequest.Continues.refl _
  recoveryActions := .refl RecoveryActionRecord.Continues.refl _
  outcomeObservations := .refl Eq.refl _
  attributions := .refl Eq.refl _

theorem Db.Later.trans {db db' db'' : Db} (h : db.Later db') (h' : db'.Later db'') :
    db.Later db'' where
  cases := h.cases.trans PaymentCase.Continues.trans h'.cases
  caseEvents := h.caseEvents.trans h'.caseEvents
  webhookEvents := h.webhookEvents.trans WebhookEvent.Continues.trans h'.webhookEvents
  strategyProposals :=
    h.strategyProposals.trans StrategyProposal.Continues.trans h'.strategyProposals
  merchantPolicies := h.merchantPolicies.trans MerchantPolicy.Continues.trans h'.merchantPolicies
  policyDecisions := h.policyDecisions.trans PolicyDecision.Continues.trans h'.policyDecisions
  approvalRequests := h.approvalRequests.trans ApprovalRequest.Continues.trans h'.approvalRequests
  recoveryActions :=
    h.recoveryActions.trans RecoveryActionRecord.Continues.trans h'.recoveryActions
  outcomeObservations := h.outcomeObservations.trans (fun _ _ _ => Eq.trans) h'.outcomeObservations
  attributions := h.attributions.trans (fun _ _ _ => Eq.trans) h'.attributions

/-! ### The ledger -/

/-- An event that is in processing, or processed, is of a type the processor supports. -/
def WebhookEvent.Supported (e : WebhookEvent) : Prop :=
  e.processingStatus = .processing ∨ e.processingStatus = .processed →
    e.eventType ∈ supportedRazorpayEvents

/-- What a step writes into one event of the ledger. -/
inductive EventWritten (s : System) (e : WebhookEvent) : WebhookEvent → Prop
  | unsupported
      (h : e.processingStatus = .unsupported ∨ e.eventType ∉ supportedRazorpayEvents) :
      EventWritten s e { e with processingStatus := .unsupported }
  | claimed (hclaim : Claimable e s.clock) : EventWritten s e (e.claim s.clock)
  | finished (hstatus : e.processingStatus = .processing) : EventWritten s e (e.finish s.clock)
  | failed {safeError : String} (hopen : e.processingStatus ≠ .processed) :
      EventWritten s e (e.failedWith safeError s.clock)

theorem EventWritten.delivered_eq {s : System} {e e' : WebhookEvent} (h : EventWritten s e e') :
    e'.delivered = e.delivered := by
  cases h <;> rfl

theorem EventWritten.supported {s : System} {e e' : WebhookEvent} (h : EventWritten s e e')
    (he : e.Supported) : e'.Supported := by
  cases h with
  | unsupported h => simp [WebhookEvent.Supported]
  | claimed hclaim => exact fun _ => hclaim.type
  | finished hstatus => exact fun _ => he (.inl hstatus)
  | failed hopen => simp [WebhookEvent.Supported, WebhookEvent.failedWith]

theorem EventWritten.continues {s : System} {e e' : WebhookEvent} (h : EventWritten s e e')
    (he : e.Supported) : e.Continues e' := by
  refine ⟨h.delivered_eq, ?_, fun hdone => ?_⟩
  · cases h <;> simp [WebhookEvent.claim, WebhookEvent.finish, WebhookEvent.failedWith]
  · cases h with
    | unsupported h =>
        have hstatus : e.processingStatus ≠ .unsupported := by simp [hdone]
        exact absurd (he (.inr hdone)) (h.resolve_left hstatus)
    | claimed hclaim => exact absurd hdone hclaim.not_processed
    | finished hstatus =>
        rw [hstatus] at hdone
        cases hdone
    | failed hopen => exact absurd hdone hopen

/-- What a step makes of the ledger. -/
inductive EventsWritten (s : System) : Table WebhookEvent → Prop
  | same : EventsWritten s s.db.webhookEvents
  | received {e : WebhookEvent} {events : Table WebhookEvent}
      (hinsert : s.db.webhookEvents.insert? e = some events)
      (hstatus : e.processingStatus = .received ∨ e.processingStatus = .unsupported) :
      EventsWritten s events
  | written {e e' : WebhookEvent} (he : e ∈ s.db.webhookEvents) (h : EventWritten s e e') :
      EventsWritten s (s.db.webhookEvents.put e')

theorem Commit.eventsWritten {s : System} {l : Label} {db' : Db} (h : Commit s l db') :
    EventsWritten s db'.webhookEvents := by
  cases h with
  | executed h =>
      rw [h.frame]
      exact .same
  | ingested hinsert hstatus hattempt => exact .received hinsert hstatus
  | unsupported hphase hstored hunsupported =>
      exact .written (Table.mem_of_get? hstored) (.unsupported hunsupported)
  | eventClaimed hphase hstored hclaim =>
      exact .written (Table.mem_of_get? hstored) (.claimed hclaim)
  | eventFinished hphase howns hstatus =>
      exact .written (Table.mem_of_get? howns.stored) (.finished hstatus)
  | eventFailed hphase howns =>
      exact .written (Table.mem_of_get? howns.stored) (.failed howns.not_processed)
  | reconciled hphase howns hstatus hresult =>
      have hframe := congrArg Db.webhookEvents (reconcileEntity_frame hresult)
      simp only at hframe
      rw [hframe]
      exact .written (Table.mem_of_get? howns.stored) (.finished hstatus)
  | _ => exact .same

theorem EventsWritten.supported {s : System} {events : Table WebhookEvent}
    (h : EventsWritten s events) (hok : ∀ e ∈ s.db.webhookEvents, e.Supported) :
    ∀ e ∈ events, e.Supported := by
  cases h with
  | same => exact hok
  | @received e events hinsert hstatus =>
      intro x hx
      rcases (Table.insert?_mem hinsert).mp hx with hx | rfl
      · exact hok x hx
      · rcases hstatus with hstatus | hstatus <;> simp [WebhookEvent.Supported, hstatus]
  | @written e e' he h =>
      intro x hx
      rcases (Table.mem_put_of_mem he (id_of_delivered h.delivered_eq)).mp hx with ⟨hx, -⟩ | rfl
      · exact hok x hx
      · exact h.supported (hok e he)

/-- A processed event is never written again, and what was delivered never is. -/
theorem EventsWritten.later {s : System} {events : Table WebhookEvent}
    (h : EventsWritten s events) (hok : ∀ e ∈ s.db.webhookEvents, e.Supported) :
    s.db.webhookEvents.Later WebhookEvent.Continues events := by
  cases h with
  | same => exact .refl WebhookEvent.Continues.refl _
  | received hinsert hstatus => exact .insert WebhookEvent.Continues.refl hinsert
  | @written e e' he h =>
      exact .put WebhookEvent.Continues.refl he (id_of_delivered h.delivered_eq)
        (h.continues (hok e he))

/-! ### From the proposal to the action

These rows are written by several services each. What they write is read back from the
transactions, and the lemmas put it in terms of the relation: a proposal or a decision
is superseded, a request is answered, an action settles.
-/

/-- A proposal that is superseded by now is as it was. -/
theorem StrategyProposal.after_continues {db : Db} {caseId : Uuid} (at' : Int)
    {p : StrategyProposal} (hp : p ∈ db.strategyProposals) :
    p.Continues (p.after (db.currentProposal caseId) at') := by
  refine ⟨p.after_reopened _ _, fun hended => ?_⟩
  unfold StrategyProposal.after
  cases hcurrent : db.currentProposal caseId with
  | none => rfl
  | some current =>
      obtain ⟨hmem, -, hopen⟩ := currentProposal_eq_some hcurrent
      have hother : current.id ≠ p.id := by
        intro hid
        rw [Table.eq_of_key_eq hp hmem hid.symm] at hended
        exact hended hopen
      simp [hother]

theorem step_proposals_later {s s' : System} {l : Label} (hhints : HintsOk s)
    (h : step s l = some s') :
    s.db.strategyProposals.Later StrategyProposal.Continues s'.db.strategyProposals := by
  rcases step_proposals hhints h with hsame | ⟨worker, snapshot, modelResult, newId, hpersist⟩
  · exact .of_eq StrategyProposal.Continues.refl hsame
  rcases hpersist.persisted h with hdb | ⟨outcome, -, hpersisted⟩
  · replace hdb : s'.db = s.db := hdb
    exact .of_eq StrategyProposal.Continues.refl (congrArg Db.strategyProposals hdb)
  replace hpersisted : Persisted s.db snapshot modelResult newId s.clock s'.db outcome := hpersisted
  generalize s'.db = db' at hpersisted ⊢
  cases hpersisted with
  | discarded hc => exact .refl StrategyProposal.Continues.refl _
  | identical hc hcurrent hexisting => exact .refl StrategyProposal.Continues.refl _
  | @accepted c action proposals w hok hreplace hw hstate =>
      obtain ⟨-, hinsert⟩ := (replaceProposal_eq_ok currentProposal_mem).mp hreplace
      intro p hp
      refine ⟨p.after (s.db.currentProposal c.id) s.clock, ?_, p.after_id _ _,
        p.after_continues s.clock hp⟩
      exact (Table.insert?_mem hinsert).mpr
        (.inl ((mem_supersedeCurrent currentProposal_mem).mpr ⟨p, hp, rfl⟩))

theorem step_decisions_later {s s' : System} {l : Label} (hhints : HintsOk s)
    (h : step s l = some s') :
    s.db.policyDecisions.Later PolicyDecision.Continues s'.db.policyDecisions := by
  intro d hd
  obtain ⟨d', hd', hsame⟩ := step_decision_kept hhints h hd
  have hid := congrArg PolicyDecision.id hsame
  exact ⟨d', hd', hid, ⟨hsame⟩⟩

/-- The operator writes the policy of a merchant under the key it has. -/
theorem setMerchantPolicy_later (db : Db) (policy : MerchantPolicy) :
    db.merchantPolicies.Later MerchantPolicy.Continues
      (setMerchantPolicy db policy).merchantPolicies := by
  unfold setMerchantPolicy
  split
  · rename_i stored hstored
    obtain ⟨hmem, hmerchant⟩ := Table.first?_mem hstored
    rw [beq_iff_eq] at hmerchant
    exact .put MerchantPolicy.Continues.refl hmem rfl ⟨hmerchant.symm⟩
  · split
    · rename_i hinsert
      exact .insert MerchantPolicy.Continues.refl hinsert
    · exact .refl MerchantPolicy.Continues.refl _

theorem step_policies_later {s s' : System} {l : Label} (hhints : HintsOk s)
    (h : step s l = some s') :
    s.db.merchantPolicies.Later MerchantPolicy.Continues s'.db.merchantPolicies := by
  have hcommit := step_commit hhints h
  generalize hdb : s'.db = db' at hcommit ⊢
  cases hcommit with
  | executed hm =>
      rw [hm.frame]
      exact .refl MerchantPolicy.Continues.refl _
  | reconciled hphase howns hstatus hresult =>
      rw [reconcileEntity_frame hresult]
      exact .refl MerchantPolicy.Continues.refl _
  | @policies policy policies =>
      cases h
      rw [← hdb]
      exact setMerchantPolicy_later s.db policy
  | _ => exact .refl MerchantPolicy.Continues.refl _

/-- The columns of a request that an answer leaves, and that it has been answered. -/
def ApprovalRequest.StaysAsked (a a' : ApprovalRequest) : Prop :=
  a.SameRequest a' ∧ a'.requestedAt = a.requestedAt ∧ (a.decidedAt ≠ none → a'.decidedAt ≠ none)

omit [Platform] in
theorem ApprovalRequest.StaysAsked.refl (a : ApprovalRequest) : a.StaysAsked a :=
  ⟨⟨rfl, rfl, rfl⟩, rfl, fun h => h⟩

/-- What was asked of an operator stays asked. -/
theorem Commit.requests_later {s : System} {l : Label} {db' : Db} (h : Commit s l db') :
    s.db.approvalRequests.Later ApprovalRequest.StaysAsked db'.approvalRequests := by
  cases h with
  | executed h =>
      rw [h.frame]
      exact .refl ApprovalRequest.StaysAsked.refl _
  | reconciled hphase howns hstatus hresult =>
      rw [reconcileEntity_frame hresult]
      exact .refl ApprovalRequest.StaysAsked.refl _
  | requested hphase hc hstate hnone hinsert hw =>
      exact .insert ApprovalRequest.StaysAsked.refl hinsert
  | answered hphase hc hstored hsame hpending hstate hw =>
      refine .put ApprovalRequest.StaysAsked.refl (Table.mem_of_get? hstored) rfl ?_
      exact ⟨⟨rfl, rfl, rfl⟩, rfl, fun _ => by simp [ApprovalRequest.decided]⟩
  | _ => exact .refl ApprovalRequest.StaysAsked.refl _

theorem step_approvals_later {s s' : System} {l : Label} (hhints : HintsOk s)
    (hone : OneCurrent s.db.policyDecisions) (h : step s l = some s') :
    s.db.approvalRequests.Later ApprovalRequest.Continues s'.db.approvalRequests := by
  have hwritten := step_approvals hhints hone h
  intro a ha
  obtain ⟨a', ha', hid, hsame, hrequested, hdecided⟩ := (step_commit hhints h).requests_later a ha
  refine ⟨a', ha', hid, hsame, hrequested, fun hanswered => ?_, hdecided⟩
  obtain ⟨b, hb, hbid, hfinal⟩ := hwritten.final ⟨a, ha, rfl, hanswered⟩
  rwa [← Table.eq_of_key_eq ha' hb (hid.trans hbid.symm)] at hfinal

/-- The columns of a row that an execution leaves: its approval, and that it was executed. -/
def RecoveryActionRecord.Settles (r r' : RecoveryActionRecord) : Prop :=
  r'.approvalRequestId = r.approvalRequestId ∧ (r.executedAt ≠ none → r'.executedAt ≠ none)

theorem RecoveryActionRecord.Settles.refl (r : RecoveryActionRecord) : r.Settles r :=
  ⟨rfl, fun h => h⟩

theorem RecoveryActionRecord.Settles.trans (r r' r'' : RecoveryActionRecord) (h : r.Settles r')
    (h' : r'.Settles r'') : r.Settles r'' :=
  ⟨h'.1.trans h.1, fun h₀ => h'.2 (h.2 h₀)⟩

theorem InternalOutcome.settles {db : Db} {c : PaymentCase} {record record' : RecoveryActionRecord}
    {now : Int} {w : CaseWork} (h : InternalOutcome db c record now record' w) :
    record.Settles record' := by
  cases h with
  | done hstate hw => exact ⟨rfl, fun _ => by simp⟩
  | _ => exact ⟨rfl, fun h => h⟩

theorem LinkOutcome.settles {db : Db} {c : PaymentCase} {record record' : RecoveryActionRecord}
    {snapshot : PaymentLinkSnapshot} {now : Int} {required : Bool} {w : CaseWork}
    (h : LinkOutcome db c record snapshot now required record' w) : record.Settles record' := by
  cases h with
  | succeeded hcontext hrow hw => exact ⟨rfl, fun _ => by simp [RecoveryActionRecord.succeededWith]⟩
  | stale hcontext => exact ⟨rfl, fun h => h⟩

theorem compensatedRecord_settles (record : RecoveryActionRecord) (original : PaymentLinkSnapshot)
    (outcome : CancellationOutcome) :
    record.Settles (compensatedRecord record original outcome).1 := by
  cases outcome <;> exact ⟨rfl, fun h => h⟩

theorem ExecutorStep.settles {s : System} {phase : ExecutorPhase} {l : ExecutorLabel}
    {m : ExecutorMove} (h : ExecutorStep s phase l m) :
    s.db.recoveryActions.Later RecoveryActionRecord.Settles m.db.recoveryActions := by
  have hrefl := RecoveryActionRecord.Settles.refl
  cases h with
  | claimed hnow h =>
      cases h with
      | @built c proposal decision inputs record records hid hauth hnone hbuild hinsert =>
          have hinserted := (insertRecord_eq_ok hinsert).1
          have hmem : record ∈ records := (Table.insert?_mem hinserted).mpr (.inr rfl)
          exact (Table.Later.insert hrefl hinserted).trans RecoveryActionRecord.Settles.trans
            (.put hrefl hmem rfl ⟨rfl, fun h => h⟩)
      | stored hid hauth hsome hopen hvalid hlease =>
          exact .put hrefl (actionFor_eq_some hsome).1 rfl ⟨rfl, fun h => h⟩
  | internal hnow haction hlocked hopen h =>
      exact .put hrefl (Table.mem_of_get? hlocked.record_eq) h.retains.id_eq h.settles
  | problem hnow hlocked hopen =>
      exact .put hrefl (Table.mem_of_get? hlocked.record_eq) rfl ⟨rfl, fun h => h⟩
  | finalized hnow hlocked h hfree =>
      exact .put hrefl (Table.mem_of_get? hlocked.record_eq) h.retains.id_eq h.settles
  | compensated hlocked hfree =>
      exact .put hrefl (Table.mem_of_get? hlocked.record_eq)
        (compensatedRecord_retains _ _ _).id_eq (compensatedRecord_settles _ _ _)
  | _ => exact .refl hrefl _

theorem Commit.settles {s : System} {l : Label} {db' : Db} (h : Commit s l db') :
    s.db.recoveryActions.Later RecoveryActionRecord.Settles db'.recoveryActions := by
  have hrefl := RecoveryActionRecord.Settles.refl
  cases h with
  | executed h => exact h.settles
  | reconciled hphase howns hstatus hresult =>
      rw [reconcileEntity_frame hresult]
      exact .refl hrefl _
  | observed hworker hobservable hevidence hinsert hw hmoves =>
      exact .put hrefl (Table.mem_of_get? hobservable.action_eq) rfl ⟨rfl, fun h => h⟩
  | _ => exact .refl hrefl _

theorem Commit.actions_later {s : System} {l : Label} {db' : Db} (h : Commit s l db') :
    s.db.recoveryActions.Later RecoveryActionRecord.Continues db'.recoveryActions := by
  intro r hr
  obtain ⟨r', hr', hkept⟩ := h.retained hr
  obtain ⟨r'', hr'', hsame, hcount⟩ := h.persists hr
  obtain rfl : r'' = r' :=
    Table.eq_of_key_eq hr'' hr' (hsame.id_eq.trans hkept.id_eq.symm)
  obtain ⟨happroval, hexecuted⟩ := h.settles.row hr hr' hkept.id_eq
  exact ⟨r'', hr'', hsame.id_eq, hkept, hcount, happroval, hexecuted⟩

/-! ### Outcomes -/

theorem Evidence.attributions_later {db : Db} {claim : ObservationClaim}
    {snapshot : PaymentLinkSnapshot} {source : OutcomeObservationSource} {fresh : ObservationFresh}
    {action : RecoveryActionRecord} {c : PaymentCase} {attributions : Table RecoveryAttribution}
    {observation : RecoveryOutcomeObservation}
    (h : Evidence db claim snapshot source fresh action c attributions observation) :
    db.attributions.Later Eq attributions := by
  cases h with
  | kept => exact .refl Eq.refl _
  | attributed _ _ _ _ _ _ _ hinsert =>
      exact .insert Eq.refl (insertAttribution_eq_some hinsert).1

theorem Commit.outcomes_later {s : System} {l : Label} {db' : Db} (h : Commit s l db') :
    s.db.outcomeObservations.Later Eq db'.outcomeObservations ∧
      s.db.attributions.Later Eq db'.attributions := by
  cases h with
  | executed h =>
      rw [h.frame]
      exact ⟨.refl Eq.refl _, .refl Eq.refl _⟩
  | reconciled hphase howns hstatus hresult =>
      rw [reconcileEntity_frame hresult]
      exact ⟨.refl Eq.refl _, .refl Eq.refl _⟩
  | observed hworker hobservable hevidence hinsert hw hmoves =>
      exact ⟨.insert Eq.refl hinsert, hevidence.attributions_later⟩
  | _ => exact ⟨.refl Eq.refl _, .refl Eq.refl _⟩

/-! ### Cases

The effect of a transaction on a case is known as a chain of transitions, from which the
later version follows. The counters need the executor's own lemma, since a delivery is
the one transaction that moves them.
-/

/-- A report leaves the birth of its case alone. -/
theorem Reported.birth {reference : CaseReference} {upd : PaymentCase → PaymentCase} {db db' : Db}
    (hupd : ∀ c, (upd c).merchantId = c.merchantId ∧ (upd c).detectedAt = c.detectedAt)
    (h : Reported reference upd db db') {c c' : PaymentCase} (hc : c ∈ db.cases)
    (hc' : c' ∈ db'.cases) (hid : c'.id = c.id) :
    c'.merchantId = c.merchantId ∧ c'.detectedAt = c.detectedAt := by
  cases h with
  | ignored hnone hdb =>
      rw [hdb] at hc'
      rw [Table.eq_of_key_eq hc' hc hid]
      exact ⟨rfl, rfl⟩
  | @worked c₀ w hc₀ href hw htruth hdb =>
      rw [hdb] at hc'
      rcases (Table.mem_put_of_mem hc₀ hw.id_eq).mp hc' with ⟨hc', -⟩ | rfl
      · rw [Table.eq_of_key_eq hc' hc hid]
        exact ⟨rfl, rfl⟩
      · obtain rfl : c₀ = c := Table.eq_of_key_eq hc₀ hc (hw.id_eq.symm.trans hid)
        obtain ⟨hmerchant, hdetected⟩ := hupd c₀
        exact ⟨(congrArg CaseTruth.merchantId htruth).trans hmerchant,
          (congrArg CaseTruth.detectedAt htruth).trans hdetected⟩
  | @created row cases w hinsert hnone href hstate hw htruth hdb =>
      rw [hdb] at hc'
      have hrow : row ∈ cases := (Table.insert?_mem hinsert).mpr (.inr rfl)
      have hfresh : c.id ≠ row.id := Table.insert?_fresh hinsert hc
      rcases (Table.mem_put_of_mem hrow hw.id_eq).mp hc' with ⟨hc', hne⟩ | rfl
      · rcases (Table.insert?_mem hinsert).mp hc' with hc' | rfl
        · rw [Table.eq_of_key_eq hc' hc hid]
          exact ⟨rfl, rfl⟩
        · exact absurd hid.symm hfresh
      · exact absurd (hid.symm.trans hw.id_eq) hfresh

theorem reconcileEntity_birth {db : Db} {event : WebhookEvent} {snapshot : EntitySnapshot}
    {fresh : Fresh} {now : Int} {result : ReconciliationResult}
    (h : reconcileEntity db event snapshot fresh now = .ok result) {c c' : PaymentCase}
    (hc : c ∈ db.cases) (hc' : c' ∈ result.db.cases) (hid : c'.id = c.id) :
    c'.merchantId = c.merchantId ∧ c'.detectedAt = c.detectedAt := by
  cases snapshot with
  | inl payment =>
      obtain ⟨-, reference, -, hreported⟩ := reconcilePayment_eq_ok h
      refine hreported.birth ?_ hc hc' hid
      exact fun _ => ⟨rfl, rfl⟩
  | inr subscription =>
      obtain ⟨-, reference, -, hreported⟩ := reconcileSubscription_eq_ok h
      refine hreported.birth ?_ hc hc' hid
      exact fun _ => ⟨rfl, rfl⟩

theorem step_birth {s s' : System} {l : Label} (hhints : HintsOk s) (hheld : HeldOk s)
    (h : step s l = some s') {c c' : PaymentCase} (hc : c ∈ s.db.cases) (hc' : c' ∈ s'.db.cases)
    (hid : c'.id = c.id) : c'.merchantId = c.merchantId ∧ c'.detectedAt = c.detectedAt := by
  have hcommit := step_commit hhints h
  have hsame : c' ∈ s.db.cases → c'.merchantId = c.merchantId ∧ c'.detectedAt = c.detectedAt := by
    intro hold
    rw [Table.eq_of_key_eq hold hc hid]
    exact ⟨rfl, rfl⟩
  rcases hcommit.caseWorked hheld with ⟨worker, fresh, rfl⟩ | hworked
  · generalize s'.db = db' at hcommit hc'
    cases hcommit with
    | reconciled hphase howns hstatus hresult => exact reconcileEntity_birth hresult hc hc' hid
    | same => exact hsame hc'
    | worked hlabel => rcases hlabel with ⟨_, hl⟩ | ⟨_, _, hl⟩ <;> cases hl
    | observed hworker => rcases hworker with ⟨_, _, hl⟩ | ⟨_, _, _, hl⟩ <;> cases hl
  · obtain ⟨c₀, hc₀, hid₀, -, htruth⟩ := hworked.truth hc'
    obtain rfl : c₀ = c := Table.eq_of_key_eq hc₀ hc (hid₀.symm.trans hid)
    exact ⟨congrArg CaseTruth.merchantId htruth, congrArg CaseTruth.detectedAt htruth⟩

/-- What is known of the state a step is taken in. -/
structure Tracked (s : System) : Prop extends Settled s where
  one : OneCurrent s.db.policyDecisions
  supported : ∀ e ∈ s.db.webhookEvents, e.Supported
  read : ReadBefore s.db s.clock

/-- The attempts of a case only grow. -/
theorem step_attempts_le {x : Run.Step System Label} (hok : Settled x.pre)
    (h : step x.pre x.label = some x.post) {c c' : PaymentCase} (hc : c ∈ x.pre.db.cases)
    (hc' : c' ∈ x.post.db.cases) (hid : c'.id = c.id) :
    c.attemptCount ≤ c'.attemptCount ∧ c.contactAttemptCount ≤ c'.contactAttemptCount := by
  have hkept : c'.counters = c.counters →
      c.attemptCount ≤ c'.attemptCount ∧ c.contactAttemptCount ≤ c'.contactAttemptCount :=
    fun hcounters => ⟨(congrArg Prod.fst hcounters).ge, (congrArg Prod.snd hcounters).ge⟩
  rcases step_attempts hok h with ⟨huncounted, -⟩ | ⟨worker, held, snapshot, adopted, d, d', r, r',
    hdelivers⟩
  · exact hkept (huncounted.kept hc hc' hid)
  · by_cases hd : c.id = d.id
    · obtain rfl : c = d := Table.eq_of_key_eq hc hdelivers.case_mem hd
      obtain rfl : c' = d' :=
        Table.eq_of_key_eq hc' hdelivers.case_mem' (hid.trans hdelivers.case_id.symm)
      rw [hdelivers.attempts, hdelivers.contacts]
      exact ⟨Nat.le_succ _, Nat.le_succ _⟩
    · exact hkept (hdelivers.only.1 c hc c' hc' hid hd)

theorem step_cases_later {x : Run.Step System Label} (hok : Tracked x.pre)
    (h : step x.pre x.label = some x.post) :
    x.pre.db.cases.Later PaymentCase.Continues x.post.db.cases := by
  intro c hc
  obtain ⟨c', hc', hprogressed⟩ := ((step_commit hok.hints h).caseEffect hok.held).progressed hc
  obtain ⟨new, -, hchain⟩ := hprogressed.added
  have hid := hprogressed.id_eq
  obtain ⟨hmerchant, hdetected⟩ := step_birth hok.hints hok.held h hc hc' hid
  obtain ⟨hattempts, hcontacts⟩ := step_attempts_le hok.toSettled h hc hc' hid
  refine ⟨c', hc', hid, hprogressed.reference_eq, hmerchant, hdetected, ⟨_, hchain⟩, hattempts,
    hcontacts, fun r hr => ?_⟩
  rcases step_reading hok.hints hok.held h hc' with ⟨c₀, hc₀, hid₀, htruth⟩ | ⟨-, hnow⟩
  · obtain rfl : c₀ = c := Table.eq_of_key_eq hc₀ hc (hid₀.symm.trans hid)
    exact ⟨r, (congrArg CaseTruth.lastReconciledAt htruth).trans hr, le_refl r⟩
  · exact ⟨x.pre.clock, hnow, hok.read c hc r hr⟩

theorem CaseEffect.trail {db db' : Db} (h : CaseEffect db db') :
    db.caseEvents <+: db'.caseEvents := by
  cases h with
  | unchanged hcases hevents => rw [hevents]
  | worked hc hw hident hcases hevents =>
      rw [hevents]
      exact List.prefix_append _ _
  | created hinsert hfree hstate hw hident hcases hevents =>
      rw [hevents]
      exact List.prefix_append _ _

/-! ### Runs -/

/-- **No step takes back what any table holds.** -/
theorem step_later {x : Run.Step System Label} (hok : Tracked x.pre)
    (h : step x.pre x.label = some x.post) : x.pre.db.Later x.post.db :=
  have hcommit := step_commit hok.hints h
  { cases := step_cases_later hok h
    caseEvents := (hcommit.caseEffect hok.held).trail
    webhookEvents := hcommit.eventsWritten.later hok.supported
    strategyProposals := step_proposals_later hok.hints h
    merchantPolicies := step_policies_later hok.hints h
    policyDecisions := step_decisions_later hok.hints h
    approvalRequests := step_approvals_later hok.hints hok.one h
    recoveryActions := hcommit.actions_later
    outcomeObservations := hcommit.outcomes_later.1
    attributions := hcommit.outcomes_later.2 }

theorem step_readBefore {s s' : System} {l : Label} (hhints : HintsOk s) (hheld : HeldOk s)
    (h : step s l = some s') (hread : ReadBefore s.db s.clock) : ReadBefore s'.db s'.clock := by
  intro c' hc' r hr
  refine le_trans ?_ (step_clock h)
  rcases step_reading hhints hheld h hc' with ⟨c, hc, -, htruth⟩ | ⟨-, hnow⟩
  · exact hread c hc r ((congrArg CaseTruth.lastReconciledAt htruth).symm.trans hr)
  · rw [hnow, Option.some.injEq] at hr
    exact hr.ge

theorem tracked_trace {clock : Int} {tr : List (Run.Step System Label)} {s : System}
    (h : RunTrace clock tr s) : Tracked s := by
  have hboth : (∀ e ∈ s.db.webhookEvents, e.Supported) ∧ ReadBefore s.db s.clock := by
    refine h.invariant (I := fun s => (∀ e ∈ s.db.webhookEvents, e.Supported) ∧
      ReadBefore s.db s.clock) ⟨fun e he => absurd he (Table.not_mem_empty _),
        fun c hc => absurd hc (Table.not_mem_empty _)⟩ fun x hx ⟨hsupported, hread⟩ hs => ?_
    obtain ⟨hhints, hheld, -⟩ := executed_reachable (h.reachable_pre hx)
    exact ⟨(step_commit hhints hs).eventsWritten.supported hsupported,
      step_readBefore hhints hheld hs hread⟩
  exact ⟨settled_reachable ⟨tr, h⟩, (decisionsOk_trace h).one, hboth.1, hboth.2⟩

theorem db_later_of_trace {clock : Int} {before tr : List (Run.Step System Label)} {m s : System}
    (hbefore : RunTrace clock before m) (h : Run.Trace step m tr s) : m.db.Later s.db := by
  induction h with
  | nil => exact .refl _
  | @snoc tr s s' l htr hs ih =>
      have htracked := tracked_trace (hbefore.append htr)
      exact ih.trans (step_later (x := ⟨s, l, s'⟩) htracked hs)

/--
**History is never rewritten.**  Whatever a deployment does after any moment of any run, each
row of that moment is still there as a later version of itself, the trail begins as it did, and
a case that was closed is closed as it was.
-/
theorem history_kept {clock : Int} {before tr : List (Run.Step System Label)} {m s : System}
    (hbefore : RunTrace clock before m) (h : Run.Trace step m tr s) : m.db.Later s.db ∧
      ∀ c ∈ m.db.cases, c.currentState ∈ terminalCaseStates →
        ∃ c' ∈ s.db.cases, c'.id = c.id ∧ c'.currentState = c.currentState := by
  have hlater := db_later_of_trace hbefore h
  refine ⟨hlater, fun c hc hclosed => ?_⟩
  obtain ⟨c', hc', hid, hcontinues⟩ := hlater.cases c hc
  exact ⟨c', hc', hid, hcontinues.closed hclosed⟩

end

section

attribute [local instance] asciiPlatform

/-- What a run in which revenue is recovered has left when its link is authorized. -/
theorem history_kept_recovered : ∃ before tr m s, RunTrace 0 before m ∧ Run.Trace step m tr s ∧
    before.map Run.Step.label ++ tr.map Run.Step.label = recoveredRun ∧
    m.db.Later s.db := by
  have hrun : (Run.replay step (System.initial 0) recoveredRun).isSome = true := by decide +kernel
  obtain ⟨all, s, htr, hlabels, -⟩ := Run.Trace.of_isSome hrun
  rw [← List.take_append_drop 12 all] at htr hlabels
  obtain ⟨m, hbefore, hafter⟩ := htr.of_append
  rw [List.map_append] at hlabels
  exact ⟨_, _, m, s, hbefore, hafter, hlabels, (history_kept hbefore hafter).1⟩

end

end Arc
