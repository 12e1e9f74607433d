/-
The steps of a deployment.

Each step is one transaction, one answer of an external service, or the passage of
time; which worker moves, and everything the code does not decide (identifiers, clock
readings taken before a lock, what the provider answers), is in the label.  A label
that does not fit the worker's phase is not enabled.  A transaction that raises
leaves the database as it was and ends the call, except in the webhook processor,
which then marks its event failed.

A worker can crash in every phase.  A clock reading that the code takes under a lock
is the clock of the step; one it takes before is any earlier reading.
-/
import Mathlib.Logic.Function.Basic
import Arc.Run.Trace
import Arc.System.State

namespace Arc

open Store

variable [Platform]

/-! ### Executors

The steps follow the source from the claim to the finalization, one transaction or one
call of the provider each. The answers of the provider are part of the label, so that
nothing is assumed about them here.
-/

inductive ExecutorLabel
  | prepare (caseId newId : Uuid) (now : Int)
  | internal (now : Int)
  | lookup (out : HttpOutcome (List PaymentLinkSnapshot))
  | sendCreate
  | createAnswer (out : HttpOutcome PaymentLinkSnapshot)
  | finalizeProblem (now : Int)
  | finalizeSuccess (now : Int)
  | sendCancel
  | cancelAnswer (out : HttpOutcome PaymentLinkSnapshot)
  | finalizeCompensation
  | crash

/-- What the row has recorded for the claim just committed. -/
def leaseOf (db : Db) (recordId : Uuid) : Lease :=
  match db.recoveryActions.get? recordId with
  | some record => ⟨record.executionAttemptCount, record.executionStartedAt.getD 0⟩
  | none => ⟨0, 0⟩

/-- Where a lookup leads: adoption, creation, or a problem. -/
def afterLookup (held : HeldClaim) (request : PaymentLinkCreateRequest)
    (out : HttpOutcome (List PaymentLinkSnapshot)) : ExecutorPhase :=
  match lookupByReference request.referenceId out with
  | .error e => .troubled held (indeterminateProblem e.reasonCode)
  | .ok [] => .creating held
  | .ok [snapshot] =>
      if matchesRequest snapshot request then .linked held snapshot true
      else .troubled held (indeterminateProblem "RAZORPAY_PAYMENT_LINK_LOOKUP_AMBIGUOUS")
  | .ok _ => .troubled held (indeterminateProblem "RAZORPAY_PAYMENT_LINK_LOOKUP_AMBIGUOUS")

/-- Where the answer to a creation leads. -/
def afterCreate (held : HeldClaim) (request : PaymentLinkCreateRequest)
    (out : HttpOutcome PaymentLinkSnapshot) : ExecutorPhase :=
  match createLink request out with
  | .ok snapshot => .linked held snapshot false
  | .error .uncertain => .troubled held (indeterminateProblem PaymentLinkError.uncertain.reasonCode)
  | .error e => .troubled held (failedProblem e.reasonCode)

def Provider.send (p : Provider) (request : PaymentLinkCreateRequest) (lease : Lease) : Provider :=
  { p with pending := p.pending ++ [⟨p.calls, request, lease⟩], calls := p.calls + 1 }

/-- The database, the provider and the phase after a step of one executor. -/
structure ExecutorMove where
  db : Db
  provider : Provider
  phase : ExecutorPhase

/-- One step of one executor. -/
def executorStep (s : System) (phase : ExecutorPhase) (l : ExecutorLabel) : Option ExecutorMove :=
  match phase, l with
  | .idle, .prepare caseId newId now =>
      if now ≤ s.clock then
        match prepareAndClaim s.db caseId newId now with
        | .ok (db, .inl claim) =>
            some ⟨db, s.provider, .claimed ⟨claim, leaseOf db claim.recoveryActionId⟩⟩
        | .ok (db, .inr _) => some ⟨db, s.provider, .idle⟩
        | .error _ => some ⟨s.db, s.provider, .idle⟩
      else none
  | .claimed held, .internal now =>
      if now ≤ s.clock ∧ held.claim.action ≠ .createRecoveryLink then
        match executeInternal s.db held.claim now with
        | .ok (db, _) => some ⟨db, s.provider, .idle⟩
        | .error _ => some ⟨s.db, s.provider, .idle⟩
      else none
  | .claimed held, .lookup out =>
      if held.claim.action = .createRecoveryLink then
        match paymentLinkRequest held.claim with
        | .ok request => some ⟨s.db, s.provider, afterLookup held request out⟩
        | .error _ => some ⟨s.db, s.provider, .idle⟩
      else none
  | .creating held, .sendCreate =>
      match paymentLinkRequest held.claim with
      | .ok request =>
          some ⟨s.db, s.provider.send request held.lease, .awaiting held s.provider.calls⟩
      | .error _ => none
  | .awaiting held _, .createAnswer out =>
      match paymentLinkRequest held.claim with
      | .ok request => some ⟨s.db, s.provider, afterCreate held request out⟩
      | .error _ => none
  | .troubled held problem, .finalizeProblem now =>
      if now ≤ s.clock then
        match finalizeProviderProblem s.db held.claim problem now with
        | .ok (db, _) => some ⟨db, s.provider, .idle⟩
        | .error _ => some ⟨s.db, s.provider, .idle⟩
      else none
  | .linked held snapshot adopted, .finalizeSuccess now =>
      if now ≤ s.clock then
        match finalizeExternalSuccess s.db held.claim snapshot adopted now with
        | .ok (db, finalization) =>
            some ⟨db, s.provider,
              if finalization.compensationRequired then .compensating held snapshot else .idle⟩
        | .error _ => some ⟨s.db, s.provider, .idle⟩
      else none
  | .compensating held snapshot, .sendCancel =>
      some ⟨s.db, s.provider, .cancelling held snapshot⟩
  | .cancelling held snapshot, .cancelAnswer out =>
      some ⟨s.db, s.provider, .compensated held snapshot (cancellationOutcome snapshot.id out)⟩
  | .compensated held snapshot outcome, .finalizeCompensation =>
      match finalizeCompensation s.db held.claim snapshot outcome with
      | .ok (db, _) => some ⟨db, s.provider, .idle⟩
      | .error _ => some ⟨s.db, s.provider, .idle⟩
  | _, .crash => some ⟨s.db, s.provider, .idle⟩
  | _, _ => none

/-! ### Webhook processors -/

inductive ProcessorLabel
  | claim (eventId : Uuid)
  | fetch (payment : HttpOutcome PaymentSnapshot) (subscription : HttpOutcome SubscriptionSnapshot)
  | apply (fresh : Fresh)
  | matchAction
  | prepareObservation (providerMode : ProviderMode)
  | fetchLink (out : HttpOutcome PaymentLinkSnapshot)
  | persistObservation (fresh : ObservationFresh)
  | finish
  | markFailed
  /-- Any other exception, and the text the event is marked failed with. -/
  | unexpected (safeError : String)
  | crash

/-- The database and the phase after a step of one worker. -/
structure Move (φ : Type) where
  db : Db
  phase : φ

def isPaymentLinkEvent (event : ClaimedEvent) : Bool := hasPrefix event.eventType "payment_link."

/-- One step of one webhook processor. -/
def processorStep (s : System) (phase : ProcessorPhase) (l : ProcessorLabel) :
    Option (Move ProcessorPhase) :=
  match phase, l with
  | .idle, .claim eventId =>
      match claimEvent s.db eventId s.clock with
      | .ok (db, .inl event) => some ⟨db, .claimed event⟩
      | .ok (db, .inr _) => some ⟨db, .idle⟩
      | .error _ => some ⟨s.db, .idle⟩
  | .claimed event, .fetch payment subscription =>
      if isPaymentLinkEvent event then none
      else
        match fetchAuthoritativeEntity event payment subscription with
        | .ok snapshot => some ⟨s.db, .fetched event snapshot s.clock⟩
        | .error text => some ⟨s.db, .failing event text⟩
  | .fetched event snapshot _, .apply fresh =>
      if fresh.startedAt ≤ s.clock then
        match applyReconciliation s.db event snapshot fresh s.clock s.clock with
        | .ok (db, _) => some ⟨db, .idle⟩
        | .error e => some ⟨s.db, .failing event (safeErrorText e)⟩
      else none
  | .claimed event, .matchAction =>
      if isPaymentLinkEvent event then
        match matchPaymentLinkEvent s.db event with
        | .ok none => some ⟨s.db, .finishing event "UNMATCHED_RECOVERY_PAYMENT_LINK_EVENT" none⟩
        | .ok (some recoveryActionId) => some ⟨s.db, .matched event recoveryActionId⟩
        | .error e => some ⟨s.db, .failing event (safeErrorText e)⟩
      else none
  | .matched event recoveryActionId, .prepareObservation providerMode =>
      match prepareObservation s.db recoveryActionId providerMode with
      | .ok claim => some ⟨s.db, .observing event claim⟩
      | .error e => some ⟨s.db, .failing event (safeErrorText e)⟩
  | .observing event claim, .fetchLink out =>
      match fetchLinkById claim.expected.paymentLinkId out with
      | .ok snapshot => some ⟨s.db, .observed event claim snapshot⟩
      | .error _ => some ⟨s.db, .failing event "Webhook reconciliation failed safely"⟩
  | .observed event claim snapshot, .persistObservation fresh =>
      if fresh.observedAt ≤ s.clock then
        match persistObservation s.db claim snapshot .webhookTriggered fresh with
        | .ok (db, result) => some ⟨db, .finishing event result.reasonCode (some result.caseId)⟩
        | .error e => some ⟨s.db, .failing event (safeErrorText e)⟩
      else none
  | .finishing event reasonCode caseId, .finish =>
      match markProcessedWithoutCase s.db event reasonCode caseId s.clock with
      | .ok (db, _) => some ⟨db, .idle⟩
      | .error e => some ⟨s.db, .failing event (safeErrorText e)⟩
  | .failing event safeError, .markFailed =>
      match markFailed s.db event safeError s.clock with
      | .ok (db, _) => some ⟨db, .idle⟩
      | .error _ => some ⟨s.db, .idle⟩
  | _, .crash => some ⟨s.db, .idle⟩
  | phase, .unexpected safeError =>
      match phase with
      | .idle | .failing _ _ => none
      | .claimed event | .fetched event _ _ | .matched event _ | .observing event _
      | .observed event _ _ | .finishing event _ _ => some ⟨s.db, .failing event safeError⟩
  | _, _ => none

/-! ### Outcome observers -/

inductive ObserverLabel
  | prepare (recoveryActionId : Uuid) (providerMode : ProviderMode)
  | fetch (out : HttpOutcome PaymentLinkSnapshot)
  | persist (fresh : ObservationFresh)
  | crash

/-- One step of one observer that polls. -/
def observerStep (s : System) (phase : ObserverPhase) (l : ObserverLabel) :
    Option (Move ObserverPhase) :=
  match phase, l with
  | .idle, .prepare recoveryActionId providerMode =>
      match prepareObservation s.db recoveryActionId providerMode with
      | .ok claim => some ⟨s.db, .claimed claim⟩
      | .error _ => some ⟨s.db, .idle⟩
  | .claimed claim, .fetch out =>
      match fetchLinkById claim.expected.paymentLinkId out with
      | .ok snapshot => some ⟨s.db, .fetched claim snapshot⟩
      | .error _ => some ⟨s.db, .idle⟩
  | .fetched claim snapshot, .persist fresh =>
      if fresh.observedAt ≤ s.clock then
        match persistObservation s.db claim snapshot .poll fresh with
        | .ok (db, _) => some ⟨db, .idle⟩
        | .error _ => some ⟨s.db, .idle⟩
      else none
  | _, .crash => some ⟨s.db, .idle⟩
  | _, _ => none

/-! ### Strategists -/

inductive StrategistLabel
  | prepare (caseId : Uuid) (model : String)
  | answer (result : StrategyModelResult)
  | modelFailure (reasonCode : String)
  | persist (newId : Uuid)
  | recordFailure
  | recover
  | crash

/-- One step of one strategy generation. -/
def strategistStep (s : System) (phase : StrategistPhase) (l : StrategistLabel) :
    Option (Move StrategistPhase) :=
  match phase, l with
  | .idle, .prepare caseId model =>
      match prepareSnapshot s.db caseId model s.clock with
      | .ok (.inl snapshot) =>
          some ⟨s.db, if snapshot.ruleStrategy.isSome then .answered snapshot none
            else .asking snapshot⟩
      | .ok (.inr _) => some ⟨s.db, .idle⟩
      | .error _ => some ⟨s.db, .idle⟩
  | .asking snapshot, .answer result => some ⟨s.db, .answered snapshot (some result)⟩
  | .asking snapshot, .modelFailure reasonCode => some ⟨s.db, .failing snapshot reasonCode⟩
  | .answered snapshot modelResult, .persist newId =>
      match persistLocked s.db snapshot modelResult newId s.clock s.clock with
      | .ok (db, _) => some ⟨db, .idle⟩
      | .error .integrity => some ⟨s.db, .refused snapshot⟩
      | .error _ => some ⟨s.db, .idle⟩
  | .failing snapshot reasonCode, .recordFailure =>
      some ⟨recordGenerationFailure s.db snapshot reasonCode, .idle⟩
  | .refused _, .recover => some ⟨s.db, .idle⟩
  | _, .crash => some ⟨s.db, .idle⟩
  | _, _ => none

/-! ### Approvers -/

inductive ApproverLabel
  | requestHint (policyDecisionId : Uuid)
  | request (newId : Uuid)
  | decideHint (approvalRequestId : Uuid) (decision : OperatorDecision)
  | decide
  | crash

/-- One step of one approval operation. -/
def approverStep (s : System) (phase : ApproverPhase) (l : ApproverLabel) :
    Option (Move ApproverPhase) :=
  match phase, l with
  | .idle, .requestHint policyDecisionId =>
      match ensureApprovalHint s.db policyDecisionId with
      | .ok decision => some ⟨s.db, .requesting decision⟩
      | .error _ => some ⟨s.db, .idle⟩
  | .requesting decision, .request newId =>
      match ensureApprovalRequest s.db decision newId s.clock with
      | .ok (db, _) => some ⟨db, .idle⟩
      | .error _ => some ⟨s.db, .idle⟩
  | .idle, .decideHint approvalRequestId decision =>
      match decideApprovalHint s.db approvalRequestId with
      | .ok approval => some ⟨s.db, .deciding approval decision⟩
      | .error _ => some ⟨s.db, .idle⟩
  | .deciding approval decision, .decide =>
      match decideApproval s.db approval decision s.clock with
      | .ok (db, _) => some ⟨db, .idle⟩
      | .error _ => some ⟨s.db, .idle⟩
  | _, .crash => some ⟨s.db, .idle⟩
  | _, _ => none

/-! ### Provider, operator, and calls of one transaction -/

inductive ProviderLabel
  /-- A creation that was sent takes effect. -/
  | applyCreate (call : Nat) (linkId : String)
  /-- A creation that was sent will never take effect. -/
  | refuseCreate (call : Nat)
  | moveLink (linkId : String) (status : LinkStatus)

/-- The link a creation makes. -/
def PendingCreate.link (p : PendingCreate) (linkId : String) : ProviderLink where
  id := linkId
  call := p.call
  referenceId := p.request.referenceId
  amount := p.request.amount
  currency := p.request.currency
  status := .created

def Provider.withoutCall (p : Provider) (call : Nat) : Provider :=
  { p with pending := p.pending.filter fun x => x.call != call }

/-- One step of the provider.  A cancelled or expired link stays what it is. -/
def providerStep (p : Provider) (l : ProviderLabel) : Option Provider :=
  match l with
  | .applyCreate call linkId =>
      match p.pending.find? fun x => x.call == call with
      | none => none
      | some create =>
          if p.links.any fun x => x.id == linkId then none
          else some { p.withoutCall call with links := p.links ++ [create.link linkId] }
  | .refuseCreate call => some (p.withoutCall call)
  | .moveLink linkId status =>
      if p.links.any fun x => x.id == linkId && x.status.live then
        some { p with links := p.links.map fun x =>
          if x.id = linkId then { x with status := status } else x }
      else none

/-- The operator writes the policy of a merchant. -/
def setMerchantPolicy (db : Db) (policy : MerchantPolicy) : Db :=
  match db.policyFor policy.merchantId with
  | some stored => { db with merchantPolicies := db.merchantPolicies.put { policy with id := stored.id } }
  | none =>
      match db.merchantPolicies.insert? policy with
      | some policies => { db with merchantPolicies := policies }
      | none => db

/-- Calls that are one transaction. -/
inductive ServiceLabel
  | ingest (payload : Json) (eventId : String) (rawBodySha256 : Digest) (newId : Uuid)
  | assess (caseId : Uuid)
  | evaluatePolicy (caseId : Uuid) (strategyProposalId : Option Uuid) (newId : Uuid)
  | setPolicy (policy : MerchantPolicy)

/-- The database after a call of one transaction; a call that raises changes nothing. -/
def serviceStep (db : Db) (clock : Int) (l : ServiceLabel) : Db :=
  match l with
  | .ingest payload eventId digest newId =>
      match ingestWebhook db payload eventId digest newId with
      | .ok db' => db'
      | .error _ => db
  | .assess caseId =>
      match assessCase db caseId clock with
      | .ok (db', _) => db'
      | .error _ => db
  | .evaluatePolicy caseId strategyProposalId newId =>
      match evaluatePolicy db caseId strategyProposalId newId clock with
      | .ok (db', _) => db'
      | .error _ => db
  | .setPolicy policy => setMerchantPolicy db policy

/-! ### The system

The labels of all workers together with the clock, the provider and the operator. A step
is a function of the state and the label, so a run is determined by its labels and can
be replayed.
-/

inductive Label
  | executor (worker : Nat) (l : ExecutorLabel)
  | processor (worker : Nat) (l : ProcessorLabel)
  | observer (worker : Nat) (l : ObserverLabel)
  | strategist (worker : Nat) (l : StrategistLabel)
  | approver (worker : Nat) (l : ApproverLabel)
  | provider (l : ProviderLabel)
  | service (l : ServiceLabel)
  | tick (microseconds : Nat)

/-- One step of the deployment. -/
def step (s : System) (l : Label) : Option System :=
  match l with
  | .executor w l =>
      (executorStep s (s.executors w) l).map fun m =>
        { s with db := m.db, provider := m.provider,
                 executors := Function.update s.executors w m.phase }
  | .processor w l =>
      (processorStep s (s.processors w) l).map fun m =>
        { s with db := m.db, processors := Function.update s.processors w m.phase }
  | .observer w l =>
      (observerStep s (s.observers w) l).map fun m =>
        { s with db := m.db, observers := Function.update s.observers w m.phase }
  | .strategist w l =>
      (strategistStep s (s.strategists w) l).map fun m =>
        { s with db := m.db, strategists := Function.update s.strategists w m.phase }
  | .approver w l =>
      (approverStep s (s.approvers w) l).map fun m =>
        { s with db := m.db, approvers := Function.update s.approvers w m.phase }
  | .provider l => (providerStep s.provider l).map fun p => { s with provider := p }
  | .service l => some { s with db := serviceStep s.db s.clock l }
  | .tick d => some { s with clock := s.clock + d }

/-- The runs of a deployment that starts with an empty database. -/
abbrev RunTrace (clock : Int) (tr : List (Run.Step System Label)) (s : System) : Prop :=
  Run.Trace step (System.initial clock) tr s

end Arc
