/-
What is assumed of workers and of the provider where links are concerned.

`Timely` keeps the provider calls of a worker, and the effect of a creation, within the
lease of the worker's claim.  `Truthful` is what the answers of the provider mean: a
lookup is exact, an answered creation was applied, a refused one was not, an answered
cancellation took effect.  Each is a condition on one step, read from the state the
step is taken in, and can be tested on a concrete run.
-/
import Arc.System.Step

namespace Arc

open Store

/-! ### Links and creations of one reference -/

/-- The lease has not run out at `clock`. -/
def Lease.Running (lease : Lease) (clock : Int) : Prop := clock < lease.startedAt + executionLease

instance (lease : Lease) (clock : Int) : Decidable (lease.Running clock) :=
  inferInstanceAs (Decidable (clock < lease.startedAt + executionLease))

theorem Lease.Running.mono {lease : Lease} {clock clock' : Int} (h : lease.Running clock')
    (hle : clock ≤ clock') : lease.Running clock := lt_of_le_of_lt hle h

/-- The links that were made under a reference. -/
def Provider.linksOf (p : Provider) (referenceId : String) : List ProviderLink :=
  p.links.filter fun x => x.referenceId == referenceId

/-- The creations under a reference that can still be applied at `clock`. -/
def Provider.openOf (p : Provider) (clock : Int) (referenceId : String) : List PendingCreate :=
  p.pending.filter fun x => x.request.referenceId == referenceId && decide (x.lease.Running clock)

theorem mem_openOf {p : Provider} {clock : Int} {referenceId : String} {x : PendingCreate} :
    x ∈ p.openOf clock referenceId ↔
      x ∈ p.pending ∧ x.request.referenceId = referenceId ∧ x.lease.Running clock := by
  simp [Provider.openOf]

theorem mem_linksOf {p : Provider} {referenceId : String} {x : ProviderLink} :
    x ∈ p.linksOf referenceId ↔ x ∈ p.links ∧ x.referenceId = referenceId := by
  simp [Provider.linksOf]

/-- The part of a link that an answer of the provider shows. -/
structure LinkFace where
  id : String
  referenceId : String
  amount : Nat
  currency : String
  deriving DecidableEq, Repr

def ProviderLink.face (link : ProviderLink) : LinkFace :=
  ⟨link.id, link.referenceId, link.amount, link.currency⟩

def PaymentLinkSnapshot.face (snapshot : PaymentLinkSnapshot) : LinkFace :=
  ⟨snapshot.id, snapshot.referenceId, snapshot.amount, snapshot.currency⟩

/-! ### Timing

The provider calls of a worker end inside its lease, and a creation is applied inside
the lease it was sent under, or not at all. Both are conditions on a step in the state
it is taken in.
-/

/-- The step is a call of the provider, or the end of one. -/
def ExecutorLabel.callsProvider : ExecutorLabel → Bool
  | .lookup _ | .sendCreate | .createAnswer _ | .sendCancel | .cancelAnswer _ => true
  | _ => false

variable [Platform]

/--
A worker calls the provider, and is answered, while the lease of its claim is running;
a creation takes effect before the lease it was sent under runs out, or never.
-/
def Timely (s : System) : Label → Prop
  | .executor worker l =>
      l.callsProvider = true → ∀ held ∈ (s.executors worker).held?, held.lease.Running s.clock
  | .provider (.applyCreate call _) =>
      ∀ p ∈ s.provider.pending, p.call = call → p.lease.Running s.clock
  | _ => True

instance (s : System) (l : Label) : Decidable (Timely s l) := by
  unfold Timely
  split <;> infer_instance

/-! ### Answers -/

/-- A lookup that is answered finds exactly the links of the reference. -/
def LookupTruthful (p : Provider) (request : PaymentLinkCreateRequest)
    (out : HttpOutcome (List PaymentLinkSnapshot)) : Prop :=
  match lookupByReference request.referenceId out with
  | .ok found =>
      (found.map PaymentLinkSnapshot.face).Perm
        ((p.linksOf request.referenceId).map ProviderLink.face)
  | .error _ => True

/-- A creation that is answered with a link made it; one that is refused makes none. -/
def CreateTruthful (p : Provider) (call : Nat) (request : PaymentLinkCreateRequest)
    (out : HttpOutcome PaymentLinkSnapshot) : Prop :=
  match createLink request out with
  | .ok snapshot => ∃ link ∈ p.links, link.call = call ∧ link.face = snapshot.face
  | .error .uncertain => True
  | .error _ => (∀ x ∈ p.pending, x.call ≠ call) ∧ ∀ link ∈ p.links, link.call ≠ call

/-- A cancellation that is answered with a cancelled link has cancelled it. -/
def CancelTruthful (p : Provider) (linkId : String) (out : HttpOutcome PaymentLinkSnapshot) :
    Prop :=
  match cancellationOutcome linkId out with
  | .inl cancelled => ∃ link ∈ p.links, link.id = linkId ∧ link.face = cancelled.face ∧
      link.status.live = false
  | .inr _ => True

instance (p : Provider) (request : PaymentLinkCreateRequest)
    (out : HttpOutcome (List PaymentLinkSnapshot)) : Decidable (LookupTruthful p request out) := by
  unfold LookupTruthful
  split <;> infer_instance

instance (p : Provider) (call : Nat) (request : PaymentLinkCreateRequest)
    (out : HttpOutcome PaymentLinkSnapshot) : Decidable (CreateTruthful p call request out) := by
  unfold CreateTruthful
  split <;> infer_instance

instance (p : Provider) (linkId : String) (out : HttpOutcome PaymentLinkSnapshot) :
    Decidable (CancelTruthful p linkId out) := by
  unfold CancelTruthful
  split <;> infer_instance

/-- What the provider answers is true. -/
def Truthful (s : System) : Label → Prop
  | .executor worker (.lookup out) =>
      ∀ held ∈ (s.executors worker).held?, ∀ request ∈ (paymentLinkRequest held.claim).toOption,
        LookupTruthful s.provider request out
  | .executor worker (.createAnswer out) =>
      match s.executors worker with
      | .awaiting held call =>
          ∀ request ∈ (paymentLinkRequest held.claim).toOption,
            CreateTruthful s.provider call request out
      | _ => True
  | .executor worker (.cancelAnswer out) =>
      match s.executors worker with
      | .cancelling _ snapshot => CancelTruthful s.provider snapshot.id out
      | _ => True
  | _ => True

instance (s : System) (l : Label) : Decidable (Truthful s l) := by
  unfold Truthful
  split
  · infer_instance
  · split <;> infer_instance
  · split <;> infer_instance
  · infer_instance

/-- A cancellation that is answered with a cancelled link has the reference of the link asked for. -/
def AnswersAsked (s : System) : Label → Prop
  | .executor worker (.cancelAnswer out) =>
      match s.executors worker with
      | .cancelling _ snapshot =>
          match cancellationOutcome snapshot.id out with
          | .inl cancelled => cancelled.referenceId = snapshot.referenceId
          | .inr _ => True
      | _ => True
  | _ => True

instance (s : System) (l : Label) : Decidable (AnswersAsked s l) := by
  unfold AnswersAsked
  split
  · split
    · split <;> infer_instance
    · infer_instance
  · infer_instance

/-! ### Who writes a row, and when

Conditions that the source does not check. They are stated for one step each, so that a
run can be said to meet them step by step.
-/

/--
A problem is recorded by the newest claim on its row; or it leaves the outcome open,
and the row is in progress under no lease that is running.
-/
def ProblemOwned (s : System) : Label → Prop
  | .executor worker (.finalizeProblem _) =>
      match s.executors worker with
      | .troubled held problem =>
          ∀ r ∈ s.db.recoveryActions.get? held.claim.recoveryActionId,
            r.executionStatus ∉ finalExecutionStatuses →
            held.lease.attempt = r.executionAttemptCount ∨
              (problem.status = .indeterminate ∧ hasFreshLease r s.clock = false)
      | _ => True
  | _ => True

instance (s : System) (l : Label) : Decidable (ProblemOwned s l) := by
  unfold ProblemOwned
  split
  · split <;> infer_instance
  · infer_instance

/-- The preparation commits a claim; nothing refuses it, and no action is final or in progress. -/
def claimsAction (db : Db) (caseId newId : Uuid) (now : Int) : Bool :=
  match prepareAndClaim db caseId newId now with
  | .ok (_, .inl _) => true
  | _ => false

theorem claimsAction_of_eq_ok {db db' : Db} {caseId newId : Uuid} {now : Int}
    {claim : ExecutionClaim} (h : prepareAndClaim db caseId newId now = .ok (db', .inl claim)) :
    claimsAction db caseId newId now = true := by
  simp only [claimsAction, h]

/-- An action with an open outcome is claimed when none of its creations can be applied any more. -/
def RetrySettled (s : System) : Label → Prop
  | .executor _ (.prepare caseId newId now) =>
      claimsAction s.db caseId newId now = true →
      ∀ decision ∈ s.db.currentDecision caseId, ∀ r ∈ s.db.actionFor decision.id,
        r.executionStatus = .indeterminate →
        ∀ referenceId ∈ r.externalReference, s.provider.openOf s.clock referenceId = []
  | _ => True

instance (s : System) (l : Label) : Decidable (RetrySettled s l) := by
  unfold RetrySettled
  split <;> infer_instance

end Arc
