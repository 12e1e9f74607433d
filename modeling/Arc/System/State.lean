/-
The state of a running deployment.

Any number of workers of each kind share one database and one clock.  A worker that
has committed a transaction and not yet the next is in a phase, which holds exactly
the values the code keeps in its local variables between the two.  The phase of an
executor also holds the `Lease` its claim was committed with, and a fetched snapshot
the instant it was fetched at; the code keeps neither, they are there to speak about
the run.

The provider keeps payment links, and the creations it has been sent and has neither
applied nor refused yet: a creation whose call has timed out can still be applied.
With a creation the model keeps the lease it was sent under, and with a link the call
that made it.
-/
import Arc.Assessment
import Arc.Execution.Service
import Arc.Intelligence.Service
import Arc.Outcomes.Service
import Arc.Persistence.WebhookEvents
import Arc.Policy.Service
import Arc.Reconciliation.Service

namespace Arc

/-! ### The provider

The provider keeps the links it has made and the creations it may still apply. It moves
by itself: a link is paid, cancelled or runs out in a step of its own.
-/

inductive LinkStatus
  | created
  | issued
  | partiallyPaid
  | paid
  | cancelled
  | expired
  deriving DecidableEq, Repr

def LinkStatus.value : LinkStatus → String
  | created => "created"
  | issued => "issued"
  | partiallyPaid => "partially_paid"
  | paid => "paid"
  | cancelled => "cancelled"
  | expired => "expired"

/-- Neither cancelled nor expired. -/
def LinkStatus.live : LinkStatus → Bool
  | cancelled | expired => false
  | _ => true

/-- What the row recorded for a claim: which attempt it is, and when its lease began. -/
structure Lease where
  attempt : Nat
  startedAt : Int
  deriving DecidableEq, Repr

/-- A payment link as the provider has it. -/
structure ProviderLink where
  id : String
  call : Nat
  referenceId : String
  amount : Nat
  currency : String
  status : LinkStatus
  deriving DecidableEq, Repr

/-- A creation that was sent and is neither applied nor refused. -/
structure PendingCreate where
  call : Nat
  request : PaymentLinkCreateRequest
  lease : Lease
  deriving DecidableEq, Repr

structure Provider where
  links : List ProviderLink
  pending : List PendingCreate
  /-- How many creations have been sent. -/
  calls : Nat

/-! ### Workers between their transactions

What a worker has in memory between two transactions is its phase. A crash loses it and
nothing else: the database stays as the last transaction has left it.
-/

/-- An executor's claim with its lease. -/
structure HeldClaim where
  claim : ExecutionClaim
  lease : Lease
  deriving DecidableEq, Repr

inductive ExecutorPhase
  | idle
  /-- Claimed; the provider has not been asked anything. -/
  | claimed (held : HeldClaim)
  /-- The lookup has found no link. -/
  | creating (held : HeldClaim)
  /-- The creation has been sent as the given call. -/
  | awaiting (held : HeldClaim) (call : Nat)
  | linked (held : HeldClaim) (snapshot : PaymentLinkSnapshot) (adopted : Bool)
  | troubled (held : HeldClaim) (problem : ProviderProblem)
  /-- The link is to be cancelled. -/
  | compensating (held : HeldClaim) (snapshot : PaymentLinkSnapshot)
  /-- The cancellation has been sent. -/
  | cancelling (held : HeldClaim) (snapshot : PaymentLinkSnapshot)
  | compensated (held : HeldClaim) (snapshot : PaymentLinkSnapshot)
      (outcome : CancellationOutcome)

/-- The claim an executor holds. -/
def ExecutorPhase.held? : ExecutorPhase → Option HeldClaim
  | idle => none
  | claimed held | creating held | awaiting held _ | linked held _ _ | troubled held _
  | compensating held _ | cancelling held _ | compensated held _ _ => some held

inductive ProcessorPhase
  | idle
  | claimed (event : ClaimedEvent)
  | fetched (event : ClaimedEvent) (snapshot : EntitySnapshot) (fetchedAt : Int)
  /-- A payment link event has been matched with an action. -/
  | matched (event : ClaimedEvent) (recoveryActionId : Uuid)
  | observing (event : ClaimedEvent) (claim : ObservationClaim)
  | observed (event : ClaimedEvent) (claim : ObservationClaim) (snapshot : PaymentLinkSnapshot)
  | finishing (event : ClaimedEvent) (reasonCode : String) (caseId : Option Uuid)
  | failing (event : ClaimedEvent) (safeError : String)

/-- The event a processor has claimed. -/
def ProcessorPhase.event? : ProcessorPhase → Option ClaimedEvent
  | idle => none
  | claimed event | fetched event _ _ | matched event _ | observing event _ | observed event _ _
  | finishing event _ _ | failing event _ => some event

inductive ObserverPhase
  | idle
  | claimed (claim : ObservationClaim)
  | fetched (claim : ObservationClaim) (snapshot : PaymentLinkSnapshot)

section

variable [Platform]

inductive StrategistPhase
  | idle
  /-- The model is to be called. -/
  | asking (snapshot : StrategySnapshot)
  | answered (snapshot : StrategySnapshot) (modelResult : Option StrategyModelResult)
  | failing (snapshot : StrategySnapshot) (reasonCode : String)
  /-- The insert of the proposal was refused by the database. -/
  | refused (snapshot : StrategySnapshot)

inductive ApproverPhase
  | idle
  | requesting (decision : PolicyDecision)
  | deciding (approval : ApprovalRequest) (decision : OperatorDecision)

/-! ### The deployment -/

structure System where
  db : Db
  clock : Int
  provider : Provider
  executors : Nat → ExecutorPhase
  processors : Nat → ProcessorPhase
  observers : Nat → ObserverPhase
  strategists : Nat → StrategistPhase
  approvers : Nat → ApproverPhase

/-- An empty database, no links, and no worker doing anything. -/
def System.initial (clock : Int) : System where
  db := Db.empty
  clock := clock
  provider := ⟨[], [], 0⟩
  executors := fun _ => .idle
  processors := fun _ => .idle
  observers := fun _ => .idle
  strategists := fun _ => .idle
  approvers := fun _ => .idle

end

end Arc
