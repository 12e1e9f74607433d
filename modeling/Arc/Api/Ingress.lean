/-
Requests under way.

Any number of requests run at once, each in a transaction of its own, beside the workers
of the deployment and the operator.  A request is in a phase between two of its
statements.  An insert of an event id that another transaction has inserted and not
committed waits for the end of that transaction, and so is not enabled before it; a row
is seen by the others once it is committed.

With the deployment the state keeps the deliveries that have been accepted, in their
order.  The code keeps no such list; it is there to speak about the run.
-/
import Arc.Api.RazorpayWebhooks
import Arc.System.Step

namespace Arc

open Store

variable [Platform] [Wire]

inductive DeliveryPhase
  | idle
  /-- Checked and hashed; nothing has been sent to the database. -/
  | recording (checked : CheckedRequest)
  /-- The row is inserted and not committed. -/
  | inserted (checked : CheckedRequest) (newId : Uuid)
  /-- The event id was taken. -/
  | conflicted (checked : CheckedRequest)
  /-- The row of the event id has the digest of the request. -/
  | matched (checked : CheckedRequest)
  | answered (routeEnd : RouteEnd)

/-- The delivery a request is recording. -/
def DeliveryPhase.checked? : DeliveryPhase → Option CheckedRequest
  | recording checked | inserted checked _ | conflicted checked | matched checked => some checked
  | idle | answered _ => none

/-- The event id whose insert is not committed. -/
def DeliveryPhase.lock? : DeliveryPhase → Option String
  | inserted checked _ => some checked.eventId
  | _ => none

/-- How a commit ends; one that raises may have reached the database. -/
inductive CommitAnswer
  | done
  | raised (durable : Bool)
  deriving DecidableEq, Repr

inductive DeliveryLabel
  | receive (settings : WebhookSettings) (request : WebhookRequest)
  | insert (newId : Uuid)
  | select
  | commit (answer : CommitAnswer)
  /-- A statement raises. -/
  | databaseError
  | crash

/-- The database has raised. -/
def DeliveryLabel.fails : DeliveryLabel → Bool
  | commit (.raised _) | databaseError => true
  | _ => false

structure Ingress where
  system : System
  deliveries : Nat → DeliveryPhase
  /-- The event ids that are inserted and not committed. -/
  locked : List String
  /-- The deliveries answered as accepted, the oldest first. -/
  accepted : List CheckedRequest

def Ingress.initial (clock : Int) : Ingress where
  system := System.initial clock
  deliveries := fun _ => .idle
  locked := []
  accepted := []

def Ingress.ledger (s : Ingress) : Table WebhookEvent := s.system.db.webhookEvents

/-- What one step of a request leaves behind. -/
structure DeliveryMove where
  ledger : Table WebhookEvent
  locked : List String
  accepted : List CheckedRequest
  phase : DeliveryPhase

/-- The phase of a request that has just come in. -/
def receiveWebhook (settings : WebhookSettings) (request : WebhookRequest) : DeliveryPhase :=
  match checkRequest settings request with
  | .error routeEnd => .answered routeEnd
  | .ok checked =>
      match hashPayload checked.payload with
      | .ok _ => .recording checked
      | .error error => .answered (.raised error)

/-- The locks once the transaction of a request has ended. -/
def Ingress.unlocked (s : Ingress) (phase : DeliveryPhase) : List String :=
  s.locked.filter fun eventId => phase.lock? ≠ some eventId

/-- The end of the transaction of a request, with an answer or without. -/
def Ingress.ends (s : Ingress) (phase phase' : DeliveryPhase) : DeliveryMove :=
  ⟨s.ledger, s.unlocked phase, s.accepted, phase'⟩

/-- One step of one request. -/
def deliveryStep (s : Ingress) (phase : DeliveryPhase) (l : DeliveryLabel) : Option DeliveryMove :=
  match phase, l with
  | .idle, .receive settings request | .answered _, .receive settings request =>
      some ⟨s.ledger, s.locked, s.accepted, receiveWebhook settings request⟩
  | .recording checked, .insert newId =>
      match s.system.db.eventByRazorpayId checked.eventId with
      | some _ => some ⟨s.ledger, s.locked, s.accepted, .conflicted checked⟩
      | none =>
          if checked.eventId ∈ s.locked then none
          else
            some ⟨s.ledger, checked.eventId :: s.locked, s.accepted, .inserted checked newId⟩
  | .conflicted checked, .select =>
      match s.system.db.eventByRazorpayId checked.eventId with
      | some stored =>
          if checked.mismatch stored then
            some (s.ends phase (.answered (.rejected integrityConflict)))
          else some ⟨s.ledger, s.locked, s.accepted, .matched checked⟩
      | none => some (s.ends phase (.answered (.rejected persistenceUnavailable)))
  | .inserted checked newId, .commit answer =>
      match s.ledger.insert? (checked.event newId), answer with
      | some ledger, .done =>
          some ⟨ledger, s.unlocked phase, s.accepted ++ [checked],
            .answered (.accepted false checked.eventId)⟩
      | some ledger, .raised true =>
          some ⟨ledger, s.unlocked phase, s.accepted, .answered (.rejected persistenceUnavailable)⟩
      | some _, .raised false | none, _ =>
          some (s.ends phase (.answered (.rejected persistenceUnavailable)))
  | .matched checked, .commit .done =>
      some ⟨s.ledger, s.locked, s.accepted ++ [checked],
        .answered (.accepted true checked.eventId)⟩
  | .matched _, .commit (.raised _) | .recording _, .databaseError | .inserted _ _, .databaseError
  | .conflicted _, .databaseError =>
      some (s.ends phase (.answered (.rejected persistenceUnavailable)))
  | phase, .crash => some (s.ends phase .idle)
  | _, _ => none

inductive IngressLabel
  /-- A step of the deployment without its ingress. -/
  | system (l : Label)
  | delivery (worker : Nat) (l : DeliveryLabel)

/-- One step of the deployment with its ingress. -/
def ingressStep (s : Ingress) (l : IngressLabel) : Option Ingress :=
  match l with
  | .system (.service (.ingest ..)) => none
  | .system l => (step s.system l).map fun system => { s with system := system }
  | .delivery worker l =>
      (deliveryStep s (s.deliveries worker) l).map fun m =>
        { system := { s.system with db := { s.system.db with webhookEvents := m.ledger } }
          deliveries := Function.update s.deliveries worker m.phase
          locked := m.locked
          accepted := m.accepted }

end Arc
