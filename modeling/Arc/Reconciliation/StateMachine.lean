/-
Case lifecycle transitions and the audit entries they leave.

`transitionCase` is the only function that writes `currentState`: it refuses a pair
that the table does not allow, and appends one `CASE_STATE_TRANSITION` entry for
each change it makes.  `Extends` says what any sequence of calls under one lock can
have done to a locked case, and each service is shown to stay within it.
-/
import Arc.Domain.Models

namespace Arc

def terminalCaseStates : List CaseState := [.recovered, .exhausted, .escalated]

def allowedTransitions : CaseState → List CaseState
  | .detected => [.reconciling, .recovered, .exhausted, .escalated]
  | .reconciling => [.diagnosed, .recovered, .exhausted, .escalated]
  | .diagnosed => [.decisioned, .recovered, .exhausted, .escalated]
  | .decisioned => [.policyValidated, .recovered, .exhausted, .escalated]
  | .policyValidated => [.actioned, .recovered, .exhausted, .escalated]
  | .actioned => [.waitingForOutcome, .recovered, .exhausted, .escalated]
  | .waitingForOutcome => terminalCaseStates
  | .recovered => []
  | .exhausted => []
  | .escalated => []

/-- Whether a state change is idempotent or explicitly allowed. -/
def canTransition (currentState targetState : CaseState) : Bool :=
  currentState == targetState || targetState ∈ allowedTransitions currentState

def caseStateTransition : String := "CASE_STATE_TRANSITION"

/--
The types no service writes into the trail of a stored case: its detection is written with
the case itself, and the marks of a demonstration by the scripts that seed one.
-/
def reservedEventTypes : List String :=
  ["CASE_DETECTED", "DEMO_SCENARIO_SEEDED", "OPENAI_EVIDENCE_CASE_CREATED"]

/-- The audit entry of one state change. -/
def transitionEvent (caseId : Uuid) (previousState newState : CaseState)
    (reasonCode source : String) : CaseEvent where
  caseId := caseId
  eventType := caseStateTransition
  source := source
  previousState := some previousState
  newState := some newState
  reasonCode := some reasonCode

/-- Nothing leads out of a terminal state. -/
theorem allowedTransitions_terminal {s : CaseState} (h : s ∈ terminalCaseStates) :
    allowedTransitions s = [] := by
  cases s <;> simp [terminalCaseStates] at h <;> rfl

/-! ### The chain of transition entries

An entry of a transition names the state it left and the state it entered. Read in
order, the entries of a case form a chain through the table, from its detection to the
state of its row.
-/

/-- The state changes recorded by a list of audit entries, in order. -/
def transitions (events : List CaseEvent) : List (Option CaseState × Option CaseState) :=
  (events.filter fun e => e.eventType == caseStateTransition).map
    fun e => (e.previousState, e.newState)

@[simp] theorem transitions_nil : transitions [] = [] := rfl

theorem transitions_append (es fs : List CaseEvent) :
    transitions (es ++ fs) = transitions es ++ transitions fs := by
  simp [transitions]

/-- Changes, each allowed and each from the state the one before it led to. -/
inductive Chain : CaseState → List (Option CaseState × Option CaseState) → CaseState → Prop
  | nil (s : CaseState) : Chain s [] s
  | cons {s t u : CaseState} {rest : List (Option CaseState × Option CaseState)}
      (hallowed : t ∈ allowedTransitions s) (h : Chain t rest u) :
      Chain s ((some s, some t) :: rest) u

theorem Chain.append {s t u : CaseState} {xs ys : List (Option CaseState × Option CaseState)}
    (h : Chain s xs t) (h' : Chain t ys u) : Chain s (xs ++ ys) u := by
  induction h with
  | nil s => exact h'
  | cons hallowed _ ih => exact .cons hallowed (ih h')

/-- What every allowed change keeps, a chain keeps. -/
theorem Chain.keeps {P : CaseState → Prop} (hP : ∀ s, P s → ∀ t ∈ allowedTransitions s, P t)
    {s t : CaseState} {xs : List (Option CaseState × Option CaseState)} (h : Chain s xs t)
    (hs : P s) : P t := by
  induction h with
  | nil => exact hs
  | cons hallowed _ ih => exact ih (hP _ hs _ hallowed)

/-- A chain out of a terminal state is empty. -/
theorem Chain.eq_nil_of_terminal {s t : CaseState} {xs : List (Option CaseState × Option CaseState)}
    (h : Chain s xs t) (hs : s ∈ terminalCaseStates) : xs = [] ∧ t = s := by
  cases h with
  | nil => exact ⟨rfl, rfl⟩
  | cons hallowed _ => simp [allowedTransitions_terminal hs] at hallowed

variable [Platform]

/-- Validate, apply, and append one state transition. -/
def transitionCase (w : CaseWork) (targetState : CaseState) (reasonCode source : String) :
    Except Error CaseWork :=
  let previousState := w.row.currentState
  if previousState = targetState then .ok w
  else if canTransition previousState targetState = false then
    .error (.invalidCaseTransition
      ("Case transition " ++ previousState.value ++ " -> " ++ targetState.value ++
        " is not allowed"))
  else
    .ok { row := { w.row with currentState := targetState },
          events := w.events ++
            [transitionEvent w.row.id previousState targetState reasonCode source] }

/-! ### What a transaction may do to the case it has locked

A transaction composes transitions, writes of other columns and entries that are no
transitions. `Extends` says what is common to all of these, and `Advances` adds that no
report was taken in; both compose.
-/

/--
The second work comes from the first by audit entries of the same case, of which the
state transitions form a chain from the first row's state to the second row's.
-/
structure Extends (w w' : CaseWork) : Prop where
  id_eq : w'.row.id = w.row.id
  reference_eq : w'.row.caseReference = w.row.caseReference
  added : ∃ new, w'.events = w.events ++ new ∧ (∀ e ∈ new, e.caseId = w.row.id) ∧
    (∀ e ∈ new, e.eventType ∉ reservedEventTypes) ∧
    Chain w.row.currentState (transitions new) w'.row.currentState

theorem Extends.refl (w : CaseWork) : Extends w w :=
  ⟨rfl, rfl, [], by simp, by simp, by simp, .nil _⟩

theorem Extends.trans {w w' w'' : CaseWork} (h : Extends w w') (h' : Extends w' w'') :
    Extends w w'' := by
  obtain ⟨new, hnew, hcase, hkind, hchain⟩ := h.added
  obtain ⟨new', hnew', hcase', hkind', hchain'⟩ := h'.added
  refine ⟨h'.id_eq.trans h.id_eq, h'.reference_eq.trans h.reference_eq, new ++ new', ?_, ?_, ?_, ?_⟩
  · rw [hnew', hnew, List.append_assoc]
  · intro e he
    rcases List.mem_append.mp he with he | he
    · exact hcase e he
    · rw [hcase' e he, h.id_eq]
  · intro e he
    rcases List.mem_append.mp he with he | he
    · exact hkind e he
    · exact hkind' e he
  · rw [transitions_append]
    exact hchain.append hchain'

/-- Writing columns other than the identity and the state adds nothing to the trail. -/
theorem Extends.write {w : CaseWork} {row : PaymentCase} (hid : row.id = w.row.id)
    (href : row.caseReference = w.row.caseReference)
    (hstate : row.currentState = w.row.currentState) : Extends w { w with row := row } := by
  refine ⟨hid, href, [], by simp, by simp, by simp, ?_⟩
  show Chain _ [] row.currentState
  rw [hstate]
  exact .nil _

/-- An audit entry of another kind adds nothing to the chain. -/
theorem Extends.audit {w : CaseWork} {e : CaseEvent} (hcase : e.caseId = w.row.id)
    (hkind : e.eventType ≠ caseStateTransition) (hkind' : e.eventType ∉ reservedEventTypes) :
    Extends w (w.audit e) := by
  refine ⟨rfl, rfl, [e], rfl, by simpa using hcase, by simpa using hkind', ?_⟩
  have htr : transitions [e] = [] := by simp [transitions, hkind]
  rw [htr]
  exact .nil _

/-- **What a successful `transitionCase` did**: nothing, or one allowed change and its entry. -/
theorem transitionCase_eq_ok {w w' : CaseWork} {t : CaseState} {reason source : String} :
    transitionCase w t reason source = .ok w' ↔
      (w.row.currentState = t ∧ w' = w) ∨
      (w.row.currentState ≠ t ∧ t ∈ allowedTransitions w.row.currentState ∧
        w' = { row := { w.row with currentState := t },
               events := w.events ++
                [transitionEvent w.row.id w.row.currentState t reason source] }) := by
  unfold transitionCase
  by_cases hsame : w.row.currentState = t
  · simp [hsame, eq_comm]
  · by_cases hallowed : t ∈ allowedTransitions w.row.currentState
    · simp [hsame, canTransition, hallowed, eq_comm]
    · simp [hsame, canTransition, hallowed]

theorem transitionCase_extends {w w' : CaseWork} {t : CaseState} {reason source : String}
    (h : transitionCase w t reason source = .ok w') : Extends w w' := by
  rcases transitionCase_eq_ok.mp h with ⟨-, rfl⟩ | ⟨-, hallowed, rfl⟩
  · exact .refl _
  · refine ⟨rfl, rfl, _, rfl, by simp [transitionEvent],
      by simp [transitionEvent, caseStateTransition, reservedEventTypes], ?_⟩
    have htr : transitions [transitionEvent w.row.id w.row.currentState t reason source]
        = [(some w.row.currentState, some t)] := by
      simp [transitions, transitionEvent]
    rw [htr]
    exact .cons hallowed (.nil _)

/--
What reconciliation writes into a case.  Every other service leaves these columns as
they are.
-/
structure CaseTruth where
  merchantId : String
  paymentId : Option String
  subscriptionId : Option String
  customerId : Option String
  razorpayPaymentStatus : Option String
  razorpaySubscriptionStatus : Option String
  razorpayPaymentMethod : Option String
  amount : Option Nat
  currency : Option String
  errorCode : Option String
  errorDescription : Option String
  errorSource : Option String
  errorStep : Option String
  errorReason : Option String
  detectedAt : Int
  lastReconciledAt : Option Int
  deriving DecidableEq, Repr

def PaymentCase.truth (c : PaymentCase) : CaseTruth where
  merchantId := c.merchantId
  paymentId := c.paymentId
  subscriptionId := c.subscriptionId
  customerId := c.customerId
  razorpayPaymentStatus := c.razorpayPaymentStatus
  razorpaySubscriptionStatus := c.razorpaySubscriptionStatus
  razorpayPaymentMethod := c.razorpayPaymentMethod
  amount := c.amount
  currency := c.currency
  errorCode := c.errorCode
  errorDescription := c.errorDescription
  errorSource := c.errorSource
  errorStep := c.errorStep
  errorReason := c.errorReason
  detectedAt := c.detectedAt
  lastReconciledAt := c.lastReconciledAt

/-- The second work comes from the first without a new report of the provider. -/
structure Advances (w w' : CaseWork) : Prop extends Extends w w' where
  truth_eq : w'.row.truth = w.row.truth

theorem Advances.refl (w : CaseWork) : Advances w w := ⟨.refl w, rfl⟩

theorem Advances.trans {w w' w'' : CaseWork} (h : Advances w w') (h' : Advances w' w'') :
    Advances w w'' :=
  ⟨h.toExtends.trans h'.toExtends, h'.truth_eq.trans h.truth_eq⟩

theorem Advances.write {w : CaseWork} (row : PaymentCase) (hid : row.id = w.row.id)
    (href : row.caseReference = w.row.caseReference)
    (hstate : row.currentState = w.row.currentState) (htruth : row.truth = w.row.truth) :
    Advances w { w with row := row } :=
  ⟨.write hid href hstate, htruth⟩

theorem Advances.audit {w : CaseWork} {e : CaseEvent} (hcase : e.caseId = w.row.id)
    (hkind : e.eventType ≠ caseStateTransition) (hkind' : e.eventType ∉ reservedEventTypes) :
    Advances w (w.audit e) :=
  ⟨.audit hcase hkind hkind', rfl⟩

/-- The row after a transition is the row before it, in the target state. -/
theorem transitionCase_row {w w' : CaseWork} {t : CaseState} {reason source : String}
    (h : transitionCase w t reason source = .ok w') :
    w'.row = { w.row with currentState := t } := by
  rcases transitionCase_eq_ok.mp h with ⟨hsame, rfl⟩ | ⟨-, -, rfl⟩
  · rw [← hsame]
  · rfl

theorem transitionCase_advances {w w' : CaseWork} {t : CaseState} {reason source : String}
    (h : transitionCase w t reason source = .ok w') : Advances w w' :=
  ⟨transitionCase_extends h, by rw [transitionCase_row h]; rfl⟩

end Arc
