/-
The read model of cases.

The case list and the case detail both report how a case was resolved.  The kind is
derived from the rows of the case: its attribution, its trail, its latest action, its
current decision and, last, its state.  `created_at` is set by the database and orders
rows for these queries only, so the instants at which rows were created are a
parameter of them.
-/
import Arc.Domain.Models
import Arc.Reconciliation.StateMachine
import Mathlib.Data.List.MinMax
import Mathlib.Data.Prod.Lex

namespace Arc

open Store

attribute [local instance] instantOrder

variable [Platform]

/-- Evidence-derived operator presentation, separate from lifecycle state. -/
inductive ResolutionKind
  | arcRecovered
  | alreadyCaptured
  | requiresApproval
  | awaitingOutcome
  | exhausted
  | escalated
  | pending
  deriving DecidableEq, Repr

/-- When the database created the rows the queries order. -/
structure CreatedAt where
  recoveryActions : Uuid → Int
  attributions : Uuid → Int

def alreadyCapturedEventType : String := "RECONCILIATION_FOUND_ALREADY_CAPTURED"

/-- `_resolution_kind`: how the case is presented as resolved. -/
def resolutionKind (c : PaymentCase) (events : List CaseEvent)
    (action : Option RecoveryActionRecord) (attribution : Option RecoveryAttribution)
    (decision : Option PolicyDecision) : ResolutionKind :=
  if attribution ≠ none then .arcRecovered
  else if (events.any fun e => e.eventType == alreadyCapturedEventType) ∧ action = none ∧
      c.currentState = .recovered then .alreadyCaptured
  else if c.currentState = .exhausted then .exhausted
  else if c.currentState = .escalated then .escalated
  else if decision.any fun d => d.result == .requiresApproval then .requiresApproval
  else if c.currentState = .waitingForOutcome then .awaitingOutcome
  else .pending

section

variable (createdAt : CreatedAt) (db : Db) (caseId : Uuid)

/-- `_latest` of the recovery actions of a case. -/
def latestAction : Option RecoveryActionRecord :=
  (db.recoveryActions.select fun r => r.caseId == caseId).argmax
    fun r => createdAt.recoveryActions r.id

/-- `_latest` of the attributions of a case. -/
def latestAttribution : Option RecoveryAttribution :=
  (db.attributions.select fun a => a.caseId == caseId).argmax
    fun a => toLex (a.attributedAt, createdAt.attributions a.id)

/-- `_current` of the decisions of a case: of those not superseded, the last evaluated. -/
def currentDecisionOf : Option PolicyDecision :=
  (db.policyDecisions.select fun d => d.caseId == caseId && d.supersededAt.isNone).argmax
    PolicyDecision.evaluatedAt

end

/-- The resolution kind of a case, as the case list and the case detail project it. -/
def caseResolution (createdAt : CreatedAt) (db : Db) (c : PaymentCase) : ResolutionKind :=
  resolutionKind c (db.caseEvents.filter fun e => e.caseId == c.id) (latestAction createdAt db c.id)
    (latestAttribution createdAt db c.id) (currentDecisionOf db c.id)

/-- The kinds that leave it open how the case ends. -/
def openResolutionKinds : List ResolutionKind := [.pending, .requiresApproval, .awaitingOutcome]

/-! ### What the queries find -/

section

variable (createdAt : CreatedAt) {db : Db} {caseId : Uuid}

theorem latestAction_eq_none :
    latestAction createdAt db caseId = none ↔ ∀ r ∈ db.recoveryActions, r.caseId ≠ caseId := by
  rw [latestAction, List.argmax_eq_none, List.eq_nil_iff_forall_not_mem]
  simp [Table.mem_select]

theorem latestAttribution_eq_none :
    latestAttribution createdAt db caseId = none ↔ ∀ a ∈ db.attributions, a.caseId ≠ caseId := by
  rw [latestAttribution, List.argmax_eq_none, List.eq_nil_iff_forall_not_mem]
  simp [Table.mem_select]

/-- Where at most one decision of a case is open, it is the one the services take as current. -/
theorem currentDecisionOf_eq (hone : ∀ d ∈ db.policyDecisions, ∀ d' ∈ db.policyDecisions,
      d.caseId = d'.caseId → d.supersededAt = none → d'.supersededAt = none → d = d') :
    currentDecisionOf db caseId = db.currentDecision caseId := by
  cases hcurrent : currentDecisionOf db caseId with
  | none =>
      rw [currentDecisionOf, List.argmax_eq_none, List.eq_nil_iff_forall_not_mem] at hcurrent
      refine (Table.first?_eq_none.mpr fun d hd => ?_).symm
      by_contra hcond
      exact hcurrent d (Table.mem_select.mpr ⟨hd, by simpa using hcond⟩)
  | some d =>
      obtain ⟨hd, hcond⟩ := Table.mem_select.mp (List.argmax_mem hcurrent)
      refine (Table.first?_eq_some_of_unique hd hcond fun d' hd' hcond' => ?_).symm
      simp only [Bool.and_eq_true, beq_iff_eq, Option.isNone_iff_eq_none] at hcond hcond'
      exact hone d' hd' d hd (hcond'.1.trans hcond.1.symm) hcond'.2 hcond.2

end

/-! ### Open kinds

The kinds that say "open" are told apart here, because the report of a closed case as
open is what the results about the read model are about.
-/

/-- The trail of the case has the entry of a payment found captured, and it has no action. -/
def FoundCaptured (db : Db) (caseId : Uuid) : Prop :=
  (∃ e ∈ db.caseEvents, e.caseId = caseId ∧ e.eventType = alreadyCapturedEventType) ∧
    ∀ r ∈ db.recoveryActions, r.caseId ≠ caseId

/-- **What makes a kind open**: nothing is attributed, and the case is neither closed by
another verdict nor recovered with the payment found captured. -/
theorem caseResolution_open {createdAt : CreatedAt} {db : Db} {c : PaymentCase} :
    caseResolution createdAt db c ∈ openResolutionKinds ↔
      (∀ a ∈ db.attributions, a.caseId ≠ c.id) ∧ c.currentState ≠ .exhausted ∧
        c.currentState ≠ .escalated ∧ (c.currentState = .recovered → ¬ FoundCaptured db c.id) := by
  have hfound : ((db.caseEvents.filter fun e => e.caseId == c.id).any
      fun e => e.eventType == alreadyCapturedEventType) = true ↔
      ∃ e ∈ db.caseEvents, e.caseId = c.id ∧ e.eventType = alreadyCapturedEventType := by
    simp [List.any_filter]
  unfold caseResolution resolutionKind
  rw [← latestAttribution_eq_none createdAt]
  by_cases hnone : latestAttribution createdAt db c.id = none
  · rw [if_neg (not_not.mpr hnone)]
    simp only [FoundCaptured, ← hfound, ← latestAction_eq_none createdAt, hnone,
      true_and]
    split
    · rename_i hcaptured
      simp [openResolutionKinds, hcaptured]
    rename_i hnot
    have hopen : c.currentState = .recovered → ¬ (((db.caseEvents.filter
        fun e => e.caseId == c.id).any fun e => e.eventType == alreadyCapturedEventType) = true ∧
        latestAction createdAt db c.id = none) :=
      fun hstate hfound => hnot ⟨hfound.1, hfound.2, hstate⟩
    split
    · rename_i hstate
      simp [openResolutionKinds, hstate]
    split
    · rename_i hstate
      simp [openResolutionKinds, hstate]
    rename_i hexhausted hescalated
    have hkind : (if (currentDecisionOf db c.id).any fun d => d.result == .requiresApproval then
        ResolutionKind.requiresApproval
      else if c.currentState = .waitingForOutcome then .awaitingOutcome else .pending) ∈
        openResolutionKinds := by
      split
      · decide
      · split <;> decide
    exact iff_of_true hkind ⟨hexhausted, hescalated, hopen⟩
  · rw [if_pos hnone]
    simp [openResolutionKinds, hnone]

/-- The kind is open exactly when the state is. -/
def ResolutionMatches (createdAt : CreatedAt) (db : Db) (c : PaymentCase) : Prop :=
  caseResolution createdAt db c ∈ openResolutionKinds ↔ c.currentState ∉ terminalCaseStates

/-- Where only closed cases have attributions, a kind is wrong only for a recovery that is
neither attributed nor found captured before any action. -/
theorem resolutionMatches_iff {createdAt : CreatedAt} {db : Db} {c : PaymentCase}
    (hclosed : ∀ a ∈ db.attributions, a.caseId = c.id → c.currentState ∈ terminalCaseStates) :
    ResolutionMatches createdAt db c ↔ (c.currentState = .recovered →
      (∃ a ∈ db.attributions, a.caseId = c.id) ∨ FoundCaptured db c.id) := by
  unfold ResolutionMatches
  rw [caseResolution_open]
  have hattributed : (∀ a ∈ db.attributions, a.caseId ≠ c.id) ↔
      ¬ ∃ a ∈ db.attributions, a.caseId = c.id := by
    simp
  rw [hattributed]
  by_cases hsome : ∃ a ∈ db.attributions, a.caseId = c.id
  · obtain ⟨a, ha, hcase⟩ := hsome
    have hterminal := hclosed a ha hcase
    have hsome : ∃ a ∈ db.attributions, a.caseId = c.id := ⟨a, ha, hcase⟩
    simp [hsome, hterminal]
  · cases hstate : c.currentState <;> simp [hsome, terminalCaseStates]

end Arc
