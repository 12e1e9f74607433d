/-
Case initialization, transition and reconciliation audit helpers.
-/
import Arc.Reconciliation.StateMachine

namespace Arc

variable [Platform]

def reconciliationSource : String := "RAZORPAY_RECONCILIATION"
def unknownMerchantId : String := "unknown"

/-- Append the initial detection fact for a newly inserted case only. -/
def initializeCaseAudit (w : CaseWork) (created : Bool) : CaseWork :=
  if created then
    w.audit
      { caseId := w.row.id
        eventType := "CASE_DETECTED"
        source := reconciliationSource
        previousState := none
        newState := some .detected
        reasonCode := some "CASE_DETECTED" }
  else w

/-- Move only an early case into active reconciliation. -/
def moveDetectedCaseToReconciling (w : CaseWork) : Except Error CaseWork :=
  if canTransition w.row.currentState .reconciling then
    transitionCase w .reconciling "AUTHORITATIVE_RECONCILIATION_STARTED" reconciliationSource
  else .ok w

/-- Apply an authoritative transition without overriding terminal guards. -/
def transitionIfAllowed (w : CaseWork) (targetState : CaseState) (reasonCode : String) :
    Except Error CaseWork :=
  if canTransition w.row.currentState targetState then
    transitionCase w targetState reasonCode reconciliationSource
  else .ok w

/-- Append one fact about external truth, named by its reason code. -/
def appendReconciliationAudit (w : CaseWork) (previousState : CaseState) (reasonCode : String) :
    CaseWork :=
  w.audit
    { caseId := w.row.id
      eventType := reasonCode
      source := reconciliationSource
      previousState := some previousState
      newState := some w.row.currentState
      reasonCode := some reasonCode }

theorem moveDetectedCaseToReconciling_advances {w w' : CaseWork}
    (h : moveDetectedCaseToReconciling w = .ok w') : Advances w w' := by
  unfold moveDetectedCaseToReconciling at h
  split at h
  · exact transitionCase_advances h
  · cases h
    exact .refl _

/-- Moving a detected case into reconciliation never raises. -/
theorem moveDetectedCaseToReconciling_ok (w : CaseWork) :
    ∃ w', moveDetectedCaseToReconciling w = .ok w' ∧
      w'.row = { w.row with currentState := w'.row.currentState } ∧
      w'.row.currentState =
        if w.row.currentState = .detected then .reconciling else w.row.currentState := by
  obtain ⟨row, events⟩ := w
  unfold moveDetectedCaseToReconciling transitionCase
  cases hs : row.currentState <;>
    simp [hs, canTransition, allowedTransitions, terminalCaseStates] <;> simp [← hs]

theorem transitionIfAllowed_advances {w w' : CaseWork} {t : CaseState} {reason : String}
    (h : transitionIfAllowed w t reason = .ok w') : Advances w w' := by
  unfold transitionIfAllowed at h
  split at h
  · exact transitionCase_advances h
  · cases h
    exact .refl _

/-- A new case starts its trail with its detection. -/
theorem initializeCaseAudit_row (w : CaseWork) (created : Bool) :
    (initializeCaseAudit w created).row = w.row := by
  unfold initializeCaseAudit
  split <;> rfl

/-- **A guarded transition never raises**: it is made when the table has it. -/
theorem transitionIfAllowed_ok (w : CaseWork) (t : CaseState) (reason : String) :
    ∃ w', transitionIfAllowed w t reason = .ok w' ∧
      w'.row = { w.row with currentState := w'.row.currentState } ∧
      w'.row.currentState =
        if canTransition w.row.currentState t then t else w.row.currentState := by
  unfold transitionIfAllowed
  split
  · rename_i hcan
    unfold transitionCase
    by_cases hsame : w.row.currentState = t
    · exact ⟨w, by simp [hsame], rfl, by simp [hsame]⟩
    · have hno : ¬ canTransition w.row.currentState t = false := by simp [hcan]
      exact ⟨_, (if_neg hsame).trans (if_neg hno), rfl, rfl⟩
  · exact ⟨w, rfl, rfl, rfl⟩

theorem appendReconciliationAudit_advances {w : CaseWork} {previousState : CaseState}
    {reason : String} (hkind : reason ≠ caseStateTransition) (hkind' : reason ∉ reservedEventTypes) :
    Advances w (appendReconciliationAudit w previousState reason) :=
  .audit rfl hkind hkind'

end Arc
