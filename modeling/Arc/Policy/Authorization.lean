/-
Merchant authorization rules and their precedence.

`evaluateAuthorization` goes through the rules in a fixed order and the first one
that applies decides: internal actions, the policy itself, the hard stops, then the
reasons to ask a human.  `evaluateAuthorization_external` reads off what an external
action has passed when it was not blocked.
-/
import Arc.Policy.Schemas

namespace Arc

variable [Platform]

def safeInternalActions : List RecoveryAction := [.noAction, .wait, .escalateToHuman]

def automatedRecoveryActions : List RecoveryAction :=
  [.requestRetry, .createRecoveryLink, .requestPaymentMethodUpdate]

def customerContactActions : List RecoveryAction :=
  [.createRecoveryLink, .requestPaymentMethodUpdate]

/-- The facts a policy is evaluated against. -/
structure AuthorizationFacts where
  action : RecoveryAction
  amountMinor : Option Nat
  attemptCount : Nat
  contactAttemptCount : Nat
  detectedAt : Int
  failureCategory : Option FailureCategory
  paymentMethod : Option String
  evaluatedAt : Int
  deriving DecidableEq

structure AuthorizationEvaluation where
  result : PolicyDecisionResult
  reasonCode : String
  explanation : String
  recoveryWindowEndsAt : Option Int
  recoveryWindowExpired : Option Bool
  approvalThresholdMinor : Option Nat
  highValueThresholdMinor : Option Nat
  observedHighValue : Option Bool
  deriving DecidableEq, Repr

/-- The part of `_result` that depends on the configuration and the amount. -/
def evaluationOf (result : PolicyDecisionResult) (reasonCode explanation : String)
    (windowEndsAt : Option Int) (windowExpired : Option Bool)
    (configuration : Option PolicyConfiguration) (amountMinor : Option Nat) :
    AuthorizationEvaluation where
  result := result
  reasonCode := reasonCode
  explanation := explanation
  recoveryWindowEndsAt := windowEndsAt
  recoveryWindowExpired := windowExpired
  approvalThresholdMinor := configuration.bind PolicyConfiguration.requireApprovalAboveMinor
  highValueThresholdMinor := configuration.map PolicyConfiguration.highValueThresholdMinor
  observedHighValue := amountMinor.bind fun amount =>
    configuration.map fun c => decide (c.highValueThresholdMinor ≤ amount)

def safeInternalReason : RecoveryAction → String
  | .noAction => "SAFE_INTERNAL_NO_ACTION"
  | .wait => "SAFE_INTERNAL_WAIT"
  | _ => "SAFE_INTERNAL_HUMAN_ESCALATION"

/-- The end of the recovery window. -/
def recoveryWindowEnd (facts : AuthorizationFacts) (configuration : PolicyConfiguration) : Int :=
  facts.detectedAt + minutes configuration.recoveryWindowMinutes

/-- The reasons to ask a human, for an action no hard stop applies to. -/
def approvalRule (facts : AuthorizationFacts) (configuration : PolicyConfiguration) (amount : Nat) :
    PolicyDecisionResult × String × String :=
  if facts.action ∈ configuration.requireApprovalActions then
    (.requiresApproval, "STOPPING_RULE_REQUIRES_APPROVAL",
      "Merchant policy requires approval for this action.")
  else if configuration.requireApprovalAboveMinor.any fun threshold => threshold ≤ amount then
    (.requiresApproval, "AMOUNT_REQUIRES_HUMAN_APPROVAL",
      "The case amount meets the merchant approval threshold.")
  else if configuration.automationEnabled = false then
    (.requiresApproval, "AUTOMATION_DISABLED_REQUIRES_APPROVAL",
      "Merchant automation is disabled, so human approval is required.")
  else
    (.authorized, "POLICY_AUTHORIZED",
      "The proposal satisfies all deterministic merchant policy controls.")

/-- The rules inside the recovery window. -/
def evaluateWithinWindow (facts : AuthorizationFacts) (configuration : PolicyConfiguration) :
    PolicyDecisionResult × String × String :=
  if configuration.maxAutomatedAttempts ≤ facts.attemptCount then
    (.blocked, "MAX_AUTOMATED_ATTEMPTS_REACHED",
      "The automated recovery-attempt limit has been reached.")
  else if facts.action ∈ customerContactActions ∧
      configuration.maxContactAttempts ≤ facts.contactAttemptCount then
    (.blocked, "MAX_CUSTOMER_CONTACTS_REACHED", "The customer-contact limit has been reached.")
  else
    match facts.amountMinor with
    | none =>
        (.blocked, "POLICY_AMOUNT_CONTEXT_MISSING",
          "Amount context is required for external recovery policy.")
    | some amount => approvalRule facts configuration amount

/-- The rules of a valid policy, for an external action. -/
def evaluateConfigured (facts : AuthorizationFacts) (configuration : PolicyConfiguration) :
    AuthorizationEvaluation :=
  let blocked (reasonCode explanation : String) :=
    evaluationOf .blocked reasonCode explanation none none (some configuration) facts.amountMinor
  if facts.action ∉ configuration.allowedActions then
    blocked "ACTION_NOT_ALLOWED_BY_POLICY" "The proposed action is not in the merchant allowlist."
  else if facts.failureCategory.any fun c => c ∈ configuration.blockedFailureCategories then
    blocked "STOPPING_RULE_FAILURE_CATEGORY" "A hard stopping rule blocks this failure category."
  else if (facts.paymentMethod.map fun m => Platform.lower (strip m)).any
      fun m => m ∈ configuration.blockedPaymentMethods then
    blocked "STOPPING_RULE_PAYMENT_METHOD" "A hard stopping rule blocks this payment method."
  else if configuration.recoveryWindowMinutes = 0 then
    blocked "RECOVERY_WINDOW_NOT_CONFIGURED"
      "A positive recovery window is required for external recovery."
  else
    let windowEnd := recoveryWindowEnd facts configuration
    if windowEnd < facts.evaluatedAt then
      evaluationOf .blocked "RECOVERY_WINDOW_EXPIRED" "The merchant recovery window has expired."
        (some windowEnd) (some true) (some configuration) facts.amountMinor
    else
      let (result, reasonCode, explanation) := evaluateWithinWindow facts configuration
      evaluationOf result reasonCode explanation (some windowEnd) (some false)
        (some configuration) facts.amountMinor

/-- Evaluate one proposal, hard stops first. -/
def evaluateAuthorization (facts : AuthorizationFacts) (policyPresent : Bool)
    (configuration : Option PolicyConfiguration) : AuthorizationEvaluation :=
  let withoutPolicy (result : PolicyDecisionResult) (reasonCode explanation : String) :=
    evaluationOf result reasonCode explanation none none none facts.amountMinor
  if facts.action ∈ safeInternalActions then
    withoutPolicy .authorized (safeInternalReason facts.action)
      "The proposal is an internal safety-preserving action."
  else if facts.action ∉ automatedRecoveryActions then
    withoutPolicy .blocked "POLICY_CONFIGURATION_INVALID"
      "The proposal is not a recognized policy-controlled action."
  else if policyPresent = false then
    withoutPolicy .blocked "POLICY_NOT_CONFIGURED"
      "No merchant policy is configured for external recovery."
  else
    match configuration with
    | none =>
        withoutPolicy .blocked "POLICY_CONFIGURATION_INVALID"
          "Merchant policy configuration failed strict validation."
    | some configuration => evaluateConfigured facts configuration

/-- True only for a current decision that authorizes without approval. -/
def isExecutionAuthorized (decision : PolicyDecision) : Bool :=
  decision.result == .authorized && decision.supersededAt.isNone

/-! ### What an external action has passed

The rules are read back once for an action that is not blocked, since every service that
acts on a decision wants to know what has been checked for it.
-/

/-- The limits an external action is within. -/
structure WithinLimits (facts : AuthorizationFacts) (configuration : PolicyConfiguration) :
    Prop where
  allowed : facts.action ∈ configuration.allowedActions
  window : facts.evaluatedAt ≤ recoveryWindowEnd facts configuration
  attempts : facts.attemptCount < configuration.maxAutomatedAttempts
  contacts : facts.action ∈ customerContactActions →
    facts.contactAttemptCount < configuration.maxContactAttempts
  amount : ∃ amount, facts.amountMinor = some amount

omit [Platform] in
theorem evaluateWithinWindow_not_blocked {facts : AuthorizationFacts}
    {configuration : PolicyConfiguration}
    (h : (evaluateWithinWindow facts configuration).1 ≠ .blocked) :
    facts.attemptCount < configuration.maxAutomatedAttempts ∧
    (facts.action ∈ customerContactActions →
      facts.contactAttemptCount < configuration.maxContactAttempts) ∧
    ∃ amount, facts.amountMinor = some amount := by
  unfold evaluateWithinWindow at h
  split at h
  · simp at h
  · rename_i hattempts
    split at h
    · simp at h
    · rename_i hcontacts
      split at h
      · simp at h
      · rename_i amount hamount
        refine ⟨by omega, fun hc => ?_, amount, hamount⟩
        by_contra hge
        exact hcontacts ⟨hc, by omega⟩

/-- **A configured policy that does not block an action has it within all limits.** -/
theorem evaluateConfigured_not_blocked {facts : AuthorizationFacts}
    {configuration : PolicyConfiguration}
    (h : (evaluateConfigured facts configuration).result ≠ .blocked) :
    WithinLimits facts configuration ∧
    (evaluateConfigured facts configuration).recoveryWindowEndsAt
      = some (recoveryWindowEnd facts configuration) := by
  unfold evaluateConfigured at h ⊢
  simp only at h ⊢
  split at h
  · simp [evaluationOf] at h
  rename_i hallowed
  split at h
  · simp [evaluationOf] at h
  rename_i hcategory
  split at h
  · simp [evaluationOf] at h
  rename_i hmethod
  split at h
  · simp [evaluationOf] at h
  rename_i hminutes
  split at h
  · simp [evaluationOf] at h
  rename_i hwindow
  obtain ⟨hattempts, hcontacts, hamount⟩ := evaluateWithinWindow_not_blocked h
  rw [if_neg hallowed, if_neg hcategory, if_neg hmethod, if_neg hminutes, if_neg hwindow]
  exact ⟨⟨not_not.mp hallowed, by omega, hattempts, hcontacts, hamount⟩, rfl⟩

/-- **An external action that is not blocked is within the limits of a valid policy.** -/
theorem evaluateAuthorization_external {facts : AuthorizationFacts} {policyPresent : Bool}
    {configuration : Option PolicyConfiguration} (haction : facts.action ∉ safeInternalActions)
    (h : (evaluateAuthorization facts policyPresent configuration).result ≠ .blocked) :
    policyPresent = true ∧ ∃ c, configuration = some c ∧ WithinLimits facts c ∧
      (evaluateAuthorization facts policyPresent configuration).recoveryWindowEndsAt
        = some (recoveryWindowEnd facts c) := by
  unfold evaluateAuthorization at h ⊢
  simp only [haction, if_false] at h ⊢
  split at h
  · simp [evaluationOf] at h
  rename_i hauto
  split at h
  · simp [evaluationOf] at h
  rename_i hpresent
  cases configuration with
  | none => simp [evaluationOf] at h
  | some c =>
      simp only [hauto, hpresent, if_false] at h ⊢
      obtain ⟨hlimits, hend⟩ := evaluateConfigured_not_blocked h
      exact ⟨trivial, c, rfl, hlimits, hend⟩

end Arc
