/-
Fingerprints of policies and of authorization inputs.

Each is the hash of a dictionary of facts.  A missing, an invalid and a valid policy
are told apart by their `policy_status`; an invalid one is hashed as it is stored,
with the order of object keys and array items taken out.
-/
import Arc.Policy.Authorization

namespace Arc

variable [Platform]

def policyRulesetVersion : String := "arc-merchant-policy-v1"
def authorizationRulesetVersion : String := "arc-authorization-v1"

mutual

/-- Objects in the order of their keys, arrays in the order of their JSON texts. -/
def canonicalizeJson : Json → Json
  | .obj fields => .obj ((canonicalFields fields).insertionSort fun a b => a.1 ≤ b.1)
  | .arr items =>
      .arr ((canonicalItems items).insertionSort fun a b => Platform.dumps a ≤ Platform.dumps b)
  | value => value

def canonicalItems : List Json → List Json
  | [] => []
  | item :: items => canonicalizeJson item :: canonicalItems items

def canonicalFields : List (String × Json) → List (String × Json)
  | [] => []
  | (name, value) :: fields => (name, canonicalizeJson value) :: canonicalFields fields

end

def textArray (items : List String) : Json := .arr (items.map .str)

def policyMissingFacts : Json :=
  .obj [("policy_status", .str "policy_missing"),
    ("policy_ruleset_version", .str policyRulesetVersion)]

def policyInvalidFacts (policy : MerchantPolicy) : Json :=
  .obj [
    ("policy_status", .str "policy_invalid"),
    ("policy_ruleset_version", .str policyRulesetVersion),
    ("automation_enabled", canonicalizeJson policy.automationEnabled),
    ("allowed_actions", canonicalizeJson policy.allowedActions),
    ("max_automated_attempts", canonicalizeJson policy.maxAutomatedAttempts),
    ("max_contact_attempts", canonicalizeJson policy.maxContactAttempts),
    ("recovery_window_minutes", canonicalizeJson policy.recoveryWindowMinutes),
    ("high_value_threshold_minor", canonicalizeJson policy.highValueThresholdMinor),
    ("require_approval_above_minor", canonicalizeJson policy.requireApprovalAboveMinor),
    ("stopping_rules", canonicalizeJson policy.stoppingRules)]

def policyValidFacts (c : PolicyConfiguration) : Json :=
  .obj [
    ("policy_status", .str "valid"),
    ("policy_ruleset_version", .str policyRulesetVersion),
    ("automation_enabled", .bool c.automationEnabled),
    ("allowed_actions", textArray (c.allowedActions.map RecoveryAction.value)),
    ("max_automated_attempts", .int c.maxAutomatedAttempts),
    ("max_contact_attempts", .int c.maxContactAttempts),
    ("recovery_window_minutes", .int c.recoveryWindowMinutes),
    ("high_value_threshold_minor", .int c.highValueThresholdMinor),
    ("require_approval_above_minor",
      .ofOption (fun n : Nat => .int n) c.requireApprovalAboveMinor),
    ("stopping_rules", .obj [
      ("blocked_failure_categories",
        textArray (c.blockedFailureCategories.map FailureCategory.value)),
      ("blocked_payment_methods", textArray c.blockedPaymentMethods),
      ("require_approval_actions",
        textArray (c.requireApprovalActions.map RecoveryAction.value))])]

/-- Hash the usable policy, or a representation of a missing or invalid one. -/
def buildPolicyFingerprint (policy : Option MerchantPolicy)
    (configuration : Option PolicyConfiguration) : Digest :=
  Platform.hashFacts <|
    match policy, configuration with
    | none, _ => policyMissingFacts
    | some policy, none => policyInvalidFacts policy
    | some _, some c => policyValidFacts c

/-- Hash the facts that have authority over an authorization. -/
def buildAuthorizationInputFingerprint (proposal : StrategyProposal)
    (assessmentFingerprint policyFingerprint : Digest) (c : PaymentCase)
    (evaluation : AuthorizationEvaluation) : Digest :=
  Platform.hashFacts <| .obj [
    ("authorization_ruleset_version", .str authorizationRulesetVersion),
    ("strategy_proposal_id", .int proposal.id),
    ("strategy_input_fingerprint", Platform.hexdigest proposal.strategyInputFingerprint),
    ("assessment_fingerprint", Platform.hexdigest assessmentFingerprint),
    ("policy_fingerprint", Platform.hexdigest policyFingerprint),
    ("action", .str proposal.action.value),
    ("attempt_count", .int c.attemptCount),
    ("contact_attempt_count", .int c.contactAttemptCount),
    ("amount_minor", .ofOption (fun n : Nat => .int n) c.amount),
    ("failure_category", .ofOption (fun f => .str f.value) c.failureCategory),
    ("payment_method",
      .ofOption (fun m => .str (Platform.lower (strip m))) c.razorpayPaymentMethod),
    ("recovery_window_ends_at", .ofOption .int evaluation.recoveryWindowEndsAt),
    ("recovery_window_expired", .ofOption .bool evaluation.recoveryWindowExpired)]

end Arc
