/-
Which actions fit a disposition, and which dispositions bypass the model.
-/
import Arc.Domain.Enums

namespace Arc

def strategyRulesetVersion : String := "arc-strategy-rules-v1"
def strategyPromptVersion : String := "arc-strategy-v1"

/-- The complete bounded action set of a disposition. -/
def compatibleActions : RecoveryDisposition → List RecoveryAction
  | .customerActionRequired =>
      [.requestRetry, .createRecoveryLink, .requestPaymentMethodUpdate, .wait, .escalateToHuman]
  | .retryLater => [.wait, .requestRetry, .escalateToHuman]
  | .alternateMethodPreferred =>
      [.requestPaymentMethodUpdate, .createRecoveryLink, .escalateToHuman]
  | .recoveryStrategyRequired =>
      [.requestRetry, .createRecoveryLink, .requestPaymentMethodUpdate, .escalateToHuman]
  | .manualReview => [.escalateToHuman]
  | .merchantFixRequired => [.escalateToHuman]
  | .unknown => [.escalateToHuman]

def isActionCompatible (disposition : RecoveryDisposition) (action : RecoveryAction) : Bool :=
  action ∈ compatibleActions disposition

def aiReasonCode : RecoveryAction → String
  | .noAction => "AI_PROPOSED_NO_ACTION"
  | .wait => "AI_PROPOSED_WAIT"
  | .requestRetry => "AI_PROPOSED_REQUEST_RETRY"
  | .createRecoveryLink => "AI_PROPOSED_CREATE_RECOVERY_LINK"
  | .requestPaymentMethodUpdate => "AI_PROPOSED_PAYMENT_METHOD_UPDATE"
  | .escalateToHuman => "AI_PROPOSED_HUMAN_ESCALATION"

/-- A proposal made without the model. -/
structure RuleStrategy where
  action : RecoveryAction
  reasonCode : String
  explanation : String
  deriving DecidableEq, Repr

/-- The rule proposal of a disposition that bypasses the model. -/
def ruleStrategyFor : RecoveryDisposition → Option RuleStrategy
  | .manualReview => some
      { action := .escalateToHuman
        reasonCode := "RULE_MANUAL_REVIEW_REQUIRED"
        explanation := "Deterministic assessment requires operator review." }
  | .merchantFixRequired => some
      { action := .escalateToHuman
        reasonCode := "RULE_MERCHANT_FIX_REQUIRED"
        explanation := "Merchant-side configuration requires operator action." }
  | .unknown => some
      { action := .escalateToHuman
        reasonCode := "RULE_UNKNOWN_DISPOSITION_ESCALATION"
        explanation := "The recovery disposition is unknown and must be reviewed." }
  | _ => none

/-- The rule proposals pass the compatibility check they are subject to. -/
theorem ruleStrategyFor_compatible {disposition : RecoveryDisposition} {rule : RuleStrategy}
    (h : ruleStrategyFor disposition = some rule) :
    isActionCompatible disposition rule.action = true := by
  cases disposition <;> cases h <;> rfl

end Arc
