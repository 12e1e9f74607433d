/-
Strict validation of merchant policies.

A stored policy is JSON in every column that matters.  `validatePolicy` either
refuses it or turns it into a `PolicyConfiguration`, in which the sets are lists
without repetition in alphabetical order, so that two configurations are equal
exactly when they mean the same.
-/
import Mathlib.Data.List.Sort
import Arc.Domain.Models

namespace Arc

variable [Platform]

/-- A set of texts: sorted, without repetition. -/
def textSet (items : List String) : List String := items.dedup.insertionSort (· ≤ ·)

structure StoppingRules where
  blockedFailureCategories : List FailureCategory := []
  blockedPaymentMethods : List String := []
  requireApprovalActions : List RecoveryAction := []
  deriving DecidableEq, Repr

structure PolicyConfiguration where
  automationEnabled : Bool
  allowedActions : List RecoveryAction
  maxAutomatedAttempts : Nat
  maxContactAttempts : Nat
  recoveryWindowMinutes : Nat
  highValueThresholdMinor : Nat
  requireApprovalAboveMinor : Option Nat
  blockedFailureCategories : List FailureCategory
  blockedPaymentMethods : List String
  requireApprovalActions : List RecoveryAction
  deriving DecidableEq, Repr

/-- A value of an enumeration, by its text. -/
def enumItem {α : Type} (ofValue? : String → Option α) : Json → Option α
  | .str s => ofValue? s
  | _ => none

/-- A JSON array of enumeration values. -/
def enumItems {α : Type} (ofValue? : String → Option α) (items : List Json) : Option (List α) :=
  items.mapM (enumItem ofValue?)

/-- A payment method: a text that is not blank, stripped and in small letters. -/
def paymentMethodItem : Json → Option String
  | .str s => if strip s = "" then none else some (Platform.lower (strip s))
  | _ => none

/-- The items of a stopping rule; a rule that is left out is empty. -/
def ruleItems (rules : Json) (name : String) : Option (List Json) :=
  match rules.field? name with
  | none => some []
  | some (.arr items) => some items
  | some _ => none

def stoppingRuleNames : List String :=
  ["blocked_failure_categories", "blocked_payment_methods", "require_approval_actions"]

/-- `StoppingRules.model_validate` of an object; unknown fields are forbidden. -/
def validateStoppingRules (fields : List (String × Json)) : Option StoppingRules := do
  let rules := Json.obj fields
  if fields.all fun f => f.1 ∈ stoppingRuleNames then
    let categories ← (ruleItems rules "blocked_failure_categories").bind
      (enumItems FailureCategory.ofValue?)
    let methods ← (ruleItems rules "blocked_payment_methods").bind fun items =>
      items.mapM paymentMethodItem
    let actions ← (ruleItems rules "require_approval_actions").bind
      (enumItems RecoveryAction.ofValue?)
    return ⟨categories, methods, actions⟩
  else none

def textItem : Json → Option String
  | .str s => some s
  | _ => none

/-- Arrays and objects cannot stand in a set. -/
def isHashable : Json → Bool
  | .arr _ | .obj _ => false
  | _ => true

/--
What a set tells its elements apart by: a boolean is the same element as a number.  A
float and an integer of one value count as two here, which no comparison below depends on.
-/
def setKey : Json → Json
  | .bool b => .int (if b then 1 else 0)
  | value => value

/--
The set of the actions whose texts are listed.  What is no text is left out of it and
shows in the comparison with the size of the set of all items.
-/
def allowedActionSet (items : List Json) : Option (List RecoveryAction) := do
  let actions ← (items.filterMap textItem).mapM RecoveryAction.ofValue?
  let allowedActions := RecoveryAction.setOf actions
  if items.all isHashable && allowedActions.length == (items.map setKey).dedup.length then
    return allowedActions
  else none

/-- An integer that is not negative; a boolean is not an integer here. -/
def limitValue : Json → Option Nat
  | .int n => if 0 ≤ n then some n.toNat else none
  | _ => none

/-- The approval threshold: null, or a limit. -/
def thresholdValue : Json → Option (Option Nat)
  | .null => some none
  | value => (limitValue value).map some

/-- Validate and normalize one stored policy. -/
def validatePolicy (policy : MerchantPolicy) : Option PolicyConfiguration := do
  let .arr allowed := policy.allowedActions | none
  let .obj stopping := policy.stoppingRules | none
  let .bool automationEnabled := policy.automationEnabled | none
  let maxAutomatedAttempts ← limitValue policy.maxAutomatedAttempts
  let maxContactAttempts ← limitValue policy.maxContactAttempts
  let recoveryWindowMinutes ← limitValue policy.recoveryWindowMinutes
  let highValueThresholdMinor ← limitValue policy.highValueThresholdMinor
  let threshold ← thresholdValue policy.requireApprovalAboveMinor
  let allowedActions ← allowedActionSet allowed
  let rules ← validateStoppingRules stopping
  return {
    automationEnabled := automationEnabled
    allowedActions := allowedActions
    maxAutomatedAttempts := maxAutomatedAttempts
    maxContactAttempts := maxContactAttempts
    recoveryWindowMinutes := recoveryWindowMinutes
    highValueThresholdMinor := highValueThresholdMinor
    requireApprovalAboveMinor := threshold
    blockedFailureCategories := FailureCategory.setOf rules.blockedFailureCategories
    blockedPaymentMethods := textSet rules.blockedPaymentMethods
    requireApprovalActions := RecoveryAction.setOf rules.requireApprovalActions }

end Arc
