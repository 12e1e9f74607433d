/-
The recovery metrics of one provider mode and one currency.

What was recovered is summed over attributions, and what was at risk over the cases that
have an observation: two tables, and nothing in the query ties the one to the other.
-/
import Mathlib.Data.List.Dedup
import Arc.Outcomes.Queries
import Arc.Text.PyValue
import Mathlib.Algebra.GroupWithZero.Nat

namespace Arc

open Store

attribute [local instance] instantOrder

variable [Platform]

structure RecoveryMetrics where
  providerMode : ProviderMode
  currency : String
  casesEvaluated : Nat
  revenueAtRiskMinor : Nat
  recoveryActionsSucceeded : Nat
  recoveredCases : Nat
  recoveredRevenueMinor : Nat
  recoveryRateByCases : ℚ
  recoveryRateByAmount : ℚ
  awaitingOutcome : Nat
  requiresAttention : Nat
  deriving DecidableEq

/-- `_currency` -/
def metricsCurrency (value : String) : Except Text.PyException String := do
  let normalized := upperStripped value
  require (normalized.length = 3) .valueError
  return normalized

/-! ### The rows of one mode and one currency -/

section

variable (db : Db) (providerMode : ProviderMode) (currency : String)

def scopedObservations : List RecoveryOutcomeObservation :=
  db.outcomeObservations.select fun o => o.providerMode == providerMode && o.currency == currency

def scopedAttributions : List RecoveryAttribution :=
  db.attributions.select fun a => a.providerMode == providerMode && a.currency == currency

/-- The cases that have an observation. -/
def observedCases : List PaymentCase :=
  db.cases.select fun c => (scopedObservations db providerMode currency).any fun o => o.caseId == c.id

/-- One turn of the loop that keeps the latest observation of each action. -/
def keepLatest (createdAt : Uuid → Int) (latest : List RecoveryOutcomeObservation)
    (o : RecoveryOutcomeObservation) : List RecoveryOutcomeObservation :=
  match latest.find? fun x => x.recoveryActionId == o.recoveryActionId with
  | none => latest ++ [o]
  | some previous =>
      if previous.recency createdAt < o.recency createdAt then
        latest.map fun x => if x.recoveryActionId = o.recoveryActionId then o else x
      else latest

/-- `latest_by_action` -/
def latestByAction (createdAt : Uuid → Int) : List RecoveryOutcomeObservation :=
  (scopedObservations db providerMode currency).foldl (keepLatest createdAt) []

/-- The actions that have an observation. -/
def observedActions : List RecoveryActionRecord :=
  db.recoveryActions.select fun r =>
    (scopedObservations db providerMode currency).any fun o => o.recoveryActionId == r.id

end

/-! ### The metrics -/

/-- An outcome a person has to look at: it asks for review, or its case is escalated. -/
def asksAttention (cases : List PaymentCase) (o : RecoveryOutcomeObservation) : Bool :=
  o.outcomeStatus == .reviewRequired ||
    cases.any fun c => c.id == o.caseId && c.currentState == .escalated

/-- The amounts of the cases whose own currency is the given one. -/
def revenueAtRisk (currency : String) (cases : List PaymentCase) : Nat :=
  ((cases.filter fun c => c.currency == some currency).map fun c => c.amount.getD 0).sum

/-- Calculate only evidence-backed metrics without mixing modes/currencies. -/
def calculateRecoveryMetrics (createdAt : Uuid → Int) (db : Db) (providerMode : ProviderMode)
    (currency : String) : Except Text.PyException RecoveryMetrics := do
  let currency ← metricsCurrency currency
  let cases := observedCases db providerMode currency
  let attributions := scopedAttributions db providerMode currency
  let atRisk := revenueAtRisk currency cases
  let recoveredCases := (attributions.map RecoveryAttribution.caseId).dedup.length
  let recoveredRevenue := (attributions.map RecoveryAttribution.recoveredAmountMinor).sum
  return {
    providerMode := providerMode
    currency := currency
    casesEvaluated := cases.length
    revenueAtRiskMinor := atRisk
    recoveryActionsSucceeded := (observedActions db providerMode currency).countP
      fun r => r.executionStatus == .succeeded
    recoveredCases := recoveredCases
    recoveredRevenueMinor := recoveredRevenue
    recoveryRateByCases := rate recoveredCases cases.length
    recoveryRateByAmount := rate recoveredRevenue atRisk
    awaitingOutcome := cases.countP fun c => c.currentState == .waitingForOutcome
    requiresAttention := (((latestByAction db providerMode currency createdAt).filter
      (asksAttention cases)).map RecoveryOutcomeObservation.caseId).dedup.length }

end Arc
