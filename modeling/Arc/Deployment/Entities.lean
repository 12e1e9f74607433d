/-
The tables of the public demo bundle.

The order of the tables is the order they are imported in: a table refers to tables
before it only.  A table lists its fields in the order they are exported in, each with
the type of its column and the table its identifiers refer to.
-/
import Arc.Domain.Value

namespace Arc

/-- `_ENTITY_SPECS`, by name. -/
inductive EntityName
  | merchantPolicies
  | paymentCases
  | caseEvents
  | strategyProposals
  | policyDecisions
  | approvalRequests
  | recoveryActions
  | recoveryOutcomeObservations
  | recoveryAttributions
  deriving DecidableEq, Repr

namespace EntityName

def value : EntityName → String
  | merchantPolicies => "merchant_policies"
  | paymentCases => "payment_cases"
  | caseEvents => "case_events"
  | strategyProposals => "strategy_proposals"
  | policyDecisions => "policy_decisions"
  | approvalRequests => "approval_requests"
  | recoveryActions => "recovery_actions"
  | recoveryOutcomeObservations => "recovery_outcome_observations"
  | recoveryAttributions => "recovery_attributions"

def all : List EntityName :=
  [merchantPolicies, paymentCases, caseEvents, strategyProposals, policyDecisions,
    approvalRequests, recoveryActions, recoveryOutcomeObservations, recoveryAttributions]

theorem mem_all (entity : EntityName) : entity ∈ all := by cases entity <;> decide

theorem value_injective {a b : EntityName} (h : a.value = b.value) : a = b := by
  cases a <;> cases b <;> first | rfl | exact absurd h (by decide)

end EntityName

/-- The type of a column, as far as a value of it can be told by it. -/
inductive ColumnType
  /-- An identifier; `references` is the table a foreign key names. -/
  | uuid (references : Option EntityName)
  | dateTime
  | enum
  | string
  | integer (bits : Nat)
  | boolean
  | float
  /-- A JSON column, and one whose values are objects. -/
  | json
  | jsonObject
  deriving DecidableEq, Repr

structure Column where
  key : String
  type : ColumnType
  nullable : Bool
  deriving DecidableEq, Repr

/-- A column that is never null. -/
def Column.required (key : String) (type : ColumnType) : Column := ⟨key, type, false⟩

def Column.optional (key : String) (type : ColumnType) : Column := ⟨key, type, true⟩

open Column ColumnType in
/-- The fields of a table, with their columns. -/
def EntityName.fields : EntityName → List Column
  | merchantPolicies =>
    [required "id" (uuid none),
      required "merchant_id" string,
      required "automation_enabled" boolean,
      required "allowed_actions" json,
      required "max_automated_attempts" (integer 32),
      required "max_contact_attempts" (integer 32),
      required "recovery_window_minutes" (integer 32),
      required "high_value_threshold_minor" (integer 64),
      optional "require_approval_above_minor" (integer 64),
      required "stopping_rules" jsonObject,
      required "created_at" dateTime,
      required "updated_at" dateTime]
  | paymentCases =>
    [required "id" (uuid none),
      required "case_reference" string,
      required "merchant_id" string,
      optional "payment_id" string,
      optional "subscription_id" string,
      optional "razorpay_payment_status" string,
      optional "razorpay_subscription_status" string,
      optional "razorpay_payment_method" string,
      optional "customer_id" string,
      optional "amount" (integer 64),
      optional "currency" string,
      required "current_state" enum,
      optional "error_code" string,
      optional "error_description" string,
      optional "error_source" string,
      optional "error_step" string,
      optional "error_reason" string,
      optional "eligibility_status" enum,
      optional "eligibility_reason_code" string,
      optional "eligibility_evaluated_at" dateTime,
      optional "failure_category" enum,
      optional "recovery_disposition" enum,
      optional "diagnosis_reason_code" string,
      optional "diagnosed_at" dateTime,
      optional "assessment_fingerprint" string,
      required "attempt_count" (integer 32),
      required "contact_attempt_count" (integer 32),
      required "detected_at" dateTime,
      optional "last_reconciled_at" dateTime,
      optional "resolved_at" dateTime,
      required "created_at" dateTime,
      required "updated_at" dateTime]
  | caseEvents =>
    [required "id" (uuid none),
      required "case_id" (uuid (some .paymentCases)),
      required "event_type" string,
      required "source" string,
      required "event_data" jsonObject,
      required "created_at" dateTime]
  | strategyProposals =>
    [required "id" (uuid none),
      required "case_id" (uuid (some .paymentCases)),
      required "assessment_fingerprint" string,
      required "strategy_input_fingerprint" string,
      required "source" enum,
      required "action" enum,
      required "reason_code" string,
      required "explanation" string,
      optional "confidence" float,
      optional "re_evaluate_after_seconds" (integer 32),
      required "prompt_version" string,
      optional "model" string,
      optional "provider_response_id" string,
      optional "input_tokens" (integer 32),
      optional "output_tokens" (integer 32),
      optional "total_tokens" (integer 32),
      optional "latency_ms" (integer 32),
      required "created_at" dateTime,
      optional "superseded_at" dateTime]
  | policyDecisions =>
    [required "id" (uuid none),
      required "case_id" (uuid (some .paymentCases)),
      required "strategy_proposal_id" (uuid (some .strategyProposals)),
      optional "merchant_policy_id" (uuid (some .merchantPolicies)),
      required "strategy_input_fingerprint" string,
      required "policy_fingerprint" string,
      required "authorization_input_fingerprint" string,
      required "result" enum,
      required "reason_code" string,
      required "explanation" string,
      optional "recovery_window_ends_at" dateTime,
      optional "approval_threshold_minor" (integer 64),
      optional "high_value_threshold_minor" (integer 64),
      optional "observed_high_value" boolean,
      optional "observed_amount_minor" (integer 64),
      required "observed_attempt_count" (integer 32),
      required "observed_contact_attempt_count" (integer 32),
      required "evaluated_at" dateTime,
      optional "superseded_at" dateTime]
  | approvalRequests =>
    [required "id" (uuid none),
      required "case_id" (uuid (some .paymentCases)),
      required "policy_decision_id" (uuid (some .policyDecisions)),
      required "status" enum,
      required "requested_at" dateTime,
      optional "decided_at" dateTime,
      optional "decided_by" string,
      optional "decision_note" string,
      required "created_at" dateTime]
  | recoveryActions =>
    [required "id" (uuid none),
      required "case_id" (uuid (some .paymentCases)),
      required "strategy_proposal_id" (uuid (some .strategyProposals)),
      required "policy_decision_id" (uuid (some .policyDecisions)),
      optional "approval_request_id" (uuid (some .approvalRequests)),
      required "action" enum,
      required "execution_status" enum,
      required "idempotency_key" string,
      required "request_fingerprint" string,
      required "provider" string,
      optional "external_reference_id" string,
      optional "external_reference" string,
      optional "external_status" string,
      optional "external_url" string,
      optional "external_expires_at" dateTime,
      optional "execution_started_at" dateTime,
      required "execution_attempt_count" (integer 32),
      optional "executed_at" dateTime,
      optional "failed_at" dateTime,
      optional "error_code" string,
      optional "next_evaluation_at" dateTime,
      required "created_at" dateTime,
      required "updated_at" dateTime]
  | recoveryOutcomeObservations =>
    [required "id" (uuid none),
      required "case_id" (uuid (some .paymentCases)),
      required "recovery_action_id" (uuid (some .recoveryActions)),
      required "source" enum,
      required "provider" string,
      required "provider_mode" enum,
      required "provider_status" string,
      required "outcome_status" enum,
      required "amount_expected_minor" (integer 64),
      required "amount_paid_minor" (integer 64),
      required "currency" string,
      optional "provider_payment_id" string,
      optional "provider_payment_status" string,
      required "evidence_fingerprint" string,
      required "observed_at" dateTime,
      required "created_at" dateTime]
  | recoveryAttributions =>
    [required "id" (uuid none),
      required "case_id" (uuid (some .paymentCases)),
      required "recovery_action_id" (uuid (some .recoveryActions)),
      required "outcome_observation_id" (uuid (some .recoveryOutcomeObservations)),
      required "provider" string,
      required "provider_mode" enum,
      required "provider_payment_link_id" string,
      required "provider_reference_id" string,
      required "provider_payment_id" string,
      required "recovered_amount_minor" (integer 64),
      required "currency" string,
      required "attribution_reason_code" string,
      required "evidence_fingerprint" string,
      required "attributed_at" dateTime,
      required "created_at" dateTime]

/-- No two fields of a table have the same name. -/
theorem EntityName.fields_nodup (entity : EntityName) :
    (entity.fields.map Column.key).Nodup := by
  cases entity <;> decide +kernel

end Arc
