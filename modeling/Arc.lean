import Arc.Store.Table
import Arc.Store.Column
import Arc.Run.Trace
import Arc.Reconciliation.CaseAudit
import Arc.Integrations.Razorpay
import Arc.Reconciliation.Payment
import Arc.Reconciliation.Service
import Arc.Persistence.WebhookEvents
import Arc.Policy.Eligibility
import Arc.Diagnosis.FailureClassifier
import Arc.Policy.Schemas
import Arc.Policy.Authorization
import Arc.Policy.Current
import Arc.Policy.Service
import Arc.Assessment
import Arc.Intelligence.Context
import Arc.Intelligence.Service
import Arc.Approval.Service
import Arc.Execution.Service
import Arc.Outcomes.Service
import Arc.Outcomes.Queries
import Arc.Domain.Ascii
import Arc.System.Step
import Arc.System.Timing
import Arc.Proofs.CaseEffect
import Arc.Proofs.Decisions
import Arc.Proofs.Executions
import Arc.Proofs.Observations
import Arc.Proofs.Steps
import Arc.Proofs.Workers
import Arc.Proofs.Lifecycle
import Arc.Proofs.Webhook
import Arc.Proofs.Authority
import Arc.Proofs.Actions
import Arc.Proofs.Attribution
import Arc.Proofs.LateClaims
import Arc.Proofs.Links
import Arc.Proofs.LiveLinks
import Arc.Proofs.Truth
import Arc.Proofs.Retries
import Arc.Proofs.Verdicts
import Arc.Proofs.Fingerprints
import Arc.Proofs.Monotonicity
import Arc.Proofs.Reevaluation
import Arc.Proofs.Reports
import Arc.Proofs.Proposals
import Arc.Proofs.Approvals
import Arc.Proofs.Strategies
import Arc.Proofs.Attempts
import Arc.Proofs.Fence
import Arc.Proofs.Evidence
import Arc.Proofs.Confluence
import Arc.Proofs.Regression
import Arc.Sorting.Stable
import Arc.Proofs.Classification
import Arc.Proofs.Assessments
import Arc.Proofs.Requests
import Arc.Proofs.Stamps
import Arc.Proofs.CaseRows
import Arc.Proofs.Resolution
import Arc.ReadModels.Queries
import Arc.Proofs.ReadModels
import Arc.Text.Unicode
import Arc.Text.PyJson
import Arc.Api.RazorpayWebhooks
import Arc.Api.Ingress
import Arc.Proofs.Ingestion
import Arc.Proofs.Ledger
import Arc.Proofs.Policies
import Arc.ReadModels.Lists
import Arc.Proofs.Origins
import Arc.Text.PyValue
import Arc.Text.PyWrite
import Arc.Text.PyRead
import Arc.Text.PyRoundTrip
import Arc.Text.PySorted
import Arc.Run.Loop
import Arc.Integrations.OpenAI
import Arc.Proofs.Responses
import Arc.Outcomes.Metrics
import Arc.Proofs.Metrics
import Arc.Evaluation.Models
import Arc.Evaluation.Metrics
import Arc.Evaluation.Runner
import Arc.Proofs.Evaluation
import Arc.Deployment.Entities
import Arc.Deployment.Values
import Arc.Deployment.PublicDemoBundle
import Arc.Deployment.Export
import Arc.Proofs.Sanitizer
import Arc.Proofs.BundleImport
import Arc.Proofs.BundleRoundTrip
import Arc.Sorting.Embedding
import Arc.Store.Later
import Arc.Proofs.History
import Arc.Proofs.Custody
import Arc.Sorting.Paging
import Arc.ReadModels.Cases
import Arc.Proofs.CaseViews
import Arc.ReadModels.Timeline
import Arc.Proofs.Timeline
import Arc.Text.Encoding
import Arc.Proofs.BundleTransfer
