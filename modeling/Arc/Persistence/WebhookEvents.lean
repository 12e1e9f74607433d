/-
The webhook ledger.

`recordEventOnce` inserts a delivery under its event id or finds the row that has it;
`ingestWebhook` is the part of the ingress route that follows the signature check.
-/
import Arc.Integrations.Razorpay
import Arc.Domain.Models

namespace Arc

open Store

variable [Platform]

structure RecordEventResult where
  db : Db
  inserted : Bool
  integrityMismatch : Bool

/-- The row with an event id of the provider. -/
def Db.eventByRazorpayId (db : Db) (razorpayEventId : String) : Option WebhookEvent :=
  db.webhookEvents.first? fun e => e.razorpayEventId == razorpayEventId

/-- Insert an event once; a second delivery is compared with the first by its digest. -/
def recordEventOnce (db : Db) (event : WebhookEvent) : Except Error RecordEventResult :=
  match db.eventByRazorpayId event.razorpayEventId with
  | some stored =>
      .ok ⟨db, false, stored.rawBodySha256 ≠ event.rawBodySha256⟩
  | none => do
      let webhookEvents ← requireSome (db.webhookEvents.insert? event) .integrity
      return ⟨{ db with webhookEvents := webhookEvents }, true, false⟩

/-- The rejections of the ingress route, by status code and detail. -/
structure HttpRejection where
  statusCode : Nat
  detail : String
  deriving DecidableEq, Repr

/-- Normalize and record one delivery whose signature has been verified. -/
def ingestWebhook (db : Db) (payload : Json) (eventId : String) (rawBodySha256 : Digest)
    (newId : Uuid) : Except HttpRejection Db := do
  require (eventId ≠ "" ∧ eventId.length ≤ 128) ⟨400, "Missing or invalid Razorpay event id"⟩
  let normalized ← (normalizeWebhookPayload payload).mapError fun text => ⟨400, text⟩
  let event : WebhookEvent :=
    { id := newId
      razorpayEventId := eventId
      eventType := normalized.eventType
      accountId := normalized.accountId
      paymentId := normalized.paymentId
      subscriptionId := normalized.subscriptionId
      customerId := normalized.customerId
      rawPayload := payload
      rawBodySha256 := some rawBodySha256
      processingStatus := if normalized.supported then .received else .unsupported }
  match recordEventOnce db event with
  | .error _ => .error ⟨503, "Webhook persistence unavailable"⟩
  | .ok result =>
      if result.integrityMismatch then
        .error ⟨409, "Event id already exists with different request content"⟩
      else .ok result.db

/-- What an accepted delivery leaves behind: the ledger as it was, or one new row. -/
theorem ingestWebhook_eq_ok {db db' : Db} {payload : Json} {eventId : String}
    {digest : Digest} {newId : Uuid} (h : ingestWebhook db payload eventId digest newId = .ok db') :
    db' = db ∨ ∃ event webhookEvents, db.webhookEvents.insert? event = some webhookEvents ∧
      event.id = newId ∧ event.razorpayEventId = eventId ∧
      (∀ e ∈ db.webhookEvents, e.razorpayEventId ≠ eventId) ∧
      (event.processingStatus = .received ∨ event.processingStatus = .unsupported) ∧
      event.processingAttemptCount = 0 ∧ db' = { db with webhookEvents := webhookEvents } := by
  unfold ingestWebhook at h
  obtain ⟨-, -, h⟩ := bind_eq_ok.mp h
  obtain ⟨normalized, -, h⟩ := bind_eq_ok.mp h
  simp only at h
  split at h
  · cases h
  · rename_i result hresult
    split at h
    · cases h
    · cases h
      unfold recordEventOnce at hresult
      split at hresult
      · cases hresult
        exact .inl rfl
      · rename_i hnone
        obtain ⟨webhookEvents, hinsert, hresult⟩ := bind_eq_ok.mp hresult
        cases hresult
        refine .inr ⟨_, webhookEvents, requireSome_eq_ok.mp hinsert, rfl, rfl, ?_, ?_, rfl, rfl⟩
        · intro e he
          have hfree := Table.first?_eq_none.mp hnone e he
          simpa using hfree
        · by_cases hs : normalized.supported = true
          · left
            simp [hs]
          · right
            simp [hs]

end Arc
