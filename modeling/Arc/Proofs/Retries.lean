/-
Links and the retries of the platform.

A case whose own subscription is reported pending is not claimed for a link: eligibility
is checked again under the lock of the claim.  The case of a payment is another row than
the case of its subscription, and no check reads both, so a link can be claimed for the
failed payment while the platform still retries its subscription.
-/
import Arc.Proofs.Authority

namespace Arc

open Store

variable [Platform]

theorem normalized_pending : normalized (some "pending") = some "pending" := by
  have hstrip : strip "pending" = "pending" := by decide
  have hlower : Platform.lower "pending" = "pending" := Platform.lower_ascii _ (by simp)
  simp [normalized, hstrip, hlower]

/-- A confirmed failure is not a pending subscription. -/
theorem PaymentCase.FailureConfirmed.not_pending {c : PaymentCase} (h : c.FailureConfirmed) :
    c.razorpaySubscriptionStatus ≠ some "pending" := by
  intro hpending
  rcases h with ⟨-, hnone, -⟩ | ⟨-, hhalted, -⟩
  · rw [hpending, normalized_pending] at hnone
    cases hnone
  · rw [hpending, normalized_pending] at hhalted
    simp at hhalted

/--
**No claim for a case that is itself pending.**  Along every run, a claim for a payment
link is committed on a case whose own report is a confirmed failure, and not while its
own subscription is reported pending.
-/
theorem claim_not_while_pending {clock : Int} {tr : List (Run.Step System Label)} {s : System}
    (h : RunTrace clock tr s) : ∀ x ∈ tr, ∀ worker caseId newId now held,
      ClaimStep x worker caseId newId now held → held.claim.action = .createRecoveryLink →
      held.claim.caseId = caseId ∧ ∃ c, x.pre.db.cases.get? caseId = some c ∧
        c.FailureConfirmed ∧ c.razorpaySubscriptionStatus ≠ some "pending" := by
  intro x hx worker caseId newId now held hclaim haction
  obtain ⟨-, hcase, c, proposal, decision, rfl, hauthority⟩ :=
    hclaim.authority (h.step_of_mem hx) haction
  have hconfirmed := hauthority.confirmed
  exact ⟨hcase, c, hauthority.stored, hconfirmed, hconfirmed.not_pending⟩

end Arc

namespace Arc

attribute [local instance] asciiPlatform

theorem claim_not_while_pending_recovered : ∃ tr s, RunTrace 0 tr s ∧
    tr.map Run.Step.label = recoveredRun ∧ ∃ x ∈ tr, ∃ caseId newId now held c,
      ClaimStep x 0 caseId newId now held ∧ x.pre.db.cases.get? caseId = some c ∧
      c.FailureConfirmed ∧ c.razorpaySubscriptionStatus ≠ some "pending" := by
  have hrun : (Run.replay step (System.initial 0) recoveredRun).isSome = true := by decide +kernel
  obtain ⟨tr, s, htr, hlabels, -⟩ := Run.Trace.of_isSome hrun
  have hsent : Label.executor 0 .sendCreate ∈ tr.map Run.Step.label := by
    rw [hlabels]
    simp [recoveredRun, authorizedRun]
  obtain ⟨x, hx, hlabel⟩ := List.mem_map.mp hsent
  have hstep := htr.step_of_mem hx
  rw [hlabel] at hstep
  obtain ⟨before, after, rfl, hbefore, -⟩ := htr.split hx
  obtain ⟨held, y, caseId, newId, now, -, hy, hclaim, haction⟩ := sent_claimed hbefore hstep
  have hmem : y ∈ before ++ x :: after := List.mem_append_left _ hy
  obtain ⟨-, c, hc, hconfirmed⟩ :=
    claim_not_while_pending htr y hmem 0 caseId newId now held hclaim haction
  exact ⟨_, s, htr, hlabels, y, hmem, caseId, newId, now, held, c, hclaim, hc, hconfirmed⟩

def pendingPayload : Json :=
  .obj [("event", .str "subscription.pending"), ("account_id", .str "acc"),
    ("payload", .obj [("subscription", .obj [("entity", .obj [("id", .str "sub_1")])])])]

/-- A subscription is reported pending, then a payment of it fails and is assessed. -/
def pendingRun : List Label := [
  .service (.setPolicy samplePolicy),
  .service (.ingest pendingPayload "evt_0" (.str "c") 2),
  .processor 1 (.claim 2),
  .processor 1 (.fetch .noResponse (.response 200 (some { id := "sub_1", status := "pending" }))),
  .processor 1 (.apply ⟨11, 0⟩),
  .service (.ingest samplePayload "evt_1" (.str "d") 1),
  .processor 0 (.claim 1),
  .processor 0 (.fetch
    (.response 200 (some { samplePayment with subscriptionId := some "sub_1" })) .noResponse),
  .processor 0 (.apply ⟨10, 0⟩),
  .service (.assess 10),
  .strategist 0 (.prepare 10 "model"),
  .strategist 0 (.answer ⟨.createRecoveryLink, "", none, "model"⟩),
  .strategist 0 (.persist 20),
  .service (.evaluatePolicy 10 none 30)]

/-- A link is claimed for the payment while its subscription is pending. -/
theorem claimed_while_retried : ∃ tr s x worker held, RunTrace 0 tr s ∧
    tr.map Run.Step.label = pendingRun ++ [.executor worker (.prepare 10 40 0)] ∧ x ∈ tr ∧
    ClaimStep x worker 10 40 0 held ∧ held.claim.action = .createRecoveryLink ∧
    ∃ c ∈ x.pre.db.cases, ∃ sub ∈ x.pre.db.cases, c.id = 10 ∧
      c.caseReference.identityKind = .payment ∧ sub.caseReference.identityKind = .subscription ∧
      c.subscriptionId.isSome = true ∧ c.subscriptionId = sub.subscriptionId ∧
      sub.razorpaySubscriptionStatus = some "pending" := by
  have hrun : ((Run.replay step (System.initial 0) pendingRun).bind fun s =>
      (step s (.executor 0 (.prepare 10 40 0))).bind fun s' =>
        match s'.executors 0 with
        | .claimed held => some held.claim.action
        | _ => none) = some .createRecoveryLink := by
    decide +kernel
  have hcases : ((Run.replay step (System.initial 0) pendingRun).bind fun s =>
      (s.db.cases.get? 10).bind fun c => (s.db.cases.get? 11).map fun sub =>
        (c.caseReference.identityKind, sub.caseReference.identityKind, c.subscriptionId,
          sub.subscriptionId, sub.razorpaySubscriptionStatus)) =
      some (.payment, .subscription, some "sub_1", some "sub_1", some "pending") := by
    decide +kernel
  obtain ⟨s, hs, hrun⟩ := Option.bind_eq_some_iff.mp hrun
  rw [hs, Option.bind_some] at hcases
  obtain ⟨s', hs', hclaimed⟩ := Option.bind_eq_some_iff.mp hrun
  obtain ⟨c, hc, hcases⟩ := Option.bind_eq_some_iff.mp hcases
  obtain ⟨sub, hsub, hcases⟩ := Option.map_eq_some_iff.mp hcases
  simp only [Prod.mk.injEq] at hcases
  obtain ⟨hkind, hkind', hid, hid', hpending⟩ := hcases
  split at hclaimed
  case h_2 => cases hclaimed
  rename_i held hphase
  obtain ⟨tr, htr, hlabels⟩ := Run.Trace.of_replay hs
  refine ⟨_, s', ⟨s, _, s'⟩, 0, held, htr.snoc hs', by simp [hlabels], by simp,
    ⟨rfl, hphase⟩, Option.some.inj hclaimed, c, Store.Table.mem_of_get? hc, sub,
    Store.Table.mem_of_get? hsub, Store.Table.get?_key hc, hkind, hkind', ?_,
    hid.trans hid'.symm, hpending⟩
  rw [hid]
  rfl

end Arc
