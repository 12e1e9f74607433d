/-
Outcome evidence: what each verdict means, and when its fingerprint is canonical.

`classification_exact` reads every verdict back to the snapshots it is given for.  The
fingerprint sorts the payments by id, amount and status before it hashes them; payments
that tie in these and differ in the rest are hashed in the order the provider lists
them, so the fingerprint is canonical exactly when no two payments tie.
-/
import Arc.Proofs.Evidence
import Arc.Sorting.Stable
import Mathlib.Data.String.Basic

namespace Arc

open Store

variable [Platform]

/-! ### Verdicts

The classifier is a cascade, and a verdict means what its branch has tested together
with everything the earlier branches have excluded. `Classified` says it in full for
every verdict, so that a verdict can be read without the cascade.
-/

/-- The link is the expected one, for the expected amount. -/
structure Identified (expected : ExpectedPaymentLinkEvidence) (snapshot : PaymentLinkSnapshot) :
    Prop where
  id_eq : snapshot.id = expected.paymentLinkId
  reference_eq : snapshot.referenceId = expected.referenceId
  amount_eq : snapshot.amount = expected.amountMinor
  currency_eq : snapshot.currency = upperStripped expected.currency

/-- Nothing is paid, and no payment is listed. -/
def Unpaid (snapshot : PaymentLinkSnapshot) : Prop :=
  snapshot.amountPaid = 0 ∧ snapshot.payments = []

/-- One payment is listed, captured, of the full amount, and for the expected link if for any. -/
def PaidInFull (expected : ExpectedPaymentLinkEvidence) (snapshot : PaymentLinkSnapshot)
    (payment : CapturedPaymentProjection) : Prop :=
  snapshot.amountPaid = expected.amountMinor ∧ snapshot.payments = [payment] ∧
    payment.status = "captured" ∧ payment.amount = expected.amountMinor ∧
    (payment.paymentLinkId = none ∨ payment.paymentLinkId = some expected.paymentLinkId)

theorem not_identified_iff {expected : ExpectedPaymentLinkEvidence}
    {snapshot : PaymentLinkSnapshot} :
    (snapshot.id ≠ expected.paymentLinkId ∨ snapshot.referenceId ≠ expected.referenceId ∨
      snapshot.amount ≠ expected.amountMinor ∨
      snapshot.currency ≠ upperStripped expected.currency) ↔ ¬ Identified expected snapshot := by
  constructor
  · rintro h ⟨hid, href, hamount, hcurrency⟩
    simp [hid, href, hamount, hcurrency] at h
  · intro h
    by_contra hall
    simp only [not_or, not_not] at hall
    exact h ⟨hall.1, hall.2.1, hall.2.2.1, hall.2.2.2⟩

/-- The evidence is complete, one way or the other: no human has to look at it. -/
def Exact (expected : ExpectedPaymentLinkEvidence) (snapshot : PaymentLinkSnapshot) : Prop :=
  Identified expected snapshot ∧
    ((snapshot.status = "paid" ∧ ∃ payment, PaidInFull expected snapshot payment) ∨
    (Unpaid snapshot ∧ (snapshot.status = "created" ∨ snapshot.status = "issued" ∨
      snapshot.status = "expired" ∨ snapshot.status = "cancelled")))

/-- A verdict, with what it is given for. -/
inductive Classified (expected : ExpectedPaymentLinkEvidence) (snapshot : PaymentLinkSnapshot) :
    OutcomeClassification → Prop
  | recovered {payment : CapturedPaymentProjection} (hid : Identified expected snapshot)
      (hstatus : snapshot.status = "paid") (hpaid : PaidInFull expected snapshot payment) :
      Classified expected snapshot
        ⟨.recovered, "RECOVERY_PAYMENT_CAPTURED", some payment.paymentId, some payment.status⟩
  | pending (hid : Identified expected snapshot) (hunpaid : Unpaid snapshot)
      (hstatus : snapshot.status = "created" ∨ snapshot.status = "issued") :
      Classified expected snapshot ⟨.pending, "RECOVERY_PAYMENT_LINK_PENDING", none, none⟩
  | expired (hid : Identified expected snapshot) (hunpaid : Unpaid snapshot)
      (hstatus : snapshot.status = "expired") :
      Classified expected snapshot ⟨.expired, "RECOVERY_PAYMENT_LINK_EXPIRED", none, none⟩
  | cancelled (hid : Identified expected snapshot) (hunpaid : Unpaid snapshot)
      (hstatus : snapshot.status = "cancelled") :
      Classified expected snapshot ⟨.cancelled, "RECOVERY_PAYMENT_LINK_CANCELLED", none, none⟩
  | review {reasonCode : String} (hnot : ¬ Exact expected snapshot) :
      Classified expected snapshot (reviewOutcome reasonCode)

/-- A link whose status says unpaid is one, or contradicts itself. -/
theorem unpaidOutcome_classified {expected : ExpectedPaymentLinkEvidence}
    {snapshot : PaymentLinkSnapshot} {status : RecoveryOutcomeStatus} {reason conflict : String}
    (hstatus : snapshot.status ≠ "paid")
    (h : Unpaid snapshot → Classified expected snapshot ⟨status, reason, none, none⟩) :
    Classified expected snapshot (unpaidOutcome snapshot status reason conflict) := by
  unfold unpaidOutcome
  split
  · rename_i hpaid
    refine .review ?_
    rintro ⟨-, ⟨hstatus', -⟩ | ⟨⟨hnone, hempty⟩, -⟩⟩
    · exact hstatus hstatus'
    · exact hpaid.elim (fun h => h hnone) fun h => h hempty
  · rename_i hunpaid
    rw [not_or, not_not, not_not] at hunpaid
    exact h hunpaid

theorem paidOutcome_classified {expected : ExpectedPaymentLinkEvidence}
    {snapshot : PaymentLinkSnapshot} (hid : Identified expected snapshot)
    (hstatus : snapshot.status = "paid")
    (hlinks : ∀ p ∈ snapshot.payments, p.paymentLinkId = none ∨
      p.paymentLinkId = some expected.paymentLinkId) :
    Classified expected snapshot (paidOutcome expected snapshot) := by
  have hreview : ∀ {reasonCode}, (∀ payment, ¬ PaidInFull expected snapshot payment) →
      Classified expected snapshot (reviewOutcome reasonCode) := by
    intro reasonCode hnone
    refine .review ?_
    rintro ⟨-, ⟨-, payment, hpaid⟩ | ⟨-, hopen⟩⟩
    · exact hnone payment hpaid
    · rw [hstatus] at hopen
      revert hopen
      decide
  unfold paidOutcome
  split
  · rename_i hamount
    exact hreview fun payment hpaid => hamount hpaid.1
  rename_i hamount
  split
  · rename_i payment hpayments
    split
    · rename_i hcapture
      refine hreview fun payment' hpaid => ?_
      obtain ⟨-, hpayments', hcaptured, hfull, -⟩ := hpaid
      rw [hpayments] at hpayments'
      cases hpayments'
      exact hcapture.elim (fun h => h hcaptured) fun h => h hfull
    · rename_i hcapture
      rw [not_or, not_not, not_not] at hcapture
      exact .recovered hid hstatus ⟨not_not.mp hamount, hpayments, hcapture.1, hcapture.2,
        hlinks payment (by simp [hpayments])⟩
  · rename_i hmany
    exact hreview fun payment hpaid => hmany payment hpaid.2.1

/-- Every verdict is given for its own kind of evidence. -/
theorem classify_classified (expected : ExpectedPaymentLinkEvidence)
    (snapshot : PaymentLinkSnapshot) :
    Classified expected snapshot (classifyPaymentLinkOutcome expected snapshot) := by
  unfold classifyPaymentLinkOutcome
  split
  · rename_i hmismatch
    exact .review fun hexact => not_identified_iff.mp hmismatch hexact.1
  rename_i hid
  replace hid : Identified expected snapshot := not_not.mp (not_identified_iff.not.mp hid)
  split
  · rename_i hother
    obtain ⟨p, hp, hother⟩ := List.any_eq_true.mp hother
    refine .review ?_
    rintro ⟨-, ⟨-, payment, -, hpayments, -, -, hlink⟩ | ⟨⟨-, hempty⟩, -⟩⟩
    · rw [hpayments, List.mem_singleton] at hp
      subst hp
      rcases hlink with hlink | hlink <;> simp [hlink] at hother
    · rw [hempty] at hp
      cases hp
  rename_i hlinks
  split
  · rename_i hstatus
    refine unpaidOutcome_classified ?_ fun hunpaid => .pending hid hunpaid hstatus
    rcases hstatus with hstatus | hstatus <;> rw [hstatus] <;> decide
  rename_i hpending
  split
  · rename_i hstatus
    refine paidOutcome_classified hid hstatus fun p hp => ?_
    have hlink := List.any_eq_false.mp (Bool.not_eq_true _ ▸ hlinks) p hp
    cases hp' : p.paymentLinkId with
    | none => exact .inl rfl
    | some linkId =>
        rw [hp'] at hlink
        exact .inr (by simpa using hlink)
  rename_i hpaid
  split
  · rename_i hstatus
    exact unpaidOutcome_classified hpaid fun hunpaid => .expired hid hunpaid hstatus
  rename_i hexpired
  split
  · rename_i hstatus
    exact unpaidOutcome_classified hpaid fun hunpaid => .cancelled hid hunpaid hstatus
  rename_i hcancelled
  have hnot : ¬ Exact expected snapshot := by
    rintro ⟨-, ⟨hstatus, -⟩ | ⟨-, hstatus | hstatus | hstatus | hstatus⟩⟩
    · exact hpaid hstatus
    · exact hpending (.inl hstatus)
    · exact hpending (.inr hstatus)
    · exact hexpired hstatus
    · exact hcancelled hstatus
  split <;> exact .review hnot

/--
**The classification is exact.**  RECOVERED is one captured payment of the full amount
on the expected link, PENDING, EXPIRED and CANCELLED are a link on which nothing was
paid, and every other snapshot asks for a review and names no payment.
-/
theorem classification_exact (expected : ExpectedPaymentLinkEvidence)
    (snapshot : PaymentLinkSnapshot) :
    ((classifyPaymentLinkOutcome expected snapshot).outcomeStatus = .recovered ↔
      Identified expected snapshot ∧ snapshot.status = "paid" ∧
        ∃ payment, PaidInFull expected snapshot payment) ∧
    ((classifyPaymentLinkOutcome expected snapshot).outcomeStatus = .pending ↔
      Identified expected snapshot ∧ Unpaid snapshot ∧
        (snapshot.status = "created" ∨ snapshot.status = "issued")) ∧
    ((classifyPaymentLinkOutcome expected snapshot).outcomeStatus = .expired ↔
      Identified expected snapshot ∧ Unpaid snapshot ∧ snapshot.status = "expired") ∧
    ((classifyPaymentLinkOutcome expected snapshot).outcomeStatus = .cancelled ↔
      Identified expected snapshot ∧ Unpaid snapshot ∧ snapshot.status = "cancelled") ∧
    (¬ Exact expected snapshot →
      (classifyPaymentLinkOutcome expected snapshot).outcomeStatus = .reviewRequired ∧
        (classifyPaymentLinkOutcome expected snapshot).providerPaymentId = none) := by
  have hclassified := classify_classified expected snapshot
  generalize classifyPaymentLinkOutcome expected snapshot = classification at hclassified
  cases hclassified with
  | @recovered payment hid hstatus hpaid =>
      have hexact : Exact expected snapshot := ⟨hid, .inl ⟨hstatus, payment, hpaid⟩⟩
      refine ⟨?_, ?_, ?_, ?_, fun hnot => absurd hexact hnot⟩ <;> simp [hid, hstatus]
      exact ⟨payment, hpaid⟩
  | pending hid hunpaid hstatus =>
      have hexact : Exact expected snapshot :=
        ⟨hid, .inr ⟨hunpaid, hstatus.imp_right .inl⟩⟩
      refine ⟨?_, ?_, ?_, ?_, fun hnot => absurd hexact hnot⟩ <;>
        rcases hstatus with hstatus | hstatus <;> simp [hid, hunpaid, hstatus]
  | expired hid hunpaid hstatus =>
      have hexact : Exact expected snapshot :=
        ⟨hid, .inr ⟨hunpaid, .inr (.inr (.inl hstatus))⟩⟩
      refine ⟨?_, ?_, ?_, ?_, fun hnot => absurd hexact hnot⟩ <;> simp [hid, hunpaid, hstatus]
  | cancelled hid hunpaid hstatus =>
      have hexact : Exact expected snapshot :=
        ⟨hid, .inr ⟨hunpaid, .inr (.inr (.inr hstatus))⟩⟩
      refine ⟨?_, ?_, ?_, ?_, fun hnot => absurd hexact hnot⟩ <;> simp [hid, hunpaid, hstatus]
  | review hnot =>
      refine ⟨?_, ?_, ?_, ?_, fun _ => ⟨rfl, rfl⟩⟩
      · exact ⟨fun h => (by cases h), fun h => absurd ⟨h.1, .inl h.2⟩ hnot⟩
      · exact ⟨fun h => (by cases h), fun ⟨hid, hunpaid, hstatus⟩ =>
          absurd ⟨hid, .inr ⟨hunpaid, hstatus.imp_right .inl⟩⟩ hnot⟩
      · exact ⟨fun h => (by cases h), fun ⟨hid, hunpaid, hstatus⟩ =>
          absurd ⟨hid, .inr ⟨hunpaid, .inr (.inr (.inl hstatus))⟩⟩ hnot⟩
      · exact ⟨fun h => (by cases h), fun ⟨hid, hunpaid, hstatus⟩ =>
          absurd ⟨hid, .inr ⟨hunpaid, .inr (.inr (.inr hstatus))⟩⟩ hnot⟩

/-! ### Fingerprints

The payments are sorted by three of their six fields before they are hashed. Where two
payments tie in the three and differ in the rest, the hash shows the order the provider
has listed them in.
-/

omit [Platform] in
theorem paymentKeyLe_total (a b : CapturedPaymentProjection) :
    paymentKeyLe a b ∨ paymentKeyLe b a := by
  unfold paymentKeyLe
  rcases lt_trichotomy a.paymentId b.paymentId with hid | hid | hid
  · exact .inl (.inl hid)
  · rcases lt_trichotomy a.amount b.amount with hamount | hamount | hamount
    · exact .inl (.inr ⟨hid, .inl hamount⟩)
    · rcases le_total a.status b.status with hstatus | hstatus
      · exact .inl (.inr ⟨hid, .inr ⟨hamount, hstatus⟩⟩)
      · exact .inr (.inr ⟨hid.symm, .inr ⟨hamount.symm, hstatus⟩⟩)
    · exact .inr (.inr ⟨hid.symm, .inl hamount⟩)
  · exact .inr (.inl hid)

omit [Platform] in
theorem paymentKeyLe_trans {a b c : CapturedPaymentProjection} (hab : paymentKeyLe a b)
    (hbc : paymentKeyLe b c) : paymentKeyLe a c := by
  unfold paymentKeyLe at *
  rcases hab with hid | ⟨hid, hab⟩
  · rcases hbc with hid' | ⟨hid', -⟩
    · exact .inl (hid.trans hid')
    · exact .inl (hid' ▸ hid)
  rcases hbc with hid' | ⟨hid', hbc⟩
  · exact .inl (hid ▸ hid')
  refine .inr ⟨hid.trans hid', ?_⟩
  rcases hab with hamount | ⟨hamount, hstatus⟩
  · rcases hbc with hamount' | ⟨hamount', -⟩
    · exact .inl (hamount.trans hamount')
    · exact .inl (hamount' ▸ hamount)
  rcases hbc with hamount' | ⟨hamount', hstatus'⟩
  · exact .inl (hamount ▸ hamount')
  · exact .inr ⟨hamount.trans hamount', hstatus.trans hstatus'⟩

instance : Std.Total paymentKeyLe := ⟨paymentKeyLe_total⟩
instance : IsTrans CapturedPaymentProjection paymentKeyLe := ⟨fun _ _ _ => paymentKeyLe_trans⟩

omit [Platform] in
/-- Payments tie in the order they are hashed in when their keys are the same. -/
theorem paymentKeyLe_tie {a b : CapturedPaymentProjection} :
    (paymentKeyLe a b ∧ paymentKeyLe b a) ↔
      a.paymentId = b.paymentId ∧ a.amount = b.amount ∧ a.status = b.status := by
  unfold paymentKeyLe
  constructor
  · rintro ⟨hid | ⟨hid, hab⟩, hid' | ⟨hid', hba⟩⟩
    · exact absurd hid' hid.asymm
    · exact absurd hid'.symm hid.ne
    · exact absurd hid.symm hid'.ne
    · rcases hab with hamount | ⟨hamount, hstatus⟩
      · rcases hba with hamount' | ⟨hamount', -⟩ <;> omega
      · rcases hba with hamount' | ⟨-, hstatus'⟩
        · omega
        · exact ⟨hid, hamount, le_antisymm hstatus hstatus'⟩
  · rintro ⟨hid, hamount, hstatus⟩
    exact ⟨.inr ⟨hid, .inr ⟨hamount, hstatus.le⟩⟩, .inr ⟨hid.symm, .inr ⟨hamount.symm, hstatus.ge⟩⟩⟩

/-- The snapshot with its payments listed in another order. -/
def PaymentLinkSnapshot.listing (snapshot : PaymentLinkSnapshot)
    (payments : List CapturedPaymentProjection) : PaymentLinkSnapshot :=
  { snapshot with payments := payments }

/-- **The evidence fingerprint is canonical** exactly where no two payments tie. -/
theorem fingerprint_canonical_iff (hhash : Function.Injective Platform.hashFacts)
    (recoveryActionId : Uuid) (snapshot : PaymentLinkSnapshot) :
    ((∀ payments, snapshot.payments.Perm payments →
        buildOutcomeEvidenceFingerprint recoveryActionId (snapshot.listing payments) =
          buildOutcomeEvidenceFingerprint recoveryActionId snapshot) ↔
      ∀ p ∈ snapshot.payments, ∀ q ∈ snapshot.payments, p.paymentId = q.paymentId →
        p.amount = q.amount → p.status = q.status → p = q) ∧
    ∀ snapshot', buildOutcomeEvidenceFingerprint recoveryActionId snapshot =
        buildOutcomeEvidenceFingerprint recoveryActionId snapshot' →
      snapshot.id = snapshot'.id ∧ snapshot.referenceId = snapshot'.referenceId ∧
      snapshot.status = snapshot'.status ∧ snapshot.amount = snapshot'.amount ∧
      snapshot.amountPaid = snapshot'.amountPaid ∧ snapshot.currency = snapshot'.currency ∧
      snapshot.payments.Perm snapshot'.payments ∧ snapshot.updatedAt = snapshot'.updatedAt ∧
      snapshot.expireBy = snapshot'.expireBy ∧ snapshot.expiredAt = snapshot'.expiredAt ∧
      snapshot.cancelledAt = snapshot'.cancelledAt := by
  refine ⟨?_, fun snapshot' h => evidence_determined hhash h⟩
  have hsorted : ∀ payments,
      buildOutcomeEvidenceFingerprint recoveryActionId (snapshot.listing payments) =
          buildOutcomeEvidenceFingerprint recoveryActionId snapshot ↔
        snapshot.payments.insertionSort paymentKeyLe = payments.insertionSort paymentKeyLe := by
    intro payments
    constructor
    · intro h
      have hfacts := hhash h
      simp only [Json.obj.injEq, List.cons.injEq, Prod.mk.injEq, Json.arr.injEq, true_and,
        and_true, PaymentLinkSnapshot.listing] at hfacts
      exact (List.map_injective_iff.mpr paymentEvidence_injective hfacts).symm
    · intro h
      unfold buildOutcomeEvidenceFingerprint PaymentLinkSnapshot.listing
      simp only [h]
  have hcanonical : (∀ payments, snapshot.payments.Perm payments →
        buildOutcomeEvidenceFingerprint recoveryActionId (snapshot.listing payments) =
          buildOutcomeEvidenceFingerprint recoveryActionId snapshot) ↔
      Sorting.Canonical paymentKeyLe snapshot.payments :=
    forall_congr' fun payments => imp_congr_right fun _ => hsorted payments
  rw [hcanonical, Sorting.canonical_iff]
  refine forall₂_congr fun p _ => forall₂_congr fun q _ => ?_
  constructor
  · intro h hid hamount hstatus
    obtain ⟨hpq, hqp⟩ := paymentKeyLe_tie.mpr ⟨hid, hamount, hstatus⟩
    exact h hpq hqp
  · intro h hpq hqp
    obtain ⟨hid, hamount, hstatus⟩ := paymentKeyLe_tie.mp ⟨hpq, hqp⟩
    exact h hid hamount hstatus

end Arc

namespace Arc

attribute [local instance] asciiPlatform

/-- One payment is listed twice, with two methods. -/
def twiceListed : PaymentLinkSnapshot :=
  { samplePaidLink with
    payments := [
      { paymentId := "pay_2", amount := 1000, status := "captured", method := some "card" },
      { paymentId := "pay_2", amount := 1000, status := "captured", method := some "upi" }] }

/-- Listed the other way round, it is other evidence. -/
theorem fingerprint_order_dependent :
    twiceListed.payments.Perm twiceListed.payments.reverse ∧
      buildOutcomeEvidenceFingerprint 40 (twiceListed.listing twiceListed.payments.reverse) ≠
        buildOutcomeEvidenceFingerprint 40 twiceListed := by
  decide +kernel

/-- Two payments of a link, which one key tells apart. -/
def twicePaid : PaymentLinkSnapshot :=
  { twiceListed with
    payments := [
      { paymentId := "pay_2", amount := 1000, status := "captured", method := some "card" },
      { paymentId := "pay_1", amount := 1000, status := "captured", method := some "upi" }] }

theorem fingerprint_canonical_iff_paid :
    buildOutcomeEvidenceFingerprint 40 (twicePaid.listing twicePaid.payments.reverse) =
      buildOutcomeEvidenceFingerprint 40 twicePaid :=
  (fingerprint_canonical_iff Function.injective_id 40 twicePaid).1.mpr (by decide +kernel) _
    (List.reverse_perm _).symm

end Arc
