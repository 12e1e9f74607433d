/-
The recovery metrics report no more than what was at risk.

A case with an attribution shows the amount and the currency that were attributed, as
long as the provider reports one payment always alike.  So each attribution in a mode
and a currency has its own case among those counted as evaluated, with the amount it
adds.  Rows of another mode or another currency are not read.
-/
import Arc.Outcomes.Metrics
import Arc.Proofs.Attribution
import Arc.Proofs.Truth

namespace Arc

open Store

open scoped BigOperators

variable [Platform]

/-! ### What a case is priced at

A case takes its amount from the payment reports it has seen, and an attribution takes
its own from the case at the time. That the two agree later needs two facts about the
world: the provider reports one price for one payment, and no two payments share a case
reference.
-/

/-- The provider always reports the same amount and currency for one payment. -/
def SteadyPayments (tr : List (Run.Step System Label)) : Prop :=
  ∀ f ∈ paymentFetches tr, ∀ f' ∈ paymentFetches tr, f.snapshot.id = f'.snapshot.id →
    f.snapshot.amount = f'.snapshot.amount ∧ f.snapshot.currency = f'.snapshot.currency

/-- No two payments that were reported have case references with one digest. -/
def DistinctPayments (tr : List (Run.Step System Label)) : Prop :=
  ∀ f ∈ paymentFetches tr, ∀ f' ∈ paymentFetches tr,
    Platform.caseDigest (CaseIdentityKind.payment.value ++ ":" ++ f.snapshot.id) =
      Platform.caseDigest (CaseIdentityKind.payment.value ++ ":" ++ f'.snapshot.id) →
    f.snapshot.id = f'.snapshot.id

instance (tr : List (Run.Step System Label)) : Decidable (SteadyPayments tr) := by
  unfold SteadyPayments
  infer_instance

instance (tr : List (Run.Step System Label)) : Decidable (DistinctPayments tr) := by
  unfold DistinctPayments
  infer_instance

theorem paymentFetches_mono {tr : List (Run.Step System Label)} {x : Run.Step System Label}
    {f : PaymentFetch} (hf : f ∈ paymentFetches tr) : f ∈ paymentFetches (tr ++ [x]) := by
  rw [paymentFetches_snoc]
  exact List.mem_append_left _ hf

/-- A currency is stored as it was normalized. -/
theorem fetched_currency {tr : List (Run.Step System Label)} {f : PaymentFetch}
    (hf : f ∈ paymentFetches tr) : ∃ raw, f.snapshot.currency = upperStripped raw := by
  obtain ⟨x, -, hread⟩ := Run.mem_logged.mp hf
  unfold System.paymentFetch? at hread
  split at hread
  · split at hread
    · split at hread
      · rename_i snapshot hfetch
        cases hread
        unfold fetchAuthoritativeEntity at hfetch
        split at hfetch
        · split at hfetch
          · cases hfetch
          · split at hfetch
            · cases hfetch
            · rename_i payment hpayment
              cases hfetch
              obtain ⟨_, -, hget⟩ := bind_eq_ok.mp hpayment
              split at hget
              · cases hget
              · cases hget
              · split at hget
                · cases hget
                · obtain ⟨raw, -, hvalid⟩ :=
                    Option.bind_eq_some_iff.mp (requireSome_eq_ok.mp hget)
                  unfold PaymentSnapshot.validate at hvalid
                  split at hvalid
                  · cases hvalid
                    exact ⟨raw.currency, rfl⟩
                  · cases hvalid
        · split at hfetch
          · cases hfetch
          · split at hfetch <;> cases hfetch
      · cases hread
    · cases hread
  · cases hread

/-- A case about a subscription has no amount of its own. -/
def SubscriptionsUnpriced (db : Db) : Prop :=
  ∀ c ∈ db.cases, c.caseReference.identityKind = .subscription → c.amount = none

theorem reconcileSubscription_unpriced {db : Db} {event : WebhookEvent}
    {snapshot : SubscriptionSnapshot} {fresh : Fresh} {now : Int} {result : ReconciliationResult}
    (h : reconcileSubscription db event snapshot fresh now = .ok result)
    (hunpriced : SubscriptionsUnpriced db) : SubscriptionsUnpriced result.db := by
  intro c' hc' hkind
  obtain ⟨subscriptionId, -, h⟩ := bind_eq_ok.mp h
  obtain ⟨_, -, h⟩ := bind_eq_ok.mp h
  obtain ⟨found, hlock, h⟩ := bind_eq_ok.mp h
  obtain ⟨reference, href, rfl⟩ := lockCaseByIdentity_eq_ok hlock
  have hreference := deterministicCaseReference_kind href
  split at h
  · rename_i row hrow
    obtain ⟨hmem, hrowref⟩ := caseByReference_some hrow
    obtain ⟨⟨w, reason⟩, happly, h⟩ := bind_eq_ok.mp h
    cases h
    obtain ⟨hextends, htruth⟩ := applySubscriptionTruth_eq_ok happly
    rcases (Table.mem_put_of_mem hmem hextends.id_eq).mp hc' with ⟨hc', -⟩ | rfl
    · exact hunpriced c' hc' hkind
    · have hamount : w.row.amount = row.amount := congrArg CaseTruth.amount htruth
      exact hamount.trans (hunpriced row hmem (by rw [hrowref, hreference]))
  · rename_i hnone
    split at h
    · split at h
      · cases h
        exact hunpriced c' hc' hkind
      · split at h <;>
        · cases h
          exact hunpriced c' hc' hkind
    · obtain ⟨created, hcreate, h⟩ := bind_eq_ok.mp h
      obtain ⟨⟨w, reason⟩, happly, h⟩ := bind_eq_ok.mp h
      cases h
      obtain ⟨cases, -, hnew, hinsert, hdb⟩ := getOrCreateCase_eq_ok href hnone hcreate
      obtain ⟨hextends, htruth⟩ := applySubscriptionTruth_eq_ok happly
      have hid : w.row.id = created.paymentCase.id := by
        rw [hextends.id_eq, initializeCaseAudit_row]
        rfl
      have hcases : (created.db.commitCase w).cases = cases.put w.row := by
        rw [hdb]
        rfl
      have hmem : created.paymentCase ∈ cases := (Table.insert?_mem hinsert).mpr (.inr rfl)
      rcases (Table.mem_put_of_mem hmem hid).mp (hcases ▸ hc') with ⟨hc', hne⟩ | rfl
      · rcases (Table.insert?_mem hinsert).mp hc' with hc' | rfl
        · exact hunpriced c' hc' hkind
        · exact absurd hid.symm hne
      · have hamount : w.row.amount = created.paymentCase.amount :=
          congrArg CaseTruth.amount htruth
        rw [hamount, hnew]
        rfl

theorem subscriptionsUnpriced_step {s s' : System} {l : Label} (hhints : HintsOk s)
    (hheld : HeldOk s) (h : step s l = some s') (hunpriced : SubscriptionsUnpriced s.db) :
    SubscriptionsUnpriced s'.db := by
  have hcommit := step_commit hhints h
  rcases hcommit.caseWorked hheld with ⟨worker, fresh, rfl⟩ | hworked
  · generalize s'.db = db' at hcommit
    cases hcommit with
    | @reconciled _ claimed snapshot fetchedAt _ event result hphase howns hstatus hresult =>
        cases snapshot with
        | inl snapshot =>
            intro c' hc' hkind
            rcases reconcilePayment_caseId hresult with ⟨-, hdb⟩ | ⟨c, hc, -, hpayment, -, -, hothers⟩
            · replace hc' : c' ∈ result.db.cases := hc'
              exact hunpriced c' (hdb ▸ hc') hkind
            · by_cases hid : c'.id = c.id
              · obtain rfl : c' = c := Table.eq_of_key_eq hc' hc hid
                rw [hkind] at hpayment
                cases hpayment
              · exact hunpriced c' (hothers c' hc' hid) hkind
        | inr snapshot => exact reconcileSubscription_unpriced hresult hunpriced
    | same => exact hunpriced
    | worked hlabel => rcases hlabel with ⟨_, hl⟩ | ⟨_, _, hl⟩ <;> cases hl
    | observed hworker => rcases hworker with ⟨_, _, hl⟩ | ⟨_, _, _, hl⟩ <;> cases hl
  · intro c' hc' hkind
    obtain ⟨c, hc, -, href, htruth⟩ := hworked.truth hc'
    exact (congrArg CaseTruth.amount htruth).trans (hunpriced c hc (href ▸ hkind))

theorem subscriptionsUnpriced_reachable {clock : Int} {s : System}
    (h : Run.Reachable step (System.initial clock) s) : SubscriptionsUnpriced s.db := by
  obtain ⟨tr, htr⟩ := h
  refine htr.invariant (I := fun s => SubscriptionsUnpriced s.db)
    (fun _ hc => absurd hc (Table.not_mem_empty _)) fun x hx hunpriced hs => ?_
  obtain ⟨hhints, hheld, -⟩ := audited_reachable (htr.reachable_pre hx)
  exact subscriptionsUnpriced_step hhints hheld hs hunpriced

/-- A case with an amount is about a payment, and shows what was reported of it. -/
theorem priced_case {clock : Int} {tr : List (Run.Step System Label)} {s : System}
    (h : RunTrace clock tr s) {c : PaymentCase} (hc : c ∈ s.db.cases)
    (hkind : c.caseReference.identityKind = .payment) :
    ∃ f ∈ paymentFetches tr, c.amount = some f.snapshot.amount ∧
      c.currency = some f.snapshot.currency ∧ c.caseReference.digest =
        Platform.caseDigest (CaseIdentityKind.payment.value ++ ":" ++ f.snapshot.id) := by
  have hlog := truthLogged_trace h
  obtain ⟨w, hlast, hshows, -⟩ := hlog.shown c hc hkind
  refine ⟨w.toPaymentFetch, hlog.fetched w (mem_paymentWrites.mp (List.mem_of_getLast? hlast)).1,
    hshows.amount, hshows.currency, ?_⟩
  obtain ⟨-, -, haudited⟩ := audited_reachable ⟨tr, h⟩
  obtain ⟨externalId, hexternal, href⟩ := haudited.identified c hc
  rw [hkind] at href
  unfold PaymentCase.externalId at hexternal
  rw [hkind] at hexternal
  obtain rfl : w.snapshot.id = externalId :=
    Option.some.inj (hshows.payment.symm.trans hexternal)
  rw [(deterministicCaseReference_eq_ok.mp href).2.2]

/-! ### Attributions and their cases -/

/-- An attributed case shows the amount and the currency attributed to it. -/
def Valued (db : Db) : Prop :=
  ∀ a ∈ db.attributions, ∃ c ∈ db.cases, c.id = a.caseId ∧
    c.caseReference.identityKind = .payment ∧ c.amount = some a.recoveredAmountMinor ∧
    c.currency = some a.currency

section

variable {clock : Int} {tr : List (Run.Step System Label)} {s s' : System} {l : Label}

/-- A case stays priced as it was. -/
theorem price_stays (h : RunTrace clock tr s) (hs : step s l = some s')
    (hsteady : SteadyPayments (tr ++ [⟨s, l, s'⟩]))
    (hdistinct : DistinctPayments (tr ++ [⟨s, l, s'⟩])) {c : PaymentCase} (hc : c ∈ s.db.cases)
    (hkind : c.caseReference.identityKind = .payment) :
    ∃ c' ∈ s'.db.cases, c'.id = c.id ∧ c'.caseReference.identityKind = .payment ∧
      c'.amount = c.amount ∧ c'.currency = c.currency := by
  obtain ⟨hhints, hheld, -⟩ := audited_reachable ⟨tr, h⟩
  obtain ⟨c', hc', hprogressed⟩ := ((step_commit hhints hs).caseEffect hheld).progressed hc
  have hkind' : c'.caseReference.identityKind = .payment := by
    rw [hprogressed.reference_eq, hkind]
  obtain ⟨f, hf, hamount, hcurrency, hdigest⟩ := priced_case h hc hkind
  obtain ⟨f', hf', hamount', hcurrency', hdigest'⟩ := priced_case (h.snoc hs) hc' hkind'
  replace hf := paymentFetches_mono (x := ⟨s, l, s'⟩) hf
  rw [hprogressed.reference_eq] at hdigest'
  have hid := hdistinct f hf f' hf' (hdigest.symm.trans hdigest')
  obtain ⟨hsame, hsame'⟩ := hsteady f hf f' hf' hid
  exact ⟨c', hc', hprogressed.id_eq, hkind', by rw [hamount', hamount, hsame],
    by rw [hcurrency', hcurrency, hsame']⟩

/-- The attribution an observation makes has the price of the case. -/
theorem observed_price (hupper : ∀ text, upperStripped (upperStripped text) = upperStripped text)
    (h : RunTrace clock tr s) {claim : ObservationClaim} {action : RecoveryActionRecord}
    {c : PaymentCase} (hobservable : Observable s.db action c claim.expected) :
    c.caseReference.identityKind = .payment ∧ c.amount = some claim.expected.amountMinor ∧
      c.currency = some claim.expected.currency := by
  have hc := Table.mem_of_get? hobservable.case_eq
  have hkind : c.caseReference.identityKind = .payment := by
    cases hkind : c.caseReference.identityKind with
    | payment => rfl
    | subscription =>
        have hnone := subscriptionsUnpriced_reachable ⟨tr, h⟩ c hc hkind
        rw [hobservable.amount] at hnone
        cases hnone
  obtain ⟨f, hf, -, hcurrency, -⟩ := priced_case h hc hkind
  obtain ⟨raw, hraw⟩ := fetched_currency hf
  refine ⟨hkind, hobservable.amount, ?_⟩
  rw [hobservable.currency, hcurrency, Option.getD_some, hraw, hupper]

theorem Valued.step (hvalued : Valued s.db)
    (hupper : ∀ text, upperStripped (upperStripped text) = upperStripped text)
    (h : RunTrace clock tr s) (hs : Arc.step s l = some s')
    (hsteady : SteadyPayments (tr ++ [⟨s, l, s'⟩]))
    (hdistinct : DistinctPayments (tr ++ [⟨s, l, s'⟩])) : Valued s'.db := by
  have hstays : ∀ a ∈ s.db.attributions, ∃ c ∈ s'.db.cases, c.id = a.caseId ∧
      c.caseReference.identityKind = .payment ∧ c.amount = some a.recoveredAmountMinor ∧
      c.currency = some a.currency := by
    intro a ha
    obtain ⟨c, hc, hid, hkind, hamount, hcurrency⟩ := hvalued a ha
    obtain ⟨c', hc', hid', hkind', hamount', hcurrency'⟩ :=
      price_stays h hs hsteady hdistinct hc hkind
    exact ⟨c', hc', hid'.trans hid, hkind', hamount'.trans hamount, hcurrency'.trans hcurrency⟩
  intro a ha
  by_cases hold : a ∈ s.db.attributions
  · exact hstays a hold
  obtain ⟨hhints, -⟩ := executed_reachable ⟨tr, h⟩
  have hcommit := step_commit hhints hs
  suffices hnew : ∃ c ∈ s.db.cases, c.id = a.caseId ∧ c.caseReference.identityKind = .payment ∧
      c.amount = some a.recoveredAmountMinor ∧ c.currency = some a.currency by
    obtain ⟨c, hc, hid, hkind, hamount, hcurrency⟩ := hnew
    obtain ⟨c', hc', hid', hkind', hamount', hcurrency'⟩ :=
      price_stays h hs hsteady hdistinct hc hkind
    exact ⟨c', hc', hid'.trans hid, hkind', hamount'.trans hamount, hcurrency'.trans hcurrency⟩
  generalize s'.db = db' at hcommit ha
  cases hcommit with
  | executed hm =>
      rw [hm.frame] at ha
      exact absurd ha hold
  | @reconciled worker claimed snapshot fetchedAt fresh event result hphase howns hstatus hresult =>
      have hattributions : result.db.attributions = s.db.attributions := by
        rw [reconcileEntity_frame hresult]
      exact absurd (hattributions ▸ ha) hold
  | @observed l claim snapshot source fresh action c attributions observation observations w
      hworker hobservable hevidence hinsert hw hmoves =>
      cases hevidence with
      | kept => exact absurd ha hold
      | attributed hpayments hcaptured hamount hpaid hstatus hpayment hopen hattribution =>
          rcases (Table.insert?_mem (insertAttribution_eq_some hattribution).1).mp ha with ha | rfl
          · exact absurd ha hold
          · obtain ⟨hkind, hcase, hcurrency⟩ := observed_price hupper h hobservable
            exact ⟨c, Table.mem_of_get? hobservable.case_eq, rfl, hkind, hcase, hcurrency⟩
  | _ => exact absurd ha hold

theorem SteadyPayments.of_snoc {x : Run.Step System Label} (h : SteadyPayments (tr ++ [x])) :
    SteadyPayments tr :=
  fun f hf f' hf' => h f (paymentFetches_mono hf) f' (paymentFetches_mono hf')

theorem DistinctPayments.of_snoc {x : Run.Step System Label} (h : DistinctPayments (tr ++ [x])) :
    DistinctPayments tr :=
  fun f hf f' hf' => h f (paymentFetches_mono hf) f' (paymentFetches_mono hf')

theorem valued_trace (hupper : ∀ text, upperStripped (upperStripped text) = upperStripped text)
    (h : RunTrace clock tr s) (hsteady : SteadyPayments tr) (hdistinct : DistinctPayments tr) :
    Valued s.db := by
  induction h with
  | nil => exact fun a ha => absurd ha (Table.not_mem_empty a)
  | snoc htr hs ih =>
      exact (ih hsteady.of_snoc hdistinct.of_snoc).step hupper htr hs hsteady hdistinct

end

/-! ### Rows outside the scope

The metrics are read for one provider mode and one currency. Adding rows of another mode
or currency may change the order the database returns rows in, so what is kept is the
rows up to their order, which the sums do not see.
-/

section

variable {db db' : Db} {providerMode : ProviderMode} {currency : String}

theorem mem_scopedObservations {o : RecoveryOutcomeObservation} :
    o ∈ scopedObservations db providerMode currency ↔
      o ∈ db.outcomeObservations ∧ o.providerMode = providerMode ∧ o.currency = currency := by
  simp [scopedObservations, Table.mem_select]

theorem mem_scopedAttributions {a : RecoveryAttribution} :
    a ∈ scopedAttributions db providerMode currency ↔
      a ∈ db.attributions ∧ a.providerMode = providerMode ∧ a.currency = currency := by
  simp [scopedAttributions, Table.mem_select]

theorem mem_observedCases {c : PaymentCase} :
    c ∈ observedCases db providerMode currency ↔ c ∈ db.cases ∧
      ∃ o ∈ db.outcomeObservations, o.providerMode = providerMode ∧ o.currency = currency ∧
        o.caseId = c.id := by
  simp only [observedCases, Table.mem_select, List.any_eq_true, mem_scopedObservations, beq_iff_eq,
    and_assoc]

/-- The added rows belong to another mode or another currency only; no row is lost. -/
structure AddsOutside (providerMode : ProviderMode) (currency : String) (db db' : Db) : Prop where
  observations : ∀ o, o ∈ db'.outcomeObservations ↔ o ∈ db.outcomeObservations ∨
    (o ∈ db'.outcomeObservations ∧ (o.providerMode ≠ providerMode ∨ o.currency ≠ currency))
  attributions : ∀ a, a ∈ db'.attributions ↔ a ∈ db.attributions ∨
    (a ∈ db'.attributions ∧ (a.providerMode ≠ providerMode ∨ a.currency ≠ currency))
  /-- An added case has no observation in the mode and the currency. -/
  cases : ∀ c, c ∈ db'.cases ↔ c ∈ db.cases ∨ (c ∈ db'.cases ∧
    ∀ o ∈ db'.outcomeObservations, o.caseId = c.id →
      o.providerMode ≠ providerMode ∨ o.currency ≠ currency)

theorem AddsOutside.scopedObservations (h : AddsOutside providerMode currency db db')
    (o : RecoveryOutcomeObservation) : o ∈ scopedObservations db' providerMode currency ↔
      o ∈ scopedObservations db providerMode currency := by
  rw [mem_scopedObservations, mem_scopedObservations, h.observations o]
  constructor
  · rintro ⟨ho | ⟨-, hout⟩, hmode, hcurrency⟩
    · exact ⟨ho, hmode, hcurrency⟩
    · rcases hout with hout | hout
      · exact absurd hmode hout
      · exact absurd hcurrency hout
  · rintro ⟨ho, hscope⟩
    exact ⟨.inl ho, hscope⟩

theorem AddsOutside.attributions_perm (h : AddsOutside providerMode currency db db') :
    (scopedAttributions db' providerMode currency).Perm
      (scopedAttributions db providerMode currency) := by
  refine Table.select_perm fun a => ?_
  simp only [Bool.and_eq_true, beq_iff_eq]
  rw [h.attributions a]
  constructor
  · rintro ⟨ha | ⟨-, hout⟩, hmode, hcurrency⟩
    · exact ⟨ha, hmode, hcurrency⟩
    · rcases hout with hout | hout
      · exact absurd hmode hout
      · exact absurd hcurrency hout
  · rintro ⟨ha, hscope⟩
    exact ⟨.inl ha, hscope⟩

theorem AddsOutside.cases_perm (h : AddsOutside providerMode currency db db') :
    (observedCases db' providerMode currency).Perm (observedCases db providerMode currency) := by
  refine Table.select_perm fun c => ?_
  simp only [List.any_eq_true, beq_iff_eq]
  rw [h.cases c]
  constructor
  · rintro ⟨hc | ⟨-, hout⟩, o, ho, hcase⟩
    · exact ⟨hc, o, (h.scopedObservations o).mp ho, hcase⟩
    · obtain ⟨ho, hmode, hcurrency⟩ := mem_scopedObservations.mp ho
      rcases hout o ho hcase with hout | hout
      · exact absurd hmode hout
      · exact absurd hcurrency hout
  · rintro ⟨hc, o, ho, hcase⟩
    exact ⟨.inl hc, o, (h.scopedObservations o).mpr ho, hcase⟩

end

/-! ### The four numbers

Evaluated, at risk and recovered are sums over cases and over attributions. Each
attribution is mapped to its case, which is among those observed and shows the amount
attributed; the map is injective, so the sum of what was recovered is bounded by the sum
of what was at risk.
-/

/-- What was evaluated, was at risk and was recovered, in cases and in money. -/
structure RecoveryCounts where
  casesEvaluated : Nat
  revenueAtRiskMinor : Nat
  recoveredCases : Nat
  recoveredRevenueMinor : Nat
  deriving DecidableEq, Repr

def RecoveryMetrics.counts (m : RecoveryMetrics) : RecoveryCounts where
  casesEvaluated := m.casesEvaluated
  revenueAtRiskMinor := m.revenueAtRiskMinor
  recoveredCases := m.recoveredCases
  recoveredRevenueMinor := m.recoveredRevenueMinor

/-- The cases with an attribution in the mode and the currency. -/
def recoveredCaseIds (db : Db) (providerMode : ProviderMode) (currency : String) : Finset Uuid :=
  ((scopedAttributions db providerMode currency).map RecoveryAttribution.caseId).toFinset

section

variable {createdAt : Uuid → Int} {db db' : Db} {providerMode : ProviderMode} {currency : String}
  {m m' : RecoveryMetrics}

/-- The numbers are sums over the cases observed and over the attributions. -/
theorem calculateRecoveryMetrics_counts
    (h : calculateRecoveryMetrics createdAt db providerMode currency = .ok m) :
    m.currency = upperStripped currency ∧ m.counts =
      { casesEvaluated := (observedCases db providerMode m.currency).length
        revenueAtRiskMinor := revenueAtRisk m.currency (observedCases db providerMode m.currency)
        recoveredCases := (recoveredCaseIds db providerMode m.currency).card
        recoveredRevenueMinor := ((scopedAttributions db providerMode m.currency).map
          RecoveryAttribution.recoveredAmountMinor).sum } := by
  obtain ⟨normalized, hnormalized, h⟩ := bind_eq_ok.mp h
  obtain ⟨_, -, hnormalized⟩ := bind_eq_ok.mp hnormalized
  cases hnormalized
  cases h
  exact ⟨rfl, by simp [RecoveryMetrics.counts, recoveredCaseIds, List.card_toFinset]⟩

/-- Rows outside the scope do not count. -/
theorem AddsOutside.counts (hadds : AddsOutside providerMode (upperStripped currency) db db')
    (h : calculateRecoveryMetrics createdAt db providerMode currency = .ok m)
    {createdAt' : Uuid → Int}
    (h' : calculateRecoveryMetrics createdAt' db' providerMode currency = .ok m') :
    m'.counts = m.counts := by
  obtain ⟨hcurrency, hcounts⟩ := calculateRecoveryMetrics_counts h
  obtain ⟨hcurrency', hcounts'⟩ := calculateRecoveryMetrics_counts h'
  rw [hcounts, hcounts', hcurrency, hcurrency']
  have hcases := hadds.cases_perm
  have hattributions := hadds.attributions_perm
  have hrisk : revenueAtRisk (upperStripped currency)
      (observedCases db' providerMode (upperStripped currency)) =
      revenueAtRisk (upperStripped currency)
        (observedCases db providerMode (upperStripped currency)) :=
    ((hcases.filter _).map _).sum_eq
  have hids : recoveredCaseIds db' providerMode (upperStripped currency) =
      recoveredCaseIds db providerMode (upperStripped currency) :=
    List.toFinset_eq_of_perm _ _ (hattributions.map _)
  rw [hcases.length_eq, hrisk, hids, (hattributions.map _).sum_eq]

/-- Each attribution has its case among those observed, at the amount it adds. -/
theorem attributed_case (hattributed : Attributed db) (hvalued : Valued db)
    {a : RecoveryAttribution} (ha : a ∈ scopedAttributions db providerMode currency) :
    ∃ c ∈ observedCases db providerMode currency, c.id = a.caseId ∧
      c.amount = some a.recoveredAmountMinor ∧ c.currency = some currency := by
  obtain ⟨ha, hmode, hcurrency⟩ := mem_scopedAttributions.mp ha
  obtain ⟨o, ho, hattests⟩ := hattributed.attested a ha
  obtain ⟨c, hc, hid, -, hamount, hpriced⟩ := hvalued a ha
  refine ⟨c, mem_observedCases.mpr ⟨hc, o, ho, ?_, ?_, ?_⟩, hid, hamount, hcurrency ▸ hpriced⟩
  · exact hattests.mode_eq.trans hmode
  · exact hattests.currency_eq.trans hcurrency
  · exact hattests.case_eq.trans hid.symm

/-- Where attributed cases show what was attributed, no more is recovered than was at risk. -/
theorem counts_bounded (hattributed : Attributed db)
    (hcase : db.attributions.UniqueColumn RecoveryAttribution.caseId) (hvalued : Valued db)
    (h : calculateRecoveryMetrics createdAt db providerMode currency = .ok m) :
    m.recoveredCases ≤ m.casesEvaluated ∧ m.recoveredRevenueMinor ≤ m.revenueAtRiskMinor ∧
    m.recoveredCases = (recoveredCaseIds db providerMode m.currency).card ∧
    m.recoveredRevenueMinor =
      ∑ c ∈ recoveredCaseIds db providerMode m.currency, db.recoveredFor c := by
  obtain ⟨-, hcounts⟩ := calculateRecoveryMetrics_counts h
  have hevaluated := congrArg RecoveryCounts.casesEvaluated hcounts
  have hrisk := congrArg RecoveryCounts.revenueAtRiskMinor hcounts
  have hcount := congrArg RecoveryCounts.recoveredCases hcounts
  have hrevenue := congrArg RecoveryCounts.recoveredRevenueMinor hcounts
  simp only [RecoveryMetrics.counts] at hevaluated hrisk hcount hrevenue
  have hnodup : ((scopedAttributions db providerMode m.currency).map
      RecoveryAttribution.caseId).Nodup := hcase.nodup _
  refine ⟨?_, ?_, hcount, ?_⟩
  · rw [hcount, hevaluated, recoveredCaseIds, List.toFinset_card_of_nodup hnodup, List.length_map]
    refine length_le_of_matched PaymentCase.id hnodup fun a ha => ?_
    obtain ⟨c, hc, hid, -⟩ := attributed_case hattributed hvalued ha
    exact ⟨c, hc, hid⟩
  · rw [hrevenue, hrisk, revenueAtRisk]
    refine sum_le_of_matched PaymentCase.id hnodup fun a ha => ?_
    obtain ⟨c, hc, hid, hamount, hcurrency⟩ := attributed_case hattributed hvalued ha
    refine ⟨c, List.mem_filter.mpr ⟨hc, by simp [hcurrency]⟩, hid, ?_⟩
    rw [hamount, Option.getD_some]
  · rw [hrevenue]
    exact hcase.sum_eq _ _

theorem calculateRecoveryMetrics_total (createdAt : Uuid → Int) (db : Db)
    (providerMode : ProviderMode) (hcurrency : (upperStripped currency).length = 3) :
    ∃ m, calculateRecoveryMetrics createdAt db providerMode currency = .ok m := by
  refine ⟨_, bind_eq_ok.mpr ⟨upperStripped currency, ?_, rfl⟩⟩
  exact bind_eq_ok.mpr ⟨(), require_eq_ok.mpr hcurrency, rfl⟩

end

/--
**Metrics never over-report.**  In every state a run reaches, for every mode and every
three-letter currency, no more cases are recovered than evaluated and no more revenue
than was at risk, and the recovered revenue is the sum over the recovered cases, each
counted once.  Rows of another mode or another currency change none of the four numbers.
-/
theorem metrics_never_over_report {clock : Int} {tr : List (Run.Step System Label)} {s : System}
    (h : RunTrace clock tr s) (hsteady : SteadyPayments tr) (hdistinct : DistinctPayments tr)
    (hupper : ∀ text, upperStripped (upperStripped text) = upperStripped text)
    (createdAt : Uuid → Int) (providerMode : ProviderMode) (currency : String)
    (hcurrency : (upperStripped currency).length = 3) :
    ∃ m, calculateRecoveryMetrics createdAt s.db providerMode currency = .ok m ∧
      m.recoveredCases ≤ m.casesEvaluated ∧ m.recoveredRevenueMinor ≤ m.revenueAtRiskMinor ∧
      m.recoveredCases = (recoveredCaseIds s.db providerMode m.currency).card ∧
      m.recoveredRevenueMinor =
        ∑ c ∈ recoveredCaseIds s.db providerMode m.currency, s.db.recoveredFor c ∧
      ∀ createdAt' db', AddsOutside providerMode m.currency s.db db' →
        ∃ m', calculateRecoveryMetrics createdAt' db' providerMode currency = .ok m' ∧
          m'.counts = m.counts := by
  obtain ⟨m, hm⟩ := calculateRecoveryMetrics_total createdAt s.db providerMode hcurrency
  obtain ⟨hexecuted, hattributed⟩ := attributed_reachable ⟨tr, h⟩
  obtain ⟨hcases, hrevenue, hcount, hsum⟩ := counts_bounded hattributed
    (hattributed.case hexecuted) (valued_trace hupper h hsteady hdistinct) hm
  refine ⟨m, hm, hcases, hrevenue, hcount, hsum, fun createdAt' db' hadds => ?_⟩
  obtain ⟨m', hm'⟩ := calculateRecoveryMetrics_total createdAt' db' providerMode hcurrency
  rw [(calculateRecoveryMetrics_counts hm).1] at hadds
  exact ⟨m', hm', hadds.counts hm hm'⟩

end Arc

namespace Arc

attribute [local instance] asciiPlatform

/-- The recovered run: one case of 1000 is evaluated in test mode, and recovered. -/
theorem metrics_never_over_report_recovered : ∃ tr s m, RunTrace 0 tr s ∧
    tr.map Run.Step.label = recoveredRun ∧
    calculateRecoveryMetrics (fun _ => 0) s.db .test " inr" = .ok m ∧
    m.counts = ⟨1, 1000, 1, 1000⟩ ∧ m.recoveredRevenueMinor ≤ m.revenueAtRiskMinor := by
  have hrun : ((Run.replay step (System.initial 0) recoveredRun).map fun s =>
      (calculateRecoveryMetrics (fun _ => 0) s.db .test " inr").toOption.map
        RecoveryMetrics.counts) = some (some ⟨1, 1000, 1, 1000⟩) := by
    decide +kernel
  have hsteady : SteadyPayments (Run.steps step (System.initial 0) recoveredRun) := by
    decide +kernel
  have hdistinct : DistinctPayments (Run.steps step (System.initial 0) recoveredRun) := by
    decide +kernel
  obtain ⟨s, hs, hcounts⟩ := Option.map_eq_some_iff.mp hrun
  obtain ⟨htr, hlabels⟩ := Run.Trace.of_steps hs
  obtain ⟨m, hm, -, hrevenue, -⟩ := metrics_never_over_report htr hsteady hdistinct
    asciiUpper_strip_idem (fun _ => 0) .test " inr" (by decide +kernel)
  refine ⟨_, s, m, htr, hlabels, hm, ?_, hrevenue⟩
  rw [hm] at hcounts
  exact Option.some.inj hcounts

end Arc
