/-
What the provider reported, and when.

A payment snapshot is fetched outside any transaction and written later, with the
instant of the write as `last_reconciled_at`.  Two workers that process two events of
one payment are fenced each on its own event and not against each other, so the write
that comes last need not be of the snapshot that was fetched last.

`PaymentWrite` is one write with the instants of its fetch and of its commit.  The
lists of the writes of a case along a run are what the statements here are about.
-/
import Arc.Proofs.Authority

namespace Arc

open Store

variable [Platform]

/-! ### Fetches and writes

A worker fetches a snapshot in one step and writes it in another. Both are read off the
labels and the phases, so that a run has a list of fetches and a list of writes, and
their orders can be compared.
-/

/-- The columns of a case show a payment snapshot. -/
structure PaymentCase.Shows (c : PaymentCase) (snapshot : PaymentSnapshot) : Prop where
  payment : c.paymentId = some snapshot.id
  status : c.razorpayPaymentStatus = some snapshot.status
  amount : c.amount = some snapshot.amount
  currency : c.currency = some snapshot.currency
  method : c.razorpayPaymentMethod = snapshot.method
  errorCode : c.errorCode = snapshot.errorCode
  errorDescription : c.errorDescription = snapshot.errorDescription
  errorSource : c.errorSource = snapshot.errorSource
  errorStep : c.errorStep = snapshot.errorStep
  errorReason : c.errorReason = snapshot.errorReason

/-- A payment snapshot and the instant it was fetched at. -/
structure PaymentFetch where
  snapshot : PaymentSnapshot
  fetchedAt : Int
  deriving DecidableEq, Repr

/-- A payment snapshot written into a case. -/
structure PaymentWrite extends PaymentFetch where
  caseId : Uuid
  writtenAt : Int
  deriving DecidableEq, Repr

/-- The payment snapshot a step fetches. -/
def System.paymentFetch? (s : System) : Label → Option PaymentFetch
  | .processor worker (.fetch payment subscription) =>
      match s.processors worker with
      | .claimed event =>
          match fetchAuthoritativeEntity event payment subscription with
          | .ok (.inl snapshot) => some ⟨snapshot, s.clock⟩
          | _ => none
      | _ => none
  | _ => none

/-- The payment snapshot a step writes; a worker that is turned away writes none. -/
def System.paymentWrite? (s : System) : Label → Option PaymentWrite
  | .processor worker (.apply fresh) =>
      match s.processors worker with
      | .fetched event (.inl snapshot) fetchedAt =>
          match applyReconciliation s.db event (.inl snapshot) fresh s.clock s.clock with
          | .ok (_, result) =>
              if result.idempotent then none
              else result.caseId.map fun caseId => ⟨⟨snapshot, fetchedAt⟩, caseId, s.clock⟩
          | .error _ => none
      | _ => none
  | _ => none

/-- The payment snapshots a run has fetched. -/
def paymentFetches (tr : List (Run.Step System Label)) : List PaymentFetch :=
  Run.logged System.paymentFetch? tr

/-- The payment snapshots a run has written into a case. -/
def paymentWrites (tr : List (Run.Step System Label)) (caseId : Uuid) : List PaymentWrite :=
  (Run.logged System.paymentWrite? tr).filter fun w => w.caseId == caseId

/-! ### One write -/

theorem PaymentCase.Shows.congr {c c' : PaymentCase} {snapshot : PaymentSnapshot}
    (h : c.Shows snapshot) (htruth : c'.truth = c.truth) : c'.Shows snapshot := by
  simp only [PaymentCase.truth, CaseTruth.mk.injEq] at htruth
  obtain ⟨-, hpayment, -, -, hstatus, -, hmethod, hamount, hcurrency, hcode, hdescription, hsource,
    hstep, hreason, -, -⟩ := htruth
  exact ⟨hpayment.trans h.payment, hstatus.trans h.status, hamount.trans h.amount,
    hcurrency.trans h.currency, hmethod.trans h.method, hcode.trans h.errorCode,
    hdescription.trans h.errorDescription, hsource.trans h.errorSource,
    hstep.trans h.errorStep, hreason.trans h.errorReason⟩

/-- The case after a write shows the snapshot, and was reconciled at the instant of the write. -/
theorem shows_of_truth {c c' : PaymentCase} {event : WebhookEvent} {snapshot : PaymentSnapshot}
    {at' : Int} (htruth : c'.truth = (c.withPaymentTruth event snapshot at').truth) :
    c'.Shows snapshot ∧ c'.lastReconciledAt = some at' :=
  ⟨PaymentCase.Shows.congr ⟨rfl, rfl, rfl, rfl, rfl, rfl, rfl, rfl, rfl, rfl⟩ htruth,
    congrArg CaseTruth.lastReconciledAt htruth⟩

/-- A payment report names the case it was written into, or has changed nothing. -/
theorem reconcilePayment_caseId {db : Db} {event : WebhookEvent} {snapshot : PaymentSnapshot}
    {fresh : Fresh} {now : Int} {result : ReconciliationResult}
    (h : reconcilePayment db event snapshot fresh now = .ok result) :
    (result.caseId = none ∧ result.db = db) ∨
    ∃ c ∈ result.db.cases, result.caseId = some c.id ∧ c.caseReference.identityKind = .payment ∧
      c.Shows snapshot ∧ c.lastReconciledAt = some now ∧
      ∀ x ∈ result.db.cases, x.id ≠ c.id → x ∈ db.cases := by
  obtain ⟨paymentId, hid, h⟩ := bind_eq_ok.mp h
  obtain ⟨_, hsame, h⟩ := bind_eq_ok.mp h
  rw [require_eq_ok] at hsame
  subst hsame
  obtain ⟨found, hlock, h⟩ := bind_eq_ok.mp h
  obtain ⟨reference, href, rfl⟩ := lockCaseByIdentity_eq_ok hlock
  have hkind := deterministicCaseReference_kind href
  split at h
  · rename_i row hrow
    obtain ⟨hmem, hrowref⟩ := caseByReference_some hrow
    obtain ⟨⟨w, reason⟩, happly, h⟩ := bind_eq_ok.mp h
    cases h
    obtain ⟨hw, htruth⟩ := applyPaymentTruth_eq_ok happly
    obtain ⟨hshows, hat⟩ := shows_of_truth htruth
    have hwid : w.row.id = row.id := hw.id_eq
    have hrows := fun x => Table.mem_put_of_mem hmem hwid (x := x)
    refine .inr ⟨w.row, (hrows _).mpr (.inr rfl), by rw [hwid], ?_, hshows, hat, fun x hx hne => ?_⟩
    · rw [hw.reference_eq]
      exact (congrArg CaseReference.identityKind hrowref).trans hkind
    · rcases (hrows x).mp hx with ⟨hx, -⟩ | rfl
      · exact hx
      · exact absurd rfl hne
  · rename_i hnone
    split at h
    · split at h <;>
      · cases h
        exact .inl ⟨rfl, rfl⟩
    · obtain ⟨created, hcreate, h⟩ := bind_eq_ok.mp h
      obtain ⟨⟨w, reason⟩, happly, h⟩ := bind_eq_ok.mp h
      cases h
      obtain ⟨cases, hnew, hrow, hinsert, hdb⟩ := getOrCreateCase_eq_ok href hnone hcreate
      rw [hnew] at happly
      obtain ⟨hw, htruth⟩ := applyPaymentTruth_eq_ok happly
      obtain ⟨hshows, hat⟩ := shows_of_truth htruth
      have hwid : w.row.id = created.paymentCase.id := hw.id_eq
      have hmem := fun x => Table.insert?_mem hinsert (x := x)
      have hrows := fun x => Table.mem_put_of_mem ((hmem _).mpr (.inr rfl)) hwid (x := x)
      have hcases : (created.db.commitCase w).cases = cases.put w.row := by rw [hdb]; rfl
      refine .inr ⟨w.row, ?_, by rw [hwid], ?_, hshows, hat, fun x hx hne => ?_⟩
      · rw [hcases]
        exact (hrows _).mpr (.inr rfl)
      · rw [hw.reference_eq, initializeCaseAudit_row]
        show created.paymentCase.caseReference.identityKind = _
        rw [hrow]
        exact hkind
      · rw [hcases] at hx
        rcases (hrows x).mp hx with ⟨hx, hne'⟩ | rfl
        · rcases (hmem x).mp hx with hx | rfl
          · exact hx
          · exact absurd hwid.symm hne
        · exact absurd rfl hne

/-- A subscription report leaves every payment case as it was. -/
theorem reconcileSubscription_payment {db : Db} {event : WebhookEvent}
    {snapshot : SubscriptionSnapshot} {fresh : Fresh} {now : Int} {result : ReconciliationResult}
    (h : reconcileSubscription db event snapshot fresh now = .ok result) {c : PaymentCase}
    (hc : c ∈ result.db.cases) (hkind : c.caseReference.identityKind = .payment) :
    c ∈ db.cases := by
  obtain ⟨-, reference, href, hreported⟩ := reconcileSubscription_eq_ok h
  have hreference := deterministicCaseReference_kind href
  cases hreported with
  | ignored hnone hdb => rwa [hdb] at hc
  | @worked row w hrow hrowref hw htruth hdb =>
      rw [hdb] at hc
      rcases (Table.mem_put_of_mem hrow hw.id_eq).mp hc with ⟨hc, -⟩ | rfl
      · exact hc
      · have hwref : w.row.caseReference = reference := hw.reference_eq.trans hrowref
        rw [hwref, hreference] at hkind
        cases hkind
  | @created row cases w hinsert hnone hrowref hstate hw htruth hdb =>
      rw [hdb] at hc
      have hmem := fun x => Table.insert?_mem hinsert (x := x)
      rcases (Table.mem_put_of_mem ((hmem _).mpr (.inr rfl)) hw.id_eq).mp hc with ⟨hc, hne⟩ | rfl
      · rcases (hmem c).mp hc with hc | rfl
        · exact hc
        · exact absurd hw.id_eq.symm hne
      · have hwref : w.row.caseReference = row.caseReference := by
          rw [hw.reference_eq, initializeCaseAudit_row]
          rfl
        rw [hwref, hrowref, hreference] at hkind
        cases hkind

/-! ### One step -/

/-- A report by the owner of the event is not turned away. -/
theorem applyReconciliation_of_owns {db : Db} {claimed : ClaimedEvent} {snapshot : EntitySnapshot}
    {fresh : Fresh} {now : Int} {event : WebhookEvent} {result : ReconciliationResult}
    (processedAt : Int) (howns : Owns db claimed event) (hstatus : event.processingStatus = .processing)
    (hresult : reconcileEntity db event snapshot fresh now = .ok result) :
    applyReconciliation db claimed snapshot fresh now processedAt =
      .ok ({ result.db with
          webhookEvents := result.db.webhookEvents.put (event.finish processedAt) },
        ⟨event.id, .processed, result.caseId, result.reasonCode, false⟩) := by
  have hlock : lockClaimed db claimed none = .ok (.inl event) := by
    simp [lockClaimed, lockEvent, requireSome, howns.stored, howns.attempt, hstatus, bind,
      Except.bind, pure, Except.pure]
  simp [applyReconciliation, hlock, require, hstatus, hresult, bind, Except.bind, pure, Except.pure]

theorem applyReconciliation_reported {db db' : Db} {claimed : ClaimedEvent}
    {snapshot : EntitySnapshot} {fresh : Fresh} {now at' : Int} {result : WebhookProcessingResult}
    (h : applyReconciliation db claimed snapshot fresh now at' = .ok (db', result))
    (hnew : result.idempotent = false) :
    ∃ event reconciled, reconcileEntity db event snapshot fresh now = .ok reconciled ∧
      result.caseId = reconciled.caseId ∧ db'.cases = reconciled.db.cases := by
  obtain ⟨outcome, hlock, h⟩ := bind_eq_ok.mp h
  cases outcome with
  | inl event =>
      obtain ⟨_, hstatus, h⟩ := bind_eq_ok.mp h
      obtain ⟨reconciled, hresult, h⟩ := bind_eq_ok.mp h
      cases h
      exact ⟨event, reconciled, hresult, rfl, rfl⟩
  | inr turned =>
      cases h
      obtain ⟨event, hevent, hlock⟩ := bind_eq_ok.mp hlock
      split at hlock
      · cases hlock
        cases hnew
      · split at hlock <;> cases hlock
        cases hnew

/-- What a step that writes a payment snapshot does. -/
structure Writes (s s' : System) (w : PaymentWrite) : Prop where
  now : w.writtenAt = s.clock
  fetched : ∃ worker event, s.processors worker = .fetched event (.inl w.snapshot) w.fetchedAt
  shown : ∃ c ∈ s'.db.cases, c.id = w.caseId ∧ c.caseReference.identityKind = .payment ∧
    c.Shows w.snapshot ∧ c.lastReconciledAt = some w.writtenAt
  others : ∀ c ∈ s'.db.cases, c.id ≠ w.caseId → c ∈ s.db.cases

theorem paymentWrite_step {s s' : System} {l : Label} {w : PaymentWrite}
    (h : step s l = some s') (hw : s.paymentWrite? l = some w) : Writes s s' w := by
  unfold System.paymentWrite? at hw
  split at hw
  · rename_i worker fresh
    split at hw
    · rename_i event snapshot fetchedAt hphase
      split at hw
      · rename_i db' result happly
        split at hw
        · cases hw
        · rename_i hnew
          obtain ⟨caseId, hcaseId, rfl⟩ := Option.map_eq_some_iff.mp hw
          obtain ⟨event', reconciled, hresult, hid, hcases⟩ :=
            applyReconciliation_reported happly (by simpa using hnew)
          obtain ⟨m, hm, rfl⟩ := Option.map_eq_some_iff.mp h
          have hdb : m.db = db' := by
            simp only [hphase, processorStep, happly] at hm
            split at hm <;> cases hm
            rfl
          rcases reconcilePayment_caseId hresult with ⟨hnone, -⟩ | ⟨c, hc, hsome, hkind, hshows, hat,
              hothers⟩
          · rw [← hid, hcaseId] at hnone
            cases hnone
          · rw [← hid, hcaseId, Option.some.injEq] at hsome
            have hrows : m.db.cases = reconciled.db.cases := by rw [hdb, hcases]
            refine ⟨rfl, ⟨worker, event, hphase⟩, ⟨c, ?_, hsome.symm, hkind, hshows, hat⟩, ?_⟩
            · show c ∈ m.db.cases
              rwa [hrows]
            · intro x hx hne
              replace hx : x ∈ m.db.cases := hx
              rw [hrows] at hx
              exact hothers x hx (hsome ▸ hne)
      · cases hw
    · cases hw
  · cases hw

/-- A step that writes no payment snapshot leaves what the payment cases show. -/
theorem unwritten_step {s s' : System} {l : Label} (hhints : HintsOk s) (hheld : HeldOk s)
    (h : step s l = some s') (hw : s.paymentWrite? l = none) {c' : PaymentCase}
    (hc' : c' ∈ s'.db.cases) (hkind : c'.caseReference.identityKind = .payment) :
    ∃ c ∈ s.db.cases, c'.id = c.id ∧ c'.caseReference = c.caseReference ∧ c'.truth = c.truth := by
  have hcommit := step_commit hhints h
  rcases hcommit.caseWorked hheld with ⟨worker, fresh, rfl⟩ | hworked
  · generalize s'.db = db' at hcommit hc'
    cases hcommit with
    | @reconciled _ claimed snapshot fetchedAt _ event result hphase howns hstatus hresult =>
        cases snapshot with
        | inl snapshot =>
            have happly := applyReconciliation_of_owns s.clock howns hstatus hresult
            simp only [System.paymentWrite?, hphase, happly] at hw
            rcases reconcilePayment_caseId hresult with ⟨-, hdb⟩ | ⟨c, -, hsome, -⟩
            · replace hc' : c' ∈ result.db.cases := hc'
              rw [hdb] at hc'
              exact ⟨c', hc', rfl, rfl, rfl⟩
            · simp [hsome] at hw
        | inr snapshot =>
            exact ⟨c', reconcileSubscription_payment hresult hc' hkind, rfl, rfl, rfl⟩
    | same => exact ⟨c', hc', rfl, rfl, rfl⟩
    | worked hlabel => rcases hlabel with ⟨_, hl⟩ | ⟨_, _, hl⟩ <;> cases hl
    | observed hworker => rcases hworker with ⟨_, _, hl⟩ | ⟨_, _, _, hl⟩ <;> cases hl
  · exact hworked.truth hc'

/-! ### Runs

The invariant ties the two lists to the state: every write is of a snapshot that was
fetched, and a case shows the last snapshot written into it, at the instant of that
write.
-/

/-- The provider never reports a payment failed that it has reported captured before. -/
def CapturedFinal (tr : List (Run.Step System Label)) : Prop :=
  ∀ f ∈ paymentFetches tr, ∀ f' ∈ paymentFetches tr, f.snapshot.id = f'.snapshot.id →
    f.fetchedAt ≤ f'.fetchedAt → f.snapshot.status = "captured" → f'.snapshot.status ≠ "failed"

instance (tr : List (Run.Step System Label)) : Decidable (CapturedFinal tr) := by
  unfold CapturedFinal
  infer_instance

/-- The log of the fetches and writes of a run, and the state it has reached. -/
structure TruthLogged (tr : List (Run.Step System Label)) (s : System) : Prop where
  held : ∀ worker event snapshot fetchedAt,
    s.processors worker = .fetched event (.inl snapshot) fetchedAt →
    ⟨snapshot, fetchedAt⟩ ∈ paymentFetches tr ∧ fetchedAt ≤ s.clock
  fetched : ∀ w ∈ Run.logged System.paymentWrite? tr, w.toPaymentFetch ∈ paymentFetches tr
  times : ∀ w ∈ Run.logged System.paymentWrite? tr, w.fetchedAt ≤ w.writtenAt ∧ w.writtenAt ≤ s.clock
  sorted : (Run.logged System.paymentWrite? tr).Pairwise fun w w' => w.writtenAt ≤ w'.writtenAt
  /-- A payment case shows the snapshot that was written last. -/
  shown : ∀ c ∈ s.db.cases, c.caseReference.identityKind = .payment →
    ∃ w, (paymentWrites tr c.id).getLast? = some w ∧ c.Shows w.snapshot ∧
      c.lastReconciledAt = some w.writtenAt

theorem mem_paymentWrites {tr : List (Run.Step System Label)} {caseId : Uuid} {w : PaymentWrite} :
    w ∈ paymentWrites tr caseId ↔ w ∈ Run.logged System.paymentWrite? tr ∧ w.caseId = caseId := by
  simp [paymentWrites]

theorem paymentFetches_snoc (tr : List (Run.Step System Label)) (x : Run.Step System Label) :
    paymentFetches (tr ++ [x]) = paymentFetches tr ++ (x.pre.paymentFetch? x.label).toList :=
  Run.logged_snoc tr x

theorem paymentWrites_snoc (tr : List (Run.Step System Label)) (x : Run.Step System Label)
    (caseId : Uuid) : paymentWrites (tr ++ [x]) caseId = paymentWrites tr caseId ++
      (x.pre.paymentWrite? x.label).toList.filter fun w => w.caseId == caseId := by
  unfold paymentWrites
  rw [Run.logged_snoc, List.filter_append]

/-- A fetched snapshot is logged by the step that fetches it. -/
theorem fetched_logged {s s' : System} {l : Label} (h : step s l = some s') {worker : Nat}
    {event : ClaimedEvent} {snapshot : PaymentSnapshot} {fetchedAt : Int}
    (hphase : s'.processors worker = .fetched event (.inl snapshot) fetchedAt) :
    s.processors worker = .fetched event (.inl snapshot) fetchedAt ∨
      (s.paymentFetch? l = some ⟨snapshot, fetchedAt⟩ ∧ fetchedAt = s.clock) := by
  rcases step_processors h worker with hsame | ⟨pl, m, rfl, hm, hmoved, -⟩
  · exact .inl (hsame ▸ hphase)
  · have hmove := processorStep_move hm
    rw [← hmoved, hphase] at hmove
    generalize hpre : s.processors worker = phase at hmove
    cases hmove with
    | fetched hkind hfetch =>
        refine .inr ⟨?_, rfl⟩
        simp [System.paymentFetch?, hpre, hfetch]

theorem TruthLogged.step {tr : List (Run.Step System Label)} {s s' : System} {l : Label}
    (hlog : TruthLogged tr s) (hhints : HintsOk s) (hheld : HeldOk s)
    (h : step s l = some s') : TruthLogged (tr ++ [⟨s, l, s'⟩]) s' := by
  have hclock := step_clock h
  refine ⟨?_, ?_, ?_, ?_, ?_⟩
  · intro worker event snapshot fetchedAt hphase
    rw [paymentFetches_snoc, List.mem_append]
    rcases fetched_logged h hphase with hold | ⟨hnew, rfl⟩
    · obtain ⟨hmem, hle⟩ := hlog.held worker event snapshot fetchedAt hold
      exact ⟨.inl hmem, hle.trans hclock⟩
    · exact ⟨.inr (by simp [hnew]), hclock⟩
  · intro w hw
    rw [paymentFetches_snoc, List.mem_append]
    rw [Run.logged_snoc, List.mem_append] at hw
    rcases hw with hw | hw
    · exact .inl (hlog.fetched w hw)
    · have hwrites := paymentWrite_step h (by simpa using hw)
      obtain ⟨worker, event, hphase⟩ := hwrites.fetched
      exact .inl (hlog.held worker event _ _ hphase).1
  · intro w hw
    rw [Run.logged_snoc, List.mem_append] at hw
    rcases hw with hw | hw
    · obtain ⟨hle, hle'⟩ := hlog.times w hw
      exact ⟨hle, hle'.trans hclock⟩
    · have hwrites := paymentWrite_step h (by simpa using hw)
      obtain ⟨worker, event, hphase⟩ := hwrites.fetched
      rw [hwrites.now]
      exact ⟨(hlog.held worker event _ _ hphase).2, hclock⟩
  · rw [Run.logged_snoc, List.pairwise_append]
    refine ⟨hlog.sorted, ?_, ?_⟩
    · cases s.paymentWrite? l <;> simp
    · intro w hw w' hw'
      have hwrites := paymentWrite_step h (by simpa using hw')
      rw [hwrites.now]
      exact (hlog.times w hw).2
  · intro c' hc' hkind
    rw [paymentWrites_snoc]
    cases hread : s.paymentWrite? l with
    | none =>
        obtain ⟨c, hc, hid, href, htruth⟩ := unwritten_step hhints hheld h hread hc' hkind
        obtain ⟨w, hlast, hshows, hat⟩ := hlog.shown c hc (href ▸ hkind)
        refine ⟨w, ?_, hshows.congr htruth, ?_⟩
        · simpa [hid] using hlast
        · exact (congrArg CaseTruth.lastReconciledAt htruth).trans hat
    | some w =>
        have hwrites := paymentWrite_step h hread
        by_cases hid : c'.id = w.caseId
        · obtain ⟨c, hc, hcid, -, hshows, hat⟩ := hwrites.shown
          obtain rfl : c' = c := Table.eq_of_key_eq hc' hc (hid.trans hcid.symm)
          exact ⟨w, by simp [hid], hshows, hat⟩
        · obtain ⟨w', hlast, hshows, hat⟩ := hlog.shown c' (hwrites.others c' hc' hid) hkind
          refine ⟨w', ?_, hshows, hat⟩
          simpa [Ne.symm hid] using hlast

theorem truthLogged_trace {clock : Int} {tr : List (Run.Step System Label)} {s : System}
    (h : RunTrace clock tr s) : TruthLogged tr s := by
  induction h with
  | nil =>
      refine ⟨?_, ?_, ?_, ?_, ?_⟩
      · intro worker event snapshot fetchedAt hphase
        cases hphase
      · intro w hw
        cases hw
      · intro w hw
        cases hw
      · exact List.Pairwise.nil
      · intro c hc
        exact absurd hc (Table.not_mem_empty _)
  | snoc htr hs ih =>
      obtain ⟨hhints, hheld, -⟩ := audited_reachable ⟨_, htr⟩
      exact ih.step hhints hheld hs

/-! ### When provider truth is kept

A write replaces a later snapshot exactly when another worker has written one that was
fetched in between. If every snapshot was fetched after the write before it, the writes
are in the order of their fetches.
-/

/-- Along a run that has reached `s`, no snapshot has replaced a later one. -/
structure TruthOrdered (tr : List (Run.Step System Label)) (s : System) : Prop where
  order : ∀ caseId, (paymentWrites tr caseId).Pairwise fun w w' => w.fetchedAt ≤ w'.fetchedAt
  /-- A payment case shows the snapshot that was fetched last of those written into it. -/
  latest : ∀ c ∈ s.db.cases, c.caseReference.identityKind = .payment →
    ∃ w, (paymentWrites tr c.id).getLast? = some w ∧ c.Shows w.snapshot ∧
      ∀ w' ∈ paymentWrites tr c.id, w'.fetchedAt ≤ w.fetchedAt
  /-- A payment case that was once captured does not show a failure. -/
  recovered : ∀ c ∈ s.db.cases, c.caseReference.identityKind = .payment →
    ∀ w ∈ paymentWrites tr c.id, c.paymentId = some w.snapshot.id →
      w.snapshot.status = "captured" → c.razorpayPaymentStatus ≠ some "failed"

/-- Nor does a payment case look fresher than the snapshot it shows. -/
structure TruthKept (tr : List (Run.Step System Label)) (s : System) : Prop
    extends TruthOrdered tr s where
  aged : ∀ c ∈ s.db.cases, c.caseReference.identityKind = .payment →
    ∃ w r, (paymentWrites tr c.id).getLast? = some w ∧ c.lastReconciledAt = some r ∧
      s.clock - w.fetchedAt ≤ s.clock - r

/-- Every snapshot was fetched after the write before it: no other worker came between. -/
def FetchedAfterWrites (tr : List (Run.Step System Label)) : Prop :=
  ∀ caseId, (paymentWrites tr caseId).Pairwise fun w w' => w.writtenAt ≤ w'.fetchedAt

theorem CapturedFinal.of_append {tr tr' : List (Run.Step System Label)}
    (h : CapturedFinal (tr ++ tr')) : CapturedFinal tr := by
  have hmem : ∀ f ∈ paymentFetches tr, f ∈ paymentFetches (tr ++ tr') := by
    intro f hf
    unfold paymentFetches
    rw [Run.logged_append]
    exact List.mem_append_left _ hf
  intro f hf f' hf'
  exact h f (hmem f hf) f' (hmem f' hf')

/-- Writes in the order of their fetches keep the truth. -/
theorem TruthLogged.ordered {tr : List (Run.Step System Label)} {s : System}
    (hlog : TruthLogged tr s) (hfinal : CapturedFinal tr)
    (horder : ∀ caseId, (paymentWrites tr caseId).Pairwise fun w w' => w.fetchedAt ≤ w'.fetchedAt) :
    TruthOrdered tr s := by
  have hlatest : ∀ c ∈ s.db.cases, c.caseReference.identityKind = .payment →
      ∃ w, (paymentWrites tr c.id).getLast? = some w ∧ c.Shows w.snapshot ∧
        ∀ w' ∈ paymentWrites tr c.id, w'.fetchedAt ≤ w.fetchedAt := by
    intro c hc hkind
    obtain ⟨w, hlast, hshows, -⟩ := hlog.shown c hc hkind
    refine ⟨w, hlast, hshows, fun w' hw' => ?_⟩
    obtain ⟨earlier, hwrites⟩ := List.getLast?_eq_some_iff.mp hlast
    have hpairs := horder c.id
    rw [hwrites, List.pairwise_append] at hpairs
    rw [hwrites, List.mem_append, List.mem_singleton] at hw'
    rcases hw' with hw' | rfl
    · exact hpairs.2.2 w' hw' w (List.mem_singleton_self w)
    · exact le_refl _
  refine ⟨horder, hlatest, fun c hc hkind w hw hid hcaptured hfailed => ?_⟩
  obtain ⟨last, hlast, hshows, hle⟩ := hlatest c hc hkind
  have hmem : ∀ {w : PaymentWrite}, w ∈ paymentWrites tr c.id →
      w.toPaymentFetch ∈ paymentFetches tr := fun hw => hlog.fetched _ (mem_paymentWrites.mp hw).1
  have hsame : w.snapshot.id = last.snapshot.id := Option.some.inj (hid.symm.trans hshows.payment)
  have hstatus : last.snapshot.status = "failed" :=
    Option.some.inj (hshows.status.symm.trans hfailed)
  exact hfinal _ (hmem hw) _ (hmem (List.mem_of_getLast? hlast)) hsame (hle w hw) hcaptured hstatus

theorem paymentWrites_pairwise {tr : List (Run.Step System Label)}
    {R : PaymentWrite → PaymentWrite → Prop} (h : (Run.logged System.paymentWrite? tr).Pairwise R)
    (caseId : Uuid) : (paymentWrites tr caseId).Pairwise R :=
  h.sublist List.filter_sublist

/-- A write is the last of its case in the run that ends with it. -/
theorem write_aged {clock : Int} {before : List (Run.Step System Label)} {x : Run.Step System Label}
    (h : RunTrace clock (before ++ [x]) x.post) {w : PaymentWrite}
    (hread : x.pre.paymentWrite? x.label = some w) (hkept : TruthKept (before ++ [x]) x.post) :
    w.writtenAt ≤ w.fetchedAt := by
  obtain ⟨-, hstep, -⟩ := h.of_snoc
  obtain ⟨c, hc, hid, hkind, -, hat⟩ := (paymentWrite_step hstep hread).shown
  obtain ⟨w', r, hlast, hr, hage⟩ := hkept.aged c hc hkind
  have hw : w' = w := by
    rw [paymentWrites_snoc, hread] at hlast
    simpa [hid, eq_comm] using hlast
  rw [hat, Option.some.injEq] at hr
  subst hw hr
  omega

/--
**Provider truth.**  Along every run, provider truth is kept in every state reached
exactly when each snapshot is written at the instant at which it was fetched.  The part
of it that does not speak of freshness is already kept when no other write of the case
falls between the fetch of a snapshot and its write.
-/
theorem truth_kept_iff {clock : Int} {tr : List (Run.Step System Label)} {s : System}
    (h : RunTrace clock tr s) (hfinal : CapturedFinal tr) :
    (FetchedAfterWrites tr → ∀ before after m, tr = before ++ after → RunTrace clock before m →
      TruthOrdered before m) ∧
    ((∀ before after m, tr = before ++ after → RunTrace clock before m → TruthKept before m) ↔
      ∀ w ∈ Run.logged System.paymentWrite? tr, w.fetchedAt = w.writtenAt) := by
  have hordered : FetchedAfterWrites tr → ∀ before after m, tr = before ++ after →
      RunTrace clock before m → TruthOrdered before m := by
    rintro hafter before after m rfl hm
    have hlog := truthLogged_trace hm
    refine hlog.ordered hfinal.of_append fun caseId => ?_
    have hpairs := hafter caseId
    unfold paymentWrites at hpairs
    rw [Run.logged_append, List.filter_append] at hpairs
    refine (List.pairwise_append.mp hpairs).1.imp_of_mem fun {w w'} hw _ hle => ?_
    exact (hlog.times w (mem_paymentWrites.mp hw).1).1.trans hle
  refine ⟨hordered, ⟨fun hkept w hw => ?_, ?_⟩⟩
  · obtain ⟨x, hx, hread⟩ := Run.mem_logged.mp hw
    obtain ⟨before, after, rfl, hbefore, -⟩ := h.split hx
    have hprefix : RunTrace clock (before ++ [x]) x.post := hbefore.snoc (h.step_of_mem hx)
    have hage := write_aged hprefix hread (hkept (before ++ [x]) after x.post (by simp) hprefix)
    exact le_antisymm ((truthLogged_trace h).times w hw).1 hage
  · rintro hinstant before after m rfl hm
    have hafter : FetchedAfterWrites (before ++ after) := by
      refine paymentWrites_pairwise ?_
      refine (truthLogged_trace h).sorted.imp_of_mem fun {w w'} _ hw' hle => ?_
      rwa [hinstant w' hw']
    refine { toTruthOrdered := hordered hafter before after m rfl hm, aged := fun c hc hkind => ?_ }
    obtain ⟨w, hlast, -, hat⟩ := (truthLogged_trace hm).shown c hc hkind
    refine ⟨w, w.writtenAt, hlast, hat, ?_⟩
    have hw : w ∈ Run.logged System.paymentWrite? (before ++ after) := by
      rw [Run.logged_append]
      exact List.mem_append_left _ (mem_paymentWrites.mp (List.mem_of_getLast? hlast)).1
    rw [hinstant w hw]

end Arc

namespace Arc

attribute [local instance] asciiPlatform

/-- Two workers process two failure events of one payment; the slow one writes last. -/
def regressedRun : List Label := [
  .service (.ingest samplePayload "evt_1" (.str "d") 1),
  .service (.ingest samplePayload "evt_2" (.str "e") 2),
  .processor 0 (.claim 1),
  .processor 0 (.fetch (.response 200 (some samplePayment)) .noResponse),
  .tick 1000000,
  .processor 1 (.claim 2),
  .processor 1 (.fetch (.response 200 (some { samplePayment with status := "captured" })) .noResponse),
  .processor 1 (.apply ⟨10, 1000000⟩),
  .processor 0 (.apply ⟨11, 1000000⟩)]

/--
The case that a captured payment has recovered shows the payment failed again, from a
snapshot that is a second older than the one it has replaced, and as just reconciled.
-/
theorem truth_regresses : ∃ tr s, RunTrace 0 tr s ∧ tr.map Run.Step.label = regressedRun ∧
    CapturedFinal tr ∧ ¬ TruthOrdered tr s ∧ ∃ c ∈ s.db.cases, c.currentState = .recovered ∧
      c.razorpayPaymentStatus = some "failed" ∧ c.lastReconciledAt = some s.clock := by
  have hrun : ((Run.replay step (System.initial 0) regressedRun).bind fun s =>
      (s.db.cases.get? 10).map fun c => (c.currentState, c.razorpayPaymentStatus,
        c.lastReconciledAt == some s.clock)) = some (.recovered, some "failed", true) := by
    decide +kernel
  have hfinal : CapturedFinal (Run.steps step (System.initial 0) regressedRun) := by
    decide +kernel
  have hfetches : (paymentWrites (Run.steps step (System.initial 0) regressedRun) 10).map
      (fun w => w.fetchedAt) = [1000000, 0] := by decide +kernel
  obtain ⟨s, hs, hcase⟩ := Option.bind_eq_some_iff.mp hrun
  obtain ⟨htr, hlabels⟩ := Run.Trace.of_steps hs
  obtain ⟨c, hc, hshows⟩ := Option.map_eq_some_iff.mp hcase
  simp only [Prod.mk.injEq, beq_iff_eq] at hshows
  refine ⟨_, s, htr, hlabels, hfinal, fun hordered => ?_, c, Store.Table.mem_of_get? hc, hshows⟩
  have hpairs := (hordered.order 10).map (S := fun f f' => f ≤ f')
    (fun w : PaymentWrite => w.fetchedAt) fun _ _ hle => hle
  rw [hfetches] at hpairs
  simp at hpairs

/-- The first worker alone: it writes what it has just fetched. -/
def reportedRun : List Label := [
  .service (.ingest samplePayload "evt_1" (.str "d") 1),
  .processor 0 (.claim 1),
  .processor 0 (.fetch (.response 200 (some samplePayment)) .noResponse),
  .processor 0 (.apply ⟨10, 0⟩)]

theorem truth_kept_reported : ∃ tr s, RunTrace 0 tr s ∧ tr.map Run.Step.label = reportedRun ∧
    TruthKept tr s := by
  have hrun : (Run.replay step (System.initial 0) reportedRun).isSome = true := by decide +kernel
  have hfinal : CapturedFinal (Run.steps step (System.initial 0) reportedRun) := by decide +kernel
  have hinstant : ∀ w ∈ Run.logged System.paymentWrite?
      (Run.steps step (System.initial 0) reportedRun), w.fetchedAt = w.writtenAt := by
    decide +kernel
  obtain ⟨s, hs⟩ := Option.isSome_iff_exists.mp hrun
  obtain ⟨htr, hlabels⟩ := Run.Trace.of_steps hs
  refine ⟨_, s, htr, hlabels, ?_⟩
  exact (truth_kept_iff htr hfinal).2.mpr hinstant _ [] s (by simp) htr

end Arc
