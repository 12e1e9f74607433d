/-
Reports of one payment, in any order.

What a case shows of a payment after a report is a function of the provider's snapshot
and of the state the case was in, and applying it twice is applying it once.  The type
of the event decides one thing only: whether a case is created where there is none.  So
a list of reports of one snapshot comes to the same in every order and with every
repetition.

`receive` is that statement on faces alone, and `reportPayments` is the code: the second
refines the first, step by step.
-/
import Arc.Proofs.Lifecycle

namespace Arc

open Store

variable [Platform]

/-! ### Faces

What a case shows of a payment is small: the columns of the snapshot and the state.
Applying a report settles both, and settling twice is settling once, so a list of
reports with one snapshot comes to the same in any order.
-/

/-- What a case shows of a payment. -/
structure PaymentFace where
  state : CaseState
  status : Option String
  amount : Option Nat
  currency : Option String
  method : Option String
  errorCode : Option String
  errorDescription : Option String
  errorSource : Option String
  errorStep : Option String
  errorReason : Option String
  deriving DecidableEq, Repr

def PaymentCase.face (c : PaymentCase) : PaymentFace where
  state := c.currentState
  status := c.razorpayPaymentStatus
  amount := c.amount
  currency := c.currency
  method := c.razorpayPaymentMethod
  errorCode := c.errorCode
  errorDescription := c.errorDescription
  errorSource := c.errorSource
  errorStep := c.errorStep
  errorReason := c.errorReason

/-- The state a report with the given status leaves a case in. -/
def settledState (state : CaseState) (status : String) : CaseState :=
  let state := if state = .detected then .reconciling else state
  if status = "captured" then if canTransition state .recovered then .recovered else state
  else if status = "refunded" then if canTransition state .exhausted then .exhausted else state
  else state

/-- The face a snapshot gives to a case in the given state. -/
def settledFace (snapshot : PaymentSnapshot) (state : CaseState) : PaymentFace where
  state := settledState state snapshot.status
  status := some snapshot.status
  amount := some snapshot.amount
  currency := some snapshot.currency
  method := snapshot.method
  errorCode := snapshot.errorCode
  errorDescription := snapshot.errorDescription
  errorSource := snapshot.errorSource
  errorStep := snapshot.errorStep
  errorReason := snapshot.errorReason

/-- The face after a report, which creates a case or does not. -/
def receive (snapshot : PaymentSnapshot) (face : Option PaymentFace) (creates : Bool) :
    Option PaymentFace :=
  match face with
  | some face => some (settledFace snapshot face.state)
  | none => if creates then some (settledFace snapshot .detected) else none

omit [Platform] in
/-- A case that a report has settled stays where it is. -/
theorem settledState_idem (state : CaseState) (status : String) :
    settledState (settledState state status) status = settledState state status := by
  unfold settledState
  by_cases hcaptured : status = "captured"
  · subst hcaptured
    cases state <;> decide
  by_cases hrefunded : status = "refunded"
  · subst hrefunded
    cases state <;> decide
  · simp only [hcaptured, hrefunded, if_false]
    cases state <;> rfl

omit [Platform] in
theorem receive_settled (snapshot : PaymentSnapshot) (state : CaseState) (reports : List Bool) :
    reports.foldl (receive snapshot) (some (settledFace snapshot state)) =
      some (settledFace snapshot state) := by
  induction reports with
  | nil => rfl
  | cons creates reports ih =>
      have hidem : receive snapshot (some (settledFace snapshot state)) creates =
          some (settledFace snapshot state) := by
        simp [receive, settledFace, settledState_idem]
      rw [List.foldl_cons, hidem, ih]

omit [Platform] in
/-- **What a list of reports comes to**: its order and its repetitions do not matter. -/
theorem receive_all (snapshot : PaymentSnapshot) (face : Option PaymentFace)
    (reports : List Bool) : reports.foldl (receive snapshot) face =
      match face with
      | some face => if reports = [] then some face else some (settledFace snapshot face.state)
      | none => if true ∈ reports then some (settledFace snapshot .detected) else none := by
  cases face with
  | some face =>
      cases reports with
      | nil => rfl
      | cons creates reports =>
          rw [List.foldl_cons]
          exact receive_settled snapshot face.state reports
  | none =>
      induction reports with
      | nil => rfl
      | cons creates reports ih =>
          rw [List.foldl_cons]
          cases creates with
          | true =>
              have hmem : true ∈ true :: reports := List.mem_cons_self
              rw [if_pos hmem]
              exact receive_settled snapshot .detected reports
          | false => simpa [receive] using ih

/-! ### One report -/

/-- An event of the payment of a snapshot, and what its transaction takes from outside. -/
structure Report where
  event : WebhookEvent
  fresh : Fresh
  now : Int

/-- The event is a failure or a capture of the payment. -/
structure Report.Of (r : Report) (snapshot : PaymentSnapshot) : Prop where
  payment : r.event.paymentId = some snapshot.id
  type : r.event.eventType = "payment.failed" ∨ r.event.eventType = "payment.captured"

def Report.creates (r : Report) : Bool := r.event.eventType == "payment.failed"

/-- The face of the case with a reference. -/
def Db.faceOf (db : Db) (reference : CaseReference) : Option PaymentFace :=
  (db.caseByReference reference).map PaymentCase.face

/-- The lifecycle of a payment report settles the state and leaves the columns. -/
theorem paymentLifecycle_ok (w : CaseWork) (eventType status : String) (now : Int) :
    ∃ w' reason, paymentLifecycle w eventType status now = .ok (w', reason) ∧
      w'.row.currentState =
        (if status = "captured" then
          if canTransition w.row.currentState .recovered then .recovered else w.row.currentState
        else if status = "refunded" then
          if canTransition w.row.currentState .exhausted then .exhausted else w.row.currentState
        else w.row.currentState) := by
  have hresolve : ∀ state reason, ∃ w', resolveIfAllowed w state reason now = .ok (w', reason) ∧
      w'.row.currentState =
        if canTransition w.row.currentState state then state else w.row.currentState := by
    intro state reason
    obtain ⟨w', hmove, -, hstate⟩ := transitionIfAllowed_ok w state reason
    refine ⟨_, bind_eq_ok.mpr ⟨w', hmove, rfl⟩, ?_⟩
    rw [← hstate]
    show (w'.row.resolveIn state now).currentState = w'.row.currentState
    unfold PaymentCase.resolveIn
    split <;> rfl
  unfold paymentLifecycle
  split
  · obtain ⟨w', hok, hstate⟩ := hresolve .recovered "RECONCILIATION_FOUND_ALREADY_CAPTURED"
    exact ⟨w', _, hok, hstate⟩
  split
  · obtain ⟨w', hok, hstate⟩ := hresolve .exhausted "PAYMENT_REFUNDED"
    exact ⟨w', _, hok, hstate⟩
  · exact ⟨w, _, rfl, rfl⟩

/-- **A report on a locked case never raises**, and settles its face. -/
theorem applyPaymentTruth_ok (w : CaseWork) (event : WebhookEvent) (snapshot : PaymentSnapshot)
    (created : Bool) (now : Int) :
    ∃ w' reason, applyPaymentTruth w event snapshot created now = .ok (w', reason) ∧
      w'.row.id = w.row.id ∧ w'.row.caseReference = w.row.caseReference ∧
      w'.row.face = settledFace snapshot w.row.currentState := by
  obtain ⟨w₁, hmove, -, hstate₁⟩ := moveDetectedCaseToReconciling_ok (initializeCaseAudit w created)
  rw [initializeCaseAudit_row] at hstate₁
  obtain ⟨w₂, reason, hlife, hstate₂⟩ := paymentLifecycle_ok
    { w₁ with row := w₁.row.withPaymentTruth event snapshot now } event.eventType snapshot.status now
  have hok : applyPaymentTruth w event snapshot created now =
      .ok (appendReconciliationAudit w₂ w₁.row.currentState reason, reason) :=
    bind_eq_ok.mpr ⟨w₁, hmove, bind_eq_ok.mpr ⟨(w₂, reason), hlife, rfl⟩⟩
  refine ⟨_, reason, hok, ?_⟩
  obtain ⟨hextends, htruth⟩ := applyPaymentTruth_eq_ok hok
  have hstate : (appendReconciliationAudit w₂ w₁.row.currentState reason).row.currentState =
      settledState w.row.currentState snapshot.status := by
    refine hstate₂.trans ?_
    simp only [PaymentCase.withPaymentTruth, hstate₁]
    rfl
  have hcolumns : ∀ c : PaymentCase, c.face = ⟨c.currentState, c.truth.razorpayPaymentStatus,
      c.truth.amount, c.truth.currency, c.truth.razorpayPaymentMethod, c.truth.errorCode,
      c.truth.errorDescription, c.truth.errorSource, c.truth.errorStep, c.truth.errorReason⟩ :=
    fun _ => rfl
  refine ⟨hextends.id_eq.trans (congrArg PaymentCase.id (initializeCaseAudit_row w created)),
    hextends.reference_eq.trans
      (congrArg PaymentCase.caseReference (initializeCaseAudit_row w created)), ?_⟩
  rw [hcolumns, htruth, hstate]
  rfl

/-- What a report does to the face of its case, whether it creates it or not. -/
theorem reconcilePayment_face {db : Db} {snapshot : PaymentSnapshot} {r : Report}
    {reference : CaseReference} (hof : r.Of snapshot)
    (href : deterministicCaseReference .payment snapshot.id = .ok reference)
    (hfresh : db.caseByReference reference = none → ∀ c ∈ db.cases, c.id ≠ r.fresh.id) :
    ∃ result, reconcilePayment db r.event snapshot r.fresh r.now = .ok result ∧
      result.db.faceOf reference = receive snapshot (db.faceOf reference) r.creates ∧
      (db.caseByReference reference = none → result.db.caseByReference reference = none →
        result.db = db) := by
  have hlock : lockCaseByIdentity db .payment snapshot.id = .ok (db.caseByReference reference) :=
    bind_eq_ok.mpr ⟨reference, href, rfl⟩
  cases hrow : db.caseByReference reference with
  | some row =>
      obtain ⟨hmem, hrowref⟩ := caseByReference_some hrow
      obtain ⟨w, reason, hok, hid, hwref, hface⟩ :=
        applyPaymentTruth_ok (.lock row) r.event snapshot false r.now
      refine ⟨⟨db.commitCase w, some row.id, reason⟩, ?_, ?_, fun h => by cases h⟩
      · unfold reconcilePayment
        simp [hof.payment, requireSome, require, hlock, hrow, hok, bind, Except.bind, pure,
          Except.pure]
      · have hfound : (db.commitCase w).caseByReference reference = some w.row :=
          Table.first?_put hrow hid (by simpa using hwref.trans hrowref)
        simp [Db.faceOf, hfound, hrow, hface, receive]
        rfl
  | none =>
      rcases hof.type with hfailed | hcaptured
      · -- a failure creates the case, in its first state
        have hcreates : r.creates = true := by simp [Report.creates, hfailed]
        generalize hnew : newPaymentCase reference .payment snapshot.id
          ((pyOr r.event.accountId none).getD unknownMerchantId)
          (pyOr snapshot.customerId r.event.customerId) r.fresh.id r.fresh.startedAt = row
        have hrowref : row.caseReference = reference := by rw [← hnew]; rfl
        have hstate : row.currentState = .detected := by rw [← hnew]; rfl
        obtain ⟨cases, hinsert⟩ := Table.exists_insert? (r := row) (t := db.cases)
          (Table.get?_eq_none.mpr (by rw [← hnew]; exact hfresh hrow))
        obtain ⟨w, reason, hok, hid, hwref, hface⟩ :=
          applyPaymentTruth_ok (.lock row) r.event snapshot true r.now
        have hcreate : getOrCreateCase db .payment snapshot.id
            ((pyOr r.event.accountId none).getD unknownMerchantId)
            (pyOr snapshot.customerId r.event.customerId) r.fresh.id r.fresh.startedAt =
            .ok ⟨{ db with cases := cases }, true, row⟩ := by
          unfold getOrCreateCase
          simp [href, hrow, hnew, hinsert, requireSome, bind, Except.bind, pure, Except.pure]
        have hinserted : cases.first? (fun c => c.caseReference == reference) = some row :=
          Table.first?_insert hinsert hrow (by simpa using hrowref)
        have hfound : (({ db with cases := cases } : Db).commitCase w).caseByReference reference =
            some w.row := Table.first?_put hinserted hid (by simpa using hwref.trans hrowref)
        refine ⟨⟨({ db with cases := cases } : Db).commitCase w, some row.id, reason⟩, ?_, ?_,
          fun _ h => ?_⟩
        · unfold reconcilePayment
          simp [hof.payment, requireSome, require, hlock, hrow, hfailed, hcreate, hok, bind,
            Except.bind, pure, Except.pure]
        · replace hface : w.row.face = settledFace snapshot .detected := hstate ▸ hface
          simp [Db.faceOf, hfound, hrow, hface, receive, hcreates]
        · rw [hfound] at h
          cases h
      · -- a capture without a case is left at that
        have hcreates : r.creates = false := by simp [Report.creates, hcaptured]
        refine ⟨⟨db, none, if snapshot.status = "captured" then
          "CAPTURE_CONFIRMED_WITHOUT_RECOVERY_CASE" else "PAYMENT_CAPTURE_SIGNAL_NOT_CONFIRMED"⟩,
          ?_, ?_, fun _ _ => rfl⟩
        · unfold reconcilePayment
          by_cases hstatus : snapshot.status = "captured" <;>
            simp [hof.payment, requireSome, require, hlock, hrow, hcaptured, hstatus, bind,
              Except.bind, pure, Except.pure]
        · simp [Db.faceOf, hrow, receive, hcreates]

/-! ### A list of reports

The transactions are run one after the other, each on the database the one before has
left. The lemma follows the recursion on the list and shows that the face of the case is
the one computed on faces alone.
-/

/-- Process the reports one after another, each with the same snapshot of the provider. -/
def reportPayments (snapshot : PaymentSnapshot) : Db → List Report → Except Error Db
  | db, [] => .ok db
  | db, r :: reports => do
      let result ← reconcilePayment db r.event snapshot r.fresh r.now
      reportPayments snapshot result.db reports

/-- **The code comes to what its faces come to.** -/
theorem reportPayments_face {snapshot : PaymentSnapshot} {reference : CaseReference}
    (href : deterministicCaseReference .payment snapshot.id = .ok reference) :
    ∀ {reports : List Report} {db : Db}, (∀ r ∈ reports, r.Of snapshot) →
      (db.caseByReference reference = none → ∀ r ∈ reports, ∀ c ∈ db.cases, c.id ≠ r.fresh.id) →
      ∃ db', reportPayments snapshot db reports = .ok db' ∧ db'.faceOf reference =
        (reports.map Report.creates).foldl (receive snapshot) (db.faceOf reference) := by
  intro reports
  induction reports with
  | nil =>
      intro db _ _
      exact ⟨db, rfl, rfl⟩
  | cons r reports ih =>
      intro db hof hfresh
      obtain ⟨result, hok, hface, hsame⟩ := reconcilePayment_face (hof r List.mem_cons_self) href
        fun hnone => hfresh hnone r List.mem_cons_self
      -- while there is no case, nothing has been written, so the free ids stay free
      have hfresh' : result.db.caseByReference reference = none →
          ∀ r ∈ reports, ∀ c ∈ result.db.cases, c.id ≠ r.fresh.id := by
        intro hnone r' hr' c hc
        cases hrow : db.caseByReference reference with
        | none =>
            rw [hsame hrow hnone] at hc
            exact hfresh hrow r' (List.mem_cons_of_mem _ hr') c hc
        | some row =>
            have hnone' : result.db.faceOf reference = none := by simp [Db.faceOf, hnone]
            rw [hface] at hnone'
            simp [Db.faceOf, hrow, receive] at hnone'
      obtain ⟨db', hok', hface'⟩ :=
        ih (fun r' hr' => hof r' (List.mem_cons_of_mem _ hr')) hfresh'
      refine ⟨db', bind_eq_ok.mpr ⟨result, hok, hok'⟩, ?_⟩
      rw [hface', hface, List.map_cons, List.foldl_cons]

/--
**Reports are order independent.**  Two lists of failures and captures of one payment
that hold the same events, in whatever order and however often, leave the same case:
there is one exactly when there was one before or the lists hold a failure, and it shows
the same state and the same columns.
-/
theorem reports_order_independent {db : Db} {snapshot : PaymentSnapshot}
    {reference : CaseReference} {reports reports' : List Report}
    (href : deterministicCaseReference .payment snapshot.id = .ok reference)
    (hof : ∀ r ∈ reports, r.Of snapshot) (hof' : ∀ r ∈ reports', r.Of snapshot)
    (hfresh : ∀ r ∈ reports ++ reports', ∀ c ∈ db.cases, c.id ≠ r.fresh.id)
    (hsame : ∀ event, event ∈ reports.map Report.event ↔ event ∈ reports'.map Report.event) :
    ∃ db₁ db₂, reportPayments snapshot db reports = .ok db₁ ∧
      reportPayments snapshot db reports' = .ok db₂ ∧
      db₁.faceOf reference = db₂.faceOf reference ∧
      ((db₁.caseByReference reference).isSome ↔ (db.caseByReference reference).isSome ∨
        ∃ r ∈ reports, r.event.eventType = "payment.failed") := by
  obtain ⟨db₁, hok₁, hface₁⟩ := reportPayments_face href hof
    fun _ r hr => hfresh r (List.mem_append_left _ hr)
  obtain ⟨db₂, hok₂, hface₂⟩ := reportPayments_face href hof'
    fun _ r hr => hfresh r (List.mem_append_right _ hr)
  rw [receive_all] at hface₁ hface₂
  have hempty : reports.map Report.creates = [] ↔ reports'.map Report.creates = [] := by
    have hnil : ∀ rs : List Report, rs.map Report.creates = [] ↔
        ∀ event, event ∉ rs.map Report.event := by
      intro rs
      rw [List.map_eq_nil_iff, ← List.eq_nil_iff_forall_not_mem, List.map_eq_nil_iff]
    rw [hnil, hnil]
    exact forall_congr' fun event => not_congr (hsame event)
  have hcreates : ∀ rs : List Report, true ∈ rs.map Report.creates ↔
      ∃ event ∈ rs.map Report.event, event.eventType = "payment.failed" := by
    intro rs
    simp [Report.creates]
  have hfailed : true ∈ reports.map Report.creates ↔ true ∈ reports'.map Report.creates := by
    rw [hcreates, hcreates]
    exact exists_congr fun event => and_congr_left fun _ => hsame event
  refine ⟨db₁, db₂, hok₁, hok₂, ?_, ?_⟩
  · rw [hface₁, hface₂]
    simp only [hempty, hfailed]
  · have hsome : (db₁.caseByReference reference).isSome = (db₁.faceOf reference).isSome := by
      simp [Db.faceOf]
    have hbefore : (db.caseByReference reference).isSome = (db.faceOf reference).isSome := by
      simp [Db.faceOf]
    have hlisted : (∃ r ∈ reports, r.event.eventType = "payment.failed") ↔
        true ∈ reports.map Report.creates := by
      simp [Report.creates]
    rw [hsome, hbefore, hlisted]
    cases hface : db.faceOf reference with
    | some face =>
        simp only [hface] at hface₁
        rw [hface₁]
        split <;> simp
    | none =>
        simp only [hface] at hface₁
        rw [hface₁]
        split <;> simp_all

end Arc

namespace Arc

attribute [local instance] asciiPlatform

def sampleReport (id : Uuid) (eventType : String) : Report where
  event :=
    { id := id
      razorpayEventId := eventType
      eventType := eventType
      accountId := some "acc"
      paymentId := some samplePayment.id
      subscriptionId := none
      customerId := none
      rawPayload := samplePayload
      rawBodySha256 := none }
  fresh := ⟨10 + id, 0⟩
  now := id

def capturedPayment : PaymentSnapshot := { samplePayment with status := "captured" }

/-- A capture and a failure, in both orders, of a payment the provider shows captured. -/
theorem reports_order_independent_sample : ∃ db₁ db₂,
    reportPayments capturedPayment Db.empty
      [sampleReport 1 "payment.captured", sampleReport 2 "payment.failed"] = .ok db₁ ∧
    reportPayments capturedPayment Db.empty [sampleReport 2 "payment.failed",
      sampleReport 1 "payment.captured", sampleReport 2 "payment.failed"] = .ok db₂ ∧
    db₁.faceOf ⟨.payment, .str "payment:pay_1"⟩ = db₂.faceOf ⟨.payment, .str "payment:pay_1"⟩ := by
  have hcaptured : (sampleReport 1 "payment.captured").Of capturedPayment := ⟨rfl, .inr rfl⟩
  have hfailed : (sampleReport 2 "payment.failed").Of capturedPayment := ⟨rfl, .inl rfl⟩
  have href : deterministicCaseReference .payment capturedPayment.id =
      .ok ⟨.payment, .str "payment:pay_1"⟩ := rfl
  have hof : ∀ r ∈ [sampleReport 1 "payment.captured", sampleReport 2 "payment.failed"],
      r.Of capturedPayment := by simp [hcaptured, hfailed]
  have hof' : ∀ r ∈ [sampleReport 2 "payment.failed", sampleReport 1 "payment.captured",
      sampleReport 2 "payment.failed"], r.Of capturedPayment := by simp [hcaptured, hfailed]
  have hfresh : ∀ r ∈ [sampleReport 1 "payment.captured", sampleReport 2 "payment.failed"] ++
      [sampleReport 2 "payment.failed", sampleReport 1 "payment.captured",
        sampleReport 2 "payment.failed"], ∀ c ∈ Db.empty.cases, c.id ≠ r.fresh.id :=
    fun _ _ c hc => absurd hc (Store.Table.not_mem_empty c)
  obtain ⟨db₁, db₂, hok₁, hok₂, hface, -⟩ := reports_order_independent href hof hof' hfresh
    fun event => by
      simp only [List.map_cons, List.map_nil, List.mem_cons, List.not_mem_nil, or_false]
      tauto
  exact ⟨db₁, db₂, hok₁, hok₂, hface⟩

end Arc
