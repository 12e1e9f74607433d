/-
The ledger under concurrent deliveries.

An event id has at most one row.  The row is the one some delivery has committed, every
delivery that was accepted under the id is that delivery, and a delivery that comes later
leaves every row as it is.  It is compared with the row unless its body has a surrogate.
The insert of an event id excludes every other one until it ends, and it starts only where
no row has the id; that is all the invariant rests on.

The ingress refines the deployment of the other modules: the commit of an insert is its
step `ingest`, and no other step of a request changes the database.
-/
import Arc.Api.Ingress
import Arc.Proofs.Ingestion
import Arc.Proofs.Webhook
import Arc.Store.Column

namespace Arc

open Store

/-! ### Rows as they were delivered

Processing writes into the rows of the ledger as well. `delivered` forgets what it
writes, so that the steps of the processor, and of everything else in the deployment,
leave the ledger as it was delivered.
-/

section

variable [Platform]

/-- A row as it was delivered, without what processing has written into it. -/
def WebhookEvent.delivered (e : WebhookEvent) : WebhookEvent :=
  { e with
    processingStatus := .received
    processingStartedAt := none
    processingAttemptCount := 0
    processedAt := none
    processingError := none }

/-- **No step of the deployment but a delivery adds a row or changes what was delivered.** -/
theorem Commit.delivered {s : System} {l : Label} {db' : Db} (h : Commit s l db')
    (hl : ∀ payload eventId digest newId, l ≠ .service (.ingest payload eventId digest newId)) :
    db'.webhookEvents.rows.map WebhookEvent.delivered =
      s.db.webhookEvents.rows.map WebhookEvent.delivered := by
  cases h with
  | executed h => rw [h.frame]
  | ingested hinsert hstatus hattempt => exact absurd rfl (hl _ _ _ _)
  | unsupported hphase hstored hunsupported =>
      exact Table.map_put (Table.mem_of_get? hstored) rfl rfl
  | eventClaimed hphase hstored hclaim => exact Table.map_put (Table.mem_of_get? hstored) rfl rfl
  | eventFinished hphase howns hstatus => exact Table.map_put (Table.mem_of_get? howns.stored) rfl rfl
  | eventFailed hphase howns => exact Table.map_put (Table.mem_of_get? howns.stored) rfl rfl
  | reconciled hphase howns hstatus hresult =>
      have hframe := congrArg Db.webhookEvents (reconcileEntity_frame hresult)
      simp only at hframe
      rw [hframe]
      exact Table.map_put (Table.mem_of_get? howns.stored) rfl rfl
  | _ => rfl

/-- What has been delivered once is still there. -/
def KeepsRows (ledger ledger' : Table WebhookEvent) : Prop :=
  ∀ row ∈ ledger, ∃ row' ∈ ledger', row'.delivered = row.delivered

theorem KeepsRows.refl (ledger : Table WebhookEvent) : KeepsRows ledger ledger :=
  fun row hrow => ⟨row, hrow, rfl⟩

theorem KeepsRows.of_map {ledger ledger' : Table WebhookEvent}
    (h : ledger'.rows.map WebhookEvent.delivered = ledger.rows.map WebhookEvent.delivered) :
    KeepsRows ledger ledger' := by
  intro row hrow
  have hmem : row.delivered ∈ ledger'.rows.map WebhookEvent.delivered := by
    rw [h]
    exact List.mem_map_of_mem hrow
  obtain ⟨row', hrow', hdelivered⟩ := List.mem_map.mp hmem
  exact ⟨row', hrow', hdelivered⟩

theorem KeepsRows.of_insert {ledger ledger' : Table WebhookEvent} {event : WebhookEvent}
    (h : ledger.insert? event = some ledger') : KeepsRows ledger ledger' :=
  fun row hrow => ⟨row, (Table.insert?_mem h).mpr (.inl hrow), rfl⟩

theorem KeepsRows.trans {a b c : Table WebhookEvent} (h : KeepsRows a b) (h' : KeepsRows b c) : KeepsRows a c := by
  intro row hrow
  obtain ⟨row', hrow', heq⟩ := h row hrow
  obtain ⟨row'', hrow'', heq'⟩ := h' row' hrow'
  exact ⟨row'', hrow'', heq'.trans heq⟩

theorem id_of_delivered {e e' : WebhookEvent} (h : e'.delivered = e.delivered) : e'.id = e.id := by
  have hcolumn := congrArg WebhookEvent.id h
  exact hcolumn

theorem razorpayEventId_of_delivered {e e' : WebhookEvent} (h : e'.delivered = e.delivered) :
    e'.razorpayEventId = e.razorpayEventId := by
  have hcolumn := congrArg WebhookEvent.razorpayEventId h
  exact hcolumn

theorem rawBodySha256_of_delivered {e e' : WebhookEvent} (h : e'.delivered = e.delivered) :
    e'.rawBodySha256 = e.rawBodySha256 := by
  have hcolumn := congrArg WebhookEvent.rawBodySha256 h
  exact hcolumn

theorem eventByRazorpayId_eq_none {db : Db} {eventId : String} :
    db.eventByRazorpayId eventId = none ↔ ∀ row ∈ db.webhookEvents, row.razorpayEventId ≠ eventId := by
  rw [Db.eventByRazorpayId, Table.first?_eq_none]
  simp

theorem eventByRazorpayId_mem {db : Db} {eventId : String} {row : WebhookEvent}
    (h : db.eventByRazorpayId eventId = some row) :
    row ∈ db.webhookEvents ∧ row.razorpayEventId = eventId := by
  obtain ⟨hrow, hid⟩ := Table.first?_mem h
  exact ⟨hrow, by simpa using hid⟩

theorem eventByRazorpayId_congr {db db' : Db} (h : db'.webhookEvents = db.webhookEvents)
    {eventId : String} : db'.eventByRazorpayId eventId = db.eventByRazorpayId eventId := by
  rw [Db.eventByRazorpayId, h]
  rfl

/-- Distinct event ids stay distinct. -/
theorem unique_of_keeps {ledger ledger' : Table WebhookEvent} (h : KeepsRows ledger' ledger)
    (hunique : ledger.UniqueColumn WebhookEvent.razorpayEventId) :
    ledger'.UniqueColumn WebhookEvent.razorpayEventId := by
  intro row hrow row' hrow' heq
  obtain ⟨x, hx, hxrow⟩ := h row hrow
  obtain ⟨x', hx', hxrow'⟩ := h row' hrow'
  have hxx : x = x' := hunique x hx x' hx' <|
    (razorpayEventId_of_delivered hxrow).trans (heq.trans (razorpayEventId_of_delivered hxrow').symm)
  subst hxx
  exact Table.eq_of_key_eq hrow hrow' (id_of_delivered (hxrow.symm.trans hxrow'))

end

variable [Platform] [Wire]

/-! ### What a request can do -/

/-- The steps of one request. -/
inductive DeliveryStep (s : Ingress) : DeliveryPhase → DeliveryLabel → DeliveryMove → Prop
  | received {phase : DeliveryPhase} {settings : WebhookSettings} {request : WebhookRequest}
      (hphase : phase.checked? = none) :
      DeliveryStep s phase (.receive settings request)
        ⟨s.ledger, s.locked, s.accepted, receiveWebhook settings request⟩
  | inserted {checked : CheckedRequest} {newId : Uuid}
      (hnone : s.system.db.eventByRazorpayId checked.eventId = none)
      (hfree : checked.eventId ∉ s.locked) :
      DeliveryStep s (.recording checked) (.insert newId)
        ⟨s.ledger, checked.eventId :: s.locked, s.accepted, .inserted checked newId⟩
  | conflicted {checked : CheckedRequest} {newId : Uuid} {stored : WebhookEvent}
      (hstored : s.system.db.eventByRazorpayId checked.eventId = some stored) :
      DeliveryStep s (.recording checked) (.insert newId)
        ⟨s.ledger, s.locked, s.accepted, .conflicted checked⟩
  | mismatched {checked : CheckedRequest} {stored : WebhookEvent}
      (hstored : s.system.db.eventByRazorpayId checked.eventId = some stored)
      (hmismatch : checked.mismatch stored = true) :
      DeliveryStep s (.conflicted checked) .select
        (s.ends (.conflicted checked) (.answered (.rejected integrityConflict)))
  | matched {checked : CheckedRequest} {stored : WebhookEvent}
      (hstored : s.system.db.eventByRazorpayId checked.eventId = some stored)
      (hmatch : checked.mismatch stored = false) :
      DeliveryStep s (.conflicted checked) .select
        ⟨s.ledger, s.locked, s.accepted, .matched checked⟩
  | stored {checked : CheckedRequest} {newId : Uuid} {ledger : Table WebhookEvent}
      (hinsert : s.ledger.insert? (checked.event newId) = some ledger) :
      DeliveryStep s (.inserted checked newId) (.commit .done)
        ⟨ledger, s.unlocked (.inserted checked newId), s.accepted ++ [checked],
          .answered (.accepted false checked.eventId)⟩
  | storedUnseen {checked : CheckedRequest} {newId : Uuid} {ledger : Table WebhookEvent}
      (hinsert : s.ledger.insert? (checked.event newId) = some ledger) :
      DeliveryStep s (.inserted checked newId) (.commit (.raised true))
        ⟨ledger, s.unlocked (.inserted checked newId), s.accepted,
          .answered (.rejected persistenceUnavailable)⟩
  | duplicate {checked : CheckedRequest} :
      DeliveryStep s (.matched checked) (.commit .done)
        ⟨s.ledger, s.locked, s.accepted ++ [checked],
          .answered (.accepted true checked.eventId)⟩
  /-- The database has raised, an id was taken, or a row has gone. -/
  | unavailable {phase : DeliveryPhase} {checked : CheckedRequest} {l : DeliveryLabel}
      (hphase : phase.checked? = some checked)
      (hcause : l.fails = true ∨
        (∃ newId answer, l = .commit answer ∧ phase = .inserted checked newId ∧
          s.ledger.insert? (checked.event newId) = none) ∨
        (l = .select ∧ phase = .conflicted checked ∧
          s.system.db.eventByRazorpayId checked.eventId = none)) :
      DeliveryStep s phase l (s.ends phase (.answered (.rejected persistenceUnavailable)))
  | crashed {phase : DeliveryPhase} : DeliveryStep s phase .crash (s.ends phase .idle)

theorem deliveryStep_cases {s : Ingress} {phase : DeliveryPhase} {l : DeliveryLabel}
    {m : DeliveryMove} (h : deliveryStep s phase l = some m) : DeliveryStep s phase l m := by
  unfold deliveryStep at h
  split at h
  · cases h
    exact .received rfl
  · cases h
    exact .received rfl
  · split at h
    · rename_i stored hstored
      cases h
      exact .conflicted hstored
    · rename_i hnone
      split at h
      · cases h
      · rename_i hfree
        cases h
        exact .inserted hnone hfree
  · split at h
    · rename_i stored hstored
      split at h
      · rename_i hmismatch
        cases h
        exact .mismatched hstored hmismatch
      · rename_i hmatch
        cases h
        exact .matched hstored (by simpa using hmatch)
    · rename_i hnone
      cases h
      exact .unavailable rfl (.inr (.inr ⟨rfl, rfl, hnone⟩))
  · split at h
    · rename_i hinsert
      cases h
      exact .stored hinsert
    · rename_i hinsert
      cases h
      exact .storedUnseen hinsert
    · cases h
      exact .unavailable rfl (.inl rfl)
    · rename_i hinsert
      cases h
      exact .unavailable rfl (.inr (.inl ⟨_, _, rfl, rfl, hinsert⟩))
  · cases h
    exact .duplicate
  · cases h
    exact .unavailable rfl (.inl rfl)
  · cases h
    exact .unavailable rfl (.inl rfl)
  · cases h
    exact .unavailable rfl (.inl rfl)
  · cases h
    exact .unavailable rfl (.inl rfl)
  · cases h
    exact .crashed
  · cases h

/-- The rows a step of a request leaves: those that were there, or one more. -/
theorem DeliveryStep.ledger {s : Ingress} {phase : DeliveryPhase} {l : DeliveryLabel}
    {m : DeliveryMove} (h : DeliveryStep s phase l m) :
    m.ledger = s.ledger ∨ ∃ checked newId, phase = .inserted checked newId ∧
      s.ledger.insert? (checked.event newId) = some m.ledger ∧
      m.locked = s.unlocked phase := by
  cases h with
  | stored hinsert => exact .inr ⟨_, _, rfl, hinsert, rfl⟩
  | storedUnseen hinsert => exact .inr ⟨_, _, rfl, hinsert, rfl⟩
  | _ => exact .inl rfl

/-! ### Deliveries

A delivery that has passed the checks is known by its bytes and its event id. Everything
it writes is computed from them, so two deliveries with the same bytes write the same
row, and a digest without collisions tells others apart.
-/

/-- A delivery that some request has brought past the checks. -/
def Ready (checked : CheckedRequest) : Prop :=
  ∃ settings request, checkRequest settings request = .ok checked ∧ checked.payload.Scalar

/-- The bytes and the event id of a delivery say everything it writes. -/
theorem Ready.unique {c c' : CheckedRequest} (h : Ready c) (h' : Ready c')
    (hbody : c.rawBody = c'.rawBody) (hid : c.eventId = c'.eventId) : c = c' := by
  obtain ⟨settings, request, hchecked, -⟩ := h
  obtain ⟨settings', request', hchecked', -⟩ := h'
  obtain ⟨hrequest, hadmitted, hnormalized⟩ := checkRequest_ok hchecked
  obtain ⟨hrequest', hadmitted', hnormalized'⟩ := checkRequest_ok hchecked'
  have hpayload : c.payload = c'.payload := by
    have hloads := hadmitted.body
    rw [← hrequest, hbody, hrequest', hadmitted'.body] at hloads
    exact (Except.ok.inj hloads).symm
  rw [hpayload, hnormalized'] at hnormalized
  obtain ⟨rawBody, eventId, payload, normalized⟩ := c
  simp only at hbody hid hpayload hnormalized
  rw [hbody, hid, hpayload, ← Except.ok.inj hnormalized]

/-- A row is the one a delivery writes, up to what processing has written since. -/
def WebhookEvent.Delivers (row : WebhookEvent) (checked : CheckedRequest) : Prop :=
  row.delivered = (checked.event row.id).delivered

theorem WebhookEvent.Delivers.eventId_eq {row : WebhookEvent} {checked : CheckedRequest}
    (h : row.Delivers checked) : row.razorpayEventId = checked.eventId :=
  razorpayEventId_of_delivered h

theorem WebhookEvent.Delivers.digest_eq {row : WebhookEvent} {checked : CheckedRequest}
    (h : row.Delivers checked) : row.rawBodySha256 = some checked.rawBodyDigest :=
  rawBodySha256_of_delivered h

theorem WebhookEvent.Delivers.payload_eq {row : WebhookEvent} {checked : CheckedRequest}
    (h : row.Delivers checked) : row.rawPayload = storedJson checked.payload := by
  have hcolumn := congrArg WebhookEvent.rawPayload h
  exact hcolumn

theorem WebhookEvent.Delivers.mono {row row' : WebhookEvent} {checked : CheckedRequest}
    (h : row.Delivers checked) (heq : row'.delivered = row.delivered) : row'.Delivers checked := by
  unfold WebhookEvent.Delivers
  rw [heq, id_of_delivered heq]
  exact h

/-- A row has the bytes of one delivery only. -/
theorem WebhookEvent.Delivers.rawBody_eq (hsha : Function.Injective Wire.sha256)
    {row : WebhookEvent} {c c' : CheckedRequest} (h : row.Delivers c) (h' : row.Delivers c') :
    c.rawBody = c'.rawBody := by
  have hdigest := h.digest_eq
  rw [h'.digest_eq, Option.some.injEq] at hdigest
  exact (hsha hdigest).symm

/-- A delivery whose event id is free is recorded as the step `ingest` records it. -/
theorem ingestWebhook_ready {db : Db} {checked : CheckedRequest} {newId : Uuid}
    {ledger : Table WebhookEvent} (hready : Ready checked)
    (hnone : db.eventByRazorpayId checked.eventId = none)
    (hinsert : db.webhookEvents.insert? (checked.event newId) = some ledger) :
    ingestWebhook db (storedJson checked.payload) checked.eventId checked.rawBodyDigest newId =
      .ok { db with webhookEvents := ledger } := by
  obtain ⟨settings, request, hchecked, -⟩ := hready
  obtain ⟨-, hadmitted, hnormalized⟩ := checkRequest_ok hchecked
  have hrecorded : recordEventOnce db (checked.event newId) =
      .ok ⟨{ db with webhookEvents := ledger }, true, false⟩ := by
    have hnone' : db.eventByRazorpayId (checked.event newId).razorpayEventId = none := hnone
    simp only [recordEventOnce, hnone', hinsert, requireSome, bind, Except.bind, pure, Except.pure]
  refine bind_eq_ok.mpr ⟨(), require_eq_ok.mpr ⟨hadmitted.event_ne, hadmitted.event_le⟩, ?_⟩
  refine bind_eq_ok.mpr ⟨checked.normalized, mapError_eq_ok.mpr hnormalized, ?_⟩
  unfold CheckedRequest.event at hrecorded
  dsimp only at hrecorded ⊢
  rw [hrecorded]
  rfl

/-! ### What the route answers -/

section

variable {settings : WebhookSettings} {request : WebhookRequest} {checked : CheckedRequest}

/-- A delivery without surrogates is taken up. -/
theorem receive_scalar (hchecked : checkRequest settings request = .ok checked)
    (hscalar : checked.payload.Scalar) : receiveWebhook settings request = .recording checked := by
  obtain ⟨digest, hdigest⟩ := (checkRequest_ok hchecked).2.1.hashPayload_scalar hscalar
  simp only [receiveWebhook, hchecked, hdigest]

/-- A delivery with a surrogate ends before the database is asked anything. -/
theorem receive_surrogate (hchecked : checkRequest settings request = .ok checked)
    (hscalar : ¬ checked.payload.Scalar) :
    receiveWebhook settings request = .answered (.raised .unicodeEncodeError) := by
  have hraises := (checkRequest_ok hchecked).2.1.hashPayload_surrogate hscalar
  simp only [receiveWebhook, hchecked, hraises]

/-- A request that has been received goes on as the route does. -/
theorem receive_cases (settings : WebhookSettings) (request : WebhookRequest) :
    (∃ checked, receiveWebhook settings request = .recording checked ∧
        checkRequest settings request = .ok checked ∧ checked.payload.Scalar) ∨
      ∃ routeEnd, receiveWebhook settings request = .answered routeEnd ∧
        ∀ answers, ingestRazorpayWebhook settings request answers = routeEnd := by
  cases hchecked : checkRequest settings request with
  | error routeEnd =>
      refine .inr ⟨routeEnd, ?_, fun answers => ?_⟩
      · simp only [receiveWebhook, hchecked]
      · simp only [ingestRazorpayWebhook, hchecked]
  | ok checked =>
      by_cases hscalar : checked.payload.Scalar
      · exact .inl ⟨checked, receive_scalar hchecked hscalar, rfl, hscalar⟩
      · exact .inr ⟨.raised .unicodeEncodeError, receive_surrogate hchecked hscalar,
          route_raises hchecked hscalar⟩

/-- The answers of the database with which a request is recorded and found as given. -/
theorem recordDelivery_answers (hchecked : checkRequest settings request = .ok checked)
    (hscalar : checked.payload.Scalar)
    (insert : Except SqlError (Option Uuid)) (row : WebhookEvent) (commit : Except SqlError Unit) :
    recordDelivery ⟨insert, .ok (some row), .ok (some row), commit⟩ checked =
      match insert with
      | .error e => .error (.database e)
      | .ok (some _) => .ok ⟨false, false, row⟩
      | .ok none => .ok ⟨true, checked.mismatch row, row⟩ := by
  obtain ⟨digest, hdigest⟩ := (checkRequest_ok hchecked).2.1.hashPayload_scalar hscalar
  rw [recordDelivery, hdigest]
  rcases insert with error | (_ | id) <;> rfl

/-- An end of the route for a delivery, over some answers of the database. -/
def RouteGives (checked : CheckedRequest) (routeEnd : RouteEnd) : Prop :=
  ∃ settings request answers, checkRequest settings request = .ok checked ∧
    ingestRazorpayWebhook settings request answers = routeEnd

theorem Ready.unavailable (h : Ready checked) :
    RouteGives checked (.rejected persistenceUnavailable) := by
  obtain ⟨settings, request, hchecked, hscalar⟩ := h
  refine ⟨settings, request, ⟨.error .sqlAlchemyError, .ok (some (checked.event 0)),
    .ok (some (checked.event 0)), .ok ()⟩, hchecked, ?_⟩
  simp only [ingestRazorpayWebhook, hchecked, recordDelivery_answers hchecked hscalar]

theorem Ready.stored (h : Ready checked) (newId : Uuid) :
    RouteGives checked (.accepted false checked.eventId) := by
  obtain ⟨settings, request, hchecked, hscalar⟩ := h
  refine ⟨settings, request, ⟨.ok (some newId), .ok (some (checked.event newId)),
    .ok (some (checked.event newId)), .ok ()⟩, hchecked, ?_⟩
  simp only [ingestRazorpayWebhook, hchecked, recordDelivery_answers hchecked hscalar, Bool.false_eq_true,
    if_false]

theorem Ready.compared (h : Ready checked) (row : WebhookEvent) :
    RouteGives checked (if checked.mismatch row then .rejected integrityConflict
      else .accepted true checked.eventId) := by
  obtain ⟨settings, request, hchecked, hscalar⟩ := h
  refine ⟨settings, request, ⟨.ok none, .ok (some row), .ok (some row), .ok ()⟩, hchecked, ?_⟩
  simp only [ingestRazorpayWebhook, hchecked, recordDelivery_answers hchecked hscalar]

end

/-! ### The invariant

Between two of its statements a request relies on what it has found: that no row has its
event id while it holds the lock of its insert, or that the row it has read is still the
one. `Ingress.Ok` says that for all requests at once.
-/

/-- What a request between two statements relies on. -/
def DeliveryPhase.Ok (ledger : Table WebhookEvent) : DeliveryPhase → Prop
  | .idle => True
  | .recording checked | .inserted checked _ | .conflicted checked => Ready checked
  | .matched checked => Ready checked ∧ ∃ row ∈ ledger, row.Delivers checked
  | .answered routeEnd => ∃ settings request answers,
      ingestRazorpayWebhook settings request answers = routeEnd

structure Ingress.Ok (s : Ingress) : Prop where
  /-- An event id has at most one row. -/
  unique : s.ledger.UniqueColumn WebhookEvent.razorpayEventId
  /-- Every row is one that some delivery has written. -/
  backed : ∀ row ∈ s.ledger, ∃ checked, Ready checked ∧ row.Delivers checked
  accepted : ∀ checked ∈ s.accepted, Ready checked ∧ ∃ row ∈ s.ledger, row.Delivers checked
  phases : ∀ worker, (s.deliveries worker).Ok s.ledger
  locked : ∀ worker eventId, (s.deliveries worker).lock? = some eventId → eventId ∈ s.locked
  /-- Two requests never have an uncommitted row of one event id. -/
  exclusive : ∀ worker worker' eventId, (s.deliveries worker).lock? = some eventId →
    (s.deliveries worker').lock? = some eventId → worker = worker'
  /-- A locked event id has no committed row. -/
  free : ∀ eventId ∈ s.locked, ∀ row ∈ s.ledger, row.razorpayEventId ≠ eventId

theorem Ingress.initial_ok (clock : Int) : (Ingress.initial clock).Ok where
  unique := Table.uniqueColumn_empty
  backed row hrow := absurd hrow (Table.not_mem_empty row)
  accepted _ h := nomatch h
  phases _ := trivial
  locked _ _ h := nomatch h
  exclusive _ _ _ h := nomatch h
  free _ h := nomatch h

theorem KeepsRows.delivers {ledger ledger' : Table WebhookEvent} (h : KeepsRows ledger ledger')
    {checked : CheckedRequest} (hrow : ∃ row ∈ ledger, row.Delivers checked) :
    ∃ row ∈ ledger', row.Delivers checked := by
  obtain ⟨row, hrow, hdelivers⟩ := hrow
  obtain ⟨row', hrow', heq⟩ := h row hrow
  exact ⟨row', hrow', hdelivers.mono heq⟩

theorem DeliveryPhase.Ok.mono {ledger ledger' : Table WebhookEvent} {phase : DeliveryPhase}
    (h : phase.Ok ledger) (hkeeps : KeepsRows ledger ledger') : phase.Ok ledger' := by
  cases phase with
  | matched checked => exact ⟨h.1, hkeeps.delivers h.2⟩
  | _ => exact h

theorem DeliveryPhase.Ok.ready {ledger : Table WebhookEvent} {phase : DeliveryPhase}
    (h : phase.Ok ledger) {checked : CheckedRequest} (hphase : phase.checked? = some checked) :
    Ready checked := by
  cases phase with
  | recording | inserted | conflicted =>
      cases hphase
      exact h
  | matched =>
      cases hphase
      exact h.1
  | idle | answered => cases hphase

/-! ### One step of a request -/

section

variable {s : Ingress} {worker : Nat} {phase : DeliveryPhase} {l : DeliveryLabel} {m : DeliveryMove}

theorem DeliveryStep.keeps (h : DeliveryStep s phase l m) : KeepsRows s.ledger m.ledger := by
  obtain heq | ⟨checked, newId, -, hinsert, -⟩ := h.ledger
  · rw [heq]
    exact .refl _
  · exact .of_insert hinsert

/-- A lock is given up with its transaction, and taken only where it is free. -/
theorem DeliveryStep.lock (h : DeliveryStep s phase l m) :
    (m.phase.lock? = none ∧ m.locked = s.unlocked phase) ∨
      ∃ eventId, m.phase.lock? = some eventId ∧ eventId ∉ s.locked ∧
        m.locked = eventId :: s.locked ∧ s.system.db.eventByRazorpayId eventId = none := by
  have hnone : ∀ phase : DeliveryPhase, phase.lock? = none → s.unlocked phase = s.locked := by
    intro phase hlock
    simp [Ingress.unlocked, hlock]
  cases h with
  | @received phase settings request hphase =>
      have hlock : phase.lock? = none := by cases phase <;> first | rfl | cases hphase
      refine .inl ⟨?_, (hnone phase hlock).symm⟩
      obtain ⟨checked, hreceive, -⟩ | ⟨routeEnd, hreceive, -⟩ := receive_cases settings request
      · rw [hreceive]
        rfl
      · rw [hreceive]
        rfl
  | inserted hfree hlocked => exact .inr ⟨_, rfl, hlocked, rfl, hfree⟩
  | conflicted hstored => exact .inl ⟨rfl, (hnone _ rfl).symm⟩
  | matched hstored hmatch => exact .inl ⟨rfl, (hnone _ rfl).symm⟩
  | duplicate => exact .inl ⟨rfl, (hnone _ rfl).symm⟩
  | mismatched | stored | storedUnseen | unavailable | crashed => exact .inl ⟨rfl, rfl⟩

/-- The insert of a request that holds its lock is into a ledger without its event id. -/
theorem Ingress.Ok.fresh (hok : s.Ok) {checked : CheckedRequest} {newId : Uuid}
    (hphase : s.deliveries worker = .inserted checked newId) :
    ∀ row ∈ s.ledger, row.razorpayEventId ≠ checked.eventId :=
  hok.free _ (hok.locked worker _ (by rw [hphase]; rfl))

theorem DeliveryStep.unique (h : DeliveryStep s phase l m) (hok : s.Ok)
    (hphase : s.deliveries worker = phase) :
    m.ledger.UniqueColumn WebhookEvent.razorpayEventId := by
  obtain heq | ⟨checked, newId, rfl, hinsert, -⟩ := h.ledger
  · rw [heq]
    exact hok.unique
  · exact hok.unique.insert hinsert (hok.fresh hphase)

theorem DeliveryStep.backed (h : DeliveryStep s phase l m) (hok : s.Ok)
    (hphase : s.deliveries worker = phase) :
    ∀ row ∈ m.ledger, ∃ checked, Ready checked ∧ row.Delivers checked := by
  intro row hrow
  obtain heq | ⟨checked, newId, rfl, hinsert, -⟩ := h.ledger
  · rw [heq] at hrow
    exact hok.backed row hrow
  · rcases (Table.insert?_mem hinsert).mp hrow with hrow | rfl
    · exact hok.backed row hrow
    · have hready := hok.phases worker
      rw [hphase] at hready
      exact ⟨checked, hready, rfl⟩

theorem DeliveryStep.accepted (h : DeliveryStep s phase l m) (hok : s.Ok)
    (hphase : s.deliveries worker = phase) :
    ∀ checked ∈ m.accepted, Ready checked ∧ ∃ row ∈ m.ledger, row.Delivers checked := by
  have hkept : ∀ checked ∈ s.accepted, Ready checked ∧ ∃ row ∈ m.ledger, row.Delivers checked :=
    fun checked hc => ⟨(hok.accepted checked hc).1, h.keeps.delivers (hok.accepted checked hc).2⟩
  have hready := hok.phases worker
  rw [hphase] at hready
  cases h with
  | stored hinsert =>
      intro checked hc
      rcases List.mem_append.mp hc with hc | hc
      · exact hkept checked hc
      · rw [List.mem_singleton] at hc
        subst hc
        exact ⟨hready, _, (Table.insert?_mem hinsert).mpr (.inr rfl), rfl⟩
  | duplicate =>
      intro checked hc
      rcases List.mem_append.mp hc with hc | hc
      · exact hkept checked hc
      · rw [List.mem_singleton] at hc
        subst hc
        exact hready
  | _ => exact hkept

/-- The digest of a row says which delivery has written it. -/
theorem Ingress.Ok.delivers (hsha : Function.Injective Wire.sha256) (hok : s.Ok)
    {checked : CheckedRequest} (hready : Ready checked) {row : WebhookEvent} (hrow : row ∈ s.ledger)
    (hid : row.razorpayEventId = checked.eventId)
    (hdigest : row.rawBodySha256 = some checked.rawBodyDigest) : row.Delivers checked := by
  obtain ⟨c, hc, hdelivers⟩ := hok.backed row hrow
  have hbody : c.rawBody = checked.rawBody := by
    rw [hdelivers.digest_eq, Option.some.injEq] at hdigest
    exact hsha hdigest
  rw [← hc.unique hready hbody (hdelivers.eventId_eq.symm.trans hid)]
  exact hdelivers

theorem DeliveryStep.phaseOk (hsha : Function.Injective Wire.sha256)
    (h : DeliveryStep s phase l m) (hok : s.Ok) (hphase : s.deliveries worker = phase) :
    m.phase.Ok m.ledger := by
  have hready := hok.phases worker
  rw [hphase] at hready
  have hanswer : ∀ {checked : CheckedRequest} {routeEnd : RouteEnd} {ledger : Table WebhookEvent},
      RouteGives checked routeEnd → (DeliveryPhase.answered routeEnd).Ok ledger := by
    rintro checked routeEnd ledger ⟨settings, request, answers, -, hroute⟩
    exact ⟨settings, request, answers, hroute⟩
  cases h with
  | @received phase settings request hfree =>
      obtain ⟨checked, hreceive, hchecked, hscalar⟩ | ⟨routeEnd, hreceive, hroute⟩ :=
        receive_cases settings request
      · rw [hreceive]
        exact ⟨settings, request, hchecked, hscalar⟩
      · rw [hreceive]
        exact ⟨settings, request, ⟨.ok none, .ok none, .ok none, .ok ()⟩, hroute _⟩
  | inserted | conflicted => exact hready
  | @mismatched checked stored hstored hmismatch =>
      have hcompared := Ready.compared hready stored
      rw [hmismatch, if_pos rfl] at hcompared
      exact hanswer hcompared
  | @matched checked stored hstored hmatch =>
      obtain ⟨hrow, hid⟩ := eventByRazorpayId_mem hstored
      refine ⟨hready, stored, hrow, hok.delivers hsha hready hrow hid ?_⟩
      simpa [CheckedRequest.mismatch] using hmatch
  | stored hinsert => exact hanswer (Ready.stored hready 0)
  | storedUnseen hinsert => exact hanswer (Ready.unavailable hready)
  | @duplicate checked =>
      obtain ⟨hready, row, hrow, hdelivers⟩ := hready
      have hcompared := hready.compared row
      rw [CheckedRequest.mismatch, hdelivers.digest_eq] at hcompared
      exact hanswer (by simpa using hcompared)
  | unavailable hchecked hcause => exact hanswer (hready.ready hchecked).unavailable
  | crashed => trivial

/-- **One step of a request keeps the invariant.** -/
theorem DeliveryStep.ok (hsha : Function.Injective Wire.sha256) (h : DeliveryStep s phase l m)
    (hok : s.Ok) (hphase : s.deliveries worker = phase) :
    Ingress.Ok
      { system := { s.system with db := { s.system.db with webhookEvents := m.ledger } }
        deliveries := Function.update s.deliveries worker m.phase
        locked := m.locked
        accepted := m.accepted } where
  unique := h.unique hok hphase
  backed := h.backed hok hphase
  accepted := h.accepted hok hphase
  phases other := by
    by_cases hother : other = worker
    · subst hother
      simp only [Function.update_self]
      exact h.phaseOk hsha hok hphase
    · simp only [Function.update_of_ne hother]
      exact (hok.phases other).mono h.keeps
  locked other eventId hlock := by
    by_cases hother : other = worker
    · subst hother
      simp only [Function.update_self] at hlock
      obtain ⟨hnone, -⟩ | ⟨e, he, -, hlocked, -⟩ := h.lock
      · rw [hnone] at hlock
        cases hlock
      · rw [he] at hlock
        cases hlock
        simp only [hlocked, List.mem_cons, true_or]
    · simp only [Function.update_of_ne hother] at hlock
      have hmem := hok.locked other eventId hlock
      obtain ⟨-, hlocked⟩ | ⟨e, -, -, hlocked, -⟩ := h.lock
      · simp only [hlocked, Ingress.unlocked, List.mem_filter, decide_eq_true_eq]
        refine ⟨hmem, fun hmine => hother ?_⟩
        exact hok.exclusive other worker eventId hlock (by rw [hphase]; exact hmine)
      · simp only [hlocked, List.mem_cons, hmem, or_true]
  exclusive worker₁ worker₂ eventId h₁ h₂ := by
    -- no other request holds what this one has just taken
    have hnew : ∀ other, other ≠ worker → (s.deliveries other).lock? = some eventId →
        m.phase.lock? ≠ some eventId := by
      intro other hother hlock hmine
      obtain ⟨hnone, -⟩ | ⟨e, he, hfree, -, -⟩ := h.lock
      · rw [hnone] at hmine
        cases hmine
      · rw [he] at hmine
        cases hmine
        exact hfree (hok.locked other _ hlock)
    by_cases hw₁ : worker₁ = worker <;> by_cases hw₂ : worker₂ = worker
    · rw [hw₁, hw₂]
    · subst hw₁
      simp only [Function.update_self, Function.update_of_ne hw₂] at h₁ h₂
      exact absurd h₁ (hnew worker₂ hw₂ h₂)
    · subst hw₂
      simp only [Function.update_self, Function.update_of_ne hw₁] at h₁ h₂
      exact absurd h₂ (hnew worker₁ hw₁ h₁)
    · simp only [Function.update_of_ne hw₁, Function.update_of_ne hw₂] at h₁ h₂
      exact hok.exclusive worker₁ worker₂ eventId h₁ h₂
  free eventId hlocked row hrow := by
    have hold : ∀ row ∈ s.ledger, row.razorpayEventId ≠ eventId := by
      simp only at hlocked
      obtain ⟨-, heq⟩ | ⟨e, -, -, heq, hnone⟩ := h.lock
      · rw [heq] at hlocked
        exact hok.free eventId (List.mem_filter.mp hlocked).1
      · rw [heq] at hlocked
        rcases List.mem_cons.mp hlocked with rfl | hlocked
        · exact eventByRazorpayId_eq_none.mp hnone
        · exact hok.free eventId hlocked
    obtain heq | ⟨checked, newId, rfl, hinsert, heq⟩ := h.ledger
    · rw [show m.ledger = s.ledger from heq] at hrow
      exact hold row hrow
    · simp only [heq, Ingress.unlocked, List.mem_filter, decide_eq_true_eq] at hlocked
      rcases (Table.insert?_mem hinsert).mp hrow with hrow | rfl
      · exact hold row hrow
      · intro heq
        exact hlocked.2 (congrArg some heq)

end

/-! ### Runs

A run of the ingress is a run of the deployment, in which a delivery is the single step
that commits it. So whatever is proved of the deployment holds beside any number of
concurrent deliveries.
-/

/-- Only the commit of an insert changes the database, and it is the step `ingest`. -/
theorem DeliveryStep.refines {s : Ingress} {worker : Nat} {l : DeliveryLabel} {m : DeliveryMove}
    (h : DeliveryStep s (s.deliveries worker) l m) (hok : s.Ok) :
    { s.system with db := { s.system.db with webhookEvents := m.ledger } } = s.system ∨
      ∃ k, step s.system k =
        some { s.system with db := { s.system.db with webhookEvents := m.ledger } } := by
  obtain heq | ⟨checked, newId, hphase, hinsert, -⟩ := h.ledger
  · left
    rw [heq]
    rfl
  · right
    have hready := hok.phases worker
    rw [hphase] at hready
    have hnone := eventByRazorpayId_eq_none.mpr (hok.fresh hphase)
    refine ⟨.service (.ingest (storedJson checked.payload) checked.eventId checked.rawBodyDigest
      newId), ?_⟩
    simp only [step, serviceStep, ingestWebhook_ready hready hnone hinsert]

/-- A step of the deployment leaves what was delivered, and the requests as they are. -/
theorem Ingress.Ok.system {s : Ingress} (hok : s.Ok) {system : System}
    (h : system.db.webhookEvents.rows.map WebhookEvent.delivered =
      s.ledger.rows.map WebhookEvent.delivered) : Ingress.Ok { s with system := system } := by
  have hkeeps : KeepsRows s.ledger system.db.webhookEvents := .of_map h
  have hback : KeepsRows system.db.webhookEvents s.ledger := .of_map h.symm
  refine ⟨unique_of_keeps hback hok.unique, fun row hrow => ?_, fun checked hc => ?_,
    fun worker => (hok.phases worker).mono hkeeps, hok.locked, hok.exclusive,
    fun eventId hlocked row hrow => ?_⟩
  · obtain ⟨row', hrow', heq⟩ := hback row hrow
    obtain ⟨checked, hready, hdelivers⟩ := hok.backed row' hrow'
    exact ⟨checked, hready, hdelivers.mono heq.symm⟩
  · exact ⟨(hok.accepted checked hc).1, hkeeps.delivers (hok.accepted checked hc).2⟩
  · obtain ⟨row', hrow', heq⟩ := hback row hrow
    rw [← razorpayEventId_of_delivered heq]
    exact hok.free eventId hlocked row' hrow'

/-- What a step of the deployment is, as a step of the ingress. -/
theorem ingressStep_system {s s' : Ingress} {l : Label}
    (h : ingressStep s (.system l) = some s') :
    (∀ payload eventId digest newId, l ≠ .service (.ingest payload eventId digest newId)) ∧
      ∃ system, step s.system l = some system ∧ s' = { s with system := system } := by
  unfold ingressStep at h
  split at h
  · cases h
  · rename_i hl hother heq
    cases heq
    obtain ⟨system, hs, rfl⟩ := Option.map_eq_some_iff.mp h
    refine ⟨?_, system, hs, rfl⟩
    rintro payload eventId digest newId rfl
    exact hother _ _ _ _ rfl
  · rename_i heq
    cases heq

variable {clock : Int} {s : Ingress} {tr : List (Run.Step Ingress IngressLabel)}

/-- **The invariant holds along every run, and the run is one of the deployment.** -/
theorem ingress_refines (hsha : Function.Injective Wire.sha256)
    (h : Run.Trace ingressStep (Ingress.initial clock) tr s) :
    s.Ok ∧ Run.Reachable step (System.initial clock) s.system := by
  refine h.refines (f := Ingress.system) (Ingress.initial_ok clock) ?_
  intro s l s' hok hreach hs
  cases l with
  | system l =>
      obtain ⟨hl, system, hsystem, rfl⟩ := ingressStep_system hs
      have hcommit := step_commit (hintsOk_reachable hreach) hsystem
      exact ⟨hok.system (hcommit.delivered hl), .inr ⟨l, hsystem⟩⟩
  | delivery worker l =>
      obtain ⟨m, hm, rfl⟩ := Option.map_eq_some_iff.mp hs
      have hmove := deliveryStep_cases hm
      exact ⟨hmove.ok hsha hok rfl, hmove.refines hok⟩

/-- A delivery is the one row of its event id. -/
def Ingress.Holds (s : Ingress) (checked : CheckedRequest) : Prop :=
  ∃ row ∈ s.ledger, (∀ row' ∈ s.ledger, row'.razorpayEventId = checked.eventId → row' = row) ∧
    row.razorpayEventId = checked.eventId ∧ row.rawPayload = storedJson checked.payload ∧
    row.rawBodySha256 = some checked.rawBodyDigest

theorem Ingress.Ok.holds (hok : s.Ok) {checked : CheckedRequest} (hc : checked ∈ s.accepted) :
    s.Holds checked := by
  obtain ⟨-, row, hrow, hdelivers⟩ := hok.accepted checked hc
  refine ⟨row, hrow, fun row' hrow' hid => ?_, hdelivers.eventId_eq, hdelivers.payload_eq,
    hdelivers.digest_eq⟩
  exact hok.unique row' hrow' row hrow (hid.trans hdelivers.eventId_eq.symm)

theorem DeliveryStep.accepted_mono {phase : DeliveryPhase} {l : DeliveryLabel} {m : DeliveryMove}
    (h : DeliveryStep s phase l m) {checked : CheckedRequest} (hc : checked ∈ s.accepted) :
    checked ∈ m.accepted := by
  cases h with
  | stored | duplicate => exact List.mem_append_left _ hc
  | _ => exact hc

theorem accepted_step {s' : Ingress} {l : IngressLabel} (h : ingressStep s l = some s')
    {checked : CheckedRequest} (hc : checked ∈ s.accepted) : checked ∈ s'.accepted := by
  cases l with
  | system l =>
      obtain ⟨-, system, -, rfl⟩ := ingressStep_system h
      exact hc
  | delivery worker l =>
      obtain ⟨m, hm, rfl⟩ := Option.map_eq_some_iff.mp h
      exact (deliveryStep_cases hm).accepted_mono hc

/-- What has been accepted stays accepted. -/
theorem accepted_mono {s' : Ingress} {tr' : List (Run.Step Ingress IngressLabel)}
    (h : Run.Trace ingressStep s tr' s') {checked : CheckedRequest} (hc : checked ∈ s.accepted) :
    checked ∈ s'.accepted :=
  h.invariant (I := fun s => checked ∈ s.accepted) hc fun _ _ hpre hs => accepted_step hs hpre

/-- How a later delivery of an accepted event id may end. -/
def LaterEnd (first later : CheckedRequest) (l : DeliveryLabel) : RouteEnd → Prop
  | .accepted duplicate eventId =>
      duplicate = true ∧ eventId = first.eventId ∧ later.rawBody = first.rawBody
  | .rejected rejection =>
      (rejection = integrityConflict ∧ later.rawBody ≠ first.rawBody) ∨
        (rejection = persistenceUnavailable ∧ l.fails = true)
  | .raised _ => False

/-- A row found under the event id of an accepted delivery is the row of that delivery. -/
theorem Ingress.Ok.delivers_of_found (hok : s.Ok) {first : CheckedRequest}
    (hfirst : first ∈ s.accepted) {eventId : String} (hid : eventId = first.eventId)
    {row : WebhookEvent} (hrow : s.system.db.eventByRazorpayId eventId = some row) :
    row.Delivers first := by
  obtain ⟨hmem, hrowId⟩ := eventByRazorpayId_mem hrow
  obtain ⟨-, stored, hstored, hdelivers⟩ := hok.accepted first hfirst
  have heq : row = stored := hok.unique row hmem stored hstored <|
    hrowId.trans (hid.trans hdelivers.eventId_eq.symm)
  rw [heq]
  exact hdelivers

theorem Ingress.Ok.found (hok : s.Ok) {first : CheckedRequest} (hfirst : first ∈ s.accepted) :
    ∃ row, s.system.db.eventByRazorpayId first.eventId = some row := by
  obtain ⟨-, row, hrow, hdelivers⟩ := hok.accepted first hfirst
  rw [← Option.isSome_iff_exists, ← Option.ne_none_iff_isSome]
  intro hnone
  exact eventByRazorpayId_eq_none.mp hnone row hrow hdelivers.eventId_eq

/-- The comparison with the row of an accepted delivery is a comparison of the bytes. -/
theorem mismatch_iff (hsha : Function.Injective Wire.sha256) {first later : CheckedRequest}
    {row : WebhookEvent} (hdelivers : row.Delivers first) :
    later.mismatch row = true ↔ later.rawBody ≠ first.rawBody := by
  have hdigest : first.rawBodyDigest = later.rawBodyDigest ↔ first.rawBody = later.rawBody :=
    hsha.eq_iff
  simp only [CheckedRequest.mismatch, hdelivers.digest_eq, ne_eq, Option.some.injEq,
    decide_eq_true_eq, hdigest]
  exact not_congr eq_comm

/-- **A delivery of an accepted event id changes no row**, and ends as its bytes say. -/
theorem DeliveryStep.later (hsha : Function.Injective Wire.sha256) (hok : s.Ok)
    {first later : CheckedRequest} (hfirst : first ∈ s.accepted)
    (hid : later.eventId = first.eventId) {worker : Nat} {phase : DeliveryPhase}
    (hphase : s.deliveries worker = phase) (hlater : phase.checked? = some later)
    {l : DeliveryLabel} {m : DeliveryMove} (h : DeliveryStep s phase l m) :
    m.ledger = s.ledger ∧ ∀ routeEnd, m.phase = .answered routeEnd → LaterEnd first later l routeEnd := by
  obtain ⟨row, hfound⟩ := hok.found hfirst
  rw [← hid] at hfound
  -- no insert of the event id can be under way
  have hinserted : ∀ checked newId, phase ≠ .inserted checked newId := by
    rintro checked newId rfl
    cases hlater
    exact absurd (eventByRazorpayId_eq_none.mpr (hok.fresh hphase)) (by simp [hfound])
  have hmine := hok.phases worker
  rw [hphase] at hmine
  cases h with
  | received hnone =>
      rw [hnone] at hlater
      cases hlater
  | inserted hnone =>
      cases hlater
      rw [hnone] at hfound
      cases hfound
  | conflicted hstored => exact ⟨rfl, fun _ h => by cases h⟩
  | mismatched hstored hmismatch =>
      cases hlater
      refine ⟨rfl, fun routeEnd h => ?_⟩
      cases h
      exact .inl ⟨rfl, (mismatch_iff hsha (hok.delivers_of_found hfirst hid hstored)).mp hmismatch⟩
  | matched hstored hmatch => exact ⟨rfl, fun _ h => by cases h⟩
  | stored hinsert => exact absurd rfl (hinserted _ _)
  | storedUnseen hinsert => exact absurd rfl (hinserted _ _)
  | duplicate =>
      cases hlater
      refine ⟨rfl, fun routeEnd h => ?_⟩
      cases h
      obtain ⟨-, stored, hstored, hdelivers⟩ := hmine
      obtain ⟨-, row', hrow', hdelivers'⟩ := hok.accepted first hfirst
      have hsame : stored = row' := hok.unique stored hstored row' hrow' <|
        hdelivers.eventId_eq.trans (hid.trans hdelivers'.eventId_eq.symm)
      rw [hsame] at hdelivers
      exact ⟨rfl, hid, hdelivers.rawBody_eq hsha hdelivers'⟩
  | unavailable hchecked hcause =>
      refine ⟨rfl, fun routeEnd h => ?_⟩
      cases h
      obtain hfails | ⟨newId, answer, -, hphase', -⟩ | ⟨-, rfl, hnone⟩ := hcause
      · exact .inr ⟨rfl, hfails⟩
      · exact absurd hphase' (hinserted _ _)
      · cases hlater
        rw [hnone] at hfound
        cases hfound
  | crashed => exact ⟨rfl, fun _ h => by cases h⟩

/-! ### A later delivery runs to its end -/

/-- What a step of a request leaves for its next step. -/
theorem ingressStep_move {worker : Nat} {l : DeliveryLabel} {m : DeliveryMove}
    (h : deliveryStep s (s.deliveries worker) l = some m) :
    ∃ s', ingressStep s (.delivery worker l) = some s' ∧ s'.deliveries worker = m.phase ∧
      s'.ledger = m.ledger := by
  refine ⟨{ system := { s.system with db := { s.system.db with webhookEvents := m.ledger } }
            deliveries := Function.update s.deliveries worker m.phase
            locked := m.locked
            accepted := m.accepted }, ?_, Function.update_self .., rfl⟩
  simp only [ingressStep, h, Option.map_some]

/-- The statements of a delivery whose event id has a row, and what they come to. -/
theorem later_run {worker : Nat} {later : CheckedRequest} {row : WebhookEvent} (newId : Uuid)
    (hphase : s.deliveries worker = .recording later)
    (hfound : s.system.db.eventByRazorpayId later.eventId = some row) :
    ∃ tr s', Run.Trace ingressStep s tr s' ∧
      tr.map Run.Step.label =
        [.delivery worker (.insert newId), .delivery worker .select] ++
          (if later.mismatch row then [] else [.delivery worker (.commit .done)]) ∧
      s'.deliveries worker = .answered (if later.mismatch row then .rejected integrityConflict
        else .accepted true later.eventId) := by
  have hinsert : deliveryStep s (s.deliveries worker) (.insert newId) =
      some ⟨s.ledger, s.locked, s.accepted, .conflicted later⟩ := by
    simp only [hphase, deliveryStep, hfound]
  obtain ⟨s₁, hs₁, hphase₁, hledger₁⟩ := ingressStep_move hinsert
  have hfound₁ : s₁.system.db.eventByRazorpayId later.eventId = some row := by
    rw [eventByRazorpayId_congr hledger₁]
    exact hfound
  by_cases hmismatch : later.mismatch row = true
  · have hselect : deliveryStep s₁ (s₁.deliveries worker) .select =
        some (s₁.ends (.conflicted later) (.answered (.rejected integrityConflict))) := by
      simp only [hphase₁, deliveryStep, hfound₁, hmismatch, if_true]
    obtain ⟨s₂, hs₂, hphase₂, -⟩ := ingressStep_move hselect
    refine ⟨_, s₂, (Run.Trace.nil.snoc hs₁).snoc hs₂, ?_, ?_⟩
    · simp [hmismatch]
    · rw [hphase₂, hmismatch, if_pos rfl]
      rfl
  · rw [Bool.not_eq_true] at hmismatch
    have hselect : deliveryStep s₁ (s₁.deliveries worker) .select =
        some ⟨s₁.ledger, s₁.locked, s₁.accepted, .matched later⟩ := by
      simp only [hphase₁, deliveryStep, hfound₁, hmismatch, Bool.false_eq_true, if_false]
    obtain ⟨s₂, hs₂, hphase₂, -⟩ := ingressStep_move hselect
    have hcommit : deliveryStep s₂ (s₂.deliveries worker) (.commit .done) =
        some ⟨s₂.ledger, s₂.locked, s₂.accepted ++ [later],
          .answered (.accepted true later.eventId)⟩ := by
      simp only [hphase₂, deliveryStep]
    obtain ⟨s₃, hs₃, hphase₃, -⟩ := ingressStep_move hcommit
    refine ⟨_, s₃, ((Run.Trace.nil.snoc hs₁).snoc hs₂).snoc hs₃, ?_, ?_⟩
    · simp [hmismatch]
    · rw [hphase₃, hmismatch, if_neg Bool.false_ne_true]

/-- A request that comes in changes nothing but its own phase. -/
theorem received_step {s' : Ingress} {worker : Nat} {settings : WebhookSettings}
    {request : WebhookRequest}
    (h : ingressStep s (.delivery worker (.receive settings request)) = some s') :
    s'.system = s.system ∧ s'.deliveries worker = receiveWebhook settings request := by
  obtain ⟨m, hm, rfl⟩ := Option.map_eq_some_iff.mp h
  have hmove := deliveryStep_cases hm
  generalize s.deliveries worker = phase at hmove
  cases hmove with
  | received hphase => exact ⟨rfl, Function.update_self ..⟩
  | unavailable hphase hcause =>
      obtain hfails | ⟨newId, answer, hl, -⟩ | ⟨hl, -⟩ := hcause
      · cases hfails
      · cases hl
      · cases hl

/-! ### What the ledger promises

`Exact` is what a state of a run promises for ever after. It speaks of the deliveries
that are compared with the row; which further deliveries get that far is the subject of
the next section.
-/

/-- What holds of the ledger in a state of a run, and from there on. -/
structure Ingress.Exact (s : Ingress) : Prop where
  /--
  An accepted event id has one row for ever, with the payload and the digest of the
  delivery that was accepted first.
  -/
  one_row : ∀ eventId first, s.accepted.find? (fun c => c.eventId == eventId) = some first →
    ∀ tr s', Run.Trace ingressStep s tr s' → s'.Holds first
  /-- No step of a further delivery changes anything; the same bytes are accepted as a
  duplicate, other bytes are a conflict, unless the database raises. -/
  later : ∀ first ∈ s.accepted, ∀ worker later, (s.deliveries worker).checked? = some later →
    later.eventId = first.eventId → ∀ l s', ingressStep s (.delivery worker l) = some s' →
      s'.system = s.system ∧
        ∀ routeEnd, s'.deliveries worker = .answered routeEnd → LaterEnd first later l routeEnd
  /-- A further delivery whose statements are all answered runs to its end. -/
  later_ends : ∀ first ∈ s.accepted, ∀ worker later, s.deliveries worker = .recording later →
    later.eventId = first.eventId → ∀ newId, ∃ tr s', Run.Trace ingressStep s tr s' ∧
      tr.map Run.Step.label =
        [.delivery worker (.insert newId), .delivery worker .select] ++
          (if later.rawBody = first.rawBody then [.delivery worker (.commit .done)] else []) ∧
      s'.deliveries worker = .answered (if later.rawBody = first.rawBody
        then .accepted true first.eventId else .rejected integrityConflict)
  /--
  A request that fails a check is rejected, but for a body that nests too deep to be read,
  and none changes anything by coming in.
  -/
  refused : ∀ worker settings request s',
    ingressStep s (.delivery worker (.receive settings request)) = some s' →
      s'.system = s.system ∧ ((¬ ∃ eventId value, Admitted settings request eventId value) →
        (∃ rejection ∈ declaredRejections,
          s'.deliveries worker = .answered (.rejected rejection)) ∨
        (Text.PyJson.loads Text.Recursion.nesting request.body = .error .recursionError ∧
          s'.deliveries worker = .answered (.raised (.json .recursionError))))

/-- A request that fails a check is answered with its rejection. -/
theorem receive_refused {settings : WebhookSettings} {request : WebhookRequest}
    (h : ¬ ∃ eventId value, Admitted settings request eventId value) :
    (∃ rejection ∈ declaredRejections,
        receiveWebhook settings request = .answered (.rejected rejection)) ∨
      (Text.PyJson.loads Text.Recursion.nesting request.body = .error .recursionError ∧
        receiveWebhook settings request = .answered (.raised (.json .recursionError))) := by
  cases hchecked : checkRequest settings request with
  | error routeEnd =>
      have hreceive : receiveWebhook settings request = .answered routeEnd := by
        simp only [receiveWebhook, hchecked]
      obtain ⟨rejection, hdeclared, rfl⟩ | ⟨hdeep, rfl⟩ := checkRequest_error hchecked
      · exact .inl ⟨rejection, hdeclared, hreceive⟩
      · exact .inr ⟨hdeep, hreceive⟩
  | ok checked => exact absurd ⟨_, _, (checkRequest_ok hchecked).2.1⟩ h

/--
One row for each event id, whatever the deliveries and however they interleave.  The
digests of bodies are taken to be free of collisions.
-/
theorem Ingress.exact (hsha : Function.Injective (Wire.sha256 : List UInt8 → Digest))
    {clock : Int} {s : Ingress} {tr : List (Run.Step Ingress IngressLabel)}
    (h : Run.Trace ingressStep (Ingress.initial clock) tr s) : s.Exact where
  one_row eventId first hfirst tr' s' h' := by
    obtain ⟨hok, -⟩ := ingress_refines hsha (h.append h')
    exact hok.holds (accepted_mono h' (List.mem_of_find?_eq_some hfirst))
  later first hfirst worker later hlater hid l s' hs := by
    obtain ⟨hok, -⟩ := ingress_refines hsha h
    obtain ⟨m, hm, rfl⟩ := Option.map_eq_some_iff.mp hs
    obtain ⟨hledger, hends⟩ := (deliveryStep_cases hm).later hsha hok hfirst hid rfl hlater
    refine ⟨?_, fun routeEnd hphase => hends routeEnd ?_⟩
    · simp only [hledger]
      rfl
    · simpa using hphase
  later_ends first hfirst worker later hphase hid newId := by
    obtain ⟨hok, -⟩ := ingress_refines hsha h
    obtain ⟨row, hfound⟩ := hok.found hfirst
    rw [← hid] at hfound
    obtain ⟨tr', s', htr, hlabels, hends⟩ := later_run newId hphase hfound
    have hmismatch : later.mismatch row = true ↔ later.rawBody ≠ first.rawBody :=
      mismatch_iff hsha (hok.delivers_of_found hfirst hid hfound)
    refine ⟨tr', s', htr, ?_, ?_⟩
    · rw [hlabels]
      by_cases hbody : later.rawBody = first.rawBody <;> simp [hmismatch, hbody]
    · rw [hends, hid]
      by_cases hbody : later.rawBody = first.rawBody <;> simp [hmismatch, hbody]
  refused worker settings request s' hs := by
    obtain ⟨hsystem, hphase⟩ := received_step hs
    refine ⟨hsystem, fun hrefused => ?_⟩
    rw [hphase]
    exact receive_refused hrefused

/-! ### Deliveries that are never compared

A delivery comes in before it is compared with anything, and the canonical hash of its body
is computed on the way.  The hash of a body with a surrogate raises, so a further delivery
of an accepted event id has to be free of them to be answered as what it is.  The ledger
is the same either way.
-/

/-- A further delivery of an accepted event id that passes the checks has no surrogate. -/
def SurrogateFree (s : Ingress) : IngressLabel → Prop
  | .delivery _ (.receive settings request) =>
      ∀ later ∈ (checkRequest settings request).toOption,
        (∃ first ∈ s.accepted, later.eventId = first.eventId) → later.payload.Scalar
  | _ => True

instance decidableSurrogateFree (s : Ingress) : ∀ l : IngressLabel, Decidable (SurrogateFree s l)
  | .delivery _ (.receive settings request) => inferInstanceAs (Decidable
      (∀ later ∈ (checkRequest settings request).toOption,
        (∃ first ∈ s.accepted, later.eventId = first.eventId) → later.payload.Scalar))
  | .delivery _ (.insert _) | .delivery _ .select | .delivery _ (.commit _)
  | .delivery _ .databaseError | .delivery _ .crash | .system _ => inferInstanceAs (Decidable True)

end Arc

namespace Arc

attribute [local instance] asciiPlatform asciiWire

end Arc
