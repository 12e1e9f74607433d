/-
Fencing of webhook processing.

The attempt number of an event is a fencing token: every claim increases it, and every
transaction that finishes an event compares the number its worker was given with the
number in the row.  The number never decreases, so a worker that has been superseded
stays superseded, and a processed row is never claimed or finished again.
-/
import Arc.Proofs.Lifecycle

namespace Arc

open Store

variable [Platform]

/-! ### Rows of the ledger

The attempt number is the token. A claim raises it and a finish keeps it, so a row whose
number has passed that of a claim cannot be finished by the worker that holds the claim.
-/

/-- What a step keeps of an event row. -/
structure WebhookEvent.Kept (e e' : WebhookEvent) : Prop where
  id_eq : e'.id = e.id
  type_eq : e'.eventType = e.eventType
  attempt_le : e.processingAttemptCount ≤ e'.processingAttemptCount
  /-- A processed event of a supported type is not touched. -/
  processed : e.eventType ∈ supportedRazorpayEvents → e.processingStatus = .processed → e' = e

theorem WebhookEvent.Kept.refl (e : WebhookEvent) : e.Kept e :=
  ⟨rfl, rfl, le_refl _, fun _ _ => rfl⟩

/-- An update of one row of the ledger. -/
theorem kept_put {events : Table WebhookEvent} {row row' e : WebhookEvent} (hrow : row ∈ events)
    (hkept : row.Kept row') (he : e ∈ events) : ∃ e' ∈ events.put row', e.Kept e' := by
  by_cases hkey : e.id = row.id
  · obtain rfl : e = row := Table.eq_of_key_eq he hrow hkey
    exact ⟨row', (Table.mem_put_of_mem hrow hkept.id_eq).mpr (.inr rfl), hkept⟩
  · refine ⟨e, (Table.mem_put_of_mem hrow hkept.id_eq).mpr (.inl ⟨he, ?_⟩), .refl e⟩
    exact fun hk => hkey (hk.trans hkept.id_eq)

theorem Owns.kept {db : Db} {claimed : ClaimedEvent} {row row' : WebhookEvent}
    (h : Owns db claimed row) (hid : row'.id = row.id) (htype : row'.eventType = row.eventType)
    (hattempt : row'.processingAttemptCount = row.processingAttemptCount) : row.Kept row' :=
  ⟨hid, htype, hattempt.ge, fun _ hprocessed => absurd hprocessed h.not_processed⟩

/-- **Every step keeps the rows of the ledger**, up to claims and finishes of open ones. -/
theorem Commit.kept {s : System} {l : Label} {db' : Db} (h : Commit s l db') {e : WebhookEvent}
    (he : e ∈ s.db.webhookEvents) : ∃ e' ∈ db'.webhookEvents, e.Kept e' := by
  cases h with
  | executed h =>
      rw [h.frame]
      exact ⟨e, he, .refl e⟩
  | ingested hinsert hstatus hattempt =>
      exact ⟨e, (Table.insert?_mem hinsert).mpr (.inl he), .refl e⟩
  | @unsupported worker eventId row hphase hstored hunsupported =>
      refine kept_put (Table.mem_of_get? hstored) ⟨rfl, rfl, le_refl _, fun htype hstatus => ?_⟩ he
      rcases hunsupported with hun | hun
      · rw [hstatus] at hun
        cases hun
      · exact absurd htype hun
  | @eventClaimed worker eventId row hphase hstored hclaim =>
      exact kept_put (Table.mem_of_get? hstored)
        ⟨rfl, rfl, Nat.le_succ _, fun _ hstatus => absurd hstatus hclaim.not_processed⟩ he
  | eventFinished hphase howns hstatus =>
      exact kept_put (Table.mem_of_get? howns.stored) (howns.kept rfl rfl rfl) he
  | eventFailed hphase howns =>
      exact kept_put (Table.mem_of_get? howns.stored) (howns.kept rfl rfl rfl) he
  | reconciled hphase howns hstatus hresult =>
      have hframe := congrArg Db.webhookEvents (reconcileEntity_frame hresult)
      simp only at hframe
      rw [hframe]
      exact kept_put (Table.mem_of_get? howns.stored) (howns.kept rfl rfl rfl) he
  | _ => exact ⟨e, he, .refl e⟩

/-! ### What processors hold -/

/-- Payment links take their own path through the phases. -/
def ProcessorPhase.KindOk : ProcessorPhase → Prop
  | .fetched event _ _ => isPaymentLinkEvent event = false
  | .matched event _ | .observing event _ | .observed event _ _ | .finishing event _ _ =>
      isPaymentLinkEvent event = true
  | .idle | .claimed _ | .failing _ _ => True

/-- A row of the ledger carries a claimed event. -/
structure WebhookEvent.Carries (e : WebhookEvent) (claimed : ClaimedEvent) : Prop where
  id_eq : e.id = claimed.id
  type_eq : e.eventType = claimed.eventType
  attempt_le : claimed.processingAttemptCount ≤ e.processingAttemptCount

structure ProcessorsOk (s : System) : Prop where
  kind : ∀ worker, (s.processors worker).KindOk
  carried : ∀ worker claimed, (s.processors worker).event? = some claimed →
    claimed.eventType ∈ supportedRazorpayEvents ∧ ∃ e ∈ s.db.webhookEvents, e.Carries claimed

theorem ProcessorMove.kindOk {s : System} {phase phase' : ProcessorPhase} {l : ProcessorLabel}
    (h : ProcessorMove s phase l phase') (hok : phase.KindOk) : phase'.KindOk := by
  cases h with
  | fetched hkind hfetch => exact hkind
  | matched hkind => exact hkind
  | unmatched hkind => exact hkind
  | prepared => exact hok
  | linkFetched => exact hok
  | persisted => exact hok
  | ended | claimed | failing => trivial

/-- The event a processor works on is the one it had, or the one it has just claimed. -/
theorem ProcessorMove.event {s : System} {phase phase' : ProcessorPhase} {l : ProcessorLabel}
    (h : ProcessorMove s phase l phase') {claimed : ClaimedEvent}
    (hevent : phase'.event? = some claimed) :
    phase.event? = some claimed ∨ ∃ eventId row, l = .claim eventId ∧ phase = .idle ∧
      s.db.webhookEvents.get? eventId = some row ∧ Claimable row s.clock ∧
      claimed = claimedEvent (row.claim s.clock) := by
  cases h with
  | claimed hstored hclaim =>
      cases hevent
      exact .inr ⟨_, _, rfl, rfl, hstored, hclaim, rfl⟩
  | ended => cases hevent
  | failing hphase =>
      cases hevent
      exact .inl hphase
  | _ => exact .inl hevent

/-- What a claim of an event leaves in the ledger. -/
theorem claim_commits {s s' : System} {worker : Nat} {eventId : Uuid} {claimed : ClaimedEvent}
    (h : step s (.processor worker (.claim eventId)) = some s')
    (hevent : (s'.processors worker).event? = some claimed) :
    ∃ row, s.db.webhookEvents.get? eventId = some row ∧ Claimable row s.clock ∧
      claimed = claimedEvent (row.claim s.clock) ∧ row.claim s.clock ∈ s'.db.webhookEvents := by
  obtain ⟨m, hm, rfl⟩ := Option.map_eq_some_iff.mp h
  replace hevent : m.phase.event? = some claimed := by simpa using hevent
  show ∃ row : WebhookEvent, _ ∧ _ ∧ _ ∧ row.claim s.clock ∈ m.db.webhookEvents
  generalize s.processors worker = phase at hm
  cases phase with
  | idle =>
      simp only [processorStep] at hm
      split at hm
      · rename_i db event hclaim
        cases hm
        cases hevent
        obtain ⟨⟨result, hout⟩, -⟩ | ⟨row, result, -, hout, -⟩ | ⟨row, hstored, hok, hout, hdb⟩ :=
          claimEvent_eq_ok hclaim
        · cases hout
        · cases hout
        · cases hout
          refine ⟨row, hstored, hok, rfl, ?_⟩
          rw [hdb]
          have hid : (row.claim s.clock).id = row.id := rfl
          exact (Table.mem_put_of_mem (Table.mem_of_get? hstored) hid).mpr (.inr rfl)
      all_goals
        cases hm
        cases hevent
  | _ => cases hm

theorem processorsOk_step {s s' : System} {l : Label} (hhints : HintsOk s) (hok : ProcessorsOk s)
    (h : step s l = some s') : ProcessorsOk s' := by
  have hkeep : ∀ {claimed : ClaimedEvent}, (∃ e ∈ s.db.webhookEvents, e.Carries claimed) →
      ∃ e ∈ s'.db.webhookEvents, e.Carries claimed := by
    rintro claimed ⟨e, he, hcarries⟩
    obtain ⟨e', he', hkept⟩ := (step_commit hhints h).kept he
    exact ⟨e', he', hkept.id_eq.trans hcarries.id_eq, hkept.type_eq.trans hcarries.type_eq,
      hcarries.attempt_le.trans hkept.attempt_le⟩
  constructor
  · intro worker
    rcases step_processors h worker with hsame | ⟨pl, m, rfl, hm, hphase, -⟩
    · rw [hsame]
      exact hok.kind worker
    · rw [hphase]
      exact (processorStep_move hm).kindOk (hok.kind worker)
  · intro worker claimed hevent
    rcases step_processors h worker with hsame | ⟨pl, m, rfl, hm, hphase, hdb⟩
    · obtain ⟨htype, hcarried⟩ := hok.carried worker claimed (hsame ▸ hevent)
      exact ⟨htype, hkeep hcarried⟩
    · have hmove := processorStep_move hm
      rcases hmove.event (hphase ▸ hevent) with hold | ⟨eventId, row, rfl, -⟩
      · obtain ⟨htype, hcarried⟩ := hok.carried worker claimed hold
        exact ⟨htype, hkeep hcarried⟩
      · obtain ⟨row', -, hclaim, rfl, hmem⟩ := claim_commits h hevent
        exact ⟨hclaim.type, _, hmem, rfl, rfl, le_refl _⟩

theorem processorsOk_reachable {clock : Int} {s : System}
    (h : Run.Reachable step (System.initial clock) s) : HintsOk s ∧ ProcessorsOk s := by
  refine h.invariant (I := fun s => HintsOk s ∧ ProcessorsOk s) ⟨?_, ?_, ?_⟩
    fun _ _ _ ⟨hhints, hok⟩ hs => ⟨hintsOk_step hhints hs, processorsOk_step hhints hok hs⟩
  · intro worker approval decision hphase
    cases hphase
  · intro worker
    trivial
  · intro worker claimed hevent
    cases hevent

/-! ### Steps of one worker

A worker locks the event before it writes anything and compares the token. If it has
been superseded the transaction ends there; if it has not, the effects on the case and
the turn of the event are committed together.
-/

/-- The step turned a supported event PROCESSED. -/
def TurnsProcessed (x : Run.Step System Label) (eventId : Uuid) : Prop :=
  ∃ e ∈ x.pre.db.webhookEvents, ∃ e' ∈ x.post.db.webhookEvents, e.id = eventId ∧ e'.id = eventId ∧
    e.eventType ∈ supportedRazorpayEvents ∧ e.processingStatus ≠ .processed ∧
    e'.processingStatus = .processed

/-- The step wrote a case, or an entry of the trail. -/
def CaseEffects (x : Run.Step System Label) : Prop :=
  x.post.db.cases ≠ x.pre.db.cases ∨ x.post.db.caseEvents ≠ x.pre.db.caseEvents

/-- The step is one of a worker that has claimed an event. -/
structure ProcessorMoved (x : Run.Step System Label) (worker : Nat) (l : ProcessorLabel)
    (claimed : ClaimedEvent) : Prop where
  label : x.label = .processor worker l
  event : (x.pre.processors worker).event? = some claimed

/-- The rows with the id of an owned event are the row that owns it. -/
theorem Owns.eq_of_id {db : Db} {claimed : ClaimedEvent} {row e : WebhookEvent}
    (h : Owns db claimed row) (he : e ∈ db.webhookEvents) (hid : e.id = claimed.id) : e = row :=
  Table.eq_of_key_eq he (Table.mem_of_get? h.stored) (hid.trans (Table.get?_key h.stored).symm)

/-- A superseded worker writes nothing. -/
theorem stale_step {s s' : System} {worker : Nat} {l : ProcessorLabel} {claimed : ClaimedEvent}
    (hhints : HintsOk s) (hok : ProcessorsOk s) (h : step s (.processor worker l) = some s')
    (hevent : (s.processors worker).event? = some claimed) {e : WebhookEvent}
    (he : e ∈ s.db.webhookEvents) (hid : e.id = claimed.id)
    (hstale : e.processingAttemptCount ≠ claimed.processingAttemptCount) :
    s'.db.webhookEvents = s.db.webhookEvents ∧
    (isPaymentLinkEvent claimed = false →
      s'.db.cases = s.db.cases ∧ s'.db.caseEvents = s.db.caseEvents) := by
  -- a transaction that finishes the event owns the row, so its number is the claimed one
  have hnot : ∀ {claimed' : ClaimedEvent} {row : WebhookEvent}, claimed' = claimed →
      ¬ Owns s.db claimed' row := by
    rintro claimed' row rfl howns
    rw [howns.eq_of_id he hid] at hstale
    exact hstale howns.attempt
  have hcommit := step_commit hhints h
  generalize s'.db = db' at hcommit
  cases hcommit with
  | same => exact ⟨rfl, fun _ => ⟨rfl, rfl⟩⟩
  | unsupported hphase => rw [hphase] at hevent; cases hevent
  | eventClaimed hphase => rw [hphase] at hevent; cases hevent
  | eventFinished hphase howns =>
      rw [hphase] at hevent
      exact absurd howns (hnot (Option.some.inj hevent))
  | eventFailed hphase howns =>
      rw [hphase] at hevent
      exact absurd howns (hnot (Option.some.inj hevent))
  | reconciled hphase howns =>
      rw [hphase] at hevent
      exact absurd howns (hnot (Option.some.inj hevent))
  | worked hlabel => rcases hlabel with ⟨_, hl⟩ | ⟨_, _, hl⟩ <;> cases hl
  | observed hworker =>
      refine ⟨rfl, fun hkind => ?_⟩
      rcases hworker with ⟨_, -, hl⟩ | ⟨worker', event, hphase, hl⟩
      · cases hl
      · cases hl
        have hlink := hok.kind worker
        rw [hphase] at hevent hlink
        cases hevent
        rw [ProcessorPhase.KindOk, hkind] at hlink
        cases hlink

/-- The transaction of a report: the effects it computes, and the event PROCESSED. -/
structure Applied (x : Run.Step System Label) (worker : Nat) (claimed : ClaimedEvent) : Prop where
  turned : TurnsProcessed x claimed.id
  effects : ∃ snapshot fetchedAt fresh event result,
    x.pre.processors worker = .fetched claimed snapshot fetchedAt ∧
    x.label = .processor worker (.apply fresh) ∧
    reconcileEntity x.pre.db event snapshot fresh x.pre.clock = .ok result ∧
    x.post.db.cases = result.db.cases ∧ x.post.db.caseEvents = result.db.caseEvents

/-- **Case effects and the turn to PROCESSED come in one transaction.** -/
theorem applied_step {x : Run.Step System Label} {worker : Nat} {l : ProcessorLabel}
    {claimed : ClaimedEvent} (hhints : HintsOk x.pre) (hok : ProcessorsOk x.pre)
    (h : step x.pre x.label = some x.post) (hmoved : ProcessorMoved x worker l claimed)
    (hkind : isPaymentLinkEvent claimed = false)
    (heffect : CaseEffects x ∨ TurnsProcessed x claimed.id) : Applied x worker claimed := by
  obtain ⟨s, label, s'⟩ := x
  obtain ⟨hlabel, hevent⟩ := hmoved
  simp only at hlabel hevent h hhints hok
  subst hlabel
  have hcommit := step_commit hhints h
  have hcarried := hok.carried worker claimed hevent
  have hphaseKind := hok.kind worker
  -- an event that stays as it is, or fails, has not turned, and no case was written
  have hunturned : s'.db.webhookEvents = s.db.webhookEvents →
      ¬ TurnsProcessed ⟨s, .processor worker l, s'⟩ claimed.id := by
    rintro hsame ⟨e, he, e', he', hid, hid', -, hopen, hdone⟩
    replace he' : e' ∈ s.db.webhookEvents := hsame ▸ he'
    rw [Table.eq_of_key_eq he' he (hid'.trans hid.symm)] at hdone
    exact hopen hdone
  generalize hdb : s'.db = db' at hcommit
  cases hcommit with
  | same =>
      rcases heffect with hcase | hturned
      · rcases hcase with hc | hc <;> exact absurd (by simp [hdb]) hc
      · exact absurd hturned (hunturned (by rw [hdb]))
  | unsupported hphase => rw [hphase] at hevent; cases hevent
  | eventClaimed hphase => rw [hphase] at hevent; cases hevent
  | eventFinished hphase howns =>
      rw [hphase] at hevent hphaseKind
      cases hevent
      rw [ProcessorPhase.KindOk, hkind] at hphaseKind
      cases hphaseKind
  | @eventFailed _ claimed' safeError row hphase howns =>
      rw [hphase] at hevent
      cases hevent
      rcases heffect with hcase | ⟨e, he, e', he', hid, hid', -, hopen, hdone⟩
      · rcases hcase with hc | hc <;> exact absurd (by simp [hdb]) hc
      · simp only [hdb] at he'
        have hrow : (row.failedWith safeError s.clock).id = row.id := rfl
        rcases (Table.mem_put_of_mem (Table.mem_of_get? howns.stored) hrow).mp he' with ⟨-, hne⟩ | rfl
        · exact absurd (hid'.trans (Table.get?_key howns.stored).symm) hne
        · cases hdone
  | @reconciled _ claimed' snapshot fetchedAt fresh row result hphase howns hstatus hresult =>
      have hsame := hevent
      rw [hphase] at hsame
      cases hsame
      have hframe := congrArg Db.webhookEvents (reconcileEntity_frame hresult)
      simp only at hframe
      obtain ⟨htype, e, he, hcarries⟩ := hcarried
      obtain rfl := howns.eq_of_id he hcarries.id_eq
      refine ⟨⟨e, he, e.finish s.clock, ?_, hcarries.id_eq, hcarries.id_eq, ?_, howns.not_processed, rfl⟩,
        snapshot, fetchedAt, fresh, e, result, hphase, rfl, hresult, by rw [hdb], by rw [hdb]⟩
      · rw [hdb, hframe]
        have hid : (e.finish s.clock).id = e.id := rfl
        exact (Table.mem_put_of_mem he hid).mpr (.inr rfl)
      · rw [hcarries.type_eq]
        exact htype
  | worked hlabel => rcases hlabel with ⟨_, hl⟩ | ⟨_, _, hl⟩ <;> cases hl
  | observed hworker =>
      rcases hworker with ⟨_, -, hl⟩ | ⟨worker', event, hphase, hl⟩
      · cases hl
      · cases hl
        rw [hphase] at hevent hphaseKind
        cases hevent
        rw [ProcessorPhase.KindOk, hkind] at hphaseKind
        cases hphaseKind

/-! ### Runs -/

/-- Along a trace a row of the ledger is kept. -/
theorem kept_trace {s s' : System} {tr : List (Run.Step System Label)} (hhints : HintsOk s)
    (h : Run.Trace step s tr s') {e : WebhookEvent} (he : e ∈ s.db.webhookEvents) :
    ∃ e' ∈ s'.db.webhookEvents, e.Kept e' := by
  have hboth : HintsOk s' ∧ ∃ e' ∈ s'.db.webhookEvents, e.Kept e' := by
    refine h.invariant (I := fun s => HintsOk s ∧ ∃ e' ∈ s.db.webhookEvents, e.Kept e')
      ⟨hhints, e, he, .refl e⟩ fun x _ ⟨hhints', e₁, he₁, hkept₁⟩ hs => ?_
    obtain ⟨e₂, he₂, hkept₂⟩ := (step_commit hhints' hs).kept he₁
    refine ⟨hintsOk_step hhints' hs, e₂, he₂, hkept₂.id_eq.trans hkept₁.id_eq,
      hkept₂.type_eq.trans hkept₁.type_eq, hkept₁.attempt_le.trans hkept₂.attempt_le, ?_⟩
    intro htype hstatus
    have h₁ := hkept₁.processed htype hstatus
    rw [hkept₂.processed (h₁ ▸ htype) (h₁ ▸ hstatus), h₁]
  exact hboth.2

/-- What fencing promises of a run. -/
structure Fenced (tr : List (Run.Step System Label)) : Prop where
  /-- Case effects of a payment or subscription event come with its turn to PROCESSED. -/
  effects : ∀ x ∈ tr, ∀ worker l claimed, ProcessorMoved x worker l claimed →
    isPaymentLinkEvent claimed = false → CaseEffects x → TurnsProcessed x claimed.id
  /-- And its turn to PROCESSED comes with the effects of the report it fetched. -/
  applied : ∀ x ∈ tr, ∀ worker l claimed, ProcessorMoved x worker l claimed →
    isPaymentLinkEvent claimed = false → TurnsProcessed x claimed.id → Applied x worker claimed
  /-- No event turns PROCESSED twice. -/
  once : ∀ before x mid y after, tr = before ++ x :: (mid ++ y :: after) → ∀ eventId,
    TurnsProcessed x eventId → ¬ TurnsProcessed y eventId
  /-- A processed event of a supported type stays as it is. -/
  processed : ∀ x ∈ tr, ∀ e ∈ x.pre.db.webhookEvents, e.eventType ∈ supportedRazorpayEvents →
    e.processingStatus = .processed → e ∈ x.post.db.webhookEvents
  /-- A claim has a number above every number the event had before. -/
  claims : ∀ before x after, tr = before ++ x :: after → ∀ worker eventId claimed,
    x.label = .processor worker (.claim eventId) →
    (x.post.processors worker).event? = some claimed →
    claimed.id = eventId ∧
    (∃ e ∈ x.post.db.webhookEvents, e.id = eventId ∧
      e.processingAttemptCount = claimed.processingAttemptCount) ∧
    ∀ y ∈ before ++ [x], ∀ e ∈ y.pre.db.webhookEvents, e.id = eventId →
      e.processingAttemptCount < claimed.processingAttemptCount
  /-- A worker whose number is no longer the row's changes nothing. -/
  stale : ∀ x ∈ tr, ∀ worker l claimed, ProcessorMoved x worker l claimed →
    ∀ e ∈ x.pre.db.webhookEvents, e.id = claimed.id →
    e.processingAttemptCount ≠ claimed.processingAttemptCount →
    x.post.db.webhookEvents = x.pre.db.webhookEvents ∧
    (isPaymentLinkEvent claimed = false →
      x.post.db.cases = x.pre.db.cases ∧ x.post.db.caseEvents = x.pre.db.caseEvents)

/-- An event that has turned PROCESSED does not turn again. -/
theorem turnsProcessed_once {s s' : System} {x y : Run.Step System Label}
    {mid after : List (Run.Step System Label)} (hhints : HintsOk s)
    (h : Run.Trace step s (x :: (mid ++ y :: after)) s') {eventId : Uuid}
    (hx : TurnsProcessed x eventId) : ¬ TurnsProcessed y eventId := by
  obtain ⟨rfl, hstep, hrest⟩ := h.of_cons
  obtain ⟨m, hmid, hy⟩ := hrest.of_append
  obtain ⟨rfl, -, -⟩ := hy.of_cons
  obtain ⟨e, he, e', he', hid, hid', htype, -, hdone⟩ := hx
  -- the row the first turn left is the row of the event, of the same type
  have htype' : e'.eventType ∈ supportedRazorpayEvents := by
    obtain ⟨e'', he'', hkept⟩ := (step_commit hhints hstep).kept he
    rw [Table.eq_of_key_eq he' he'' (hid'.trans (hkept.id_eq.trans hid).symm), hkept.type_eq]
    exact htype
  obtain ⟨e₁, he₁, hkept⟩ := kept_trace (hintsOk_step hhints hstep) hmid he'
  rw [hkept.processed htype' hdone] at he₁
  rintro ⟨e₂, he₂, _, -, hid₂, -, -, hopen, -⟩
  rw [Table.eq_of_key_eq he₂ he₁ (hid₂.trans hid'.symm)] at hopen
  exact hopen hdone

/--
**Webhook processing is fenced.**  Along every run, with any number of workers, crashes,
failed reads and reclaimed leases: case effects and the turn to PROCESSED are one
transaction and happen at most once for an event, a processed event stays processed,
attempt numbers strictly increase from claim to claim, and a superseded worker writes
nothing, whether it succeeds or fails.
-/
theorem webhook_fenced {clock : Int} {tr : List (Run.Step System Label)} {s : System}
    (h : RunTrace clock tr s) : Fenced tr := by
  have hpre := fun (x : Run.Step System Label) (hx : x ∈ tr) =>
    processorsOk_reachable (h.reachable_pre hx)
  refine ⟨?_, ?_, ?_, ?_, ?_, ?_⟩
  · intro x hx worker l claimed hmoved hkind heffect
    obtain ⟨hhints, hok⟩ := hpre x hx
    exact (applied_step hhints hok (h.step_of_mem hx) hmoved hkind (.inl heffect)).turned
  · intro x hx worker l claimed hmoved hkind hturned
    obtain ⟨hhints, hok⟩ := hpre x hx
    exact applied_step hhints hok (h.step_of_mem hx) hmoved hkind (.inr hturned)
  · rintro before x mid y after rfl eventId hx
    obtain ⟨m, hbefore, hrest⟩ := h.of_append
    exact turnsProcessed_once (processorsOk_reachable ⟨before, hbefore⟩).1 hrest hx
  · intro x hx e he htype hstatus
    obtain ⟨e', he', hkept⟩ := (step_commit (hpre x hx).1 (h.step_of_mem hx)).kept he
    rwa [hkept.processed htype hstatus] at he'
  · rintro before x after rfl worker eventId claimed hlabel hevent
    have hx : x ∈ before ++ x :: after := by simp
    have hstep := h.step_of_mem hx
    rw [hlabel] at hstep
    obtain ⟨row, hstored, -, rfl, hmem⟩ := claim_commits hstep hevent
    have hid : row.id = eventId := Table.get?_key hstored
    refine ⟨hid, ⟨_, hmem, hid, rfl⟩, ?_⟩
    intro y hy e he heid
    -- every row the event had before is kept up to the claim
    obtain ⟨m, hbefore, hrest⟩ := h.of_append
    obtain ⟨rfl, -, -⟩ := hrest.of_cons
    have hkept : ∃ e' ∈ x.pre.db.webhookEvents, e.Kept e' := by
      rcases List.mem_append.mp hy with hy | hy
      · obtain ⟨first, last, hsplit, hfirst, hlast⟩ := hbefore.split hy
        have hy' : y ∈ before ++ x :: after := List.mem_append_left _ hy
        have htail : Run.Trace step y.pre (y :: last) x.pre := hlast.cons (h.step_of_mem hy')
        exact kept_trace (hpre y hy').1 htail he
      · rw [List.mem_singleton] at hy
        subst hy
        exact ⟨e, he, .refl e⟩
    obtain ⟨e', he', hkept⟩ := hkept
    have hrow : e' = row := Table.eq_of_key_eq he' (Table.mem_of_get? hstored)
      (hkept.id_eq.trans (heid.trans hid.symm))
    have hle := hkept.attempt_le
    rw [hrow] at hle
    exact Nat.lt_succ_of_le hle
  · intro x hx worker l claimed hmoved e he hid hstale
    obtain ⟨hhints, hok⟩ := hpre x hx
    have hstep := h.step_of_mem hx
    rw [hmoved.label] at hstep
    exact stale_step hhints hok hstep hmoved.event he hid hstale

end Arc

namespace Arc

attribute [local instance] asciiPlatform

/-- A worker whose lease has run out fails after another one has finished its event. -/
def supersededRun : List Label := [
  .service (.ingest samplePayload "evt_1" (.str "d") 1),
  .processor 0 (.claim 1),
  .tick 120000000,
  .processor 1 (.claim 1),
  .processor 0 (.fetch .noResponse .noResponse),
  .processor 1 (.fetch (.response 200 (some samplePayment)) .noResponse),
  .processor 1 (.apply ⟨10, 0⟩),
  .processor 0 .markFailed]

theorem webhook_fenced_superseded : ∃ tr s, RunTrace 0 tr s ∧
    tr.map Run.Step.label = supersededRun ∧ Fenced tr := by
  have hrun : (Run.replay step (System.initial 0) supersededRun).isSome = true := by decide +kernel
  obtain ⟨tr, s, htr, hlabels, -⟩ := Run.Trace.of_isSome hrun
  exact ⟨tr, s, htr, hlabels, webhook_fenced htr⟩

end Arc
