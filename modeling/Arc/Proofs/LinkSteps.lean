/-
Every step keeps the links invariant.

The steps that matter are those of executors: a claim, the calls of the provider, and
the finalizations.  Each of them is one lemma, and `LinksOk.step` puts them together
with the steps of the provider, of the clock, and of everybody else, who at most write
a column of an action that the invariant does not read.
-/
import Arc.Proofs.Authority
import Arc.Proofs.LinkInvariant

namespace Arc

open Store

variable [Platform]

/-- The next phase of a worker keeps its claim, and says what is true of its reference. -/
def NextOk (s : System) (worker : Nat) (phase : ExecutorPhase) : Prop :=
  ∀ held, phase.held? = some held → (s.executors worker).held? = some held ∧
    (held.claim.action = .createRecoveryLink → ∀ r ∈ s.db.recoveryActions,
      r.id = held.claim.recoveryActionId → ∀ referenceId, r.externalReference = some referenceId →
      phase.LinksOk (s.provider.linksOf referenceId) (s.provider.openOf s.clock referenceId)
        referenceId (held.lease.attempt = r.executionAttemptCount))

theorem nextOk_idle (s : System) (worker : Nat) : NextOk s worker .idle :=
  fun _ h => (by cases h)

theorem NextOk.update {s : System} {worker : Nat} {phase : ExecutorPhase}
    (h : NextOk s worker phase) (other : Nat) (held : HeldClaim)
    (hheld : (Function.update s.executors worker phase other).held? = some held) :
    (s.executors other).held? = some held ∧
      (Function.update s.executors worker phase other = s.executors other ∨
      (held.claim.action = .createRecoveryLink → ∀ r ∈ s.db.recoveryActions,
        r.id = held.claim.recoveryActionId → ∀ referenceId,
        r.externalReference = some referenceId →
        (Function.update s.executors worker phase other).LinksOk
          (s.provider.linksOf referenceId) (s.provider.openOf s.clock referenceId) referenceId
          (held.lease.attempt = r.executionAttemptCount))) := by
  by_cases hother : other = worker
  · subst hother
    rw [Function.update_self] at hheld ⊢
    exact ⟨(h held hheld).1, .inr (h held hheld).2⟩
  · rw [Function.update_of_ne hother] at hheld ⊢
    exact ⟨hheld, .inl rfl⟩

/-- A worker moves to its next phase, and nothing is written. -/
theorem LinksOk.move {s : System} (h : LinksOk s) {worker : Nat} {phase : ExecutorPhase}
    (hnext : NextOk s worker phase) :
    LinksOk { s with executors := Function.update s.executors worker phase } :=
  h.write rfl rfl (fun r hr => ⟨r, hr, .refl r, .inl rfl⟩) (fun r hr => ⟨r, hr, .refl r⟩)
    hnext.update

/-- A worker writes a row and moves to its next phase. -/
theorem LinksOk.put {s : System} (h : LinksOk s) {worker : Nat} {phase : ExecutorPhase}
    (hnext : NextOk s worker phase) {record record' : RecoveryActionRecord} {w : CaseWork}
    (hrecord : record ∈ s.db.recoveryActions) (hsame : SameLedger record record')
    (hstatus : record'.action = .createRecoveryLink → RowOk s.clock s.provider record' ∧
      (record'.executionStatus = .indeterminate ∨ record'.executionStatus = .failed →
        ∀ other held, other ≠ worker → (s.executors other).held? = some held →
        held.claim.recoveryActionId = record'.id → ¬ held.lease.Running s.clock) ∧
      (record'.executionStatus = .indeterminate ∨ record'.executionStatus = .failed →
        phase.held? = none)) :
    LinksOk { s with
      db := ({ s.db with recoveryActions := s.db.recoveryActions.put record' }).commitCase w
      executors := Function.update s.executors worker phase } := by
  obtain ⟨hrows, hback⟩ := rows_put hrecord hsame
  refine h.write rfl rfl (fun r' hr' => ?_) hback hnext.update
  obtain ⟨r, hr, hsame', hkept | rfl⟩ := hrows r' hr'
  · exact ⟨r, hr, hsame', .inl hkept⟩
  · refine ⟨r, hr, hsame', .inr fun haction => ?_⟩
    obtain ⟨hrow, hquiet, hended⟩ := hstatus haction
    refine ⟨hrow, fun hopen other held hheld hid => ?_⟩
    by_cases hother : other = worker
    · subst hother
      replace hheld : (Function.update s.executors other phase other).held? = some held := hheld
      rw [Function.update_self, hended hopen] at hheld
      cases hheld
    · replace hheld : (Function.update s.executors worker phase other).held? = some held := hheld
      rw [Function.update_of_ne hother] at hheld
      exact hquiet hopen other held hother hheld hid

/-! ### Answers of the provider

The provider's answers reach the program through the client, which turns some of them
into errors. The lemmas say what is known after each result: a truthful lookup without a
match leaves no link, a refused creation makes none.
-/

theorem LookupTruthful.nil {p : Provider} {request : PaymentLinkCreateRequest}
    {out : HttpOutcome (List PaymentLinkSnapshot)} (h : LookupTruthful p request out)
    (hfound : lookupByReference request.referenceId out = .ok []) :
    p.linksOf request.referenceId = [] := by
  unfold LookupTruthful at h
  rw [hfound] at h
  simpa using h

theorem LookupTruthful.shown {p : Provider} {request : PaymentLinkCreateRequest}
    {out : HttpOutcome (List PaymentLinkSnapshot)} (h : LookupTruthful p request out)
    {found : List PaymentLinkSnapshot} (hfound : lookupByReference request.referenceId out = .ok found)
    {snapshot : PaymentLinkSnapshot} (hmem : snapshot ∈ found) :
    Shown (p.linksOf request.referenceId) request.referenceId snapshot := by
  unfold LookupTruthful at h
  rw [hfound] at h
  have hface := h.mem_iff.mp (List.mem_map_of_mem hmem)
  obtain ⟨link, hlink, hsame⟩ := List.mem_map.mp hface
  simp only [ProviderLink.face, PaymentLinkSnapshot.face, LinkFace.mk.injEq] at hsame
  exact ⟨hsame.2.1.symm.trans (mem_linksOf.mp hlink).2, link, hlink, hsame.1⟩

theorem CreateTruthful.shown {p : Provider} {call : Nat} {request : PaymentLinkCreateRequest}
    {out : HttpOutcome PaymentLinkSnapshot} (h : CreateTruthful p call request out)
    {snapshot : PaymentLinkSnapshot} (hcreated : createLink request out = .ok snapshot) :
    Shown (p.linksOf request.referenceId) request.referenceId snapshot := by
  unfold CreateTruthful at h
  rw [hcreated] at h
  obtain ⟨link, hlink, -, hsame⟩ := h
  simp only [ProviderLink.face, PaymentLinkSnapshot.face, LinkFace.mk.injEq] at hsame
  have href := createLink_reference hcreated
  exact ⟨href, link, mem_linksOf.mpr ⟨hlink, hsame.2.1.trans href⟩, hsame.1⟩

theorem CreateTruthful.refused {p : Provider} {call : Nat} {request : PaymentLinkCreateRequest}
    {out : HttpOutcome PaymentLinkSnapshot} (h : CreateTruthful p call request out)
    {e : PaymentLinkError} (hrefused : createLink request out = .error e) (he : e ≠ .uncertain) :
    (∀ x ∈ p.pending, x.call ≠ call) ∧ ∀ link ∈ p.links, link.call ≠ call := by
  unfold CreateTruthful at h
  rw [hrefused] at h
  cases e with
  | uncertain => exact absurd rfl he
  | _ => exact h

/-! ### One lemma for each step of an executor

The steps of an executor differ in the phase they start from and the row they write.
Each lemma names the next phase and what is known in it, and leaves the rest to
`LinksOk.move` and `LinksOk.put`.
-/

section

variable {s : System} {worker : Nat} {held : HeldClaim}

/-- The reference of a held claim is the one its row and its request name. -/
theorem LinksOk.reference_of (h : LinksOk s) {phase : ExecutorPhase}
    (hphase : s.executors worker = phase) (hheld : phase.held? = some held)
    (haction : held.claim.action = .createRecoveryLink) {r : RecoveryActionRecord}
    (hr : r ∈ s.db.recoveryActions) (hid : r.id = held.claim.recoveryActionId)
    {referenceId : String} (href : r.externalReference = some referenceId) :
    held.claim.referenceId = some referenceId ∧
      phase.LinksOk (s.provider.linksOf referenceId) (s.provider.openOf s.clock referenceId)
        referenceId (held.lease.attempt = r.executionAttemptCount) := by
  subst hphase
  have hholder := h.held worker held hheld haction r hr hid
  exact ⟨hholder.reference.trans href, hholder.phase referenceId href⟩

theorem LinksOk.lookedUp (h : LinksOk s) (hphase : s.executors worker = .claimed held)
    {request : PaymentLinkCreateRequest} {out : HttpOutcome (List PaymentLinkSnapshot)}
    (hrequest : paymentLinkRequest held.claim = .ok request)
    (htruthful : LookupTruthful s.provider request out) :
    NextOk s worker (afterLookup held request out) := by
  intro held' hheld'
  obtain rfl : held' = held := by
    simp only [afterLookup] at hheld'
    split at hheld'
    · exact (Option.some.inj hheld').symm
    · exact (Option.some.inj hheld').symm
    · split at hheld' <;> exact (Option.some.inj hheld').symm
    · exact (Option.some.inj hheld').symm
  refine ⟨by rw [hphase]; rfl, fun haction r hr hid referenceId href => ?_⟩
  obtain ⟨hreference, hclaimed⟩ := h.reference_of hphase rfl haction hr hid href
  have hsame := paymentLinkRequest_reference hrequest
  rw [hreference, Option.some.injEq] at hsame
  subst hsame
  simp only [afterLookup]
  split
  · exact fun _ hfailed => (by cases hfailed)
  · rename_i hfound
    exact fun hnew => ⟨htruthful.nil hfound, hclaimed hnew⟩
  · rename_i snapshot hfound
    split
    · exact htruthful.shown hfound (List.mem_singleton.mpr rfl)
    · exact fun _ hfailed => (by cases hfailed)
  · exact fun _ hfailed => (by cases hfailed)

theorem LinksOk.answered (h : LinksOk s) {call : Nat}
    (hphase : s.executors worker = .awaiting held call)
    {request : PaymentLinkCreateRequest} {out : HttpOutcome PaymentLinkSnapshot}
    (hrequest : paymentLinkRequest held.claim = .ok request)
    (htruthful : CreateTruthful s.provider call request out) :
    NextOk s worker (afterCreate held request out) := by
  intro held' hheld'
  obtain rfl : held' = held := by
    simp only [afterCreate] at hheld'
    split at hheld' <;> exact (Option.some.inj hheld').symm
  refine ⟨by rw [hphase]; rfl, fun haction r hr hid referenceId href => ?_⟩
  obtain ⟨hreference, hawaiting⟩ := h.reference_of hphase rfl haction hr hid href
  have hsame := paymentLinkRequest_reference hrequest
  rw [hreference, Option.some.injEq] at hsame
  subst hsame
  simp only [afterCreate]
  split
  · rename_i snapshot hcreated
    exact htruthful.shown hcreated
  · exact fun _ hfailed => (by cases hfailed)
  · rename_i e hne hrefused
    -- whatever the reference had was of this call, and this call made nothing
    intro hnew _
    obtain ⟨hpending, hlinks⟩ := htruthful.refused hrefused hne
    obtain ⟨hmade, hopen⟩ := hawaiting hnew
    refine ⟨List.eq_nil_iff_forall_not_mem.mpr fun x hx => ?_,
      List.eq_nil_iff_forall_not_mem.mpr fun x hx => ?_⟩
    · exact hlinks x (mem_linksOf.mp hx).1 (hmade x hx)
    · exact hpending x (mem_openOf.mp hx).1 (hopen x hx)

theorem LinksOk.cancelAnswered (h : LinksOk s) {snapshot : PaymentLinkSnapshot}
    (hphase : s.executors worker = .cancelling held snapshot)
    {out : HttpOutcome PaymentLinkSnapshot}
    (htruthful : CancelTruthful s.provider snapshot.id out) :
    NextOk s worker (.compensated held snapshot (cancellationOutcome snapshot.id out)) := by
  intro held' hheld'
  cases hheld'
  refine ⟨by rw [hphase]; rfl, fun haction r hr hid referenceId href => ?_⟩
  obtain ⟨-, hshown⟩ := h.reference_of hphase rfl haction hr hid href
  refine ⟨hshown, fun cancelled hout => ?_⟩
  unfold CancelTruthful at htruthful
  rw [hout] at htruthful
  obtain ⟨link, hlink, hlinkId, hface, hdead⟩ := htruthful
  obtain ⟨link', hlink', hlinkId'⟩ := hshown.made
  obtain ⟨hmem, hreference⟩ := mem_linksOf.mp hlink'
  obtain rfl : link = link' := eq_of_link_id h.ids hlink hmem (hlinkId.trans hlinkId'.symm)
  simp only [ProviderLink.face, PaymentLinkSnapshot.face, LinkFace.mk.injEq] at hface
  exact ⟨hface.2.1.symm.trans hreference, link, hlink', hdead⟩

theorem LinksOk.problem (h : LinksOk s) (hok : HeldOk s) {problem : ProviderProblem}
    (hphase : s.executors worker = .troubled held problem)
    (haction : held.claim.action = .createRecoveryLink) {c : PaymentCase}
    {record : RecoveryActionRecord} {now : Int} {w : CaseWork}
    (hlocked : Locked s.db held.claim c record)
    (hopen : record.executionStatus ∉ finalExecutionStatuses)
    (howned : held.lease.attempt = record.executionAttemptCount ∨
      (problem.status = .indeterminate ∧ hasFreshLease record s.clock = false)) :
    LinksOk { s with
      db := ({ s.db with
        recoveryActions := s.db.recoveryActions.put (record.withProblem problem now)
        }).commitCase w
      executors := Function.update s.executors worker .idle } := by
  have hheld : (s.executors worker).held? = some held := by rw [hphase]; rfl
  obtain ⟨hcarries, -⟩ := hok.locked hheld hlocked
  have hrecord := Table.mem_of_get? hlocked.record_eq
  have haction' : record.action = .createRecoveryLink := hcarries.action_eq.trans haction
  have hrow := h.rows record hrecord haction'
  have hsame : SameLedger record (record.withProblem problem now) :=
    ⟨⟨rfl, rfl, rfl, rfl⟩, rfl, rfl, rfl⟩
  have hstatus : (record.withProblem problem now).executionStatus = problem.status := rfl
  refine h.put (nextOk_idle s worker) hrecord hsame fun _ => ⟨⟨?_, hrow.reference, ?_, ?_⟩, ?_, ?_⟩
  · rw [hstatus]
    rcases problem.known with ⟨hknown, -⟩ | ⟨hknown, -⟩ <;> simp [hknown]
  · rw [hstatus]
    intro hfailed referenceId href
    obtain ⟨-, htroubled⟩ :=
      h.reference_of hphase rfl haction hrecord hcarries.id_eq (href : record.externalReference = _)
    rcases howned with hnewest | ⟨hindeterminate, -⟩
    · exact htroubled hnewest hfailed
    · rw [hindeterminate] at hfailed
      cases hfailed
  · rw [hstatus]
    rcases problem.known with ⟨hknown, -⟩ | ⟨hknown, -⟩ <;> simp [hknown]
  · -- no other claim on the row has a lease that is running
    intro _ other held' hother hheld' hid hrunning
    have hid' : held'.claim.recoveryActionId = record.id := hid
    obtain ⟨r, hr, hcarries', hholder⟩ := h.row hok hheld' (by
      obtain ⟨r, hr, hcarries'⟩ := hok other held' hheld'
      rw [← hcarries'.action_eq, Table.eq_of_key_eq hr hrecord (hcarries'.id_eq.trans hid')]
      exact haction')
    obtain rfl : r = record := Table.eq_of_key_eq hr hrecord (hcarries'.id_eq.trans hid')
    rcases howned with hnewest | ⟨-, hstale⟩
    · exact hother (h.alone other worker held' held hheld' hheld
        (hid'.trans hcarries.id_eq) ((hholder.running hrunning).trans hnewest.symm))
    · exact h.expired hr haction' hopen hstale (le_refl _) hholder.lease hholder.running
        (fun hindeterminate => h.quiet r hr haction' (.inl hindeterminate) other held' hheld' hid')
        hrunning
  · exact fun _ => rfl

/-- The row that is written for a link keeps its reference. -/
theorem LinksOk.finalized (h : LinksOk s) (hok : HeldOk s) {snapshot : PaymentLinkSnapshot}
    {adopted required : Bool} (hphase : s.executors worker = .linked held snapshot adopted)
    (haction : held.claim.action = .createRecoveryLink) {c : PaymentCase} {now : Int}
    {record record' : RecoveryActionRecord} {w : CaseWork}
    (hlocked : Locked s.db held.claim c record)
    (hout : LinkOutcome s.db c record snapshot now required record' w) :
    LinksOk { s with
      db := ({ s.db with recoveryActions := s.db.recoveryActions.put record' }).commitCase w
      executors := Function.update s.executors worker
        (if required then .compensating held snapshot else .idle) } := by
  have hheld : (s.executors worker).held? = some held := by rw [hphase]; rfl
  obtain ⟨hcarries, -⟩ := hok.locked hheld hlocked
  have hrecord := Table.mem_of_get? hlocked.record_eq
  have hrow := h.rows record hrecord (hcarries.action_eq.trans haction)
  obtain ⟨referenceId, href⟩ := Option.isSome_iff_exists.mp hrow.reference
  obtain ⟨-, hshown⟩ := h.reference_of hphase rfl haction hrecord hcarries.id_eq href
  have hreference : some snapshot.referenceId = record.externalReference := by
    rw [href, hshown.reference_eq]
  cases hout with
  | succeeded hcontext hw hadvances =>
      have hsame : SameLedger record (record.succeededWith snapshot now) :=
        ⟨⟨rfl, rfl, rfl, rfl⟩, hreference, rfl, rfl⟩
      refine h.put (nextOk_idle s worker) hrecord hsame fun _ => ⟨⟨?_, rfl, ?_, ?_⟩, ?_, ?_⟩ <;>
        simp [RecoveryActionRecord.succeededWith]
  | stale hcontext =>
      have hsame : SameLedger record (record.staleWith snapshot) :=
        ⟨⟨rfl, rfl, rfl, rfl⟩, hreference, rfl, rfl⟩
      have hnext : NextOk s worker (.compensating held snapshot) := by
        intro held' hheld'
        cases hheld'
        refine ⟨hheld, fun haction' r hr hid referenceId' href' => ?_⟩
        exact (h.reference_of hphase rfl haction' hr hid href').2
      refine h.put hnext hrecord hsame fun _ => ⟨⟨?_, rfl, ?_, ?_⟩, ?_, ?_⟩ <;>
        simp [RecoveryActionRecord.staleWith]

theorem LinksOk.compensated (h : LinksOk s) (hok : HeldOk s) {snapshot : PaymentLinkSnapshot}
    {outcome : CancellationOutcome} (hphase : s.executors worker = .compensated held snapshot outcome)
    (haction : held.claim.action = .createRecoveryLink) {c : PaymentCase}
    {record : RecoveryActionRecord} {w : CaseWork} (hlocked : Locked s.db held.claim c record) :
    LinksOk { s with
      db := ({ s.db with
        recoveryActions := s.db.recoveryActions.put (compensatedRecord record snapshot outcome).1
        }).commitCase w
      executors := Function.update s.executors worker .idle } := by
  have hheld : (s.executors worker).held? = some held := by rw [hphase]; rfl
  obtain ⟨hcarries, -⟩ := hok.locked hheld hlocked
  have hrecord := Table.mem_of_get? hlocked.record_eq
  have hrow := h.rows record hrecord (hcarries.action_eq.trans haction)
  obtain ⟨referenceId, href⟩ := Option.isSome_iff_exists.mp hrow.reference
  obtain ⟨-, hshown, hdead⟩ := h.reference_of hphase rfl haction hrecord hcarries.id_eq href
  obtain ⟨hsameAction, -, hcount, hstarted, hstatus, hreference, -⟩ :=
    compensatedRecord_cases record snapshot outcome
  have hreference' : (compensatedRecord record snapshot outcome).1.externalReference
      = some referenceId := by
    rw [hreference]
    cases outcome with
    | inl cancelled => exact congrArg some (hdead cancelled rfl).1
    | inr errorCode => exact congrArg some hshown.reference_eq
  have hsame : SameLedger record (compensatedRecord record snapshot outcome).1 :=
    ⟨hsameAction, hreference'.trans href.symm, hcount, hstarted⟩
  refine h.put (nextOk_idle s worker) hrecord hsame fun _ => ⟨⟨?_, ?_, ?_, ?_⟩, ?_, fun _ => rfl⟩
  · rw [hstatus]
    cases outcome <;> simp
  · rw [hreference']
    rfl
  · rw [hstatus]
    cases outcome <;> simp
  · rw [hstatus, hreference']
    intro hcancelled referenceId' href'
    cases href'
    cases outcome with
    | inl cancelled => exact (hdead cancelled rfl).2
    | inr errorCode => cases hcancelled
  · rw [hstatus]
    cases outcome <;> simp

end

/-! ### All steps -/

theorem LinksOk.executor {s : System} (h : LinksOk s) (hok : HeldOk s) {worker : Nat}
    {l : ExecutorLabel} {m : ExecutorMove} (haction : (s.executors worker).ActionOk)
    (htimely : Timely s (.executor worker l)) (htruthful : Truthful s (.executor worker l))
    (howned : ProblemOwned s (.executor worker l)) (hsettled : RetrySettled s (.executor worker l))
    (hm : ExecutorStep s (s.executors worker) l m) :
    LinksOk { s with
      db := m.db
      provider := m.provider
      executors := Function.update s.executors worker m.phase } := by
  generalize hphase : s.executors worker = phase at haction hm
  cases hm with
  | ended => exact h.move (nextOk_idle s worker)
  | claimed hnow hclaims hprepare =>
      obtain ⟨c, proposal, decision, inputs, record, hrow⟩ := hclaims.row
      exact h.prepare hok hphase hnow hrow (hsettled (claimsAction_of_eq_ok hprepare))
  | @internal held now c record record' w hnow hother hlocked hopen hout =>
      have hheld : (s.executors worker).held? = some held := by rw [hphase]; rfl
      obtain ⟨hcarries, -⟩ := hok.locked hheld hlocked
      obtain ⟨hsameAction, hcount, hstarted⟩ := hout.count
      have hreference : record'.externalReference = record.externalReference := by
        cases hout <;> rfl
      refine h.put (nextOk_idle s worker) (Table.mem_of_get? hlocked.record_eq)
        ⟨hsameAction, hreference, hcount, hstarted⟩ fun hlink => absurd ?_ hother
      rw [← hcarries.action_eq, ← hsameAction.action_eq]
      exact hlink
  | @lookedUp held request out hlink hrequest =>
      refine h.move (h.lookedUp hphase hrequest ?_)
      exact htruthful held (by rw [hphase]; rfl) request (by simp [hrequest, Except.toOption])
  | @sent held request hrequest =>
      have hrunning := htimely rfl held (by rw [hphase]; rfl)
      exact h.send hok hphase haction hrequest hrunning
  | @answered held call request out hrequest =>
      refine h.move (h.answered hphase hrequest ?_)
      simp only [Truthful, hphase] at htruthful
      exact htruthful request (by simp [hrequest, Except.toOption])
  | @problem held problem now c record hnow hlocked hopen =>
      simp only [ProblemOwned, hphase] at howned
      exact h.problem hok hphase haction hlocked hopen (howned record hlocked.record_eq hopen)
  | finalized hnow hlocked hout hfree => exact h.finalized hok hphase haction hlocked hout
  | @cancelSent held snapshot =>
      refine h.move fun held' hheld' => ?_
      cases hheld'
      refine ⟨by rw [hphase]; rfl, fun haction' r hr hid referenceId href => ?_⟩
      exact (h.reference_of hphase rfl haction' hr hid href).2
  | cancelAnswered =>
      simp only [Truthful, hphase] at htruthful
      exact h.move (h.cancelAnswered hphase htruthful)
  | compensated hlocked hfree => exact h.compensated hok hphase haction hlocked

/-- A step of anybody else writes no column of an action that the invariant reads. -/
theorem Commit.rows_kept {s : System} {l : Label} {db' : Db} (h : Commit s l db')
    (hl : ∀ worker el, l ≠ .executor worker el) :
    (∀ r' ∈ db'.recoveryActions, ∃ r ∈ s.db.recoveryActions, SameLedger r r' ∧
      r'.executionStatus = r.executionStatus) ∧
    (∀ r ∈ s.db.recoveryActions, ∃ r' ∈ db'.recoveryActions, SameLedger r r') := by
  have hsame : (∀ r' ∈ s.db.recoveryActions, ∃ r ∈ s.db.recoveryActions, SameLedger r r' ∧
      r'.executionStatus = r.executionStatus) ∧
      (∀ r ∈ s.db.recoveryActions, ∃ r' ∈ s.db.recoveryActions, SameLedger r r') :=
    ⟨fun r hr => ⟨r, hr, .refl r, rfl⟩, fun r hr => ⟨r, hr, .refl r⟩⟩
  cases h with
  | executed hm => exact absurd rfl (hl _ _)
  | @reconciled worker claimed snapshot fetchedAt fresh event result hphase howns hstatus hresult =>
      have hrows : result.db.recoveryActions = s.db.recoveryActions := by
        rw [reconcileEntity_frame hresult]
      show (∀ r' ∈ result.db.recoveryActions, _) ∧ ∀ r ∈ _, ∃ r' ∈ result.db.recoveryActions, _
      rw [hrows]
      exact hsame
  | @observed l claim snapshot source fresh action c attributions observation observations w
      hworker hobservable hevidence hinsert hw hmoves =>
      have haction := Table.mem_of_get? hobservable.action_eq
      have hledger : SameLedger action { action with externalStatus := some snapshot.status } :=
        ⟨⟨rfl, rfl, rfl, rfl⟩, rfl, rfl, rfl⟩
      obtain ⟨hrows, hback⟩ := rows_put haction hledger
      refine ⟨fun r' hr' => ?_, hback⟩
      rcases (Table.mem_put_of_mem haction hledger.id_eq).mp hr' with ⟨hr', -⟩ | rfl
      · exact ⟨r', hr', .refl r', rfl⟩
      · exact ⟨action, haction, hledger, rfl⟩
  | _ => exact hsame

/-- **Every step keeps the invariant of the links.** -/
theorem LinksOk.step {s s' : System} {l : Label} (h : LinksOk s) (hhints : HintsOk s)
    (hok : HeldOk s) (haction : ∀ worker, (s.executors worker).ActionOk) (htimely : Timely s l)
    (htruthful : Truthful s l) (howned : ProblemOwned s l) (hsettled : RetrySettled s l)
    (hs : step s l = some s') : LinksOk s' := by
  have hcommit := step_commit hhints hs
  -- a step of anybody but executors, the provider and the clock
  have hothers : (∀ worker el, l ≠ .executor worker el) → s'.clock = s.clock →
      s'.provider = s.provider → s'.executors = s.executors → LinksOk s' := by
    intro hl hclock hprovider hexecutors
    obtain ⟨hrows, hback⟩ := hcommit.rows_kept hl
    refine h.write hclock hprovider (fun r' hr' => ?_) hback fun worker held hheld => ?_
    · obtain ⟨r, hr, hsame, hstatus⟩ := hrows r' hr'
      exact ⟨r, hr, hsame, .inl hstatus⟩
    · rw [hexecutors] at hheld ⊢
      exact ⟨hheld, .inl rfl⟩
  cases l with
  | executor worker el =>
      obtain ⟨m, hm, rfl⟩ := Option.map_eq_some_iff.mp hs
      exact h.executor hok (haction worker) htimely htruthful howned hsettled (executorStep_cases hm)
  | provider pl =>
      obtain ⟨p, hp, rfl⟩ := Option.map_eq_some_iff.mp hs
      cases pl with
      | applyCreate call linkId =>
          simp only [providerStep] at hp
          split at hp
          · cases hp
          · rename_i create hfind
            split at hp
            · cases hp
            · rename_i hfree
              cases hp
              have hcall : create.call = call := by simpa using List.find?_some hfind
              exact h.applyCreate hfind (by simpa using hfree)
                (htimely create (List.mem_of_find?_eq_some hfind) hcall)
      | refuseCreate call =>
          cases hp
          exact h.refuse call
      | moveLink linkId status =>
          simp only [providerStep] at hp
          split at hp
          · rename_i hlive
            cases hp
            exact h.moveLink hlive
          · cases hp
  | tick d =>
      cases hs
      exact h.settle rfl rfl (Int.le_add_of_nonneg_right (Int.natCast_nonneg d)) (fun _ => .refl _)
        (openOf_tick s.provider s.clock d) (fun _ hx => hx) rfl
  | processor worker pl =>
      obtain ⟨m, -, hpost⟩ := Option.map_eq_some_iff.mp hs
      exact hothers (fun _ _ => by simp) (by rw [← hpost]) (by rw [← hpost]) (by rw [← hpost])
  | observer worker ol =>
      obtain ⟨m, -, hpost⟩ := Option.map_eq_some_iff.mp hs
      exact hothers (fun _ _ => by simp) (by rw [← hpost]) (by rw [← hpost]) (by rw [← hpost])
  | strategist worker sl =>
      obtain ⟨m, -, hpost⟩ := Option.map_eq_some_iff.mp hs
      exact hothers (fun _ _ => by simp) (by rw [← hpost]) (by rw [← hpost]) (by rw [← hpost])
  | approver worker al =>
      obtain ⟨m, -, hpost⟩ := Option.map_eq_some_iff.mp hs
      exact hothers (fun _ _ => by simp) (by rw [← hpost]) (by rw [← hpost]) (by rw [← hpost])
  | service sl =>
      have hpost := Option.some.inj hs
      exact hothers (fun _ _ => by simp) (by rw [← hpost]) (by rw [← hpost]) (by rw [← hpost])

end Arc
