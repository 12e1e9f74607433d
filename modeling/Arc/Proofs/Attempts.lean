/-
Attempts are counted once.

The counters of a case are written by one transaction only: the finalization that
hands a confirmed link to the customer.  `Uncounted` is what every other transaction
does to the cases, and `Delivers` is what that one does; each step of a deployment has
one of the two.  A delivery takes its case out of `POLICY_VALIDATED`, and nothing
brings a case back, so a case counts one delivery at most.
-/
import Arc.Proofs.CaseRows

namespace Arc

open Store

variable [Platform]

theorem transitionCase_counters {w w' : CaseWork} {t : CaseState} {reason source : String}
    (h : transitionCase w t reason source = .ok w') : w'.row.counters = w.row.counters := by
  rw [transitionCase_row h]
  rfl

/-! ### Transactions that count nothing

The counters stand on the row of the case, which almost every transaction rewrites.
`Uncounted` keeps of all that only that the counters stay and that a new case starts at
zero; every service but the executor's does no more than that to them.
-/

/-- What a transaction that counts no attempt does to the cases. -/
inductive Uncounted (db db' : Db) : Prop
  | unchanged (hcases : db'.cases = db.cases)
  | worked {c row : PaymentCase} (hc : c ∈ db.cases) (hid : row.id = c.id)
      (hcounters : row.counters = c.counters) (hcases : db'.cases = db.cases.put row)
  | created {new row : PaymentCase} {cases : Table PaymentCase}
      (hinsert : db.cases.insert? new = some cases) (hid : row.id = new.id)
      (hcounters : row.counters = (0, 0)) (hcases : db'.cases = cases.put row)

theorem Uncounted.refl (db : Db) : Uncounted db db := .unchanged rfl

/-- A stored case keeps its counters. -/
theorem Uncounted.kept {db db' : Db} (h : Uncounted db db') {c c' : PaymentCase}
    (hc : c ∈ db.cases) (hc' : c' ∈ db'.cases) (hid : c'.id = c.id) :
    c'.counters = c.counters := by
  cases h with
  | unchanged hcases =>
      rw [hcases] at hc'
      rw [Table.eq_of_key_eq hc' hc hid]
  | @worked c₀ row hc₀ hrow hcounters hcases =>
      rw [hcases] at hc'
      rcases (Table.mem_put_of_mem hc₀ hrow).mp hc' with ⟨hc', -⟩ | rfl
      · rw [Table.eq_of_key_eq hc' hc hid]
      · rw [hcounters, Table.eq_of_key_eq hc₀ hc (hrow.symm.trans hid)]
  | @created new row cases hinsert hrow hcounters hcases =>
      rw [hcases] at hc'
      have hnew : new ∈ cases := (Table.insert?_mem hinsert).mpr (.inr rfl)
      rcases (Table.mem_put_of_mem hnew hrow).mp hc' with ⟨hc', hne⟩ | rfl
      · rcases (Table.insert?_mem hinsert).mp hc' with hc' | rfl
        · rw [Table.eq_of_key_eq hc' hc hid]
        · exact absurd hrow.symm hne
      · exact absurd (hid.symm.trans hrow) (Table.insert?_fresh hinsert hc)

/-- A new case has counted nothing. -/
theorem Uncounted.new {db db' : Db} (h : Uncounted db db') {c' : PaymentCase}
    (hc' : c' ∈ db'.cases) (hnew : ∀ c ∈ db.cases, c.id ≠ c'.id) : c'.counters = (0, 0) := by
  cases h with
  | unchanged hcases => exact absurd rfl (hnew c' (hcases ▸ hc'))
  | @worked c₀ row hc₀ hrow hcounters hcases =>
      rw [hcases] at hc'
      rcases (Table.mem_put_of_mem hc₀ hrow).mp hc' with ⟨hc', -⟩ | rfl
      · exact absurd rfl (hnew c' hc')
      · exact absurd hrow.symm (hnew c₀ hc₀)
  | @created new row cases hinsert hrow hcounters hcases =>
      rw [hcases] at hc'
      have hnewMem : new ∈ cases := (Table.insert?_mem hinsert).mpr (.inr rfl)
      rcases (Table.mem_put_of_mem hnewMem hrow).mp hc' with ⟨hc', hne⟩ | rfl
      · rcases (Table.insert?_mem hinsert).mp hc' with hc' | rfl
        · exact absurd rfl (hnew c' hc')
        · exact absurd hrow.symm hne
      · exact hcounters

/-- What a step other than an executor's does to the cases. -/
theorem step_uncounted {s s' : System} {l : Label} (hhints : HintsOk s) (h : step s l = some s')
    (hother : ∀ worker el, l ≠ .executor worker el) : Uncounted s.db s'.db := by
  cases step_touches hhints h hother with
  | unchanged hcases => exact .unchanged hcases
  | worked hc hid hrow hcases => exact .worked hc hid hrow.counters_eq hcases
  | created hinsert hid hstate hcounters hstamp hrow hcases =>
      exact .created hinsert hid (hrow.counters_eq.trans hcounters) hcases

/-! ### Deliveries

The executor finalizes a row in several ways, and only one of them hands a link to the
customer. `Delivers` records that step with all it does at once: the row becomes
`SUCCEEDED`, the case moves to the wait for its outcome, and its counters go up by one.
-/

/-- No link action has become `SUCCEEDED`. -/
def Undelivered (db db' : Db) : Prop :=
  ∀ r' ∈ db'.recoveryActions, r'.action = .createRecoveryLink → r'.executionStatus = .succeeded →
    ∃ r ∈ db.recoveryActions, r.id = r'.id ∧ r.executionStatus = .succeeded

/-- The steps of a case that is handed a link. -/
def deliveredTransitions : List (Option CaseState × Option CaseState) :=
  [(some .policyValidated, some .actioned), (some .actioned, some .waitingForOutcome)]

/--
The step hands the customer a link: the case and the row it finds, and what it makes of
them.
-/
structure Delivers (x : Run.Step System Label) (worker : Nat) (held : HeldClaim)
    (snapshot : PaymentLinkSnapshot) (adopted : Bool) (c c' : PaymentCase)
    (r r' : RecoveryActionRecord) : Prop where
  label : ∃ now, x.label = .executor worker (.finalizeSuccess now)
  phase : x.pre.executors worker = .linked held snapshot adopted
  case_mem : c ∈ x.pre.db.cases
  case_mem' : c' ∈ x.post.db.cases
  case_id : c'.id = c.id
  row_mem : r ∈ x.pre.db.recoveryActions
  row_mem' : r' ∈ x.post.db.recoveryActions
  row_id : r'.id = r.id
  row_case : r.caseId = c.id
  row_claim : r.id = held.claim.recoveryActionId
  action : r'.action = .createRecoveryLink
  pending : r.executionStatus ≠ .succeeded
  succeeded : r'.executionStatus = .succeeded
  link : r'.externalReferenceId = some snapshot.id ∧
    r'.externalReference = some snapshot.referenceId
  state : c.currentState = .policyValidated
  state' : c'.currentState = .waitingForOutcome
  moves : ∃ new, x.post.db.eventsOf c.id = x.pre.db.eventsOf c.id ++ new ∧
    transitions new = deliveredTransitions
  attempts : c'.attemptCount = c.attemptCount + 1
  contacts : c'.contactAttemptCount = c.contactAttemptCount + 1
  /-- Nothing else is counted, and no other link action succeeds. -/
  only : (∀ d ∈ x.pre.db.cases, ∀ d' ∈ x.post.db.cases, d'.id = d.id → d.id ≠ c.id →
    d'.counters = d.counters) ∧
    (∀ d' ∈ x.post.db.cases, ∃ d ∈ x.pre.db.cases, d.id = d'.id) ∧
    ∀ q' ∈ x.post.db.recoveryActions, q'.id ≠ r.id → q' ∈ x.pre.db.recoveryActions

omit [Platform] in
/-- There is one way from `POLICY_VALIDATED` to the wait for an outcome. -/
theorem Chain.delivered {xs : List (Option CaseState × Option CaseState)}
    (h : Chain .policyValidated xs .waitingForOutcome) : xs = deliveredTransitions := by
  cases h with
  | @cons s t u rest hallowed h =>
      simp only [allowedTransitions, List.mem_cons, List.not_mem_nil, or_false] at hallowed
      rcases hallowed with rfl | rfl | rfl | rfl
      · cases h with
        | @cons s t u rest hallowed h =>
            simp only [allowedTransitions, List.mem_cons, List.not_mem_nil, or_false] at hallowed
            rcases hallowed with rfl | rfl | rfl | rfl
            · cases h with
              | nil => rfl
              | @cons s t u rest hallowed h =>
                  have hterminal : t ∈ terminalCaseStates := hallowed
                  rw [(h.eq_nil_of_terminal hterminal).2.symm] at hterminal
                  simp [terminalCaseStates] at hterminal
            all_goals cases (h.eq_nil_of_terminal (by decide)).2
      all_goals cases (h.eq_nil_of_terminal (by decide)).2

theorem Undelivered.of_rows {db db' : Db} (h : db'.recoveryActions = db.recoveryActions) :
    Undelivered db db' := fun r' hr' _ hsucceeded => ⟨r', h ▸ hr', rfl, hsucceeded⟩

/-- One row is written, and it is not a link that succeeds by it. -/
theorem Undelivered.of_put {db db' : Db} {r r' : RecoveryActionRecord}
    (hrows : db'.recoveryActions = db.recoveryActions.put r') (hr : r ∈ db.recoveryActions)
    (hid : r'.id = r.id)
    (hstatus : r'.action = .createRecoveryLink → r'.executionStatus = .succeeded →
      r.executionStatus = .succeeded) : Undelivered db db' := by
  intro x hx haction hsucceeded
  rw [hrows] at hx
  rcases (Table.mem_put_of_mem hr hid).mp hx with ⟨hx, -⟩ | rfl
  · exact ⟨x, hx, rfl, hsucceeded⟩
  · exact ⟨r, hr, hid.symm, hstatus haction hsucceeded⟩

theorem step_undelivered {s s' : System} {l : Label} (hhints : HintsOk s) (h : step s l = some s')
    (hother : ∀ worker el, l ≠ .executor worker el) : Undelivered s.db s'.db := by
  have hcommit := step_commit hhints h
  generalize s'.db = db' at hcommit ⊢
  cases hcommit with
  | executed hm => exact absurd rfl (hother _ _)
  | reconciled hphase howns hstatus hresult =>
      have hframe := congrArg Db.recoveryActions (reconcileEntity_frame hresult)
      exact .of_rows hframe
  | @observed l claim snapshot source fresh action c attributions observation observations w
      hworker hobservable hevidence hinsert hw hmoves =>
      exact .of_put rfl (Table.mem_of_get? hobservable.action_eq) rfl (fun _ h => h)
  | _ => exact .of_rows rfl

theorem Claims.undelivered {db db' : Db} {caseId newId : Uuid} {now : Int} {claim : ExecutionClaim}
    (h : Claims db caseId newId now db' claim) : Undelivered db db' := by
  obtain ⟨c, proposal, decision, inputs, record, hrow⟩ := h.row
  intro x hx haction hsucceeded
  rcases (hrow.rows x).mp hx with ⟨hx, -⟩ | rfl
  · exact ⟨x, hx, rfl, hsucceeded⟩
  · cases hsucceeded

theorem Claims.uncounted {db db' : Db} {caseId newId : Uuid} {now : Int} {claim : ExecutionClaim}
    (h : Claims db caseId newId now db' claim) : Uncounted db db' := by
  cases h with
  | built hid hauth hnone hbuild hinsert =>
      exact .worked (Table.mem_of_get? hauth.stored) rfl rfl rfl
  | stored hid hauth hsome hopen hvalid hlease =>
      exact .worked (Table.mem_of_get? hauth.stored) rfl rfl rfl

theorem InternalOutcome.uncounted {db db' : Db} {c : PaymentCase}
    {record record' : RecoveryActionRecord} {now : Int} {w : CaseWork}
    (h : InternalOutcome db c record now record' w) (hc : c ∈ db.cases)
    (hcases : db'.cases = db.cases.put w.row) : Uncounted db db' := by
  cases h with
  | stale => exact .worked hc rfl rfl hcases
  | unsupported hstate hw =>
      have hcounters := transitionCase_counters hw
      have hid := (transitionCase_advances hw).id_eq
      exact .worked hc hid hcounters hcases
  | done hstate hw =>
      obtain ⟨hmoved, state, -, hrow⟩ := moveCaseForInternalAction_eq_ok hw
      have hcounters := congrArg PaymentCase.counters hrow
      exact .worked hc hmoved.id_eq hcounters hcases

/-- What is known of the state a step is taken in. -/
structure Settled (s : System) : Prop where
  hints : HintsOk s
  held : HeldOk s
  executed : Executed s.db
  actions : ∀ worker, (s.executors worker).ActionOk

theorem settled_reachable {clock : Int} {s : System}
    (h : Run.Reachable step (System.initial clock) s) : Settled s := by
  obtain ⟨hhints, hheld, hexecuted⟩ := executed_reachable h
  exact ⟨hhints, hheld, hexecuted, actionOk_reachable h⟩

/-- The finalization of a link whose authority still holds delivers it. -/
theorem LinkOutcome.delivers {x : Run.Step System Label} {worker : Nat} {held : HeldClaim}
    {snapshot : PaymentLinkSnapshot} {adopted : Bool} {now : Int} {c : PaymentCase}
    {record : RecoveryActionRecord} {w : CaseWork} (hok : Settled x.pre)
    (hlabel : x.label = .executor worker (.finalizeSuccess now))
    (hphase : x.pre.executors worker = .linked held snapshot adopted)
    (hlocked : Locked x.pre.db held.claim c record)
    (hcontext : postRequestContextIsCurrent x.pre.db c (record.withProjection snapshot) now
      = .ok true)
    (hrow : w.row = c.attempted record.action)
    (hw : record.caseId = c.id → Advances (.lock c) w)
    (hdb : x.post.db = ({ x.pre.db with
      recoveryActions := x.pre.db.recoveryActions.put (record.succeededWith snapshot now)
      }).commitCase w) :
    Delivers x worker held snapshot adopted c w.row record (record.succeededWith snapshot now) := by
  have hheld : (x.pre.executors worker).held? = some held := by
    rw [hphase]
    rfl
  obtain ⟨hcarries, hcase⟩ := hok.held.locked hheld hlocked
  have hc := Table.mem_of_get? hlocked.case_eq
  have hr := Table.mem_of_get? hlocked.record_eq
  have hstate := postRequestContextIsCurrent_true hcontext
  have haction : record.action = .createRecoveryLink := by
    have hactionOk := hok.actions worker
    rw [hphase] at hactionOk
    exact hcarries.action_eq.trans hactionOk
  have hadvances := hw hcase
  have hid : w.row.id = c.id := hadvances.id_eq
  have hcases : x.post.db.cases = x.pre.db.cases.put w.row := by rw [hdb]; rfl
  have hrows : x.post.db.recoveryActions =
      x.pre.db.recoveryActions.put (record.succeededWith snapshot now) := by rw [hdb]; rfl
  have hrowId : (record.succeededWith snapshot now).id = record.id := rfl
  obtain ⟨new, hnew, hown, -, hchain⟩ := hadvances.added
  have hevents : x.post.db.caseEvents = x.pre.db.caseEvents ++ new := by
    rw [hdb]
    show x.pre.db.caseEvents ++ w.events = _
    rw [hnew]
    rfl
  refine
    { label := ⟨now, hlabel⟩
      phase := hphase
      case_mem := hc
      case_mem' := ?_
      case_id := hid
      row_mem := hr
      row_mem' := ?_
      row_id := rfl
      row_case := hcase
      row_claim := Table.get?_key hlocked.record_eq
      action := haction
      pending := ?_
      succeeded := rfl
      link := ⟨rfl, rfl⟩
      state := hstate
      state' := by rw [hrow]; rfl
      moves := ⟨new, ?_, ?_⟩
      attempts := by rw [hrow]; rfl
      contacts := ?_
      only := ⟨?_, ?_, ?_⟩ }
  · rw [hcases]
    exact (Table.mem_put_of_mem hc hid).mpr (.inr rfl)
  · rw [hrows]
    exact (Table.mem_put_of_mem hr hrowId).mpr (.inr rfl)
  · -- a row that had succeeded would have taken its case past its execution
    intro hsucceeded
    have hpast := hok.executed.past record hr (hok.executed.succeeded record hr hsucceeded) c hc
      hcase.symm
    rw [hstate] at hpast
    simp [observableStates] at hpast
  · rw [eventsOf_append hevents]
    exact congrArg _ (filter_own hown)
  · have hfrom : (CaseWork.lock c).row.currentState = .policyValidated := hstate
    rw [hfrom, hrow] at hchain
    exact hchain.delivered
  · rw [hrow]
    simp [PaymentCase.attempted, haction, customerContactActions]
  · intro d hd d' hd' hdid hne
    rw [hcases] at hd'
    rcases (Table.mem_put_of_mem hc hid).mp hd' with ⟨hd', -⟩ | rfl
    · rw [Table.eq_of_key_eq hd' hd hdid]
    · exact absurd (hdid.symm.trans hid) hne
  · intro d' hd'
    rw [hcases] at hd'
    rcases (Table.mem_put_of_mem hc hid).mp hd' with ⟨hd', -⟩ | rfl
    · exact ⟨d', hd', rfl⟩
    · exact ⟨c, hc, hid.symm⟩
  · intro q' hq' hne
    rw [hrows] at hq'
    rcases (Table.mem_put_of_mem hr hrowId).mp hq' with ⟨hq', -⟩ | rfl
    · exact hq'
    · exact absurd rfl hne

/-- **Every step delivers one link, or it counts nothing and no link succeeds.** -/
theorem step_attempts {x : Run.Step System Label} (hok : Settled x.pre)
    (h : step x.pre x.label = some x.post) :
    (Uncounted x.pre.db x.post.db ∧ Undelivered x.pre.db x.post.db) ∨
      ∃ worker held snapshot adopted c c' r r',
        Delivers x worker held snapshot adopted c c' r r' := by
  by_cases hother : ∀ worker el, x.label ≠ .executor worker el
  · exact .inl ⟨step_uncounted hok.hints h hother, step_undelivered hok.hints h hother⟩
  obtain ⟨worker, el, hlabel⟩ : ∃ worker el, x.label = .executor worker el := by
    simpa using hother
  have hs := h
  rw [hlabel] at hs
  obtain ⟨m, hm, hpost⟩ := Option.map_eq_some_iff.mp hs
  have hdb : x.post.db = m.db := by rw [← hpost]
  have hcases := executorStep_cases hm
  generalize hphase : x.pre.executors worker = phase at hcases
  have hheld : ∀ {held : HeldClaim}, phase.held? = some held →
      (x.pre.executors worker).held? = some held := fun hp => by rwa [hphase]
  rw [hdb]
  cases hcases with
  | claimed hnow hclaims => exact .inl ⟨hclaims.uncounted, hclaims.undelivered⟩
  | @internal held now c record record' w hnow haction hlocked hopen hout =>
      refine .inl ⟨hout.uncounted (Table.mem_of_get? hlocked.case_eq) rfl, ?_⟩
      obtain ⟨hsame, -⟩ := hout.count
      obtain ⟨hcarries, -⟩ := hok.held.locked (hheld rfl) hlocked
      refine .of_put rfl (Table.mem_of_get? hlocked.record_eq) hsame.id_eq (fun hlink => ?_)
      exact absurd (hcarries.action_eq.symm.trans (hsame.action_eq.symm.trans hlink)) haction
  | @problem held problem now c record hnow hlocked hopen =>
      refine .inl ⟨.worked (Table.mem_of_get? hlocked.case_eq) rfl rfl rfl, ?_⟩
      exact .of_put rfl (Table.mem_of_get? hlocked.record_eq) rfl
        (fun _ hsucceeded => absurd hsucceeded problem.status_ne_succeeded)
  | @finalized held snapshot adopted required now c record record' w hnow hlocked hout hfree =>
      cases hout with
      | succeeded hcontext hrow hw =>
          exact .inr ⟨worker, held, snapshot, adopted, c, w.row, record, _,
            LinkOutcome.delivers hok hlabel hphase hlocked hcontext hrow hw hdb⟩
      | stale hcontext =>
          refine .inl ⟨.worked (Table.mem_of_get? hlocked.case_eq) rfl rfl rfl, ?_⟩
          exact .of_put rfl (Table.mem_of_get? hlocked.record_eq) rfl
            (fun _ hsucceeded => by cases hsucceeded)
  | @compensated held snapshot outcome c record hlocked hfree =>
      refine .inl ⟨.worked (Table.mem_of_get? hlocked.case_eq) rfl rfl rfl, ?_⟩
      obtain ⟨hsame, -, -, -, hstatus, -⟩ := compensatedRecord_cases record snapshot outcome
      refine .of_put rfl (Table.mem_of_get? hlocked.record_eq) hsame.id_eq (fun _ hsucceeded => ?_)
      rw [hstatus] at hsucceeded
      cases outcome <;> cases hsucceeded
  | _ => exact .inl ⟨.refl _, .of_rows rfl⟩

/-! ### Links the provider confirmed -/

/-- The provider answers the worker with its link: found by a lookup, or created. -/
inductive Confirms (x : Run.Step System Label) (worker : Nat) (held : HeldClaim)
    (snapshot : PaymentLinkSnapshot) : Bool → Prop
  | found {request : PaymentLinkCreateRequest} {out : HttpOutcome (List PaymentLinkSnapshot)}
      (hlabel : x.label = .executor worker (.lookup out))
      (hphase : x.pre.executors worker = .claimed held)
      (hrequest : paymentLinkRequest held.claim = .ok request)
      (hanswer : lookupByReference request.referenceId out = .ok [snapshot])
      (hmatches : matchesRequest snapshot request = true) : Confirms x worker held snapshot true
  | created {request : PaymentLinkCreateRequest} {call : Nat}
      {out : HttpOutcome PaymentLinkSnapshot}
      (hlabel : x.label = .executor worker (.createAnswer out))
      (hphase : x.pre.executors worker = .awaiting held call)
      (hrequest : paymentLinkRequest held.claim = .ok request)
      (hanswer : createLink request out = .ok snapshot) : Confirms x worker held snapshot false

theorem afterLookup_linked {held held' : HeldClaim} {request : PaymentLinkCreateRequest}
    {out : HttpOutcome (List PaymentLinkSnapshot)} {snapshot : PaymentLinkSnapshot} {adopted : Bool}
    (h : afterLookup held request out = .linked held' snapshot adopted) :
    held' = held ∧ adopted = true ∧ lookupByReference request.referenceId out = .ok [snapshot] ∧
      matchesRequest snapshot request = true := by
  unfold afterLookup at h
  split at h
  · cases h
  · cases h
  · rename_i found hfound
    split at h
    · rename_i hmatches
      cases h
      exact ⟨rfl, rfl, hfound, hmatches⟩
    · cases h
  · cases h

theorem afterCreate_linked {held held' : HeldClaim} {request : PaymentLinkCreateRequest}
    {out : HttpOutcome PaymentLinkSnapshot} {snapshot : PaymentLinkSnapshot} {adopted : Bool}
    (h : afterCreate held request out = .linked held' snapshot adopted) :
    held' = held ∧ adopted = false ∧ createLink request out = .ok snapshot := by
  unfold afterCreate at h
  split at h
  · rename_i created hcreated
    cases h
    exact ⟨rfl, rfl, hcreated⟩
  · cases h
  · cases h

/-- **A link an executor is about to deliver was confirmed to it in an earlier step.** -/
theorem linked_confirmed {clock : Int} {tr : List (Run.Step System Label)} {s : System}
    (h : RunTrace clock tr s) {worker : Nat} {held : HeldClaim} {snapshot : PaymentLinkSnapshot}
    {adopted : Bool} (hlinked : s.executors worker = .linked held snapshot adopted) :
    ∃ y ∈ tr, Confirms y worker held snapshot adopted := by
  induction h with
  | nil => cases hlinked
  | @snoc tr s s' l htr hs ih =>
      rcases step_executors hs worker with hsame | ⟨el, m, rfl, hm, hphase, -⟩
      · obtain ⟨y, hy, hconfirms⟩ := ih (hsame ▸ hlinked)
        exact ⟨y, List.mem_append_left _ hy, hconfirms⟩
      rw [hphase] at hlinked
      refine ⟨⟨s, .executor worker el, s'⟩, by simp, ?_⟩
      generalize hbefore : s.executors worker = phase at hm
      cases hm with
      | lookedUp haction hrequest =>
          obtain ⟨rfl, rfl, hanswer, hmatches⟩ := afterLookup_linked hlinked
          exact .found rfl hbefore hrequest hanswer hmatches
      | answered hrequest =>
          obtain ⟨rfl, rfl, hanswer⟩ := afterCreate_linked hlinked
          exact .created rfl hbefore hrequest hanswer
      | @finalized held snapshot adopted required now c record record' w hnow hlocked hout hfree =>
          cases required <;> cases hlinked
      | _ => cases hlinked

/-! ### One delivery for a case

A delivery finds its case in `POLICY_VALIDATED` and leaves it past its execution, where
it stays. So a second delivery of the same case would find it in a state it cannot be
in, and the counters of a case are what one delivery has made them.
-/

/-- A case that is past its execution stays past it, along every run. -/
theorem observable_stays {s s' : System} {tr : List (Run.Step System Label)} (hok : Settled s)
    (h : Run.Trace step s tr s') {id : Uuid}
    (hpast : ∃ c ∈ s.db.cases, c.id = id ∧ c.currentState ∈ observableStates) :
    ∃ c ∈ s'.db.cases, c.id = id ∧ c.currentState ∈ observableStates := by
  have hboth : (HintsOk s' ∧ HeldOk s') ∧
      ∃ c ∈ s'.db.cases, c.id = id ∧ c.currentState ∈ observableStates := by
    refine h.invariant (I := fun s => (HintsOk s ∧ HeldOk s) ∧
      ∃ c ∈ s.db.cases, c.id = id ∧ c.currentState ∈ observableStates)
      ⟨⟨hok.hints, hok.held⟩, hpast⟩ ?_
    rintro x - ⟨⟨hhints, hheld⟩, c, hc, hid, hstate⟩ hx
    refine ⟨⟨hintsOk_step hhints hx, heldOk_step hhints hheld hx⟩, ?_⟩
    obtain ⟨c', hc', hprogressed⟩ :=
      ((step_commit hhints hx).caseEffect hheld).progressed hc
    obtain ⟨new, -, hchain⟩ := hprogressed.added
    exact ⟨c', hc', hprogressed.id_eq.trans hid, hchain.observable hstate⟩
  exact hboth.2

/-- Every case has counted nothing, or one delivery that it is past. -/
def Counted (db : Db) : Prop :=
  ∀ c ∈ db.cases, c.counters = (0, 0) ∨
    (c.counters = (1, 1) ∧ c.currentState ∈ observableStates)

theorem counted_step {x : Run.Step System Label} (hok : Settled x.pre) (hcounted : Counted x.pre.db)
    (h : step x.pre x.label = some x.post) : Counted x.post.db := by
  intro c' hc'
  -- a case that keeps its counters, and what its state has become
  have hkept : ∀ c ∈ x.pre.db.cases, c'.id = c.id → c'.counters = c.counters →
      c'.counters = (0, 0) ∨ (c'.counters = (1, 1) ∧ c'.currentState ∈ observableStates) := by
    intro c hc hid hcounters
    rw [hcounters]
    refine (hcounted c hc).imp_right fun ⟨hone, hstate⟩ => ⟨hone, ?_⟩
    obtain ⟨d, hd, hprogressed⟩ :=
      ((step_commit hok.hints h).caseEffect hok.held).progressed hc
    obtain ⟨new, -, hchain⟩ := hprogressed.added
    rw [Table.eq_of_key_eq hc' hd (hid.trans hprogressed.id_eq.symm)]
    exact hchain.observable hstate
  rcases step_attempts hok h with ⟨huncounted, -⟩ |
    ⟨worker, held, snapshot, adopted, c, d, r, r', hdelivers⟩
  · by_cases hold : ∃ c ∈ x.pre.db.cases, c.id = c'.id
    · obtain ⟨c, hc, hid⟩ := hold
      exact hkept c hc hid.symm (huncounted.kept hc hc' hid.symm)
    · exact .inl (huncounted.new hc' fun c hc hid => hold ⟨c, hc, hid⟩)
  · obtain ⟨hothers, hstored, -⟩ := hdelivers.only
    by_cases hcase : c'.id = c.id
    · obtain rfl : c' = d :=
        Table.eq_of_key_eq hc' hdelivers.case_mem' (hcase.trans hdelivers.case_id.symm)
      have hzero : c.counters = (0, 0) := by
        refine (hcounted c hdelivers.case_mem).resolve_right fun ⟨_, hstate⟩ => ?_
        rw [hdelivers.state] at hstate
        simp [observableStates] at hstate
      simp only [PaymentCase.counters, Prod.mk.injEq] at hzero
      refine .inr ⟨?_, ?_⟩
      · simp [PaymentCase.counters, hdelivers.attempts, hdelivers.contacts, hzero]
      · rw [hdelivers.state']
        simp [observableStates]
    · obtain ⟨e, he, hid⟩ := hstored c' hc'
      exact hkept e he hid.symm
        (hothers e he c' hc' hid.symm fun hec => hcase (hid.symm.trans hec))

theorem counted_reachable {clock : Int} {s : System}
    (h : Run.Reachable step (System.initial clock) s) : Counted s.db := by
  obtain ⟨tr, htr⟩ := h
  refine htr.invariant (I := fun s => Counted s.db)
    (fun _ hc => absurd hc (Table.not_mem_empty _)) fun x hx hcounted hs => ?_
  exact counted_step (settled_reachable (htr.reachable_pre hx)) hcounted hs

/--
**Attempts are counted once.**  Along every run, a step that changes a counter of a case
delivers a link that the provider has confirmed to that worker before: it counts one
attempt and one contact as it takes the case from `POLICY_VALIDATED` over `ACTIONED` to
`WAITING_FOR_OUTCOME` and marks the action `SUCCEEDED`.  A link action becomes
`SUCCEEDED` in no other way, a case is delivered once at most, and it starts with
nothing counted.
-/
theorem attempts_counted_once {clock : Int} {tr : List (Run.Step System Label)} {s : System}
    (h : RunTrace clock tr s) :
    (∀ before x after, tr = before ++ x :: after → ∀ c ∈ x.pre.db.cases, ∀ c' ∈ x.post.db.cases,
      c'.id = c.id → c'.counters ≠ c.counters →
      ∃ worker held snapshot adopted r r', Delivers x worker held snapshot adopted c c' r r' ∧
        ∃ y ∈ before, Confirms y worker held snapshot adopted) ∧
    (∀ x ∈ tr, ∀ r' ∈ x.post.db.recoveryActions, r'.action = .createRecoveryLink →
      r'.executionStatus = .succeeded →
      (∀ r ∈ x.pre.db.recoveryActions, r.id = r'.id → r.executionStatus ≠ .succeeded) →
      ∃ worker held snapshot adopted c c' r, Delivers x worker held snapshot adopted c c' r r') ∧
    (∀ before x between y after, tr = before ++ x :: (between ++ y :: after) →
      ∀ worker held snapshot adopted c c' r r', Delivers x worker held snapshot adopted c c' r r' →
      ∀ worker held snapshot adopted d d' q q', Delivers y worker held snapshot adopted d d' q q' →
      c.id ≠ d.id) ∧
    (∀ x ∈ tr, ∀ c' ∈ x.post.db.cases, (∀ c ∈ x.pre.db.cases, c.id ≠ c'.id) →
      c'.counters = (0, 0)) ∧
    (∀ c ∈ s.db.cases, c.counters = (0, 0) ∨ c.counters = (1, 1)) := by
  refine ⟨?_, ?_, ?_, ?_, fun c hc => (counted_reachable ⟨tr, h⟩ c hc).imp_right And.left⟩
  · rintro before x after rfl c hc c' hc' hid hchanged
    obtain ⟨m, hbefore, hrest⟩ := h.of_append
    obtain ⟨rfl, hstep, -⟩ := hrest.of_cons
    rcases step_attempts (settled_reachable ⟨before, hbefore⟩) hstep with ⟨huncounted, -⟩ |
      ⟨worker, held, snapshot, adopted, d, d', r, r', hdelivers⟩
    · exact absurd (huncounted.kept hc hc' hid) hchanged
    · have hcase : c.id = d.id := by
        by_contra hne
        exact hchanged (hdelivers.only.1 c hc c' hc' hid hne)
      obtain rfl : c = d := Table.eq_of_key_eq hc hdelivers.case_mem hcase
      obtain rfl : c' = d' :=
        Table.eq_of_key_eq hc' hdelivers.case_mem' (hid.trans hdelivers.case_id.symm)
      exact ⟨worker, held, snapshot, adopted, r, r', hdelivers,
        linked_confirmed hbefore hdelivers.phase⟩
  · intro x hx r' hr' haction hsucceeded hnew
    rcases step_attempts (settled_reachable (h.reachable_pre hx)) (h.step_of_mem hx) with
      ⟨-, hundelivered⟩ | ⟨worker, held, snapshot, adopted, c, c', r, q', hdelivers⟩
    · obtain ⟨r, hr, hid, hold⟩ := hundelivered r' hr' haction hsucceeded
      exact absurd hold (hnew r hr hid)
    · have hrow : r'.id = r.id := by
        by_contra hne
        exact hnew r' (hdelivers.only.2.2 r' hr' hne) rfl hsucceeded
      obtain rfl : r' = q' :=
        Table.eq_of_key_eq hr' hdelivers.row_mem' (hrow.trans hdelivers.row_id.symm)
      exact ⟨worker, held, snapshot, adopted, c, c', r, hdelivers⟩
  · rintro before x between y after rfl worker held snapshot adopted c c' r r' hx
      worker' held' snapshot' adopted' d d' q q' hy hsame
    obtain ⟨m, hbefore, hrest⟩ := h.of_append
    obtain ⟨rfl, hstep, hrest⟩ := hrest.of_cons
    obtain ⟨m, hbetween, hrest⟩ := hrest.of_append
    obtain ⟨rfl, -, -⟩ := hrest.of_cons
    have hpast : ∃ e ∈ x.post.db.cases, e.id = d.id ∧ e.currentState ∈ observableStates := by
      refine ⟨c', hx.case_mem', hx.case_id.trans hsame, ?_⟩
      rw [hx.state']
      simp [observableStates]
    obtain ⟨e, he, hid, hstate⟩ :=
      observable_stays (settled_reachable ⟨_, hbefore.snoc hstep⟩) hbetween hpast
    rw [Table.eq_of_key_eq he hy.case_mem hid, hy.state] at hstate
    simp [observableStates] at hstate
  · intro x hx c' hc' hnew
    rcases step_attempts (settled_reachable (h.reachable_pre hx)) (h.step_of_mem hx) with
      ⟨huncounted, -⟩ | ⟨worker, held, snapshot, adopted, c, d, r, r', hdelivers⟩
    · exact huncounted.new hc' hnew
    · obtain ⟨e, he, hid⟩ := hdelivers.only.2.1 c' hc'
      exact absurd hid (hnew e he)

end Arc

namespace Arc

attribute [local instance] asciiPlatform

theorem attempts_counted_once_recovered : ∃ tr s, RunTrace 0 tr s ∧
    tr.map Run.Step.label = recoveredRun ∧
    (∀ c ∈ s.db.cases, c.counters = (0, 0) ∨ c.counters = (1, 1)) ∧
    ∃ c ∈ s.db.cases, c.counters = (1, 1) := by
  have hrun : ((Run.replay step (System.initial 0) recoveredRun).bind
      fun s => (s.db.cases.get? 10).map PaymentCase.counters) = some (1, 1) := by decide +kernel
  obtain ⟨s, hs, hcounters⟩ := Option.bind_eq_some_iff.mp hrun
  obtain ⟨c, hc, hone⟩ := Option.map_eq_some_iff.mp hcounters
  obtain ⟨tr, htr, hlabels⟩ := Run.Trace.of_replay hs
  exact ⟨tr, s, htr, hlabels, (attempts_counted_once htr).2.2.2.2, c,
    Store.Table.mem_of_get? hc, hone⟩

end Arc
