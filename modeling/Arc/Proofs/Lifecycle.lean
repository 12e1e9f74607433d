/-
The lifecycle of a case and its audit trail.

Every step has one of the effects of `CaseEffect`, and each of them keeps the
invariant `Audited`: the transition entries of a case are one chain of allowed changes
from `DETECTED` to the state that is stored, and a case is detected once.  A chain
never leads out of a terminal state, so no step does.
-/
import Arc.Domain.Ascii
import Arc.Proofs.Workers

namespace Arc

open Store

variable [Platform]

/-! ### The effect of a step

Each transaction of each service has been shown to be an effect on one case. What is
left here is the executor, whose phases hold rows that were read before, and the
assembly over all labels of the deployment.
-/

/-- The rows a finalizer has locked belong together. -/
theorem HeldOk.locked {s : System} (hok : HeldOk s) {worker : Nat} {held : HeldClaim}
    (hheld : (s.executors worker).held? = some held) {c : PaymentCase}
    {record : RecoveryActionRecord} (hlocked : Locked s.db held.claim c record) :
    record.Carries held ∧ record.caseId = c.id := by
  obtain ⟨r, hr, hcarries⟩ := hok worker held hheld
  have hget : s.db.recoveryActions.get? r.id = some r := Table.get?_of_mem hr
  rw [hcarries.id_eq, hlocked.record_eq] at hget
  cases hget
  exact ⟨hcarries, hcarries.case_eq.trans (Table.get?_key hlocked.case_eq).symm⟩

/-- Work on one locked case, or none: what every transaction but a report does to the cases. -/
inductive CaseWorked (db db' : Db) : Prop
  | unchanged (hcases : db'.cases = db.cases) (hevents : db'.caseEvents = db.caseEvents)
  | worked {c : PaymentCase} {w : CaseWork} (hc : c ∈ db.cases) (hw : Advances (.lock c) w)
      (hcases : db'.cases = db.cases.put w.row)
      (hevents : db'.caseEvents = db.caseEvents ++ w.events)

theorem CaseWorked.caseEffect {db db' : Db} (h : CaseWorked db db') : CaseEffect db db' := by
  cases h with
  | unchanged hcases hevents => exact .unchanged hcases hevents
  | worked hc hw hcases hevents => exact .of_advances hc hw hcases hevents

/-- Every case after the work was there before, and shows the same report. -/
theorem CaseWorked.truth {db db' : Db} (h : CaseWorked db db') {c' : PaymentCase}
    (hc' : c' ∈ db'.cases) : ∃ c ∈ db.cases, c'.id = c.id ∧
      c'.caseReference = c.caseReference ∧ c'.truth = c.truth := by
  cases h with
  | unchanged hcases hevents => exact ⟨c', hcases ▸ hc', rfl, rfl, rfl⟩
  | @worked c w hc hw hcases hevents =>
      rw [hcases] at hc'
      rcases (Table.mem_put_of_mem hc hw.id_eq).mp hc' with ⟨hc', -⟩ | rfl
      · exact ⟨c', hc', rfl, rfl, rfl⟩
      · exact ⟨c, hc, hw.id_eq, hw.reference_eq, hw.truth_eq⟩

theorem Claims.caseWorked {db db' : Db} {caseId newId : Uuid} {now : Int} {claim : ExecutionClaim}
    (h : Claims db caseId newId now db' claim) : CaseWorked db db' := by
  cases h with
  | @built c proposal decision inputs record records hid hauth hnone hbuild hinsert =>
      have hcase : record.caseId = c.id := (buildRecord_eq_ok hbuild).2.1
      have hprepared : Advances (.lock c)
          ((CaseWork.lock c).audit (executionAudit record "RECOVERY_ACTION_PREPARED")) :=
        executionAudit_advances hcase (by decide) (by decide)
      refine .worked (Table.mem_of_get? hauth.stored) (hprepared.trans ?_) rfl rfl
      exact executionAudit_advances hcase (by decide) (by decide)
  | @stored c proposal decision inputs record hid hauth hsome hopen hvalid hlease =>
      obtain ⟨_, hmatches, -⟩ := bind_eq_ok.mp hvalid
      rw [require_eq_ok] at hmatches
      refine .worked (Table.mem_of_get? hauth.stored) ?_ rfl rfl
      exact executionAudit_advances hmatches.1 (by decide) (by decide)

theorem ExecutorStep.caseWorked {s : System} (hok : HeldOk s) {worker : Nat} {l : ExecutorLabel}
    {m : ExecutorMove} (h : ExecutorStep s (s.executors worker) l m) : CaseWorked s.db m.db := by
  have hlocks := fun held hheld c record => @HeldOk.locked _ s hok worker held hheld c record
  revert hlocks
  generalize s.executors worker = phase at h
  intro hlocks
  cases h with
  | claimed hnow h => exact h.caseWorked
  | internal hnow haction hlocked hopen h =>
      obtain ⟨-, hcase⟩ := hlocks _ rfl _ _ hlocked
      exact .worked (Table.mem_of_get? hlocked.case_eq) (h.advances hcase).1 rfl rfl
  | @problem held problem now c record hnow hlocked hopen =>
      obtain ⟨-, hcase⟩ := hlocks _ rfl _ _ hlocked
      obtain ⟨hkind, hkind'⟩ := problem.entry_plain
      refine .worked (Table.mem_of_get? hlocked.case_eq) ?_ rfl rfl
      exact executionAudit_advances hcase hkind hkind'
  | finalized hnow hlocked h hfree =>
      obtain ⟨-, hcase⟩ := hlocks _ rfl _ _ hlocked
      exact .worked (Table.mem_of_get? hlocked.case_eq) (h.advances hcase).1 rfl rfl
  | @compensated held snapshot outcome c record hlocked hfree =>
      obtain ⟨-, hcase⟩ := hlocks _ rfl _ _ hlocked
      obtain ⟨hsame, -, -, -, -, -, hkind, hkind'⟩ := compensatedRecord_cases record snapshot outcome
      refine .worked (Table.mem_of_get? hlocked.case_eq) ?_ rfl rfl
      exact executionAudit_advances (hsame.case_eq.trans hcase) hkind hkind'
  | _ => exact .unchanged rfl rfl

/-- A transaction is a report, or it works on one case. -/
theorem Commit.caseWorked {s : System} (hok : HeldOk s) {l : Label} {db' : Db}
    (h : Commit s l db') : (∃ worker fresh, l = .processor worker (.apply fresh)) ∨
      CaseWorked s.db db' := by
  cases h with
  | reconciled hphase howns hstatus hresult => exact .inl ⟨_, _, rfl⟩
  | executed h => exact .inr (h.caseWorked hok)
  | worked hlabel hc hw => exact .inr (.worked hc hw rfl rfl)
  | proposed hphase hc hcurrent hstate hreplace hw =>
      exact .inr (.worked (Table.mem_of_get? hc) hw rfl rfl)
  | evaluated hc hstate hproposal hinputs hreplace hw =>
      exact .inr (.worked (Table.mem_of_get? hc) (evaluatePolicy_advances hw _ _) rfl rfl)
  | requested hphase hc hstate hnone hinsert hw =>
      exact .inr (.worked (Table.mem_of_get? hc) hw rfl rfl)
  | answered hphase hc hstored hsame hpending hstate hw =>
      exact .inr (.worked (Table.mem_of_get? hc) hw rfl rfl)
  | observed hworker hobservable hevidence hinsert hw hmoves =>
      exact .inr (.worked (Table.mem_of_get? hobservable.case_eq) hw rfl rfl)
  | _ => exact .inr (.unchanged rfl rfl)

theorem Commit.caseEffect {s : System} (hok : HeldOk s) {l : Label} {db' : Db}
    (h : Commit s l db') : CaseEffect s.db db' := by
  rcases h.caseWorked hok with ⟨worker, fresh, rfl⟩ | hworked
  · cases h with
    | reconciled hphase howns hstatus hresult =>
        exact (reconcileEntity_caseEffect hresult).congr rfl rfl
    | same => exact .refl _
    | worked hlabel => rcases hlabel with ⟨_, hl⟩ | ⟨_, _, hl⟩ <;> cases hl
    | observed hworker => rcases hworker with ⟨_, _, hl⟩ | ⟨_, _, _, hl⟩ <;> cases hl
  · exact hworked.caseEffect

/-! ### The invariant

The trail of a case is a chain of transitions that starts at the detection and ends in
the state of the row. An effect appends entries that lead from the old state of the row
to its new one, so it prolongs the chain.
-/

/-- The entries of one case, in the order they were appended. -/
def Db.eventsOf (db : Db) (caseId : Uuid) : List CaseEvent :=
  db.caseEvents.filter fun e => e.caseId == caseId

/-- The detections recorded for the cases with a reference. -/
def Db.detectionsOf (db : Db) (reference : CaseReference) : List CaseEvent :=
  db.caseEvents.filter fun e => e.eventType == "CASE_DETECTED" &&
    db.cases.any fun c => c.caseReference == reference && c.id == e.caseId

/-- Row and trail of every case are in step. -/
structure Audited (db : Db) : Prop where
  /-- The transition entries of a case lead from `DETECTED` to its stored state. -/
  chain : ∀ c ∈ db.cases, Chain .detected (transitions (db.eventsOf c.id)) c.currentState
  known : ∀ e ∈ db.caseEvents, ∃ c ∈ db.cases, c.id = e.caseId
  reference : ∀ c ∈ db.cases, ∀ c' ∈ db.cases, c.caseReference = c'.caseReference → c = c'
  identified : ∀ c ∈ db.cases, c.Identified
  detected : ∀ c ∈ db.cases,
    ((db.eventsOf c.id).filter fun e => e.eventType == "CASE_DETECTED").length = 1

theorem eventsOf_append {db db' : Db} {new : List CaseEvent}
    (h : db'.caseEvents = db.caseEvents ++ new) (caseId : Uuid) :
    db'.eventsOf caseId = db.eventsOf caseId ++ new.filter fun e => e.caseId == caseId := by
  unfold Db.eventsOf
  rw [h, List.filter_append]

omit [Platform] in
theorem filter_own {new : List CaseEvent} {caseId : Uuid} (h : ∀ e ∈ new, e.caseId = caseId) :
    (new.filter fun e => e.caseId == caseId) = new :=
  List.filter_eq_self.mpr fun e he => by simpa using h e he

omit [Platform] in
theorem filter_other {new : List CaseEvent} {caseId other : Uuid}
    (h : ∀ e ∈ new, e.caseId = caseId) (hne : other ≠ caseId) :
    (new.filter fun e => e.caseId == other) = [] :=
  List.filter_eq_nil_iff.mpr fun e he => by simpa [h e he] using Ne.symm hne

omit [Platform] in
theorem filter_detected_nil {new : List CaseEvent}
    (h : ∀ e ∈ new, e.eventType ∉ reservedEventTypes) :
    (new.filter fun e => e.eventType == "CASE_DETECTED") = [] :=
  List.filter_eq_nil_iff.mpr fun e he hdetected =>
    h e he (by rw [beq_iff_eq.mp hdetected]; decide)

/-- Work on one stored case keeps row and trail in step. -/
theorem Audited.worked {db db' : Db} (h : Audited db) {c : PaymentCase} {w : CaseWork}
    (hc : c ∈ db.cases) (hw : Extends (.lock c) w) (hident : c.Identified → w.row.Identified)
    (hcases : db'.cases = db.cases.put w.row)
    (hevents : db'.caseEvents = db.caseEvents ++ w.events) : Audited db' := by
  obtain ⟨new, hnew, hown, hplain, hchain⟩ := hw.added
  replace hown : ∀ e ∈ new, e.caseId = c.id := hown
  have hid : w.row.id = c.id := hw.id_eq
  have href : w.row.caseReference = c.caseReference := hw.reference_eq
  have hrows : ∀ x, x ∈ db'.cases ↔ (x ∈ db.cases ∧ x.id ≠ c.id) ∨ x = w.row := by
    intro x
    rw [hcases, ← hid]
    exact Table.mem_put_of_mem hc hid
  have happend : db'.caseEvents = db.caseEvents ++ new := by
    rw [hevents, hnew]
    rfl
  have htrail := eventsOf_append happend
  refine ⟨?_, ?_, ?_, ?_, ?_⟩
  · intro x hx
    rcases (hrows x).mp hx with ⟨hx, hne⟩ | rfl
    · rw [htrail, filter_other hown hne, List.append_nil]
      exact h.chain x hx
    · rw [htrail, hid, filter_own hown, transitions_append]
      exact (h.chain c hc).append hchain
  · intro e he
    have hstill : ∀ x ∈ db.cases, ∃ y ∈ db'.cases, y.id = x.id := by
      intro x hx
      by_cases hxc : x.id = c.id
      · exact ⟨w.row, (hrows _).mpr (.inr rfl), hid.trans hxc.symm⟩
      · exact ⟨x, (hrows _).mpr (.inl ⟨hx, hxc⟩), rfl⟩
    rw [happend] at he
    rcases List.mem_append.mp he with he | he
    · obtain ⟨x, hx, hxe⟩ := h.known e he
      obtain ⟨y, hy, hyx⟩ := hstill x hx
      exact ⟨y, hy, hyx.trans hxe⟩
    · exact ⟨w.row, (hrows _).mpr (.inr rfl), hid.trans (hown e he).symm⟩
  · intro x hx y hy hxy
    rcases (hrows x).mp hx with ⟨hx, hxne⟩ | rfl <;> rcases (hrows y).mp hy with ⟨hy, hyne⟩ | rfl
    · exact h.reference x hx y hy hxy
    · exact absurd (congrArg PaymentCase.id (h.reference x hx c hc (hxy.trans href))) hxne
    · exact absurd (congrArg PaymentCase.id (h.reference y hy c hc (hxy.symm.trans href))) hyne
    · rfl
  · intro x hx
    rcases (hrows x).mp hx with ⟨hx, -⟩ | rfl
    · exact h.identified x hx
    · exact hident (h.identified c hc)
  · intro x hx
    rcases (hrows x).mp hx with ⟨hx, hne⟩ | rfl
    · rw [htrail, filter_other hown hne, List.append_nil]
      exact h.detected x hx
    · rw [htrail, hid, filter_own hown, List.filter_append, filter_detected_nil hplain,
        List.append_nil]
      exact h.detected c hc

/-- A new case starts with the entry of its detection. -/
theorem Audited.created {db db' : Db} (h : Audited db) {row : PaymentCase}
    {cases : Table PaymentCase} {w : CaseWork} (hinsert : db.cases.insert? row = some cases)
    (hfree : ∀ c ∈ db.cases, c.caseReference ≠ row.caseReference)
    (hstate : row.currentState = .detected) (hw : Extends (initializeCaseAudit (.lock row) true) w)
    (hident : w.row.Identified) (hcases : db'.cases = cases.put w.row)
    (hevents : db'.caseEvents = db.caseEvents ++ w.events) : Audited db' := by
  obtain ⟨new, hnew, hown, hplain, hchain⟩ := hw.added
  have hid : w.row.id = row.id := hw.id_eq
  have href : w.row.caseReference = row.caseReference := hw.reference_eq
  have hfresh : ∀ x ∈ db.cases, x.id ≠ row.id := fun x hx => Table.insert?_fresh hinsert hx
  have hmem := fun x => Table.insert?_mem hinsert (x := x)
  have hrows : ∀ x, x ∈ db'.cases ↔ x ∈ db.cases ∨ x = w.row := by
    intro x
    rw [hcases]
    refine (Table.mem_put_of_mem ((hmem row).mpr (.inr rfl)) hid).trans (or_congr ⟨?_, ?_⟩ Iff.rfl)
    · rintro ⟨hx, hne⟩
      rcases (hmem x).mp hx with hx | rfl
      · exact hx
      · exact absurd hid.symm hne
    · intro hx
      exact ⟨(hmem x).mpr (.inl hx), fun hk => hfresh x hx (hk.trans hid)⟩
  -- the trail of the new case: its detection, and what followed in the same transaction
  obtain ⟨detection, hdetection, hkind, hof⟩ : ∃ detection : CaseEvent,
      (initializeCaseAudit (CaseWork.lock row) true).events = [detection] ∧
      detection.eventType = "CASE_DETECTED" ∧ detection.caseId = row.id := ⟨_, rfl, rfl, rfl⟩
  have hown' : ∀ e ∈ detection :: new, e.caseId = row.id := by
    intro e he
    rcases List.mem_cons.mp he with rfl | he
    · exact hof
    · exact hown e he
  have happend : db'.caseEvents = db.caseEvents ++ (detection :: new) := by
    rw [hevents, hnew, hdetection]
    rfl
  have htrail := eventsOf_append happend
  have hnone : db.eventsOf row.id = [] := by
    refine List.filter_eq_nil_iff.mpr fun e he => ?_
    obtain ⟨x, hx, hxe⟩ := h.known e he
    simpa [← hxe] using hfresh x hx
  have hnontransition : transitions [detection] = [] := by
    simp [transitions, hkind, caseStateTransition]
  refine ⟨?_, ?_, ?_, ?_, ?_⟩
  · intro x hx
    rcases (hrows x).mp hx with hx | rfl
    · rw [htrail, filter_other hown' (hfresh x hx), List.append_nil]
      exact h.chain x hx
    · rw [htrail, hid, filter_own hown', hnone, List.nil_append, ← List.singleton_append,
        transitions_append, hnontransition, List.nil_append, ← hstate]
      exact hchain
  · intro e he
    rw [happend] at he
    rcases List.mem_append.mp he with he | he
    · obtain ⟨x, hx, hxe⟩ := h.known e he
      exact ⟨x, (hrows _).mpr (.inl hx), hxe⟩
    · exact ⟨w.row, (hrows _).mpr (.inr rfl), hid.trans (hown' e he).symm⟩
  · intro x hx y hy hxy
    rcases (hrows x).mp hx with hx | rfl <;> rcases (hrows y).mp hy with hy | rfl
    · exact h.reference x hx y hy hxy
    · exact absurd (hxy.trans href) (hfree x hx)
    · exact absurd (hxy.symm.trans href) (hfree y hy)
    · rfl
  · intro x hx
    rcases (hrows x).mp hx with hx | rfl
    · exact h.identified x hx
    · exact hident
  · intro x hx
    rcases (hrows x).mp hx with hx | rfl
    · rw [htrail, filter_other hown' (hfresh x hx), List.append_nil]
      exact h.detected x hx
    · rw [htrail, hid, filter_own hown', hnone, List.nil_append, List.filter_cons]
      simp [hkind, filter_detected_nil hplain]

theorem Audited.step {db db' : Db} (h : Audited db) (heffect : CaseEffect db db') :
    Audited db' := by
  cases heffect with
  | unchanged hcases hevents =>
      refine ⟨?_, ?_, ?_, ?_, ?_⟩ <;> simp only [Db.eventsOf, hcases, hevents]
      · exact h.chain
      · exact h.known
      · exact h.reference
      · exact h.identified
      · exact h.detected
  | worked hc hw hident hcases hevents => exact h.worked hc hw hident hcases hevents
  | created hinsert hfree hstate hw hident hcases hevents =>
      exact h.created hinsert hfree hstate hw hident hcases hevents

theorem audited_empty : Audited Db.empty :=
  ⟨fun _ hc => absurd hc (Table.not_mem_empty _), fun _ he => absurd he (List.not_mem_nil),
    fun _ hc => absurd hc (Table.not_mem_empty _), fun _ hc => absurd hc (Table.not_mem_empty _),
    fun _ hc => absurd hc (Table.not_mem_empty _)⟩

/-! ### Runs -/

theorem audited_reachable {clock : Int} {s : System}
    (h : Run.Reachable step (System.initial clock) s) : HintsOk s ∧ HeldOk s ∧ Audited s.db := by
  refine h.invariant (I := fun s => HintsOk s ∧ HeldOk s ∧ Audited s.db)
    ⟨?_, ?_, audited_empty⟩ fun s l s' ⟨hhints, hheld, haudited⟩ hs => ?_
  · intro worker approval decision hphase
    cases hphase
  · intro worker held hheld
    cases hheld
  · exact ⟨hintsOk_step hhints hs, heldOk_step hhints hheld hs,
      haudited.step ((step_commit hhints hs).caseEffect hheld)⟩

/--
What a step made of a case: the same case, with the entries of the step's own changes
appended.  A change without an entry, or an entry without a change, would break the
chain.
-/
structure Progressed (db db' : Db) (c c' : PaymentCase) : Prop where
  id_eq : c'.id = c.id
  reference_eq : c'.caseReference = c.caseReference
  added : ∃ new, db'.eventsOf c.id = db.eventsOf c.id ++ new ∧
    Chain c.currentState (transitions new) c'.currentState

/-- A terminal state is never left. -/
theorem Progressed.terminal {db db' : Db} {c c' : PaymentCase} (h : Progressed db db' c c')
    (hc : c.currentState ∈ terminalCaseStates) : c'.currentState = c.currentState := by
  obtain ⟨new, -, hchain⟩ := h.added
  exact (hchain.eq_nil_of_terminal hc).2

theorem CaseEffect.progressed {db db' : Db} (h : CaseEffect db db') {c : PaymentCase}
    (hc : c ∈ db.cases) : ∃ c' ∈ db'.cases, Progressed db db' c c' := by
  cases h with
  | unchanged hcases hevents =>
      refine ⟨c, by rw [hcases]; exact hc, rfl, rfl, [], ?_, .nil _⟩
      simp [Db.eventsOf, hevents]
  | @worked c₀ w hc₀ hw hident hcases hevents =>
      obtain ⟨new, hnew, hown, -, hchain⟩ := hw.added
      replace hown : ∀ e ∈ new, e.caseId = c₀.id := hown
      have happend : db'.caseEvents = db.caseEvents ++ new := by
        rw [hevents, hnew]
        rfl
      have htrail := eventsOf_append happend c.id
      have hid : w.row.id = c₀.id := hw.id_eq
      by_cases hkey : c.id = c₀.id
      · obtain rfl : c = c₀ := Table.eq_of_key_eq hc hc₀ hkey
        rw [filter_own hown] at htrail
        refine ⟨w.row, ?_, hid, hw.reference_eq, new, htrail, hchain⟩
        rw [hcases]
        exact (Table.mem_put_of_mem hc hid).mpr (.inr rfl)
      · rw [filter_other hown hkey] at htrail
        refine ⟨c, ?_, rfl, rfl, [], htrail, .nil _⟩
        rw [hcases]
        exact (Table.mem_put_of_mem hc₀ hid).mpr (.inl ⟨hc, fun hk => hkey (hk.trans hid)⟩)
  | @created row cases w hinsert hfree hstate hw hident hcases hevents =>
      have hid : w.row.id = row.id := hw.id_eq
      have hne : c.id ≠ row.id := Table.insert?_fresh hinsert hc
      obtain ⟨new, hnew, hown, -, -⟩ := hw.added
      have hown' : ∀ e ∈ w.events, e.caseId = row.id := by
        intro e he
        rw [hnew] at he
        rcases List.mem_append.mp he with he | he
        · rw [show e = _ from List.mem_singleton.mp he]
          rfl
        · exact hown e he
      have htrail := eventsOf_append hevents c.id
      rw [filter_other hown' hne] at htrail
      have hrow : row ∈ cases := (Table.insert?_mem hinsert).mpr (.inr rfl)
      refine ⟨c, ?_, rfl, rfl, [], htrail, .nil _⟩
      rw [hcases]
      exact (Table.mem_put_of_mem hrow hid).mpr
        (.inl ⟨(Table.insert?_mem hinsert).mpr (.inl hc), fun hk => hne (hk.trans hid)⟩)

omit [Platform] in
/-- A list without two different members that meet a condition has at most one of them. -/
theorem length_filter_le_one {α : Type} {xs : List α} (hnodup : xs.Nodup) {p : α → Bool}
    (h : ∀ x ∈ xs, ∀ y ∈ xs, p x = true → p y = true → x = y) : (xs.filter p).length ≤ 1 := by
  match hfilter : xs.filter p with
  | [] => simp
  | [_] => simp
  | x :: y :: rest =>
      have hx : x ∈ xs.filter p := by simp [hfilter]
      have hy : y ∈ xs.filter p := by simp [hfilter]
      rw [List.mem_filter] at hx hy
      have hxy := h x hx.1 y hy.1 hx.2 hy.2
      have hsub := hnodup.filter p
      rw [hfilter, hxy] at hsub
      simp at hsub

/-- A case identity has one detection at most. -/
theorem Audited.detections {db : Db} (h : Audited db) (reference : CaseReference) :
    (db.detectionsOf reference).length ≤ 1 := by
  by_cases hsome : ∃ c ∈ db.cases, c.caseReference = reference
  · obtain ⟨c, hc, href⟩ := hsome
    have hfilter : db.detectionsOf reference =
        (db.eventsOf c.id).filter fun e => e.eventType == "CASE_DETECTED" := by
      unfold Db.detectionsOf Db.eventsOf
      rw [List.filter_filter]
      refine List.filter_congr fun e _ => ?_
      congr 1
      rw [Bool.eq_iff_iff, Table.any_eq_true]
      simp only [Bool.and_eq_true, beq_iff_eq]
      constructor
      · rintro ⟨x, hx, hxref, hxe⟩
        rw [← hxe, h.reference x hx c hc (hxref.trans href.symm)]
      · intro he
        exact ⟨c, hc, href, he.symm⟩
    rw [hfilter, h.detected c hc]
  · have hnil : db.detectionsOf reference = [] := by
      refine List.filter_eq_nil_iff.mpr fun e _ he => ?_
      simp only [Bool.and_eq_true, Table.any_eq_true, beq_iff_eq] at he
      obtain ⟨-, c, hc, href, -⟩ := he
      exact hsome ⟨c, hc, href⟩
    rw [hnil]
    exact Nat.zero_le 1

/--
**Lifecycle and audit chain.**  Along every run, each step takes a case through a chain
of allowed changes, one entry for each, and never out of a terminal state.  In every
state reached, the transition entries of a case are one chain from `DETECTED` to the
stored state, the reference of a case is the one of its identity, no two cases have
the same identity or the same reference, and no identity is detected twice.

Nothing is assumed of the digest: identities whose digests collide share a reference,
hence a case.
-/
theorem lifecycle_audited {clock : Int} {tr : List (Run.Step System Label)} {s : System}
    (h : RunTrace clock tr s) :
    (∀ x ∈ tr, ∀ c ∈ x.pre.db.cases, ∃ c' ∈ x.post.db.cases,
      Progressed x.pre.db x.post.db c c' ∧
      (c.currentState ∈ terminalCaseStates → c'.currentState = c.currentState)) ∧
    (∀ c ∈ s.db.cases, Chain .detected (transitions (s.db.eventsOf c.id)) c.currentState) ∧
    (∀ c ∈ s.db.cases, c.Identified) ∧
    (∀ c ∈ s.db.cases, ∀ c' ∈ s.db.cases,
      c.caseReference.identityKind = c'.caseReference.identityKind →
      c.externalId = c'.externalId → c = c') ∧
    (∀ reference, (s.db.cases.select fun c => c.caseReference == reference).length ≤ 1 ∧
      (s.db.detectionsOf reference).length ≤ 1) := by
  obtain ⟨-, -, haudited⟩ := audited_reachable ⟨tr, h⟩
  refine ⟨?_, haudited.chain, haudited.identified, ?_, ?_⟩
  · intro x hx c hc
    obtain ⟨hhints, hheld, -⟩ := audited_reachable (h.reachable_pre hx)
    have heffect := (step_commit hhints (h.step_of_mem hx)).caseEffect hheld
    obtain ⟨c', hc', hprogressed⟩ := heffect.progressed hc
    exact ⟨c', hc', hprogressed, hprogressed.terminal⟩
  · intro c hc c' hc' hkind hext
    obtain ⟨externalId, hid, href⟩ := haudited.identified c hc
    obtain ⟨externalId', hid', href'⟩ := haudited.identified c' hc'
    rw [← hext, hid, Option.some.injEq] at hid'
    rw [← hkind, ← hid', href, Except.ok.injEq] at href'
    exact haudited.reference c hc c' hc' href'
  · intro reference
    refine ⟨length_filter_le_one (List.Nodup.of_map _ s.db.cases.nodup) ?_,
      haudited.detections reference⟩
    intro c hc c' hc' href href'
    simp only [beq_iff_eq] at href href'
    exact haudited.reference c hc c' hc' (href.trans href'.symm)

end Arc

/-! ### A run from the webhook to the recovered payment -/

namespace Arc

attribute [local instance] asciiPlatform

def samplePayload : Json :=
  .obj [("event", .str "payment.failed"), ("account_id", .str "acc"),
    ("payload", .obj [("payment", .obj [("entity", .obj [("id", .str "pay_1")])])])]

def samplePayment : PaymentSnapshot where
  id := "pay_1"
  status := "failed"
  amount := 1000
  currency := "INR"
  errorReason := some "insufficient_funds"

def samplePolicy : MerchantPolicy where
  id := 900
  merchantId := "acc"
  automationEnabled := .bool true
  allowedActions := .arr [.str "CREATE_RECOVERY_LINK"]
  maxAutomatedAttempts := .int 3
  maxContactAttempts := .int 3
  recoveryWindowMinutes := .int 1440
  highValueThresholdMinor := .int 100000
  requireApprovalAboveMinor := .null
  stoppingRules := .obj []

def sampleLink : PaymentLinkSnapshot where
  id := "plink_1"
  referenceId := referenceOf 40
  amount := 1000
  amountPaid := 0
  currency := "INR"
  status := "created"
  shortUrl := "https://rzp.io/1"

def samplePaidLink : PaymentLinkSnapshot :=
  { sampleLink with
    amountPaid := 1000
    status := "paid"
    payments := [{ paymentId := "pay_2", amount := 1000, status := "captured" }] }

/-- From an empty database to an authorized case. -/
def authorizedRun : List Label := [
  .service (.setPolicy samplePolicy),
  .service (.ingest samplePayload "evt_1" (.str "d") 1),
  .processor 0 (.claim 1),
  .processor 0 (.fetch (.response 200 (some samplePayment)) .noResponse),
  .processor 0 (.apply ⟨10, 0⟩),
  .service (.assess 10),
  .strategist 0 (.prepare 10 "model"),
  .strategist 0 (.answer ⟨.createRecoveryLink, "", none, "model"⟩),
  .strategist 0 (.persist 20),
  .service (.evaluatePolicy 10 none 30)]

/-- … to a link with the customer, and to the recovered payment. -/
def recoveredRun : List Label := authorizedRun ++ [
  .executor 0 (.prepare 10 40 0),
  .executor 0 (.lookup (.response 200 (some []))),
  .executor 0 .sendCreate,
  .provider (.applyCreate 0 "plink_1"),
  .executor 0 (.createAnswer (.response 200 (some sampleLink))),
  .executor 0 (.finalizeSuccess 0),
  .observer 0 (.prepare 40 .test),
  .observer 0 (.fetch (.response 200 (some samplePaidLink))),
  .observer 0 (.persist ⟨50, 60, 0⟩)]

theorem lifecycle_audited_recovered : ∃ tr s, RunTrace 0 tr s ∧
    tr.map Run.Step.label = recoveredRun ∧
    ∀ c ∈ s.db.cases, Chain .detected (transitions (s.db.eventsOf c.id)) c.currentState := by
  have hrun : (Run.replay step (System.initial 0) recoveredRun).isSome = true := by decide +kernel
  obtain ⟨tr, s, htr, hlabels, -⟩ := Run.Trace.of_isSome hrun
  exact ⟨tr, s, htr, hlabels, (lifecycle_audited htr).2.1⟩

end Arc
