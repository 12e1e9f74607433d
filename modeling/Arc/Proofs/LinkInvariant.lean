/-
What the rows, the claims and the provider say about each other.

`LinksOk` is the invariant behind everything proved about payment links.  It ties the
phase of a claim to the links and the open creations of its reference, but only for the
newest claim on its row: an older one has no running lease, so it calls the provider no
more.  A reference has one link or one open creation, not both and not two.
-/
import Arc.Proofs.Actions
import Arc.System.Timing

namespace Arc

open Store

/-! ### Phases and references

A phase knows something about the provider: that nothing was found, that a creation is
under way, that a link is there. `ExecutorPhase.LinksOk` says it in terms of the
reference only, and the lemmas say which moves of the provider keep it.
-/

/-- The snapshot shows a link that was made under the reference. -/
structure Shown (links : List ProviderLink) (referenceId : String) (snapshot : PaymentLinkSnapshot) :
    Prop where
  reference_eq : snapshot.referenceId = referenceId
  made : ∃ link ∈ links, link.id = snapshot.id

/--
What a phase says about the links and the open creations of its reference.  Before a
link is known it says so only of the newest claim on the row.
-/
def ExecutorPhase.LinksOk (links : List ProviderLink) (creations : List PendingCreate)
    (referenceId : String) (newest : Prop) : ExecutorPhase → Prop
  | .idle => True
  | .claimed _ => newest → creations = []
  | .creating _ => newest → links = [] ∧ creations = []
  | .awaiting _ call =>
      newest → (∀ link ∈ links, link.call = call) ∧ ∀ p ∈ creations, p.call = call
  | .troubled _ problem => newest → problem.status = .failed → links = [] ∧ creations = []
  | .linked _ snapshot _ | .compensating _ snapshot | .cancelling _ snapshot =>
      Shown links referenceId snapshot
  | .compensated _ snapshot outcome =>
      Shown links referenceId snapshot ∧ ∀ cancelled, outcome = .inl cancelled →
        cancelled.referenceId = referenceId ∧ ∃ link ∈ links, link.status.live = false

theorem Shown.not_nil {referenceId : String} {snapshot : PaymentLinkSnapshot} :
    ¬ Shown [] referenceId snapshot :=
  fun h => (by simpa using h.made)

/-- What a phase says stays true when the one open creation is applied. -/
theorem ExecutorPhase.LinksOk.applied {p : PendingCreate} {referenceId : String} {newest : Prop}
    {phase : ExecutorPhase} (h : phase.LinksOk [] [p] referenceId newest) {link : ProviderLink}
    (hcall : link.call = p.call) : phase.LinksOk [link] [] referenceId newest := by
  cases phase with
  | idle => trivial
  | claimed held => exact fun _ => rfl
  | creating held => exact fun hnew => absurd (h hnew).2 (by simp)
  | awaiting held call =>
      intro hnew
      refine ⟨fun x hx => ?_, by simp⟩
      rw [List.mem_singleton.mp hx, hcall]
      exact (h hnew).2 p (by simp)
  | troubled held problem => exact fun hnew hfailed => absurd (h hnew hfailed).2 (by simp)
  | linked | compensating | cancelling => exact absurd h Shown.not_nil
  | compensated => exact absurd h.1 Shown.not_nil

/-- The links after some of them have moved: none is lost, and none comes back to life. -/
def Moved (links links' : List ProviderLink) : Prop :=
  ∃ f : ProviderLink → ProviderLink, links' = links.map f ∧ ∀ x ∈ links,
    (f x).id = x.id ∧ (f x).call = x.call ∧ (x.status.live = false → (f x).status.live = false)

theorem Moved.refl (links : List ProviderLink) : Moved links links :=
  ⟨id, by simp, fun _ _ => ⟨rfl, rfl, fun h => h⟩⟩

theorem Moved.mem {links links' : List ProviderLink} (h : Moved links links') {x : ProviderLink}
    (hx : x ∈ links) : ∃ x' ∈ links', x'.id = x.id ∧
      (x.status.live = false → x'.status.live = false) := by
  obtain ⟨f, rfl, hf⟩ := h
  exact ⟨f x, List.mem_map_of_mem hx, (hf x hx).1, (hf x hx).2.2⟩

theorem Moved.call {links links' : List ProviderLink} (h : Moved links links') {call : Nat}
    (hcall : ∀ x ∈ links, x.call = call) : ∀ x' ∈ links', x'.call = call := by
  obtain ⟨f, rfl, hf⟩ := h
  intro x' hx'
  obtain ⟨x, hx, rfl⟩ := List.mem_map.mp hx'
  exact (hf x hx).2.1.trans (hcall x hx)

theorem Moved.nil {links : List ProviderLink} (h : Moved [] links) : links = [] := by
  obtain ⟨f, rfl, -⟩ := h
  rfl

theorem Moved.length_eq {links links' : List ProviderLink} (h : Moved links links') :
    links'.length = links.length := by
  obtain ⟨f, rfl, -⟩ := h
  simp

theorem Shown.moved {links links' : List ProviderLink} {referenceId : String}
    {snapshot : PaymentLinkSnapshot} (h : Shown links referenceId snapshot)
    (hmoved : Moved links links') : Shown links' referenceId snapshot := by
  obtain ⟨link, hlink, hid⟩ := h.made
  obtain ⟨link', hlink', hid', -⟩ := hmoved.mem hlink
  exact ⟨h.reference_eq, link', hlink', hid'.trans hid⟩

/-- What a phase says stays true when links move and open creations end. -/
theorem ExecutorPhase.LinksOk.settle {links links' : List ProviderLink}
    {creations creations' : List PendingCreate} {referenceId : String} {newest : Prop}
    {phase : ExecutorPhase} (h : phase.LinksOk links creations referenceId newest)
    (hlinks : Moved links links') (hcreations : ∀ p ∈ creations', p ∈ creations) :
    phase.LinksOk links' creations' referenceId newest := by
  have hnil : creations = [] → creations' = [] := by
    rintro rfl
    exact List.eq_nil_iff_forall_not_mem.mpr fun p hp => absurd (hcreations p hp) (by simp)
  cases phase with
  | idle => trivial
  | claimed held => exact fun hnew => hnil (h hnew)
  | creating held =>
      intro hnew
      obtain ⟨rfl, hnone⟩ := h hnew
      exact ⟨hlinks.nil, hnil hnone⟩
  | awaiting held call =>
      intro hnew
      obtain ⟨hmade, hopen⟩ := h hnew
      exact ⟨hlinks.call hmade, fun p hp => hopen p (hcreations p hp)⟩
  | troubled held problem =>
      intro hnew hfailed
      obtain ⟨rfl, hnone⟩ := h hnew hfailed
      exact ⟨hlinks.nil, hnil hnone⟩
  | linked held snapshot adopted => exact Shown.moved h hlinks
  | compensating held snapshot => exact Shown.moved h hlinks
  | cancelling held snapshot => exact Shown.moved h hlinks
  | compensated held snapshot outcome =>
      obtain ⟨hshown, hdead⟩ := h
      refine ⟨hshown.moved hlinks, fun cancelled hout => ?_⟩
      obtain ⟨href, link, hlink, hlive⟩ := hdead cancelled hout
      obtain ⟨link', hlink', -, hstays⟩ := hlinks.mem hlink
      exact ⟨href, link', hlink', hstays hlive⟩

/-- A claim that is not the newest says nothing until a link is known. -/
theorem ExecutorPhase.LinksOk.superseded {links links' : List ProviderLink}
    {creations creations' : List PendingCreate} {referenceId : String} {newest : Prop}
    {phase : ExecutorPhase} (h : phase.LinksOk links creations referenceId newest)
    (hlinks : ∀ link ∈ links, link ∈ links') {newest' : Prop} (hold : ¬ newest') :
    phase.LinksOk links' creations' referenceId newest' := by
  have hshown : ∀ {snapshot}, Shown links referenceId snapshot →
      Shown links' referenceId snapshot := by
    rintro snapshot ⟨href, link, hlink, hid⟩
    exact ⟨href, link, hlinks link hlink, hid⟩
  cases phase with
  | idle => trivial
  | claimed | creating | awaiting | troubled => exact fun hnew => absurd hnew hold
  | linked | compensating | cancelling => exact hshown h
  | compensated held snapshot outcome =>
      refine ⟨hshown h.1, fun cancelled hout => ?_⟩
      obtain ⟨href, link, hlink, hlive⟩ := h.2 cancelled hout
      exact ⟨href, link, hlinks link hlink, hlive⟩

/-- The clock can only run leases out. -/
theorem openOf_tick (p : Provider) (clock : Int) (d : Nat) (referenceId : String) :
    (p.openOf (clock + d) referenceId).Sublist (p.openOf clock referenceId) := by
  refine List.monotone_filter_right _ fun x hx => ?_
  simp only [Bool.and_eq_true, beq_iff_eq, decide_eq_true_eq] at hx ⊢
  exact ⟨hx.1, hx.2.mono (Int.le_add_of_nonneg_right (Int.natCast_nonneg d))⟩

theorem withoutCall_openOf (p : Provider) (call : Nat) (clock : Int) (referenceId : String) :
    ((p.withoutCall call).openOf clock referenceId).Sublist (p.openOf clock referenceId) :=
  List.Sublist.filter _ List.filter_sublist

/-- A link with an id of its own, by that id. -/
theorem eq_of_link_id {links : List ProviderLink} (h : (links.map ProviderLink.id).Nodup)
    {x y : ProviderLink} (hx : x ∈ links) (hy : y ∈ links) (hid : x.id = y.id) : x = y :=
  List.inj_on_of_nodup_map h hx hy hid

/-! ### Rows

Two things are kept about a row, besides what its status says about the links: what each
claim that is held on it says, and which creations were sent for it. A claim with a
running lease is the newest on its row, since a row is claimed anew only when the last
lease has run out.
-/

variable [Platform]

/-- What a claim on the row `r` says. -/
structure HolderOk (clock : Int) (provider : Provider) (r : RecoveryActionRecord)
    (held : HeldClaim) (phase : ExecutorPhase) : Prop where
  reference : held.claim.referenceId = r.externalReference
  lease : held.lease.attempt = r.executionAttemptCount →
    r.executionStartedAt = some held.lease.startedAt
  /-- A claim whose lease is running is the newest on its row. -/
  running : held.lease.Running clock → held.lease.attempt = r.executionAttemptCount
  phase : ∀ referenceId, r.externalReference = some referenceId →
    phase.LinksOk (provider.linksOf referenceId) (provider.openOf clock referenceId) referenceId
      (held.lease.attempt = r.executionAttemptCount)

/-- What the row of a link says. -/
structure RowOk (clock : Int) (provider : Provider) (r : RecoveryActionRecord) : Prop where
  claimed : r.executionStatus ≠ .prepared
  reference : r.externalReference.isSome = true
  failed : r.executionStatus = .failed → ∀ referenceId, r.externalReference = some referenceId →
    provider.linksOf referenceId = [] ∧ provider.openOf clock referenceId = []
  cancelled : r.executionStatus = .cancelled →
    ∀ referenceId, r.externalReference = some referenceId →
    ∃ link ∈ provider.linksOf referenceId, link.status.live = false

/-- A creation was sent for a claim on the row `r`. -/
structure Sent (clock : Int) (r : RecoveryActionRecord) (p : PendingCreate) : Prop where
  reference : r.externalReference = some p.request.referenceId
  attempt_le : p.lease.attempt ≤ r.executionAttemptCount
  lease : p.lease.attempt = r.executionAttemptCount → r.executionStartedAt = some p.lease.startedAt
  running : p.lease.Running clock → p.lease.attempt = r.executionAttemptCount

structure LinksOk (s : System) : Prop where
  held : ∀ worker held, (s.executors worker).held? = some held →
    held.claim.action = .createRecoveryLink → ∀ r ∈ s.db.recoveryActions,
    r.id = held.claim.recoveryActionId → HolderOk s.clock s.provider r held (s.executors worker)
  rows : ∀ r ∈ s.db.recoveryActions, r.action = .createRecoveryLink → RowOk s.clock s.provider r
  other : ∀ r ∈ s.db.recoveryActions, r.action ≠ .createRecoveryLink → r.externalReference = none
  /-- An attempt is one worker's. -/
  alone : ∀ worker worker' held held', (s.executors worker).held? = some held →
    (s.executors worker').held? = some held' →
    held.claim.recoveryActionId = held'.claim.recoveryActionId →
    held.lease.attempt = held'.lease.attempt → worker = worker'
  /-- While the outcome is open, or known to be none, no worker's lease is running. -/
  quiet : ∀ r ∈ s.db.recoveryActions, r.action = .createRecoveryLink →
    (r.executionStatus = .indeterminate ∨ r.executionStatus = .failed) →
    ∀ worker held, (s.executors worker).held? = some held → held.claim.recoveryActionId = r.id →
    ¬ held.lease.Running s.clock
  reference : ∀ r ∈ s.db.recoveryActions, ∀ r' ∈ s.db.recoveryActions,
    r.externalReference.isSome = true → r.externalReference = r'.externalReference → r = r'
  sent : ∀ p ∈ s.provider.pending, ∃ r ∈ s.db.recoveryActions, Sent s.clock r p
  single : ∀ referenceId, (s.provider.linksOf referenceId).length +
    (s.provider.openOf s.clock referenceId).length ≤ 1
  ids : (s.provider.links.map ProviderLink.id).Nodup

theorem linksOk_initial (clock : Int) : LinksOk (System.initial clock) where
  held := fun _ _ h => (by cases h)
  rows := fun _ hr => absurd hr (Table.not_mem_empty _)
  other := fun _ hr => absurd hr (Table.not_mem_empty _)
  alone := fun _ _ _ _ h => (by cases h)
  quiet := fun _ hr => absurd hr (Table.not_mem_empty _)
  reference := fun _ hr => absurd hr (Table.not_mem_empty _)
  sent := fun _ hp => absurd hp (List.not_mem_nil)
  single := fun _ => Nat.zero_le 1
  ids := List.nodup_nil

/-! ### Steps of the provider and of the clock -/

theorem HolderOk.settle {clock clock' : Int} {p p' : Provider} {r : RecoveryActionRecord}
    {held : HeldClaim} {phase : ExecutorPhase} (h : HolderOk clock p r held phase)
    (hclock : clock ≤ clock') (hlinks : ∀ referenceId, Moved (p.linksOf referenceId)
      (p'.linksOf referenceId))
    (hopen : ∀ referenceId, ∀ x ∈ p'.openOf clock' referenceId, x ∈ p.openOf clock referenceId) :
    HolderOk clock' p' r held phase :=
  ⟨h.reference, h.lease, fun hrunning => h.running (hrunning.mono hclock),
    fun referenceId href => (h.phase referenceId href).settle (hlinks _) (hopen _)⟩

theorem RowOk.settle {clock clock' : Int} {p p' : Provider} {r : RecoveryActionRecord}
    (h : RowOk clock p r) (hlinks : ∀ referenceId, Moved (p.linksOf referenceId)
      (p'.linksOf referenceId))
    (hopen : ∀ referenceId, ∀ x ∈ p'.openOf clock' referenceId, x ∈ p.openOf clock referenceId) :
    RowOk clock' p' r := by
  refine ⟨h.claimed, h.reference, fun hfailed referenceId href => ?_,
    fun hcancelled referenceId href => ?_⟩
  · obtain ⟨hnone, hnone'⟩ := h.failed hfailed referenceId href
    have hmoved := hlinks referenceId
    rw [hnone] at hmoved
    refine ⟨hmoved.nil, List.eq_nil_iff_forall_not_mem.mpr fun x hx => ?_⟩
    simpa [hnone'] using hopen referenceId x hx
  · obtain ⟨link, hlink, hdead⟩ := h.cancelled hcancelled referenceId href
    obtain ⟨link', hlink', -, hstays⟩ := (hlinks referenceId).mem hlink
    exact ⟨link', hlink', hstays hdead⟩

/-- Links move, creations end, time passes: the invariant stays. -/
theorem LinksOk.settle {s s' : System} (h : LinksOk s) (hdb : s'.db = s.db)
    (hexecutors : s'.executors = s.executors) (hclock : s.clock ≤ s'.clock)
    (hlinks : ∀ referenceId, Moved (s.provider.linksOf referenceId)
      (s'.provider.linksOf referenceId))
    (hopen : ∀ referenceId, ((s'.provider.openOf s'.clock referenceId).Sublist
      (s.provider.openOf s.clock referenceId)))
    (hpending : ∀ x ∈ s'.provider.pending, x ∈ s.provider.pending)
    (hids : s'.provider.links.map ProviderLink.id = s.provider.links.map ProviderLink.id) :
    LinksOk s' where
  held := by
    rw [hdb, hexecutors]
    intro worker held hheld haction r hr hid
    exact (h.held worker held hheld haction r hr hid).settle hclock hlinks
      fun referenceId x hx => (hopen referenceId).subset hx
  rows := by
    rw [hdb]
    intro r hr haction
    exact (h.rows r hr haction).settle hlinks fun referenceId x hx => (hopen referenceId).subset hx
  other := by
    rw [hdb]
    exact h.other
  alone := by
    rw [hexecutors]
    exact h.alone
  quiet := by
    rw [hdb, hexecutors]
    intro r hr haction hstatus worker held hheld hid hrunning
    exact h.quiet r hr haction hstatus worker held hheld hid (hrunning.mono hclock)
  reference := by
    rw [hdb]
    exact h.reference
  sent := by
    rw [hdb]
    intro x hx
    obtain ⟨r, hr, hsent⟩ := h.sent x (hpending x hx)
    exact ⟨r, hr, hsent.reference, hsent.attempt_le, hsent.lease,
      fun hrunning => hsent.running (hrunning.mono hclock)⟩
  single := by
    intro referenceId
    have hlength := (hlinks referenceId).length_eq
    have hle := (hopen referenceId).length_le
    have hone := h.single referenceId
    omega
  ids := by
    rw [hids]
    exact h.ids

theorem LinksOk.moveLink {s : System} (h : LinksOk s) {linkId : String} {status : LinkStatus}
    (hlive : (s.provider.links.any fun x => x.id == linkId && x.status.live) = true) :
    LinksOk { s with provider := { s.provider with
      links := s.provider.links.map fun x =>
        if x.id = linkId then { x with status := status } else x } } := by
  obtain ⟨link, hlink, hcond⟩ := List.any_eq_true.mp hlive
  simp only [Bool.and_eq_true, beq_iff_eq] at hcond
  refine h.settle rfl rfl (le_refl _) (fun referenceId => ?_) (fun _ => List.Sublist.refl _)
    (fun x hx => hx) ?_
  · refine ⟨fun x => if x.id = linkId then { x with status := status } else x, ?_, fun x hx => ?_⟩
    · simp only [Provider.linksOf, List.filter_map]
      congr 1
      refine List.filter_congr fun x _ => ?_
      simp only [Function.comp]
      split <;> rfl
    · by_cases hid : x.id = linkId
      · -- only a live link moves
        have hsame : x = link := eq_of_link_id h.ids (mem_linksOf.mp hx).1 hlink
          (hid.trans hcond.1.symm)
        have hstatus : x.status.live = true := hsame ▸ hcond.2
        simp [hid, hstatus]
      · simp [hid]
  · simp only [List.map_map]
    refine List.map_congr_left fun x _ => ?_
    simp only [Function.comp]
    split <;> rfl

theorem LinksOk.refuse {s : System} (h : LinksOk s) (call : Nat) :
    LinksOk { s with provider := s.provider.withoutCall call } :=
  h.settle rfl rfl (le_refl _) (fun _ => .refl _)
    (fun referenceId => withoutCall_openOf s.provider call s.clock referenceId)
    (fun _ hx => (List.mem_filter.mp hx).1) rfl

/-- The one open creation of its reference is applied, and the reference has a link. -/
theorem LinksOk.applyCreate {s : System} (h : LinksOk s) {call : Nat} {linkId : String}
    {create : PendingCreate} (hfind : (s.provider.pending.find? fun x => x.call == call) = some create)
    (hfree : (s.provider.links.any fun x => x.id == linkId) = false)
    (hrunning : create.lease.Running s.clock) :
    LinksOk { s with provider := { s.provider.withoutCall call with
      links := s.provider.links ++ [create.link linkId] } } := by
  have hpending := List.mem_of_find?_eq_some hfind
  have hcall : create.call = call := by simpa using List.find?_some hfind
  have hmem : create ∈ s.provider.openOf s.clock create.request.referenceId :=
    mem_openOf.mpr ⟨hpending, rfl, hrunning⟩
  -- before the step the reference has this open creation and nothing else
  obtain ⟨hnone, honly⟩ : s.provider.linksOf create.request.referenceId = [] ∧
      s.provider.openOf s.clock create.request.referenceId = [create] := by
    have hone := h.single create.request.referenceId
    have hpos := List.length_pos_of_mem hmem
    refine ⟨List.eq_nil_of_length_eq_zero (by omega), ?_⟩
    obtain ⟨x, hx⟩ := List.length_eq_one_iff.mp (show
      (s.provider.openOf s.clock create.request.referenceId).length = 1 by omega)
    rw [hx, List.mem_singleton] at hmem
    rw [hx, hmem]
  set p' : Provider := { s.provider.withoutCall call with
    links := s.provider.links ++ [create.link linkId] } with hp'
  have hsub : ∀ referenceId, (p'.openOf s.clock referenceId).Sublist
      (s.provider.openOf s.clock referenceId) :=
    fun referenceId => withoutCall_openOf s.provider call s.clock referenceId
  have hlinks : ∀ referenceId, referenceId ≠ create.request.referenceId →
      p'.linksOf referenceId = s.provider.linksOf referenceId := by
    intro referenceId hne
    simp [hp', Provider.linksOf, PendingCreate.link, hne.symm]
  have hlinks₀ : p'.linksOf create.request.referenceId = [create.link linkId] := by
    have hfilter : p'.linksOf create.request.referenceId =
        s.provider.linksOf create.request.referenceId ++ [create.link linkId] := by
      simp [hp', Provider.linksOf, PendingCreate.link]
    rw [hfilter, hnone]
    rfl
  have hopen₀ : p'.openOf s.clock create.request.referenceId = [] := by
    refine List.eq_nil_iff_forall_not_mem.mpr fun x hx => ?_
    have hold := (hsub _).subset hx
    rw [honly, List.mem_singleton] at hold
    subst hold
    have hkept := (mem_openOf.mp hx).1
    simp [hp', Provider.withoutCall, hcall] at hkept
  refine ⟨?_, ?_, h.other, h.alone, h.quiet, h.reference, ?_, ?_, ?_⟩
  · intro worker held hheld haction r hr hid
    have hholder := h.held worker held hheld haction r hr hid
    refine ⟨hholder.reference, hholder.lease, hholder.running, fun referenceId href => ?_⟩
    have hphase := hholder.phase referenceId href
    by_cases hkey : referenceId = create.request.referenceId
    · subst hkey
      rw [hnone, honly] at hphase
      show (s.executors worker).LinksOk (p'.linksOf _) (p'.openOf s.clock _) _ _
      rw [hlinks₀, hopen₀]
      exact hphase.applied rfl
    · refine hphase.settle ?_ fun x hx => (hsub referenceId).subset hx
      show Moved _ (p'.linksOf referenceId)
      rw [hlinks referenceId hkey]
      exact .refl _
  · intro r hr haction
    have hrow := h.rows r hr haction
    refine ⟨hrow.claimed, hrow.reference, fun hfailed referenceId href => ?_,
      fun hcancelled referenceId href => ?_⟩
    · obtain ⟨hnone', hnone''⟩ := hrow.failed hfailed referenceId href
      by_cases hkey : referenceId = create.request.referenceId
      · subst hkey
        rw [honly] at hnone''
        cases hnone''
      · refine ⟨(hlinks referenceId hkey).trans hnone', ?_⟩
        refine List.eq_nil_iff_forall_not_mem.mpr fun x hx => ?_
        have hold := (hsub referenceId).subset hx
        rw [hnone''] at hold
        simp at hold
    · obtain ⟨link, hlink, hdead⟩ := hrow.cancelled hcancelled referenceId href
      by_cases hkey : referenceId = create.request.referenceId
      · subst hkey
        rw [hnone] at hlink
        simp at hlink
      · exact ⟨link, by rw [← hlinks referenceId hkey] at hlink; exact hlink, hdead⟩
  · intro x hx
    exact h.sent x (List.mem_filter.mp hx).1
  · intro referenceId
    by_cases hkey : referenceId = create.request.referenceId
    · subst hkey
      show (p'.linksOf _).length + (p'.openOf s.clock _).length ≤ 1
      rw [hlinks₀, hopen₀]
      simp
    · show (p'.linksOf referenceId).length + (p'.openOf s.clock referenceId).length ≤ 1
      rw [hlinks referenceId hkey]
      have hone := h.single referenceId
      have hle := (hsub referenceId).length_le
      omega
  · show ((s.provider.links ++ [create.link linkId]).map ProviderLink.id).Nodup
    rw [List.map_append, List.nodup_append]
    refine ⟨h.ids, by simp, fun a ha b hb hab => ?_⟩
    obtain ⟨x, hx, rfl⟩ := List.mem_map.mp ha
    have hfresh := List.any_eq_false.mp hfree x hx
    simp only [List.map_cons, List.map_nil, List.mem_singleton, PendingCreate.link] at hb
    exact hfresh (by simpa using hab.trans hb)

/-! ### Steps of executors

A write to a row is harmless for the claims as long as it keeps action, reference and
newest attempt. `SameLedger` collects these columns, so that the finalizers are covered
by one lemma, given that the status they write is in order.
-/

omit [Platform] in
/-- A worker that keeps its claim when its phase changes holds what it held. -/
theorem held_update (executors : Nat → ExecutorPhase) (worker : Nat) (phase : ExecutorPhase)
    (h : phase.held? = (executors worker).held?) (other : Nat) :
    (Function.update executors worker phase other).held? = (executors other).held? := by
  by_cases hother : other = worker
  · subst hother
    rw [Function.update_self, h]
  · rw [Function.update_of_ne hother]

/-- The row of a claim that is held, and what the claim says about it. -/
theorem LinksOk.row {s : System} (h : LinksOk s) (hok : HeldOk s) {worker : Nat}
    {held : HeldClaim} (hheld : (s.executors worker).held? = some held)
    (haction : held.claim.action = .createRecoveryLink) :
    ∃ r ∈ s.db.recoveryActions, r.Carries held ∧
      HolderOk s.clock s.provider r held (s.executors worker) := by
  obtain ⟨r, hr, hcarries⟩ := hok worker held hheld
  exact ⟨r, hr, hcarries, h.held worker held hheld haction r hr hcarries.id_eq⟩

/-- The newest claim sends a creation for a reference that has no link and no creation. -/
theorem LinksOk.send {s : System} (h : LinksOk s) (hok : HeldOk s) {worker : Nat}
    {held : HeldClaim} {request : PaymentLinkCreateRequest}
    (hphase : s.executors worker = .creating held)
    (haction : held.claim.action = .createRecoveryLink)
    (hrequest : paymentLinkRequest held.claim = .ok request)
    (hrunning : held.lease.Running s.clock) :
    LinksOk { s with
      provider := s.provider.send request held.lease
      executors := Function.update s.executors worker (.awaiting held s.provider.calls) } := by
  have hheld : (s.executors worker).held? = some held := by rw [hphase]; rfl
  have hsame := held_update s.executors worker (.awaiting held s.provider.calls)
    (by rw [hphase]; rfl)
  obtain ⟨r₀, hr₀, hcarries, hholder₀⟩ := h.row hok hheld haction
  have hnewest := hholder₀.running hrunning
  have href₀ : r₀.externalReference = some request.referenceId :=
    hholder₀.reference.symm.trans (paymentLinkRequest_reference hrequest)
  have haction₀ : r₀.action = .createRecoveryLink := hcarries.action_eq.trans haction
  obtain ⟨hnone, hnone'⟩ : s.provider.linksOf request.referenceId = [] ∧
      s.provider.openOf s.clock request.referenceId = [] := by
    have hcreating := hholder₀.phase _ href₀
    rw [hphase] at hcreating
    exact hcreating hnewest
  -- the row of the reference is the row of the claim
  have hrow : ∀ r ∈ s.db.recoveryActions, r.externalReference = some request.referenceId →
      r = r₀ := fun r hr href => h.reference r hr r₀ hr₀ (by simp [href]) (href.trans href₀.symm)
  have hopen : ∀ referenceId, (s.provider.send request held.lease).openOf s.clock referenceId =
      s.provider.openOf s.clock referenceId ++
        if referenceId = request.referenceId then [⟨s.provider.calls, request, held.lease⟩]
        else [] := by
    intro referenceId
    by_cases hkey : referenceId = request.referenceId
    · simp [Provider.openOf, Provider.send, hkey, hrunning]
    · simp [Provider.openOf, Provider.send, hkey, Ne.symm hkey]
  refine ⟨?_, ?_, h.other, ?_, ?_, h.reference, ?_, ?_, h.ids⟩
  · intro worker' held' hheld' haction' r hr hid
    rw [hsame] at hheld'
    have hholder := h.held worker' held' hheld' haction' r hr hid
    refine ⟨hholder.reference, hholder.lease, hholder.running, fun referenceId href => ?_⟩
    show (Function.update s.executors worker _ worker').LinksOk (s.provider.linksOf referenceId)
      ((s.provider.send request held.lease).openOf s.clock referenceId) referenceId _
    by_cases hworker : worker' = worker
    · subst hworker
      rw [hheld] at hheld'
      cases hheld'
      obtain rfl : r = r₀ := Table.eq_of_key_eq hr hr₀ (hid.trans hcarries.id_eq.symm)
      rw [href₀] at href
      cases href
      rw [Function.update_self, hopen, hnone, hnone', if_pos rfl]
      exact fun _ => ⟨by simp, by simp⟩
    · rw [Function.update_of_ne hworker, hopen]
      have hold := hholder.phase referenceId href
      by_cases hkey : referenceId = request.referenceId
      · subst hkey
        obtain rfl := hrow r hr href
        refine hold.superseded (fun link hlink => hlink) fun hnew => hworker ?_
        exact h.alone worker' worker held' held hheld' hheld
          (hid.symm.trans hcarries.id_eq) (hnew.trans hnewest.symm)
      · rw [if_neg hkey, List.append_nil]
        exact hold
  · intro r hr haction'
    have hok' := h.rows r hr haction'
    refine ⟨hok'.claimed, hok'.reference, fun hfailed referenceId href => ?_, hok'.cancelled⟩
    show s.provider.linksOf referenceId = [] ∧
      (s.provider.send request held.lease).openOf s.clock referenceId = []
    obtain ⟨hlinks, hcreations⟩ := hok'.failed hfailed referenceId href
    by_cases hkey : referenceId = request.referenceId
    · -- no lease is running on a row that has failed
      subst hkey
      obtain rfl := hrow r hr href
      exact absurd hrunning (h.quiet r hr haction' (.inr hfailed) worker held hheld
        hcarries.id_eq.symm)
    · rw [hopen, if_neg hkey, List.append_nil]
      exact ⟨hlinks, hcreations⟩
  · intro w w' x x' hx hx'
    rw [hsame] at hx hx'
    exact h.alone w w' x x' hx hx'
  · intro r hr haction' hstatus w x hx
    rw [hsame] at hx
    exact h.quiet r hr haction' hstatus w x hx
  · intro p hp
    rcases List.mem_append.mp hp with hp | hp
    · exact h.sent p hp
    · rw [List.mem_singleton.mp hp]
      exact ⟨r₀, hr₀, href₀, hcarries.attempt_le, hholder₀.lease, fun _ => hnewest⟩
  · intro referenceId
    show (s.provider.linksOf referenceId).length +
      ((s.provider.send request held.lease).openOf s.clock referenceId).length ≤ 1
    rw [hopen]
    by_cases hkey : referenceId = request.referenceId
    · subst hkey
      rw [hnone, hnone', if_pos rfl]
      simp
    · rw [if_neg hkey, List.append_nil]
      exact h.single referenceId

/-- Two rows of one action, of one reference, under one claim. -/
structure SameLedger (r r' : RecoveryActionRecord) : Prop extends r.SameAction r' where
  reference_eq : r'.externalReference = r.externalReference
  count_eq : r'.executionAttemptCount = r.executionAttemptCount
  started_eq : r'.executionStartedAt = r.executionStartedAt

theorem SameLedger.refl (r : RecoveryActionRecord) : SameLedger r r := ⟨.refl r, rfl, rfl, rfl⟩

theorem HolderOk.of_same {clock : Int} {p : Provider} {r r' : RecoveryActionRecord}
    {held : HeldClaim} {phase : ExecutorPhase} (h : HolderOk clock p r held phase)
    (hsame : SameLedger r r') : HolderOk clock p r' held phase := by
  refine ⟨h.reference.trans hsame.reference_eq.symm, ?_, ?_, ?_⟩ <;> rw [hsame.count_eq]
  · rw [hsame.started_eq]
    exact h.lease
  · exact h.running
  · rw [hsame.reference_eq]
    exact h.phase

/-- The new status of a row that was written is in order. -/
structure StatusOk (s : System) (r : RecoveryActionRecord) : Prop where
  row : RowOk s.clock s.provider r
  quiet : r.executionStatus = .indeterminate ∨ r.executionStatus = .failed →
    ∀ worker held, (s.executors worker).held? = some held →
    held.claim.recoveryActionId = r.id → ¬ held.lease.Running s.clock

/--
A step that writes statuses and moves phases, but claims nothing and leaves the
provider alone, keeps the invariant when the new statuses and phases are in order.
-/
theorem LinksOk.write {s s' : System} (h : LinksOk s) (hclock : s'.clock = s.clock)
    (hprovider : s'.provider = s.provider)
    (hrows : ∀ r' ∈ s'.db.recoveryActions, ∃ r ∈ s.db.recoveryActions, SameLedger r r' ∧
      (r'.executionStatus = r.executionStatus ∨
        (r'.action = .createRecoveryLink → StatusOk s' r')))
    (hback : ∀ r ∈ s.db.recoveryActions, ∃ r' ∈ s'.db.recoveryActions, SameLedger r r')
    (hphases : ∀ worker held, (s'.executors worker).held? = some held →
      (s.executors worker).held? = some held ∧ (s'.executors worker = s.executors worker ∨
        (held.claim.action = .createRecoveryLink → ∀ r ∈ s.db.recoveryActions,
          r.id = held.claim.recoveryActionId → ∀ referenceId,
          r.externalReference = some referenceId →
          (s'.executors worker).LinksOk (s.provider.linksOf referenceId)
            (s.provider.openOf s.clock referenceId) referenceId
            (held.lease.attempt = r.executionAttemptCount)))) : LinksOk s' := by
  refine ⟨?_, ?_, ?_, ?_, ?_, ?_, ?_, ?_, ?_⟩
  · intro worker held hheld haction r' hr' hid
    obtain ⟨r, hr, hsame, -⟩ := hrows r' hr'
    obtain ⟨hheld₀, hphase⟩ := hphases worker held hheld
    have hid₀ : r.id = held.claim.recoveryActionId := hsame.id_eq.symm.trans hid
    have hholder := h.held worker held hheld₀ haction r hr hid₀
    rw [hclock, hprovider]
    refine HolderOk.of_same ?_ hsame
    rcases hphase with hphase | hphase
    · rwa [hphase]
    · exact ⟨hholder.reference, hholder.lease, hholder.running, hphase haction r hr hid₀⟩
  · intro r' hr' haction
    obtain ⟨r, hr, hsame, hstatus⟩ := hrows r' hr'
    rw [hclock, hprovider]
    rcases hstatus with hstatus | hstatus
    · have hrow := h.rows r hr (hsame.action_eq.symm.trans haction)
      refine ⟨?_, ?_, ?_, ?_⟩
      · rw [hstatus]
        exact hrow.claimed
      · rw [hsame.reference_eq]
        exact hrow.reference
      · rw [hstatus, hsame.reference_eq]
        exact hrow.failed
      · rw [hstatus, hsame.reference_eq]
        exact hrow.cancelled
    · have hrow := (hstatus haction).row
      rwa [hclock, hprovider] at hrow
  · intro r' hr' haction
    obtain ⟨r, hr, hsame, -⟩ := hrows r' hr'
    rw [hsame.reference_eq]
    exact h.other r hr (hsame.action_eq ▸ haction)
  · intro worker worker' held held' hheld hheld'
    exact h.alone worker worker' held held' (hphases worker held hheld).1
      (hphases worker' held' hheld').1
  · intro r' hr' haction hstatus' worker held hheld hid
    obtain ⟨r, hr, hsame, hstatus⟩ := hrows r' hr'
    rcases hstatus with hstatus | hstatus
    · rw [hclock]
      rw [hstatus] at hstatus'
      exact h.quiet r hr (hsame.action_eq.symm.trans haction) hstatus' worker held
        (hphases worker held hheld).1 (hid.trans hsame.id_eq)
    · exact (hstatus haction).quiet hstatus' worker held hheld hid
  · intro r' hr' x' hx' hsome hreference
    obtain ⟨r, hr, hsame, -⟩ := hrows r' hr'
    obtain ⟨x, hx, hsame', -⟩ := hrows x' hx'
    rw [hsame.reference_eq] at hsome hreference
    rw [hsame'.reference_eq] at hreference
    have heq : r = x := h.reference r hr x hx hsome hreference
    refine Table.eq_of_key_eq hr' hx' (hsame.id_eq.trans ?_)
    rw [heq]
    exact hsame'.id_eq.symm
  · intro p hp
    rw [hprovider] at hp
    obtain ⟨r, hr, hsent⟩ := h.sent p hp
    obtain ⟨r', hr', hsame⟩ := hback r hr
    rw [hclock]
    refine ⟨r', hr', hsame.reference_eq.trans hsent.reference, ?_, ?_, ?_⟩ <;>
      rw [hsame.count_eq]
    · exact hsent.attempt_le
    · rw [hsame.started_eq]
      exact hsent.lease
    · exact hsent.running
  · rw [hclock, hprovider]
    exact h.single
  · rw [hprovider]
    exact h.ids

/-- The rows after one of them has been written. -/
theorem rows_put {records : Table RecoveryActionRecord} {record record' : RecoveryActionRecord}
    (hrecord : record ∈ records) (hsame : SameLedger record record') :
    (∀ r' ∈ records.put record', ∃ r ∈ records, SameLedger r r' ∧
      (r'.executionStatus = r.executionStatus ∨ r' = record')) ∧
    (∀ r ∈ records, ∃ r' ∈ records.put record', SameLedger r r') := by
  have hput := fun x => Table.mem_put_of_mem hrecord hsame.id_eq (x := x)
  refine ⟨fun r' hr' => ?_, fun r hr => ?_⟩
  · rcases (hput r').mp hr' with ⟨hr', -⟩ | rfl
    · exact ⟨r', hr', .refl r', .inl rfl⟩
    · exact ⟨record, hrecord, hsame, .inr rfl⟩
  · by_cases hkey : r.id = record.id
    · obtain rfl : r = record := Table.eq_of_key_eq hr hrecord hkey
      exact ⟨record', (hput record').mpr (.inr rfl), hsame⟩
    · exact ⟨r, (hput r).mpr (.inl ⟨hr, fun hk => hkey (hk.trans hsame.id_eq)⟩), .refl r⟩

/-! ### Claims

A claim takes over a row whose last lease has run out or whose last attempt has ended.
In both cases no creation for its reference can still be applied; this is where the
assumption on the provider's answers within a lease is used.
-/

/-- A row in progress that is open to a claim is under a lease that has run out. -/
theorem not_running_of_stale {record : RecoveryActionRecord} {now clock : Int} {lease : Lease}
    (hstale : hasFreshLease record now = false) (hnow : now ≤ clock)
    (hstatus : record.executionStatus = .inProgress)
    (hstarted : record.executionStartedAt = some lease.startedAt) : ¬ lease.Running clock := by
  unfold hasFreshLease at hstale
  simp only [hstatus, hstarted, beq_self_eq_true, Option.any_some, Bool.true_and,
    decide_eq_false_iff_not, not_lt] at hstale
  unfold Lease.Running
  omega

section

variable {s : System} {db' : Db} {worker : Nat} {caseId newId : Uuid} {now : Int}
  {claim : ExecutionClaim} {c : PaymentCase} {proposal : StrategyProposal}
  {decision : PolicyDecision} {inputs : CurrentAuthorizationInputs} {record : RecoveryActionRecord}

/-- On a row that is open, and under no running lease itself, no attempt has a running lease. -/
theorem LinksOk.expired (h : LinksOk s) (hrecord : record ∈ s.db.recoveryActions)
    (haction : record.action = .createRecoveryLink)
    (hfinal : record.executionStatus ∉ finalExecutionStatuses)
    (hstale : hasFreshLease record now = false) (hnow : now ≤ s.clock) {lease : Lease}
    (hlease : lease.attempt = record.executionAttemptCount →
      record.executionStartedAt = some lease.startedAt)
    (hnewest : lease.Running s.clock → lease.attempt = record.executionAttemptCount)
    (hopen : record.executionStatus = .indeterminate → ¬ lease.Running s.clock) :
    ¬ lease.Running s.clock := by
  intro hrunning
  have hstarted := hlease (hnewest hrunning)
  have hprepared := (h.rows record hrecord haction).claimed
  cases hstatus : record.executionStatus with
  | prepared => exact hprepared hstatus
  | inProgress => exact not_running_of_stale hstale hnow hstatus hstarted hrunning
  | indeterminate => exact hopen hstatus hrunning
  | succeeded | failed | cancelled | compensationRequired =>
      rw [hstatus] at hfinal
      exact hfinal (by decide)

theorem LinksOk.claim_expired (h : LinksOk s) (hok : HeldOk s) (hnow : now ≤ s.clock)
    (hrow : ClaimedRow s.db db' caseId newId now claim c proposal decision inputs record)
    (haction : record.action = .createRecoveryLink) {other : Nat} {held : HeldClaim}
    (hheld : (s.executors other).held? = some held)
    (hid : held.claim.recoveryActionId = record.id) : ¬ held.lease.Running s.clock := by
  obtain ⟨r, hr, hcarries⟩ := hok other held hheld
  have hkey : r.id = record.id := hcarries.id_eq.trans hid
  rcases hrow.origin with hbuilt | hreclaimed
  · exact absurd hkey (hbuilt.new r hr)
  · obtain rfl : r = record := Table.eq_of_key_eq hr hreclaimed.mem hkey
    have hholder := h.held other held hheld (hcarries.action_eq.symm.trans haction) r hr
      hcarries.id_eq
    exact h.expired hr haction hreclaimed.not_final hreclaimed.lease hnow hholder.lease
      hholder.running fun hstatus => h.quiet r hr haction (.inl hstatus) other held hheld hid

theorem LinksOk.claim_open (h : LinksOk s) (hnow : now ≤ s.clock)
    (hrow : ClaimedRow s.db db' caseId newId now claim c proposal decision inputs record)
    (hsettled : ∀ decision ∈ s.db.currentDecision caseId, ∀ r ∈ s.db.actionFor decision.id,
      r.executionStatus = .indeterminate →
      ∀ referenceId ∈ r.externalReference, s.provider.openOf s.clock referenceId = [])
    (haction : record.action = .createRecoveryLink) {referenceId : String}
    (href : record.externalReference = some referenceId) :
    s.provider.openOf s.clock referenceId = [] := by
  refine List.eq_nil_iff_forall_not_mem.mpr fun p hp => ?_
  obtain ⟨hpending, hreference, hrunning⟩ := mem_openOf.mp hp
  obtain ⟨r, hr, hsent⟩ := h.sent p hpending
  have hsame : r.externalReference = record.externalReference := by
    rw [hsent.reference, hreference, href]
  rcases hrow.origin with hbuilt | hreclaimed
  · exact hbuilt.unused r hr (by simp [href]) hsame
  · obtain rfl : r = record := h.reference r hr record hreclaimed.mem (by simp [hsent.reference])
      hsame
    refine h.expired hr haction hreclaimed.not_final hreclaimed.lease hnow hsent.lease hsent.running
      (fun hstatus => ?_) hrunning
    have hdecision : s.db.currentDecision caseId = some decision := by
      rw [← hrow.case_id]
      exact hrow.authority.decision_current
    have hnone := hsettled decision hdecision r hreclaimed.found hstatus referenceId href
    rw [hnone] at hp
    simp at hp

/-- **A claim keeps the invariant**: its row has no open creation and no running lease. -/
theorem LinksOk.prepare (h : LinksOk s) (hok : HeldOk s) (hidle : s.executors worker = .idle)
    (hnow : now ≤ s.clock)
    (hrow : ClaimedRow s.db db' caseId newId now claim c proposal decision inputs record)
    (hsettled : ∀ decision ∈ s.db.currentDecision caseId, ∀ r ∈ s.db.actionFor decision.id,
      r.executionStatus = .indeterminate →
      ∀ referenceId ∈ r.externalReference, s.provider.openOf s.clock referenceId = []) :
    LinksOk { s with
      db := db'
      executors := Function.update s.executors worker
        (.claimed ⟨claim, leaseOf db' claim.recoveryActionId⟩) } := by
  rw [hrow.lease]
  have hclaimId : claim.recoveryActionId = record.id := by rw [hrow.claim_eq]; rfl
  have hclaimAction : claim.action = record.action := by rw [hrow.claim_eq]; rfl
  have hclaimReference : claim.referenceId = record.externalReference := by
    rw [hrow.claim_eq]
    rfl
  -- a claim held before the step is an older one, when it is on this row
  have hattempt : ∀ {other held}, (s.executors other).held? = some held →
      held.claim.recoveryActionId = record.id →
      held.lease.attempt ≤ record.executionAttemptCount := by
    intro other held hheld hid
    obtain ⟨r, hr, hcarries⟩ := hok other held hheld
    have hkey : r.id = record.id := hcarries.id_eq.trans hid
    rcases hrow.origin with hbuilt | hreclaimed
    · exact absurd hkey (hbuilt.new r hr)
    · obtain rfl : r = record := Table.eq_of_key_eq hr hreclaimed.mem hkey
      exact hcarries.attempt_le
  have hothers : ∀ {other held}, (Function.update s.executors worker
      (.claimed ⟨claim, ⟨record.executionAttemptCount + 1, now⟩⟩) other).held? = some held →
      (other = worker ∧ held = ⟨claim, ⟨record.executionAttemptCount + 1, now⟩⟩) ∨
      (other ≠ worker ∧ (s.executors other).held? = some held) := by
    intro other held hheld
    by_cases hother : other = worker
    · subst hother
      rw [Function.update_self] at hheld
      cases hheld
      exact .inl ⟨rfl, rfl⟩
    · rw [Function.update_of_ne hother] at hheld
      exact .inr ⟨hother, hheld⟩
  have hreference : ∀ x ∈ s.db.recoveryActions, x.id ≠ record.id →
      record.externalReference.isSome = true → x.externalReference ≠ record.externalReference := by
    intro x hx hne hsome hsame
    rcases hrow.origin with hbuilt | hreclaimed
    · exact hbuilt.unused x hx hsome hsame
    · exact hne (congrArg RecoveryActionRecord.id
        (h.reference record hreclaimed.mem x hx hsome hsame.symm).symm)
  refine ⟨?_, ?_, ?_, ?_, ?_, ?_, ?_, h.single, h.ids⟩
  · intro other held hheld haction r hr hid
    show HolderOk s.clock s.provider r held (Function.update s.executors worker _ other)
    rcases hothers hheld with ⟨rfl, rfl⟩ | ⟨hother, hheld⟩
    · obtain rfl : r = record.start now := by
        rcases (hrow.rows r).mp hr with ⟨-, hne⟩ | rfl
        · exact absurd (hid.trans hclaimId) hne
        · rfl
      rw [Function.update_self]
      exact ⟨hclaimReference, fun _ => rfl, fun _ => rfl, fun referenceId href _ =>
        h.claim_open hnow hrow hsettled (hclaimAction.symm.trans haction) href⟩
    · rw [Function.update_of_ne hother]
      rcases (hrow.rows r).mp hr with ⟨hr, -⟩ | rfl
      · exact h.held other held hheld haction r hr hid
      · -- an older claim on the row that was claimed
        have hid' : held.claim.recoveryActionId = record.id := hid.symm
        obtain ⟨r₀, hr₀, hcarries, hholder⟩ := h.row hok hheld haction
        have hkey : r₀.id = record.id := hcarries.id_eq.trans hid'
        have haction' : record.action = .createRecoveryLink := by
          rcases hrow.origin with hbuilt | hreclaimed
          · exact absurd hkey (hbuilt.new r₀ hr₀)
          · rw [← Table.eq_of_key_eq hr₀ hreclaimed.mem hkey]
            exact hcarries.action_eq.trans haction
        have hold := hattempt hheld hid'
        have hnot : ¬ held.lease.attempt = (record.start now).executionAttemptCount := by
          show ¬ held.lease.attempt = record.executionAttemptCount + 1
          omega
        have hreference₀ : r₀.externalReference = record.externalReference := by
          rcases hrow.origin with hbuilt | hreclaimed
          · exact absurd hkey (hbuilt.new r₀ hr₀)
          · rw [Table.eq_of_key_eq hr₀ hreclaimed.mem hkey]
        refine ⟨hholder.reference.trans hreference₀, fun hnew => absurd hnew hnot,
          fun hrunning => absurd hrunning (h.claim_expired hok hnow hrow haction' hheld hid'),
          fun referenceId href => ?_⟩
        exact (hholder.phase referenceId (hreference₀.trans href)).superseded
          (fun link hlink => hlink) hnot
  · intro r hr haction
    rcases (hrow.rows r).mp hr with ⟨hr, -⟩ | rfl
    · exact h.rows r hr haction
    · refine ⟨fun hprepared => (by cases hprepared), ?_, fun hfailed => (by cases hfailed),
        fun hcancelled => (by cases hcancelled)⟩
      show record.externalReference.isSome = true
      rcases hrow.origin with hbuilt | hreclaimed
      · rw [hbuilt.reference, if_pos (show record.action = .createRecoveryLink from haction)]
        rfl
      · exact (h.rows record hreclaimed.mem haction).reference
  · intro r hr haction
    rcases (hrow.rows r).mp hr with ⟨hr, -⟩ | rfl
    · exact h.other r hr haction
    · show record.externalReference = none
      rcases hrow.origin with hbuilt | hreclaimed
      · rw [hbuilt.reference, if_neg (show ¬ record.action = .createRecoveryLink from haction)]
      · exact h.other record hreclaimed.mem haction
  · intro w w' x x' hx hx' hid hsame
    rcases hothers hx with ⟨rfl, rfl⟩ | ⟨-, hold⟩ <;>
      rcases hothers hx' with ⟨rfl, rfl⟩ | ⟨-, hold'⟩
    · rfl
    · have hle := hattempt hold' (hid.symm.trans hclaimId)
      simp only at hsame
      omega
    · have hle := hattempt hold (hid.trans hclaimId)
      simp only at hsame
      omega
    · exact h.alone w w' x x' hold hold' hid hsame
  · intro r hr haction hstatus other held hheld hid
    rcases (hrow.rows r).mp hr with ⟨hr, hne⟩ | rfl
    · rcases hothers hheld with ⟨rfl, rfl⟩ | ⟨-, hheld⟩
      · exact absurd (hid.symm.trans hclaimId) hne
      · exact h.quiet r hr haction hstatus other held hheld hid
    · rcases hstatus with hstatus | hstatus <;> cases hstatus
  · intro r hr r' hr' hsome hsame
    rcases (hrow.rows r).mp hr with ⟨hr, hne⟩ | rfl <;>
      rcases (hrow.rows r').mp hr' with ⟨hr', hne'⟩ | rfl
    · exact h.reference r hr r' hr' hsome hsame
    · have hsame' : r.externalReference = record.externalReference := hsame
      exact absurd hsame' (hreference r hr hne (hsame' ▸ hsome))
    · exact absurd hsame.symm (hreference r' hr' hne' hsome)
    · rfl
  · intro p hp
    obtain ⟨r, hr, hsent⟩ := h.sent p hp
    by_cases hkey : r.id = record.id
    · rcases hrow.origin with hbuilt | hreclaimed
      · exact absurd hkey (hbuilt.new r hr)
      · obtain rfl : r = record := Table.eq_of_key_eq hr hreclaimed.mem hkey
        have haction : r.action = .createRecoveryLink := by
          by_contra hother
          have hnone := h.other r hr hother
          rw [hsent.reference] at hnone
          cases hnone
        have hclosed := h.claim_open hnow hrow hsettled haction hsent.reference
        have hle := hsent.attempt_le
        refine ⟨r.start now, (hrow.rows _).mpr (.inr rfl), hsent.reference,
          hle.trans (Nat.le_succ _), fun hnew => ?_, fun hrunning => ?_⟩
        · have hnew' : p.lease.attempt = r.executionAttemptCount + 1 := hnew
          omega
        · have hopen : p ∈ s.provider.openOf s.clock p.request.referenceId :=
            mem_openOf.mpr ⟨hp, rfl, hrunning⟩
          rw [hclosed] at hopen
          simp at hopen
    · exact ⟨r, (hrow.rows r).mpr (.inl ⟨hr, hkey⟩), hsent⟩

end

end Arc
