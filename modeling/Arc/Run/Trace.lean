/-
Guarded transition systems and their traces.

A system is a partial step function: `step s l = some s'` when the label `l` is
enabled in `s`, and `none` when it is not.  A trace records every step taken with the
state it was taken in and the state it led to, so that a statement about runs can
speak of what was true when a step was taken and of what had been done before it.

Three rules carry everything proved with it.  `Trace.invariant` lifts what one step
preserves to every state a run reaches, `Trace.split` cuts a trace at any of its
steps, and `Trace.of_replay` turns an executed list of labels into a trace, which is
how a concrete run enters a proof.
-/
import Mathlib.Data.List.Basic

namespace Run

universe u v

variable {σ : Type u} {ι : Type v}

/-- One step taken: the state it was taken in, its label, the state it led to. -/
structure Step (σ : Type u) (ι : Type v) where
  pre : σ
  label : ι
  post : σ

/-- The steps taken from `s₀`, in order, and the state they lead to. -/
inductive Trace (step : σ → ι → Option σ) (s₀ : σ) : List (Step σ ι) → σ → Prop
  | nil : Trace step s₀ [] s₀
  | snoc {tr : List (Step σ ι)} {s s' : σ} {l : ι} (h : Trace step s₀ tr s)
      (hstep : step s l = some s') : Trace step s₀ (tr ++ [⟨s, l, s'⟩]) s'

/-- A state some trace leads to. -/
def Reachable (step : σ → ι → Option σ) (s₀ s : σ) : Prop :=
  ∃ tr, Trace step s₀ tr s

/-- Take the steps of a list of labels, one after another. -/
def replay (step : σ → ι → Option σ) : σ → List ι → Option σ
  | s, [] => some s
  | s, l :: ls => (step s l).bind fun s' => replay step s' ls

variable {step : σ → ι → Option σ} {s₀ s s' : σ} {tr tr' : List (Step σ ι)} {l : ι}

/-- Every recorded step is a step of the system. -/
theorem Trace.step_of_mem (h : Trace step s₀ tr s) {x : Step σ ι} (hx : x ∈ tr) :
    step x.pre x.label = some x.post := by
  induction h with
  | nil => simp at hx
  | snoc _ hstep ih =>
      rcases List.mem_append.mp hx with hx | hx
      · exact ih hx
      · rw [List.mem_singleton] at hx
        subst hx
        exact hstep

/--
**What one step preserves holds along the whole run.**  The step hypothesis may use
that the step is one of the trace, so a condition imposed on the steps of a run is
available where the step is taken.
-/
theorem Trace.invariant {I : σ → Prop} (h : Trace step s₀ tr s) (hinit : I s₀)
    (hstep : ∀ x ∈ tr, I x.pre → step x.pre x.label = some x.post → I x.post) : I s := by
  induction h with
  | nil => exact hinit
  | @snoc tr s s' l _ hs ih =>
      have hpre : I s := ih fun x hx => hstep x (List.mem_append_left _ hx)
      exact hstep ⟨s, l, s'⟩ (by simp) hpre hs

theorem Trace.eq_of_nil (h : Trace step s₀ [] s) : s = s₀ := by
  generalize hnil : [] = steps at h
  cases h with
  | nil => rfl
  | snoc _ _ => simp at hnil

/-- The last step of a trace, and the trace before it. -/
theorem Trace.of_snoc {x : Step σ ι} (h : Trace step s₀ (tr ++ [x]) s) :
    Trace step s₀ tr x.pre ∧ step x.pre x.label = some x.post ∧ x.post = s := by
  generalize hsteps : tr ++ [x] = steps at h
  cases h with
  | nil => simp at hsteps
  | snoc htr hs =>
      obtain ⟨rfl, hx⟩ := List.append_inj' hsteps rfl
      rw [List.singleton_inj] at hx
      subst hx
      exact ⟨htr, hs, rfl⟩

/-- A trace can be cut anywhere. -/
theorem Trace.of_append (h : Trace step s₀ (tr ++ tr') s) :
    ∃ m, Trace step s₀ tr m ∧ Trace step m tr' s := by
  generalize hsteps : tr ++ tr' = steps at h
  induction h generalizing tr' with
  | nil =>
      obtain ⟨rfl, rfl⟩ := List.append_eq_nil_iff.mp hsteps
      exact ⟨s₀, Trace.nil, Trace.nil⟩
  | @snoc steps s s' l htr hs ih =>
      rcases List.eq_nil_or_concat tr' with rfl | ⟨rest, x, rfl⟩
      · rw [List.append_nil] at hsteps
        subst hsteps
        exact ⟨s', htr.snoc hs, Trace.nil⟩
      · rw [List.concat_eq_append] at hsteps ⊢
        rw [← List.append_assoc] at hsteps
        obtain ⟨hrest, hx⟩ := List.append_inj' hsteps rfl
        rw [List.singleton_inj] at hx
        subst hx
        obtain ⟨m, hm, hm'⟩ := ih hrest
        exact ⟨m, hm, hm'.snoc hs⟩

/-- The first step of a trace, and the rest of it. -/
theorem Trace.of_cons {x : Step σ ι} (h : Trace step s₀ (x :: tr) s) :
    x.pre = s₀ ∧ step x.pre x.label = some x.post ∧ Trace step x.post tr s := by
  have hsplit : Trace step s₀ (([] ++ [x]) ++ tr) s := h
  obtain ⟨m, hfirst, hrest⟩ := hsplit.of_append
  obtain ⟨hnil, hx, rfl⟩ := hfirst.of_snoc
  exact ⟨hnil.eq_of_nil, hx, hrest⟩

/-- The steps of a trace determine where it leads. -/
theorem Trace.unique (h : Trace step s₀ tr s) (h' : Trace step s₀ tr s') : s = s' := by
  cases h with
  | nil => exact h'.eq_of_nil.symm
  | snoc _ _ =>
      obtain ⟨-, -, hpost⟩ := h'.of_snoc
      exact hpost

/-- The trace up to one of its steps, and the steps that follow it. -/
theorem Trace.split (h : Trace step s₀ tr s) {x : Step σ ι} (hx : x ∈ tr) :
    ∃ before after, tr = before ++ x :: after ∧ Trace step s₀ before x.pre ∧
      Trace step x.post after s := by
  obtain ⟨before, after, rfl⟩ := List.append_of_mem hx
  obtain ⟨m, hbefore, hrest⟩ := h.of_append
  obtain ⟨rfl, -, hafter⟩ := hrest.of_cons
  exact ⟨before, after, rfl, hbefore, hafter⟩

/-- An invariant holds in the state every step of the trace was taken in. -/
theorem Trace.invariant_pre {I : σ → Prop} (h : Trace step s₀ tr s) (hinit : I s₀)
    (hstep : ∀ x ∈ tr, I x.pre → step x.pre x.label = some x.post → I x.post)
    {x : Step σ ι} (hx : x ∈ tr) : I x.pre := by
  obtain ⟨before, after, rfl, hb, -⟩ := h.split hx
  exact hb.invariant hinit fun y hy => hstep y (List.mem_append_left _ hy)

/-- What holds at the end and not at the start was made true by a step. -/
theorem Trace.exists_step {P : σ → Prop} (h : Trace step s₀ tr s) (hinit : ¬ P s₀) (hend : P s) :
    ∃ x ∈ tr, ¬ P x.pre ∧ P x.post := by
  by_contra hnever
  refine h.invariant (I := fun s => ¬ P s) hinit (fun x hx hpre _ hpost => ?_) hend
  exact hnever ⟨x, hx, hpre, hpost⟩

/-- Traces compose. -/
theorem Trace.append (h : Trace step s₀ tr s) (h' : Trace step s tr' s') :
    Trace step s₀ (tr ++ tr') s' := by
  induction h' with
  | nil => simpa using h
  | snoc _ hs ih =>
      rw [← List.append_assoc]
      exact ih.snoc hs

/-- A step taken first. -/
theorem Trace.cons (hs : step s₀ l = some s) (h : Trace step s tr s') :
    Trace step s₀ (⟨s₀, l, s⟩ :: tr) s' :=
  Trace.append (Trace.snoc Trace.nil hs) h

/-- An executed list of labels is a trace with these labels. -/
theorem Trace.of_replay : ∀ {ls : List ι} {s₀ : σ}, replay step s₀ ls = some s →
    ∃ tr : List (Step σ ι), Trace step s₀ tr s ∧ tr.map Step.label = ls := by
  intro ls
  induction ls with
  | nil =>
      intro s₀ h
      cases Option.some.inj h
      exact ⟨[], Trace.nil, rfl⟩
  | cons l ls ih =>
      intro s₀ h
      obtain ⟨s₁, hs₁, hrest⟩ := Option.bind_eq_some_iff.mp h
      obtain ⟨tr, htr, hlabels⟩ := ih hrest
      exact ⟨⟨s₀, l, s₁⟩ :: tr, htr.cons hs₁, by simp [hlabels]⟩

/-- A list of labels that can be executed is the list of labels of a trace. -/
theorem Trace.of_isSome {ls : List ι} (h : (replay step s₀ ls).isSome = true) :
    ∃ tr s, Trace step s₀ tr s ∧ tr.map Step.label = ls ∧ replay step s₀ ls = some s := by
  obtain ⟨s, hs⟩ := Option.isSome_iff_exists.mp h
  obtain ⟨tr, htr, hlabels⟩ := Trace.of_replay hs
  exact ⟨tr, s, htr, hlabels, hs⟩

/-- The steps an executed list of labels takes; it ends where a label is not enabled. -/
def steps (step : σ → ι → Option σ) : σ → List ι → List (Step σ ι)
  | _, [] => []
  | s, l :: ls =>
      match step s l with
      | none => []
      | some s' => ⟨s, l, s'⟩ :: steps step s' ls

/-- The recorded steps of an execution are a trace with the executed labels. -/
theorem Trace.of_steps : ∀ {ls : List ι} {s₀ : σ}, replay step s₀ ls = some s →
    Trace step s₀ (steps step s₀ ls) s ∧ (steps step s₀ ls).map Step.label = ls := by
  intro ls
  induction ls with
  | nil =>
      intro s₀ h
      cases Option.some.inj h
      exact ⟨Trace.nil, rfl⟩
  | cons l ls ih =>
      intro s₀ h
      obtain ⟨s₁, hs₁, hrest⟩ := Option.bind_eq_some_iff.mp h
      obtain ⟨htr, hlabels⟩ := ih hrest
      simp only [steps, hs₁]
      exact ⟨htr.cons hs₁, by simp [hlabels]⟩

/-- The system that takes only the steps that meet a condition. -/
def guarded (P : σ → ι → Prop) [∀ s l, Decidable (P s l)] (step : σ → ι → Option σ) (s : σ)
    (l : ι) : Option σ :=
  if P s l then step s l else none

/-- A trace of a guarded system is a trace of the system whose steps meet the condition. -/
theorem Trace.of_guarded {P : σ → ι → Prop} [∀ s l, Decidable (P s l)]
    (h : Trace (guarded P step) s₀ tr s) : Trace step s₀ tr s ∧ ∀ x ∈ tr, P x.pre x.label := by
  induction h with
  | nil => exact ⟨Trace.nil, by simp⟩
  | @snoc tr s s' l _ hs ih =>
      obtain ⟨htr, hall⟩ := ih
      unfold guarded at hs
      split at hs
      · rename_i hmet
        refine ⟨htr.snoc hs, fun x hx => ?_⟩
        rcases List.mem_append.mp hx with hx | hx
        · exact hall x hx
        · rw [List.mem_singleton.mp hx]
          exact hmet
      · cases hs

/-- What a reading of the steps finds along a trace, in order. -/
def logged {α : Type*} (read : σ → ι → Option α) (tr : List (Step σ ι)) : List α :=
  tr.filterMap fun x => read x.pre x.label

section

variable {α : Type*} {read : σ → ι → Option α}

@[simp] theorem logged_nil : logged read ([] : List (Step σ ι)) = [] := rfl

theorem logged_snoc (tr : List (Step σ ι)) (x : Step σ ι) :
    logged read (tr ++ [x]) = logged read tr ++ (read x.pre x.label).toList := by
  unfold logged
  rw [List.filterMap_append]
  cases h : read x.pre x.label <;> simp [h]

theorem logged_append (tr tr' : List (Step σ ι)) :
    logged read (tr ++ tr') = logged read tr ++ logged read tr' := by
  unfold logged
  rw [List.filterMap_append]

theorem mem_logged {tr : List (Step σ ι)} {a : α} :
    a ∈ logged read tr ↔ ∃ x ∈ tr, read x.pre x.label = some a := by
  simp [logged]

end

theorem Reachable.refl : Reachable step s₀ s₀ := ⟨[], Trace.nil⟩

theorem Reachable.trans (h : Reachable step s₀ s) (h' : Reachable step s s') :
    Reachable step s₀ s' := by
  obtain ⟨tr, htr⟩ := h
  obtain ⟨tr', htr'⟩ := h'
  exact ⟨tr ++ tr', htr.append htr'⟩

/-- The induction rule without conditions on the steps. -/
theorem Reachable.invariant {I : σ → Prop} (h : Reachable step s₀ s) (hinit : I s₀)
    (hstep : ∀ s l s', I s → step s l = some s' → I s') : I s := by
  obtain ⟨tr, htr⟩ := h
  exact htr.invariant hinit fun x _ hpre hx => hstep _ _ _ hpre hx

theorem Trace.reachable_pre (h : Trace step s₀ tr s) {x : Step σ ι} (hx : x ∈ tr) :
    Reachable step s₀ x.pre := by
  obtain ⟨before, _, -, hb, -⟩ := h.split hx
  exact ⟨before, hb⟩

/--
**Refinement along a run.**  Where every step is a step of another system or leaves its
state alone, seen through `f`, the run is one of the other system.
-/
theorem Trace.refines {τ : Type*} {κ : Type*} {step' : τ → κ → Option τ} {f : σ → τ}
    {I : σ → Prop} (h : Trace step s₀ tr s) (hinit : I s₀)
    (hstep : ∀ s l s', I s → Reachable step' (f s₀) (f s) → step s l = some s' →
      I s' ∧ (f s' = f s ∨ ∃ k, step' (f s) k = some (f s'))) :
    I s ∧ Reachable step' (f s₀) (f s) := by
  refine h.invariant (I := fun s => I s ∧ Reachable step' (f s₀) (f s)) ⟨hinit, .refl⟩ ?_
  rintro ⟨s, l, s'⟩ - ⟨hI, hreach⟩ hs
  obtain ⟨hI', heq | ⟨k, hk⟩⟩ := hstep s l s' hI hreach hs
  · exact ⟨hI', heq ▸ hreach⟩
  · exact ⟨hI', hreach.trans ⟨_, Trace.nil.snoc hk⟩⟩

end Run
