/-
Computations and loops that may raise.

A loop over a list stops at the first item that raises.  `First` names such an item by
what holds of it and of every item before it; a loop raises exactly where there is one,
and a loop that does not raise has done every item.
-/
import Mathlib.Data.List.Forall2

namespace Run

universe u v

theorem ok_bind {ε α β : Type} {a : α} {f : α → Except ε β} : (Except.ok a >>= f) = f a := rfl

/-- A computation that may raise succeeds when each of its parts does. -/
theorem bind_eq_ok {ε α β : Type} {x : Except ε α} {f : α → Except ε β} {b : β} :
    (x >>= f) = .ok b ↔ ∃ a, x = .ok a ∧ f a = .ok b := by
  cases x with
  | error e => simp [bind, Except.bind]
  | ok a => simp [bind, Except.bind]

/-- A computation that may raise fails where its first failing part does. -/
theorem bind_eq_error {ε α β : Type} {x : Except ε α} {f : α → Except ε β} {e : ε} :
    (x >>= f) = .error e ↔ x = .error e ∨ ∃ a, x = .ok a ∧ f a = .error e := by
  cases x with
  | error e => simp [bind, Except.bind]
  | ok a => simp [bind, Except.bind]

/-- Some item is `bad`, and every item before it is `good`. -/
def First {α : Type u} (good bad : α → Prop) (items : List α) : Prop :=
  ∃ before item after, items = before ++ item :: after ∧ (∀ x ∈ before, good x) ∧ bad item

section

variable {α : Type u} {good good' bad bad' : α → Prop} {item : α} {items : List α}

@[simp] theorem not_first_nil : ¬ First good bad [] := by
  rintro ⟨before, item, after, h, -⟩
  simp at h

theorem first_cons : First good bad (item :: items) ↔
    bad item ∨ good item ∧ First good bad items := by
  constructor
  · rintro ⟨before, x, after, h, hbefore, hbad⟩
    cases before with
    | nil =>
        obtain ⟨rfl, rfl⟩ : item = x ∧ items = after := by simpa using h
        exact .inl hbad
    | cons y before =>
        obtain ⟨rfl, rfl⟩ : item = y ∧ items = before ++ x :: after := by simpa using h
        rw [List.forall_mem_cons] at hbefore
        exact .inr ⟨hbefore.1, before, x, after, rfl, hbefore.2, hbad⟩
  · rintro (hbad | ⟨hgood, before, x, after, rfl, hbefore, hbad⟩)
    · exact ⟨[], item, items, rfl, by simp, hbad⟩
    · exact ⟨item :: before, x, after, rfl, List.forall_mem_cons.mpr ⟨hgood, hbefore⟩, hbad⟩

theorem first_congr (hgood : ∀ x ∈ items, good x ↔ good' x) (hbad : ∀ x ∈ items, bad x ↔ bad' x) :
    First good bad items ↔ First good' bad' items := by
  induction items with
  | nil => simp
  | cons item items ih =>
      rw [List.forall_mem_cons] at hgood hbad
      rw [first_cons, first_cons, hbad.1, hgood.1, ih hgood.2 hbad.2]

theorem first_map {β : Type v} {f : α → β} {good bad : β → Prop} :
    First good bad (items.map f) ↔ First (fun x => good (f x)) (fun x => bad (f x)) items := by
  induction items with
  | nil => simp
  | cons item items ih => rw [List.map_cons, first_cons, first_cons, ih]

theorem first_flatMap {β : Type v} {f : α → List β} {good bad : β → Prop} :
    First good bad (items.flatMap f) ↔
      First (fun x => ∀ y ∈ f x, good y) (fun x => First good bad (f x)) items := by
  have happend : ∀ l l' : List β, First good bad (l ++ l') ↔
      First good bad l ∨ (∀ y ∈ l, good y) ∧ First good bad l' := by
    intro l l'
    induction l with
    | nil => simp
    | cons y l ih =>
        rw [List.cons_append, first_cons, first_cons, ih, List.forall_mem_cons]
        tauto
  induction items with
  | nil => simp
  | cons item items ih =>
      rw [List.flatMap_cons, happend, first_cons]
      exact or_congr_right (and_congr_right fun _ => ih)

end

/-! ### What a loop comes to

A loop over a list succeeds where every item does, and otherwise raises what the first
failing item raises. The second half needs the items before it to succeed, which is what
`First` is for.
-/

section

variable {α β ε : Type} {f : α → Except ε β} {check : α → Except ε Unit}
  {items : List α} {e : ε}

theorem forM_eq_ok : forM items check = .ok () ↔ ∀ item ∈ items, check item = .ok () := by
  induction items with
  | nil => simp [pure, Except.pure]
  | cons item items ih =>
      rw [List.forM_cons, bind_eq_ok, List.forall_mem_cons, ← ih]
      exact ⟨fun ⟨_, h, hrest⟩ => ⟨h, hrest⟩, fun ⟨h, hrest⟩ => ⟨(), h, hrest⟩⟩

/-- **A loop raises where its first failing item does.** -/
theorem forM_eq_error : forM items check = .error e ↔
    First (fun item => check item = .ok ()) (fun item => check item = .error e) items := by
  induction items with
  | nil => simp [pure, Except.pure]
  | cons item items ih =>
      rw [List.forM_cons, bind_eq_error, first_cons, ← ih]
      exact or_congr_right ⟨fun ⟨_, h, hrest⟩ => ⟨h, hrest⟩, fun ⟨h, hrest⟩ => ⟨(), h, hrest⟩⟩

theorem mapM_eq_ok {values : List β} : items.mapM f = .ok values ↔
    List.Forall₂ (fun item value => f item = .ok value) items values := by
  induction items generalizing values with
  | nil =>
      rw [List.forall₂_nil_left_iff]
      simp [pure, Except.pure, eq_comm]
  | cons item items ih =>
      rw [List.mapM_cons, bind_eq_ok]
      constructor
      · rintro ⟨value, hvalue, h⟩
        obtain ⟨rest, hrest, h⟩ := bind_eq_ok.mp h
        cases h
        exact .cons hvalue (ih.mp hrest)
      · rintro (_ | ⟨hvalue, hrest⟩)
        exact ⟨_, hvalue, bind_eq_ok.mpr ⟨_, ih.mpr hrest, rfl⟩⟩

/-- A value of a loop is that of one of its items. -/
theorem exists_of_mem_mapM {values : List β} (h : items.mapM f = .ok values) {value : β}
    (hvalue : value ∈ values) : ∃ item ∈ items, f item = .ok value := by
  have hall := mapM_eq_ok.mp h
  clear h
  induction hall with
  | nil => cases hvalue
  | @cons item first items rest hfirst _ ih =>
      rcases List.mem_cons.mp hvalue with rfl | hrest
      · exact ⟨item, List.mem_cons_self, hfirst⟩
      · obtain ⟨other, hother, hf⟩ := ih hrest
        exact ⟨other, List.mem_cons_of_mem _ hother, hf⟩

theorem mapM_eq_error : items.mapM f = .error e ↔
    First (fun item => ∃ value, f item = .ok value) (fun item => f item = .error e) items := by
  induction items with
  | nil => simp [pure, Except.pure]
  | cons item items ih =>
      rw [List.mapM_cons, bind_eq_error, first_cons, ← ih]
      refine or_congr_right ⟨?_, ?_⟩
      · rintro ⟨value, hvalue, h⟩
        refine ⟨⟨value, hvalue⟩, ?_⟩
        rcases bind_eq_error.mp h with h | ⟨rest, -, h⟩
        · exact h
        · cases h
      · rintro ⟨⟨value, hvalue⟩, h⟩
        exact ⟨value, hvalue, bind_eq_error.mpr (.inl h)⟩

theorem exists_mapM_eq_ok : (∃ values, items.mapM f = .ok values) ↔
    ∀ item ∈ items, ∃ value, f item = .ok value := by
  induction items with
  | nil => simp [pure, Except.pure]
  | cons item items ih =>
      rw [List.forall_mem_cons, ← ih]
      constructor
      · rintro ⟨values, h⟩
        cases mapM_eq_ok.mp h with
        | cons hvalue hrest => exact ⟨⟨_, hvalue⟩, _, mapM_eq_ok.mpr hrest⟩
      · rintro ⟨⟨value, hvalue⟩, values, hrest⟩
        exact ⟨value :: values, mapM_eq_ok.mpr (.cons hvalue (mapM_eq_ok.mp hrest))⟩

end

/-! ### What a computation may raise

A property of errors is carried through binds and loops. It is the tool for showing that
a function raises nothing but its own errors, part by part.
-/

/-- Whatever the computation raises has the property. -/
def RaisesOnly {α ε : Type} (P : ε → Prop) (x : Except ε α) : Prop := ∀ e, x = .error e → P e

section

variable {α β ε ε' : Type} {P : ε → Prop} {x : Except ε α} {f : α → Except ε β} {items : List α}

@[simp] theorem raisesOnly_ok {a : α} : RaisesOnly P (.ok a : Except ε α) := fun _ h => by cases h

@[simp] theorem raisesOnly_error {e : ε} : RaisesOnly P (.error e : Except ε α) ↔ P e :=
  ⟨fun h => h e rfl, fun h _ he => Except.error.inj he ▸ h⟩

theorem raisesOnly_bind : RaisesOnly P (x >>= f) ↔
    RaisesOnly P x ∧ ∀ a, x = .ok a → RaisesOnly P (f a) := by
  cases x with
  | error e =>
      rw [show (Except.error e >>= f) = .error e from rfl, raisesOnly_error, raisesOnly_error]
      simp
  | ok a =>
      rw [ok_bind]
      simp

theorem raisesOnly_mapError {P : ε' → Prop} {g : ε → ε'} :
    RaisesOnly P (x.mapError g) ↔ RaisesOnly (fun e => P (g e)) x := by
  cases x <;> simp [Except.mapError]

theorem raisesOnly_map {g : α → β} : RaisesOnly P (x.map g) ↔ RaisesOnly P x := by
  cases x <;> simp [Except.map]

theorem raisesOnly_forM {check : α → Except ε Unit}
    (h : ∀ item ∈ items, RaisesOnly P (check item)) : RaisesOnly P (forM items check) := by
  intro e he
  obtain ⟨before, item, after, rfl, -, hitem⟩ := forM_eq_error.mp he
  exact h item (by simp) e hitem

/-- **What a loop may raise is decided by its first failing item.** -/
theorem raisesOnly_mapM : RaisesOnly P (items.mapM f) ↔
    ¬ First (fun item => ∃ value, f item = .ok value) (fun item => ¬ RaisesOnly P (f item))
      items := by
  constructor
  · rintro h ⟨before, item, after, rfl, hbefore, hitem⟩
    apply hitem
    intro e he
    exact h e (mapM_eq_error.mpr ⟨before, item, after, rfl, hbefore, he⟩)
  · intro h e he
    obtain ⟨before, item, after, rfl, hbefore, hitem⟩ := mapM_eq_error.mp he
    by_contra hP
    exact h ⟨before, item, after, rfl, hbefore, fun honly => hP (honly e hitem)⟩

end

end Run
