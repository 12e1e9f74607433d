/-
Rows that are loaded in an order left open where they tie, and shown as blocks.

Each row gives a block of elements, the blocks are put one after the other as the rows come,
and the whole is sorted by a key that may tie as well.  What is shown can depend on the order
in which rows that tie are loaded, but only through two of them at a time: it does not
exactly when the blocks of any two rows that tie come to the same, whichever is first.
-/
import Arc.Sorting.Paging

namespace Sorting

universe u v

variable {α : Type u} {ρ : Type v}

/-! ### What a stable sort keeps

A stable sort is known by its elements and by the order it finds the elements of each tie
in.  This is what makes sorted concatenations comparable part by part: the ties of a
concatenation are the concatenations of the ties.
-/

section

variable (r : α → α → Prop) [DecidableRel r]

/-- The elements of `l` that tie with `a`, in their order. -/
def tied (a : α) (l : List α) : List α := l.filter fun b => decide (r a b ∧ r b a)

theorem tied_append (a : α) (l m : List α) : tied r a (l ++ m) = tied r a l ++ tied r a m :=
  List.filter_append ..

end

variable {r : α → α → Prop} [DecidableRel r] [Std.Total r] [IsTrans α r]

omit [IsTrans α r] in
/-- Sorted lists of the same elements are equal if they agree on every tie. -/
theorem eq_of_tied {l m : List α} (hl : l.Pairwise r) (hm : m.Pairwise r) (hperm : l.Perm m)
    (h : ∀ a, tied r a l = tied r a m) : l = m := by
  have hrefl : ∀ a, r a a := fun a => (Std.Total.total a a).elim id id
  induction l generalizing m with
  | nil => exact hperm.nil_eq
  | cons a l ih =>
      cases m with
      | nil => exact hperm.eq_nil
      | cons b m =>
          obtain ⟨ha, hl'⟩ := List.pairwise_cons.mp hl
          obtain ⟨hb, hm'⟩ := List.pairwise_cons.mp hm
          -- the first elements are least, so they tie, and the tie says which comes first
          have hab : r a b := by
            rcases List.mem_cons.mp (hperm.mem_iff.mpr List.mem_cons_self) with rfl | hmem
            · exact hrefl b
            · exact ha b hmem
          have hba : r b a := by
            rcases List.mem_cons.mp (hperm.mem_iff.mp List.mem_cons_self) with rfl | hmem
            · exact hrefl a
            · exact hb a hmem
          have hfirst := h a
          simp only [tied] at hfirst
          rw [List.filter_cons_of_pos (by simp [hrefl a]),
            List.filter_cons_of_pos (by simp [hab, hba])] at hfirst
          obtain rfl := (List.cons.inj hfirst).1
          congr 1
          refine ih hl' hm' ((List.perm_cons a).mp hperm) fun c => ?_
          have hrest := h c
          simp only [tied, List.filter_cons] at hrest
          split at hrest
          · exact (List.cons.inj hrest).2
          · exact hrest

/-- **Two lists of the same elements are sorted alike exactly when they agree on every tie.** -/
theorem insertionSort_eq_iff [DecidableEq α] {l m : List α} (hperm : l.Perm m) :
    l.insertionSort r = m.insertionSort r ↔ ∀ a, tied r a l = tied r a m := by
  refine ⟨fun h a => ?_, fun h => ?_⟩
  · unfold tied
    rw [← filter_insertionSort l a, ← filter_insertionSort m a, h]
  · refine eq_of_tied (List.pairwise_insertionSort r l) (List.pairwise_insertionSort r m)
      (((List.perm_insertionSort r l).trans hperm).trans (List.perm_insertionSort r m).symm)
      fun a => ?_
    have hall := h a
    unfold tied at hall ⊢
    rw [filter_insertionSort, filter_insertionSort, hall]

omit [Std.Total r] [IsTrans α r] in
theorem perm_of_insertionSort_eq {l m : List α} (h : l.insertionSort r = m.insertionSort r) :
    l.Perm m :=
  (List.perm_insertionSort r l).symm.trans (h ▸ List.perm_insertionSort r m)

/-- Parts that are sorted alike may stand for one another. -/
theorem insertionSort_append_congr [DecidableEq α] {l l' m m' : List α}
    (hl : l.insertionSort r = l'.insertionSort r) (hm : m.insertionSort r = m'.insertionSort r) :
    (l ++ m).insertionSort r = (l' ++ m').insertionSort r := by
  have hpl := perm_of_insertionSort_eq hl
  have hpm := perm_of_insertionSort_eq hm
  rw [insertionSort_eq_iff (hpl.append hpm)]
  intro a
  rw [tied_append, tied_append, (insertionSort_eq_iff hpl).mp hl a,
    (insertionSort_eq_iff hpm).mp hm a]

/-- What comes before a part does not tell two versions of it apart. -/
theorem insertionSort_cancel_left [DecidableEq α] {l m m' : List α}
    (h : (l ++ m).insertionSort r = (l ++ m').insertionSort r) :
    m.insertionSort r = m'.insertionSort r := by
  have hperm := perm_of_insertionSort_eq h
  rw [insertionSort_eq_iff ((List.perm_append_left_iff l).mp hperm)]
  intro a
  have hties := (insertionSort_eq_iff hperm).mp h a
  rw [tied_append, tied_append] at hties
  exact List.append_cancel_left hties

/-- Nor does what comes after it. -/
theorem insertionSort_cancel_right [DecidableEq α] {l l' m : List α}
    (h : (l ++ m).insertionSort r = (l' ++ m).insertionSort r) :
    l.insertionSort r = l'.insertionSort r := by
  have hperm := perm_of_insertionSort_eq h
  rw [insertionSort_eq_iff ((List.perm_append_right_iff m).mp hperm)]
  intro a
  have hties := (insertionSort_eq_iff hperm).mp h a
  rw [tied_append, tied_append] at hties
  exact List.append_cancel_right hties

/-! ### Blocks

A query sorts its rows by one column and leaves rows that tie in any order. Each row is
then shown as a block of elements, and the elements are sorted stably. Whether the open
order shows is decided by pairs of rows that tie.
-/

variable {q : ρ → ρ → Prop} {f : ρ → List α}

/-- The rows are shown alike, in whatever order a query that sorts them by `q` returns them. -/
def ShownAlike (q : ρ → ρ → Prop) (r : α → α → Prop) [DecidableRel r] (f : ρ → List α)
    (rows : List ρ) : Prop :=
  ∀ l l', Orders q rows l → Orders q rows l' →
    (l.flatMap f).insertionSort r = (l'.flatMap f).insertionSort r

omit [DecidableRel r] [Std.Total r] [IsTrans α r] in
/-- Rows that tie with `x` can be passed by it, if their blocks let them. -/
theorem flatMap_pass {g : ρ → List α} {x : ρ} {before : List ρ}
    (h : ∀ y ∈ before, g y ++ g x = g x ++ g y) :
    before.flatMap g ++ g x = g x ++ before.flatMap g := by
  induction before with
  | nil => simp
  | cons y before ih =>
      rw [List.flatMap_cons, List.append_assoc, ih fun z hz => h z (List.mem_cons_of_mem _ hz),
        ← List.append_assoc, h y List.mem_cons_self, List.append_assoc]

omit [DecidableRel r] [Std.Total r] [IsTrans α r] in
/-- Two orders of the rows give the same blocks if the blocks of rows that tie commute. -/
theorem flatMap_eq_of_commute [Std.Refl q] {g : ρ → List α} {l l' : List ρ} (hl : l.Pairwise q)
    (hl' : l'.Pairwise q) (hperm : l.Perm l')
    (h : ∀ x ∈ l, ∀ y ∈ l, q x y → q y x → g x ++ g y = g y ++ g x) :
    l.flatMap g = l'.flatMap g := by
  induction l generalizing l' with
  | nil => rw [hperm.nil_eq]
  | cons x l ih =>
      obtain ⟨hx, hsorted⟩ := List.pairwise_cons.mp hl
      obtain ⟨before, after, rfl⟩ := List.append_of_mem (hperm.mem_iff.mp List.mem_cons_self)
      obtain ⟨-, -, hacross⟩ := List.pairwise_append.mp hl'
      have hrest : l.Perm (before ++ after) :=
        (List.perm_cons x).mp (hperm.trans List.perm_middle)
      -- what stands before `x` in the other order ties with it
      have hpass : ∀ y ∈ before, g y ++ g x = g x ++ g y := by
        intro y hy
        have hmem : y ∈ l := hrest.mem_iff.mpr (List.mem_append_left _ hy)
        exact h y (List.mem_cons_of_mem _ hmem) x List.mem_cons_self
          (hacross y hy x List.mem_cons_self) (hx y hmem)
      have hremaining : (before ++ after).Pairwise q :=
        hl'.sublist ((List.sublist_cons_self x after).append_left before)
      rw [List.flatMap_cons, List.flatMap_append, List.flatMap_cons, ← List.append_assoc,
        flatMap_pass hpass, List.append_assoc, ← List.flatMap_append,
        ih hsorted hremaining hrest fun y hy z hz =>
          h y (List.mem_cons_of_mem _ hy) z (List.mem_cons_of_mem _ hz)]

omit [DecidableRel r] [Std.Total r] [IsTrans α r] in
/-- Two rows that tie can be loaded one right after the other. -/
theorem exists_neighbours [DecidableRel q] [Std.Total q] [IsTrans ρ q] {rows : List ρ} {x y : ρ}
    (hx : x ∈ rows) (hy : y ∈ rows) (hne : x ≠ y) (hxy : q x y) (hyx : q y x) :
    ∃ before after, Orders q rows (before ++ x :: y :: after) ∧
      Orders q rows (before ++ y :: x :: after) := by
  classical
  have hrefl : ∀ z, q z z := fun z => (Std.Total.total z z).elim id id
  have : Std.Refl q := ⟨hrefl⟩
  have hrest : rows.Perm (x :: y :: (rows.erase x).erase y) :=
    (List.perm_cons_erase hx).trans
      ((List.perm_cons_erase ((List.mem_erase_of_ne hne.symm).mpr hy)).cons x)
  have hsame : ∀ z, q y z ↔ q x z :=
    fun z => ⟨fun h => IsTrans.trans _ _ _ hxy h, fun h => IsTrans.trans _ _ _ hyx h⟩
  -- both are inserted before the first row they do not come after
  let rest := ((rows.erase x).erase y).insertionSort q
  let first : ρ → Bool := fun b => decide ¬ q x b
  have hfirst : (fun b => decide ¬ q y b) = first := by
    funext b
    simp only [first, hsame]
  have hpassed : ∀ b ∈ rest.takeWhile first, first b = true :=
    List.all_eq_true.mp List.all_takeWhile
  have hstop : ¬ first y = true := by simp [first, hxy]
  have hinserted : (x :: y :: (rows.erase x).erase y).insertionSort q =
      rest.takeWhile first ++ x :: y :: rest.dropWhile first := by
    rw [List.insertionSort_cons, List.insertionSort_cons, List.orderedInsert_eq_take_drop q y,
      hfirst, List.orderedInsert_eq_take_drop q x, List.takeWhile_append_of_pos hpassed,
      List.dropWhile_append_of_pos hpassed, List.takeWhile_cons_of_neg hstop,
      List.dropWhile_cons_of_neg hstop, List.append_nil]
  have horders : Orders q rows _ :=
    ⟨hrest.trans (List.perm_insertionSort q _).symm, List.pairwise_insertionSort q _⟩
  rw [hinserted] at horders
  exact ⟨_, _, horders, horders.swap hyx⟩

/-- **The order of rows that tie does not show exactly when it does not for any two of them.** -/
theorem shownAlike_iff [DecidableRel q] [Std.Total q] [IsTrans ρ q] [DecidableEq α]
    {rows : List ρ} : ShownAlike q r f rows ↔ ∀ x ∈ rows, ∀ y ∈ rows, q x y → q y x →
      (f x ++ f y).insertionSort r = (f y ++ f x).insertionSort r := by
  have : Std.Refl q := ⟨fun z => (Std.Total.total z z).elim id id⟩
  constructor
  · intro h x hx y hy hxy hyx
    by_cases hne : x = y
    · rw [hne]
    obtain ⟨before, after, horders, horders'⟩ := exists_neighbours hx hy hne hxy hyx
    have hshown := h _ _ horders horders'
    simp only [List.flatMap_append, List.flatMap_cons] at hshown
    have hinner := insertionSort_cancel_left hshown
    rw [← List.append_assoc, ← List.append_assoc] at hinner
    exact insertionSort_cancel_right hinner
  · intro h l l' hl hl'
    have hperm : l.Perm l' := hl.perm.symm.trans hl'.perm
    rw [insertionSort_eq_iff (hperm.flatMap_right f)]
    intro a
    have htied : ∀ m : List ρ, tied r a (m.flatMap f) = m.flatMap fun x => tied r a (f x) := by
      intro m
      exact List.filter_flatMap ..
    rw [htied, htied]
    refine flatMap_eq_of_commute hl.sorted hl'.sorted hperm fun x hx y hy hxy hyx => ?_
    have hcommute := h x (hl.perm.mem_iff.mpr hx) y (hl.perm.mem_iff.mpr hy) hxy hyx
    rw [← tied_append, ← tied_append]
    exact (insertionSort_eq_iff List.perm_append_comm).mp hcommute a

end Sorting
