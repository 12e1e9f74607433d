/-
Reading a sorted list page by page.

A query that sorts rows by a key may return rows that tie in any order, and two queries
may order them differently.  A reader who asks for one page after another gets each page
cut out of an answer of its own.  The pages together show every row once, whatever the
answers were, exactly when no two rows on different sides of a page boundary tie.
-/
import Arc.Sorting.Stable
import Mathlib.Data.List.Flatten
import Mathlib.Data.List.Nodup

namespace Sorting

universe u v

variable {α : Type u}

/-- What a query that sorts `rows` by `r` may return. -/
structure Orders (r : α → α → Prop) (rows answer : List α) : Prop where
  perm : rows.Perm answer
  sorted : answer.Pairwise r

/-- The first `count` pages, the `k`-th of them cut out of the `k`-th answer. -/
def pages (limit : Nat) (answers : Nat → List α) (count : Nat) : List α :=
  (List.range count).flatMap fun k => ((answers k).drop (k * limit)).take limit

/-- What stands before position `p` ties with nothing that stands from there on. -/
def Cut (r : α → α → Prop) (l : List α) (p : Nat) : Prop :=
  ∀ a ∈ l.take p, ∀ b ∈ l.drop p, ¬ r b a

instance decidableCut (r : α → α → Prop) [DecidableRel r] (l : List α) (p : Nat) :
    Decidable (Cut r l p) :=
  inferInstanceAs (Decidable (∀ a ∈ l.take p, ∀ b ∈ l.drop p, ¬ r b a))

/-- Only the boundaries that fall inside a list can separate a tie. -/
theorem cuts_iff {r : α → α → Prop} {l : List α} {limit : Nat} (hlimit : 0 < limit) :
    (∀ n, Cut r l (n * limit)) ↔ ∀ n < l.length, Cut r l (n * limit) := by
  refine ⟨fun h n _ => h n, fun h n a ha b hb => ?_⟩
  by_cases hn : n < l.length
  · exact h n hn a ha b hb
  · have hlength : l.length ≤ n * limit :=
      (Nat.le_of_not_lt hn).trans (Nat.le_mul_of_pos_right n hlimit)
    rw [List.drop_of_length_le hlength] at hb
    cases hb

/-- Sorting the rows is one way to answer. -/
theorem orders_insertionSort (r : α → α → Prop) [DecidableRel r] [Std.Total r] [IsTrans α r]
    (rows : List α) : Orders r rows (rows.insertionSort r) :=
  ⟨(List.perm_insertionSort r rows).symm, List.pairwise_insertionSort r rows⟩

theorem pages_succ (limit : Nat) (answers : Nat → List α) (count : Nat) :
    pages limit answers (count + 1) =
      pages limit answers count ++ ((answers count).drop (count * limit)).take limit := by
  unfold pages
  rw [List.range_succ, List.flatMap_append, List.flatMap_singleton]

theorem pages_sublist (limit : Nat) (answers : Nat → List α) {m n : Nat} (h : m ≤ n) :
    (pages limit answers m).Sublist (pages limit answers n) :=
  (List.range_sublist.mpr h).flatMap _

theorem take_succ_mul (l : List α) (n limit : Nat) :
    l.take ((n + 1) * limit) = l.take (n * limit) ++ (l.drop (n * limit)).take limit := by
  rw [Nat.succ_mul, List.take_add]

/-- With one answer for all queries the pages follow it. -/
theorem pages_const (limit : Nat) (l : List α) (count : Nat) :
    pages limit (fun _ => l) count = l.take (count * limit) := by
  induction count with
  | zero => simp [pages]
  | succ n ih => rw [pages_succ, ih, take_succ_mul]

variable {r : α → α → Prop}

/-- A property that passes down a sorted list holds on an initial part of it. -/
theorem filter_eq_take_countP {P : α → Bool} {l : List α}
    (h : l.Pairwise fun x y => P y = true → P x = true) : l.filter P = l.take (l.countP P) := by
  induction l with
  | nil => rfl
  | cons x rest ih =>
      obtain ⟨hx, hrest⟩ := List.pairwise_cons.mp h
      by_cases hP : P x = true
      · rw [List.filter_cons_of_pos hP, List.countP_cons_of_pos hP, List.take_succ_cons, ih hrest]
      · have hnone : ∀ y ∈ rest, ¬ P y = true := fun y hy hPy => hP (hx y hy hPy)
        rw [List.filter_cons_of_neg hP, List.countP_cons_of_neg hP,
          List.filter_eq_nil_iff.mpr hnone, List.countP_eq_zero.mpr hnone, List.take_zero]

/-- Above a cut every answer has the same rows. -/
theorem Cut.take_perm [DecidableRel r] [Std.Refl r] [IsTrans α r] {rows l l' : List α} {p : Nat}
    (hcut : Cut r l p) (hl : Orders r rows l) (hl' : Orders r rows l') :
    (l.take p).Perm (l'.take p) := by
  -- the rows above the cut are those that nothing below it precedes
  let above : α → Bool := fun x => (l.drop p).all fun b => !decide (r b x)
  have habove : ∀ x, above x = true ↔ ∀ b ∈ l.drop p, ¬ r b x := by
    intro x
    simp [above]
  have hperm : l.Perm l' := hl.perm.symm.trans hl'.perm
  have hleft : l.filter above = l.take p := by
    conv_lhs => rw [← List.take_append_drop p l]
    rw [List.filter_append, List.filter_eq_self.mpr fun a ha => (habove a).mpr (hcut a ha),
      List.filter_eq_nil_iff.mpr fun b hb hb' => (habove b).mp hb' b hb (Std.Refl.refl b),
      List.append_nil]
  have hdown : l'.Pairwise fun x y => above y = true → above x = true := by
    refine hl'.sorted.imp ?_
    intro x y hxy hy
    refine (habove x).mpr fun b hb hbx => ?_
    exact (habove y).mp hy b hb (IsTrans.trans _ _ _ hbx hxy)
  have hcount : l'.countP above = min p l'.length := by
    rw [← hperm.countP_eq, List.countP_eq_length_filter, hleft, List.length_take,
      hperm.length_eq]
  have hright : l'.filter above = l'.take p := by
    rw [filter_eq_take_countP hdown, hcount, ← List.take_eq_take_min]
  rw [← hleft, ← hright]
  exact hperm.filter above

section

variable [DecidableRel r] [Std.Refl r] [IsTrans α r] {rows : List α} {limit : Nat}
  {answers : Nat → List α}

/-- Between two cuts too. -/
theorem page_perm {l : List α} (hl : Orders r rows l) {k : Nat}
    (hanswer : Orders r rows (answers k)) (hcut : ∀ n, Cut r l (n * limit)) :
    ((answers k).drop (k * limit)).take limit |>.Perm ((l.drop (k * limit)).take limit) := by
  have hnext := (hcut (k + 1)).take_perm hl hanswer
  rw [take_succ_mul, take_succ_mul] at hnext
  have habove := (hcut k).take_perm hl hanswer
  exact ((List.perm_append_left_iff _).mp ((habove.append_right _).symm.trans hnext)).symm

theorem pages_of_cuts {l : List α} (hl : Orders r rows l)
    (hanswers : ∀ k, Orders r rows (answers k)) (hcut : ∀ n, Cut r l (n * limit)) (count : Nat) :
    Orders r (l.take (count * limit)) (pages limit answers count) := by
  induction count with
  | zero => simpa [pages] using Orders.mk (List.Perm.refl []) List.Pairwise.nil
  | succ n ih =>
      have hpage := page_perm hl (hanswers n) hcut
      rw [pages_succ, take_succ_mul]
      refine ⟨ih.perm.append hpage.symm, List.pairwise_append.mpr ⟨ih.sorted, ?_, ?_⟩⟩
      · have hsub := (List.take_sublist limit _).trans (List.drop_sublist (n * limit) (answers n))
        exact (hanswers n).sorted.sublist hsub
      · intro a ha b hb
        have ha' : a ∈ l.take (n * limit) := ih.perm.mem_iff.mpr ha
        have hb' : b ∈ l.drop (n * limit) := List.mem_of_mem_take (hpage.mem_iff.mp hb)
        have hsorted := hl.sorted
        rw [← List.take_append_drop (n * limit) l] at hsorted
        exact (List.pairwise_append.mp hsorted).2.2 a ha' b hb'

end

/-- Where a cut fails, the rows on its two sides nearest to it tie. -/
theorem exists_tie_of_not_cut [Std.Refl r] [IsTrans α r] {l : List α} (hl : l.Pairwise r) {p : Nat}
    (h : ¬ Cut r l p) :
    ∃ before a b after, l = before ++ a :: b :: after ∧ before.length + 1 = p ∧ r b a := by
  unfold Cut at h
  push Not at h
  obtain ⟨x, hx, y, hy, hyx⟩ := h
  obtain ⟨before, a, hbefore⟩ := (List.eq_nil_or_concat (l.take p)).resolve_left
    (List.ne_nil_of_mem hx)
  rw [List.concat_eq_append] at hbefore
  obtain ⟨b, after, hafter⟩ := List.exists_cons_of_ne_nil (List.ne_nil_of_mem hy)
  have hsplit : l = before ++ a :: b :: after := by
    rw [← List.take_append_drop p l, hbefore, hafter]
    simp
  refine ⟨before, a, b, after, hsplit, ?_, ?_⟩
  · have hlt : p < l.length := by
      by_contra hge
      rw [List.drop_eq_nil_of_le (by omega)] at hy
      exact absurd hy (by simp)
    have hlength : (l.take p).length = p := List.length_take_of_le (by omega)
    rw [hbefore] at hlength
    simpa using hlength
  · rw [hsplit, List.pairwise_append, List.pairwise_cons, List.pairwise_cons] at hl
    obtain ⟨-, ⟨-, hbelow, -⟩, habove⟩ := hl
    have hxa : r x a := by
      rw [hbefore, List.mem_append, List.mem_singleton] at hx
      rcases hx with hx | rfl
      · exact habove x hx a (by simp)
      · exact Std.Refl.refl x
    have hby : r b y := by
      rw [hafter, List.mem_cons] at hy
      rcases hy with rfl | hy
      · exact Std.Refl.refl y
      · exact hbelow y hy
    exact IsTrans.trans _ _ _ (IsTrans.trans _ _ _ hby hyx) hxa

/-- Two neighbours that tie may change places. -/
theorem Orders.swap {rows before after : List α} {a b : α}
    (h : Orders r rows (before ++ a :: b :: after)) (htie : r b a) :
    Orders r rows (before ++ b :: a :: after) := by
  refine ⟨h.perm.trans ((List.Perm.swap b a after).append_left before), ?_⟩
  have hsorted := h.sorted
  simp only [List.pairwise_append, List.pairwise_cons, List.mem_cons, forall_eq_or_imp] at hsorted ⊢
  obtain ⟨hbefore, ⟨⟨-, ha⟩, hb, hafter⟩, hacross⟩ := hsorted
  refine ⟨hbefore, ⟨⟨htie, hb⟩, ha, hafter⟩, fun x hx => ?_⟩
  obtain ⟨hxa, hxb, hrest⟩ := hacross x hx
  exact ⟨hxb, hxa, hrest⟩

section

variable [DecidableRel r] [Std.Refl r] [IsTrans α r] {rows l : List α} {limit count : Nat}

omit [DecidableRel r] in
/-- Where no answers make the reader see a row twice, no tie is cut. -/
theorem cut_of_nodup_pages (hl : Orders r rows l) (hlimit : 0 < limit)
    (hcount : rows.length ≤ count * limit)
    (h : ∀ answers : Nat → List α, (∀ k, Orders r rows (answers k)) →
      (pages limit answers count).Nodup) (n : Nat) : Cut r l (n * limit) := by
  by_contra hcut
  obtain ⟨before, a, b, after, rfl, hn, htie⟩ := exists_tie_of_not_cut hl.sorted hcut
  -- the query for page `n` returns the two rows the other way round
  let answers : Nat → List α := fun k =>
    if k = n then before ++ b :: a :: after else before ++ a :: b :: after
  have hanswers : ∀ k, Orders r rows (answers k) := by
    intro k
    by_cases hk : k = n
    · simpa [answers, hk] using hl.swap htie
    · simpa [answers, hk] using hl
  have hlt : n < count := by
    have hlength := hl.perm.length_eq
    simp only [List.length_append, List.length_cons] at hlength
    exact Nat.lt_of_mul_lt_mul_right (lt_of_lt_of_le (by omega) hcount)
  have hfirst : a ∈ pages limit answers n := by
    have hsame : pages limit answers n = pages limit (fun _ => before ++ a :: b :: after) n := by
      refine List.flatMap_congr fun k hk => ?_
      simp [answers, (List.mem_range.mp hk).ne]
    rw [hsame, pages_const, ← hn, List.take_append, List.mem_append]
    exact Or.inr (by simp)
  have hagain : a ∈ ((answers n).drop (n * limit)).take limit := by
    have hdrop : (answers n).drop (n * limit) = a :: after := by
      rw [← hn, ← List.drop_drop]
      simp [answers]
    rw [hdrop, ← Nat.succ_pred_eq_of_pos hlimit, List.take_succ_cons]
    exact List.mem_cons_self
  have htwice := (h answers hanswers).sublist (pages_sublist limit answers (Nat.succ_le_of_lt hlt))
  rw [pages_succ] at htwice
  exact List.disjoint_of_nodup_append htwice hfirst hagain

/-- Whatever the answers, the pages show each of the rows, told apart by `f`, once and in order. -/
def ShowsOnce {β : Type v} (r : α → α → Prop) (f : α → β) (rows : List α) (limit count : Nat) :
    Prop :=
  ∀ answers : Nat → List α, (∀ k, Orders r rows (answers k)) →
    ((pages limit answers count).map f).Perm (rows.map f) ∧ (pages limit answers count).Pairwise r

/-- **Every row is shown once exactly where no tie is cut.** -/
theorem showsOnce_iff {β : Type v} {f : α → β} (hnodup : (rows.map f).Nodup)
    (hl : Orders r rows l) (hlimit : 0 < limit) (hcount : rows.length ≤ count * limit) :
    ShowsOnce r f rows limit count ↔ ∀ n, Cut r l (n * limit) := by
  refine ⟨fun h => cut_of_nodup_pages hl hlimit hcount fun answers hanswers => ?_,
    fun h answers hanswers => ?_⟩
  · exact ((h answers hanswers).1.symm.nodup hnodup).of_map f
  · have hpages := pages_of_cuts hl hanswers h count
    rw [List.take_of_length_le (hl.perm.length_eq ▸ hcount)] at hpages
    exact ⟨(hl.perm.trans hpages.perm).symm.map f, hpages.sorted⟩

end

/-- Where no two rows tie there is one answer. -/
theorem Separates.orders_unique {rows l l' : List α} (h : Separates r rows) (hl : Orders r rows l)
    (hl' : Orders r rows l') : l = l' := by
  refine (hl.perm.symm.trans hl'.perm).eq_of_pairwise ?_ hl.sorted hl'.sorted
  intro a b ha hb hab hba
  exact h a (hl.perm.mem_iff.mpr ha) b (hl'.perm.mem_iff.mpr hb) hab hba

/-- Where no two rows tie the pages follow the one answer. -/
theorem Separates.pages_eq {rows l : List α} {limit count : Nat} (h : Separates r rows)
    (hl : Orders r rows l) {answers : Nat → List α} (hanswers : ∀ k, Orders r rows (answers k)) :
    pages limit answers count = l.take (count * limit) := by
  rw [← pages_const limit l count]
  refine List.flatMap_congr fun k _ => ?_
  rw [h.orders_unique (hanswers k) hl]

end Sorting
