/-
Numbering before sorting, and lists that are found again in others.

Elements that are numbered as they come can be sorted by a key and then by their number;
the numbers add nothing but stability.  A list embeds in another up to a relation when each
of its elements has one of the other list to stand for it, no two the same.  Sorting does
not matter to it, so that what two sorted lists show can be compared where they are built.
-/
import Mathlib.Data.List.Flatten
import Mathlib.Data.List.Forall2
import Mathlib.Data.List.Perm.Subperm
import Mathlib.Data.List.Sort

namespace Sorting

universe u v w x

/-! ### Numbered elements -/

section

variable {α : Type u}

/-- Two relations that agree on elements in the order they come in sort alike. -/
theorem insertionSort_congr {r t : α → α → Prop} [DecidableRel r] [DecidableRel t] {l : List α}
    (h : l.Pairwise fun a b => r a b ↔ t a b) : l.insertionSort r = l.insertionSort t := by
  induction l with
  | nil => rfl
  | cons a rest ih =>
      obtain ⟨ha, hrest⟩ := List.pairwise_cons.mp h
      have hinsert : ∀ l' : List α, (∀ b ∈ l', r a b ↔ t a b) →
          l'.orderedInsert r a = l'.orderedInsert t a := by
        intro l' hl'
        induction l' with
        | nil => rfl
        | cons b rest' ih' =>
            obtain ⟨hb, hrest'⟩ := List.forall_mem_cons.mp hl'
            simp only [List.orderedInsert_cons, hb, ih' hrest']
      rw [List.insertionSort_cons, List.insertionSort_cons, ← ih hrest]
      exact hinsert _ fun b hb => ha b ((List.mem_insertionSort r).mp hb)

theorem pairwise_zipIdx (l : List α) (n : Nat) :
    (l.zipIdx n).Pairwise fun a b => a.2 ≤ b.2 := by
  induction l generalizing n with
  | nil => exact .nil
  | cons a rest ih =>
      rw [List.zipIdx_cons, List.pairwise_cons]
      exact ⟨fun b hb => le_trans (Nat.le_succ n) (List.le_snd_of_mem_zipIdx hb), ih (n + 1)⟩

/-- **A sort by a key and then by the number is the stable sort by the key.** -/
theorem insertionSort_zipIdx {r : α → α → Prop} {t : α × Nat → α × Nat → Prop} [DecidableRel r]
    [DecidableRel t] (h : ∀ a b, a.2 ≤ b.2 → (t a b ↔ r a.1 b.1)) (l : List α) :
    (l.zipIdx.insertionSort t).map Prod.fst = l.insertionSort r := by
  have hagree : l.zipIdx.Pairwise fun a b => t a b ↔ r a.1 b.1 :=
    (pairwise_zipIdx l 0).imp fun hle => h _ _ hle
  rw [insertionSort_congr hagree,
    List.map_insertionSort (fun a b : α × Nat => r a.1 b.1) r Prod.fst _ fun _ _ _ _ => Iff.rfl,
    List.zipIdx_map_fst]

end

/-! ### Embeddings

A list that has grown in places still holds its earlier elements, in an order of their
own. Only that each has an element of its own to stand for it is kept, which survives
sorting and mapping.
-/

variable {α : Type u} {β : Type v} {γ : Type w} {δ : Type x}

/-- Each element of `l` has one of `l'` to stand for it, no two the same. -/
def Embeds (R : α → β → Prop) (l : List α) (l' : List β) : Prop :=
  ∃ kept, List.Forall₂ R l kept ∧ kept.Subperm l'

variable {R : α → β → Prop} {S : γ → δ → Prop}

theorem Embeds.nil (l' : List β) : Embeds R [] l' := ⟨[], .nil, List.nil_subperm⟩

theorem Embeds.append {l₁ l₂ : List α} {l₁' l₂' : List β} (h₁ : Embeds R l₁ l₁')
    (h₂ : Embeds R l₂ l₂') : Embeds R (l₁ ++ l₂) (l₁' ++ l₂') := by
  obtain ⟨kept₁, hkept₁, hsub₁⟩ := h₁
  obtain ⟨kept₂, hkept₂, hsub₂⟩ := h₂
  exact ⟨kept₁ ++ kept₂, List.rel_append hkept₁ hkept₂, hsub₁.append hsub₂⟩

theorem Embeds.perm {l m : List α} {l' m' : List β} (h : Embeds R l l') (hl : m.Perm l)
    (hl' : l'.Perm m') : Embeds R m m' := by
  obtain ⟨kept, hkept, hsub⟩ := h
  obtain ⟨kept', hkept', hperm⟩ := List.perm_comp_forall₂ hl hkept
  exact ⟨kept', hkept', (hperm.subperm.trans hsub).trans hl'.subperm⟩

theorem Embeds.flatMap {f : α → List γ} {g : β → List δ} {l : List α} {l' : List β}
    (h : Embeds R l l') (hfg : ∀ a ∈ l, ∀ b, R a b → Embeds S (f a) (g b)) :
    Embeds S (l.flatMap f) (l'.flatMap g) := by
  obtain ⟨kept, hkept, hsub⟩ := h
  have hblocks : Embeds S (l.flatMap f) (kept.flatMap g) := by
    clear hsub
    induction hkept with
    | nil => exact .nil _
    | @cons a b l kept hab hrest ih =>
        rw [List.flatMap_cons, List.flatMap_cons]
        exact (hfg a List.mem_cons_self b hab).append
          (ih fun a' ha' => hfg a' (List.mem_cons_of_mem a ha'))
  obtain ⟨shown, hshown, hsub'⟩ := hblocks
  obtain ⟨m, hperm, hsublist⟩ := hsub
  exact ⟨shown, hshown, hsub'.trans
    ((hperm.flatMap_right g).symm.subperm.trans (hsublist.flatMap g).subperm)⟩

theorem Embeds.map {f : α → γ} {g : β → δ} {l : List α} {l' : List β} (h : Embeds R l l')
    (hfg : ∀ a ∈ l, ∀ b, R a b → S (f a) (g b)) : Embeds S (l.map f) (l'.map g) := by
  rw [List.map_eq_flatMap, List.map_eq_flatMap]
  exact h.flatMap fun a ha b hab => ⟨[g b], .cons (hfg a ha b hab) .nil, List.Subperm.refl _⟩

theorem Embeds.mem {l : List α} {l' : List β} (h : Embeds R l l') {a : α} (ha : a ∈ l) :
    ∃ b ∈ l', R a b := by
  obtain ⟨kept, hkept, hsub⟩ := h
  obtain ⟨i, hi, rfl⟩ := List.getElem_of_mem ha
  have hi' : i < kept.length := hkept.length_eq ▸ hi
  exact ⟨kept[i], hsub.subset (List.getElem_mem hi'), (List.forall₂_iff_get.mp hkept).2 i hi hi'⟩

end Sorting
