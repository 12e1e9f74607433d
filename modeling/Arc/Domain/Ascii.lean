/-
A platform to run the model on.

Its case tables are those of ASCII, and its digests are the hashed facts themselves, so
two digests are equal only where the facts are.  Runs of the model on concrete values
are evaluated with it.
-/
import Mathlib.Data.List.DropRight
import Arc.Domain.Value

namespace Arc

def asciiLower (s : String) : String := String.ofList (s.toList.map Char.toLower)

def asciiUpper (s : String) : String := String.ofList (s.toList.map Char.toUpper)

theorem asciiLower_of_ascii (s : String)
    (h : ∀ c ∈ s.toList, c.toNat < 128 ∧ ¬ (65 ≤ c.toNat ∧ c.toNat ≤ 90)) :
    asciiLower s = s := by
  have hmap : s.toList.map Char.toLower = s.toList := by
    refine (List.map_congr_left fun c hc => ?_).trans (List.map_id _)
    obtain ⟨-, hc⟩ := h c hc
    unfold Char.toLower
    rw [dif_neg]
    · rfl
    · rintro ⟨hge, hle⟩
      exact hc ⟨hge, hle⟩
  unfold asciiLower
  rw [hmap, String.ofList_toList]

theorem asciiUpper_of_ascii (s : String)
    (h : ∀ c ∈ s.toList, c.toNat < 128 ∧ ¬ (97 ≤ c.toNat ∧ c.toNat ≤ 122)) :
    asciiUpper s = s := by
  have hmap : s.toList.map Char.toUpper = s.toList := by
    refine (List.map_congr_left fun c hc => ?_).trans (List.map_id _)
    obtain ⟨-, hc⟩ := h c hc
    unfold Char.toUpper
    rw [dif_neg]
    · rfl
    · rintro ⟨hge, hle⟩
      exact hc ⟨hge, hle⟩
  unfold asciiUpper
  rw [hmap, String.ofList_toList]

/-- What is stripped at both ends stays as it is. -/
theorem strip_strip (s : String) : strip (strip s) = strip s := by
  unfold strip
  simp only [String.toList_ofList]
  congr 1
  generalize hm : s.toList.dropWhile isSpace = m
  have hdropped : m.dropWhile isSpace = m := by
    rw [← hm]
    exact List.dropWhile_idempotent ..
  have hends : ((m.reverse.dropWhile isSpace).reverse).dropWhile isSpace =
      (m.reverse.dropWhile isSpace).reverse := by
    have hprefix : m.rdropWhile isSpace <+: m := List.rdropWhile_prefix ..
    change (m.rdropWhile isSpace).dropWhile isSpace = m.rdropWhile isSpace
    cases hr : m.rdropWhile isSpace with
    | nil => rfl
    | cons c rest =>
        obtain ⟨tail, hm⟩ := hprefix
        rw [hr, List.cons_append] at hm
        rw [← hm, List.dropWhile_cons] at hdropped
        split at hdropped
        · -- a shorter list is another list
          have hlength := congrArg List.length hdropped
          have hle := (List.dropWhile_sublist isSpace (l := rest ++ tail)).length_le
          simp only [List.length_cons] at hlength
          omega
        · rename_i hc
          rw [List.dropWhile_cons, if_neg hc]
  rw [hends, List.reverse_reverse, List.dropWhile_idempotent]

theorem toUpper_cases (c : Char) :
    c.toUpper = c ∨ (97 ≤ c.toNat ∧ c.toNat ≤ 122 ∧ c.toUpper.toNat = c.toNat - 32) := by
  unfold Char.toUpper
  split
  · rename_i h
    refine .inr ?_
    have hlow : 97 ≤ c.val.toNat := UInt32.le_iff_toNat_le.mp h.1
    have hhigh : c.val.toNat ≤ 122 := UInt32.le_iff_toNat_le.mp h.2
    refine ⟨hlow, hhigh, ?_⟩
    have hadd := UInt32.toNat_add c.val ('A'.val - 'a'.val)
    have hshift : ('A'.val - 'a'.val).toNat = 4294967264 := by decide
    rw [hshift] at hadd
    show (c.val + ('A'.val - 'a'.val)).toNat = c.val.toNat - 32
    omega
  · exact .inl rfl

theorem isSpace_toUpper (c : Char) : isSpace c.toUpper = isSpace c := by
  rcases toUpper_cases c with hsame | ⟨hlow, hhigh, hupper⟩
  · rw [hsame]
  · have hspace : ∀ d : Char, 65 ≤ d.toNat → d.toNat ≤ 122 → isSpace d = false := by
      intro d hd hd'
      simp only [isSpace, Bool.or_eq_false_iff, Bool.and_eq_false_iff, decide_eq_false_iff_not,
        beq_eq_false_iff_ne]
      omega
    rw [hspace c (by omega) hhigh, hspace c.toUpper (by omega) (by omega)]

theorem toUpper_toUpper (c : Char) : c.toUpper.toUpper = c.toUpper := by
  rcases toUpper_cases c with hsame | ⟨hlow, hhigh, hupper⟩
  · rw [hsame, hsame]
  · rcases toUpper_cases c.toUpper with hsame | ⟨hlow', -⟩
    · exact hsame
    · omega

theorem strip_asciiUpper (s : String) : strip (asciiUpper s) = asciiUpper (strip s) := by
  have hspace : isSpace ∘ Char.toUpper = isSpace := funext isSpace_toUpper
  simp only [strip, asciiUpper, String.toList_ofList, List.dropWhile_map, hspace, ← List.map_reverse]

/-- Stripping and raising to capitals a second time changes nothing. -/
theorem asciiUpper_strip_idem (s : String) :
    asciiUpper (strip (asciiUpper (strip s))) = asciiUpper (strip s) := by
  rw [strip_asciiUpper, strip_strip]
  unfold asciiUpper
  rw [String.toList_ofList, List.map_map]
  congr 1
  exact List.map_congr_left fun c _ => toUpper_toUpper c

/-- Canonical JSON text of the values that stand alone; lists of them are sorted by it. -/
def scalarText : Json → String
  | .null => "null"
  | .bool b => if b then "true" else "false"
  | .int n => toString n
  | .float repr => repr
  | .str s => "\"" ++ s ++ "\""
  | .arr _ => "[]"
  | .obj _ => "\x7b\x7d"

@[reducible] def asciiPlatform : Platform where
  Digest := Json
  decEqDigest := inferInstance
  hashFacts := id
  hexdigest := id
  dumps := scalarText
  caseDigest := .str
  lower := asciiLower
  upper := asciiUpper
  lower_ascii := asciiLower_of_ascii
  upper_ascii := asciiUpper_of_ascii

end Arc
