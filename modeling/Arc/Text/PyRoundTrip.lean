/-
What `json.dumps` writes, `json.loads` reads back.

A text is scanned escape by escape, and the units of its escapes join to the text where it
has no surrogate (`scanString_escaped`).  A number is scanned to its end wherever it
stands before a character that no number continues with (`readNumber_append`).  From these,
`read_write` is the induction over the value: the scanner reads the text of a storable value
and leaves what follows it.
-/
import Arc.Text.PyRead

namespace Text

namespace PyJson

/-! ### Texts

An escape is scanned back as the units it was written from, and the surrogates of one
character pair up again. Two surrogates that stand side by side in a text would be read
as one character, so texts with surrogates are left out.
-/

theorem hexDigit?_hexDigit {n : Nat} (h : n < 16) : hexDigit? (hexDigit n) = some n := by
  have hall : ∀ m : Fin 16, hexDigit? (hexDigit m.val) = some m.val := by decide +kernel
  exact hall ⟨n, h⟩

/-- The digits of an escape give its unit. -/
theorem hexUnit?_digits (c : CodePoint) (h : c.val < 0x10000) :
    hexUnit? (hexDigit (c.val / 4096 % 16)) (hexDigit (c.val / 256 % 16))
      (hexDigit (c.val / 16 % 16)) (hexDigit (c.val % 16)) = some c := by
  have hmod : ∀ m, hexDigit? (hexDigit (m % 16)) = some (m % 16) :=
    fun m => hexDigit?_hexDigit (Nat.mod_lt _ (by decide))
  have hvalue : ((c.val / 4096 % 16 * 16 + c.val / 256 % 16) * 16 + c.val / 16 % 16) * 16 +
      c.val % 16 = c.val := by omega
  simp only [hexUnit?, hmod, Option.bind_eq_bind, Option.bind_some, hvalue]
  rw [CodePoint.ofNat?, dif_pos c.isLt]

/-- The high and the low surrogate of a character beyond the sixteen bits. -/
def highSurrogate (c : CodePoint) (h : 0x10000 ≤ c.val) : CodePoint :=
  ⟨0xD800 + (c.val - 0x10000) / 0x400, by have := c.isLt; omega⟩

def lowSurrogate (c : CodePoint) : CodePoint := ⟨0xDC00 + (c.val - 0x10000) % 0x400, by omega⟩

/-- The units an escape is scanned as. -/
def unitsOf (c : CodePoint) : List (Bool × CodePoint) :=
  if h : 0x10000 ≤ c.val then [(true, highSurrogate c h), (true, lowSurrogate c)]
  else if c.val < 0x20 ∧ c.val ∉ [0x0A, 0x0D, 0x09, 0x0C, 0x08] ∨ 0x7F ≤ c.val then [(true, c)]
  else [(false, c)]

/-- Put units before what a scan has found. -/
def consUnits (units : List (Bool × CodePoint)) (out : List (Bool × CodePoint) × Str) :
    List (Bool × CodePoint) × Str := (units ++ out.1, out.2)

theorem scanUnits_unicodeEscape (c : CodePoint) (h : c.val < 0x10000) (rest : Str) :
    scanUnits (unicodeEscape c.val ++ rest) = (scanUnits rest).map (consUnits [(true, c)]) := by
  have hstart : Str.ofString "\\u" = [0x5C, 0x75] := by rfl
  rw [unicodeEscape, hstart]
  simp only [List.cons_append, List.nil_append]
  rw [scanUnits.eq_def]
  dsimp only
  rw [if_neg (by decide), if_pos (by decide), if_pos (by decide), hexUnit?_digits c h]
  cases scanUnits rest <;> rfl

theorem scanUnits_simple {e c : CodePoint} (he : e.val ≠ 0x75) (h : simpleEscape? e = some c)
    (rest : Str) : scanUnits (0x5C :: e :: rest) = (scanUnits rest).map (consUnits [(false, c)]) := by
  rw [scanUnits.eq_def]
  dsimp only
  rw [if_neg (by decide), if_pos (by decide), if_neg he, h]
  cases scanUnits rest <;> rfl

/-- An escape is scanned as its units. -/
theorem scanUnits_escapeAscii (c : CodePoint) (rest : Str) :
    scanUnits (escapeAscii c ++ rest) = (scanUnits rest).map (consUnits (unitsOf c)) := by
  have hshort : ∀ {text : String} {e : CodePoint} {n : CodePoint}, Str.ofString text = [0x5C, e] →
      e.val ≠ 0x75 → simpleEscape? e = some n → c = n → n.val ∈ [0x0A, 0x0D, 0x09, 0x0C, 0x08] →
      scanUnits (Str.ofString text ++ rest) = (scanUnits rest).map (consUnits (unitsOf c)) := by
    rintro text e n htext he hescape rfl hc
    rw [htext, unitsOf, dif_neg (by simp at hc; omega), if_neg (by simp at hc ⊢; omega)]
    exact scanUnits_simple he hescape rest
  unfold escapeAscii
  split
  · rename_i hc
    rw [unitsOf, dif_neg (by omega), if_neg (by simp; omega)]
    refine scanUnits_simple (by omega) ?_ rest
    rw [simpleEscape?, if_pos (by omega)]
  split
  · rename_i hc
    exact hshort (by rfl) (by decide) (by rfl) (Fin.ext hc) (by decide)
  split
  · rename_i hc
    exact hshort (by rfl) (by decide) (by rfl) (Fin.ext hc) (by decide)
  split
  · rename_i hc
    exact hshort (by rfl) (by decide) (by rfl) (Fin.ext hc) (by decide)
  split
  · rename_i hc
    exact hshort (by rfl) (by decide) (by rfl) (Fin.ext hc) (by decide)
  split
  · rename_i hc
    exact hshort (by rfl) (by decide) (by rfl) (Fin.ext hc) (by decide)
  split
  · rename_i hquote _ _ _ _ _ hc
    rw [unitsOf, dif_neg (by omega), if_neg (by omega), List.singleton_append, scanUnits.eq_def]
    dsimp only
    rw [if_neg (by omega), if_neg (by omega), if_neg (by omega)]
    cases scanUnits rest <;> rfl
  split
  · rename_i hsmall
    rw [unitsOf, dif_neg (by omega), if_pos (by simp; omega)]
    exact scanUnits_unicodeEscape c hsmall rest
  · rename_i hlarge
    rw [unitsOf, dif_pos (by omega), List.append_assoc]
    have hhigh := scanUnits_unicodeEscape (highSurrogate c (by omega))
      (by have := c.isLt; simp only [highSurrogate]; omega)
      (unicodeEscape (0xDC00 + (c.val - 0x10000) % 0x400) ++ rest)
    have hlow := scanUnits_unicodeEscape (lowSurrogate c)
      (by simp only [lowSurrogate]; omega) rest
    simp only [highSurrogate, lowSurrogate] at hhigh hlow ⊢
    rw [hhigh, hlow]
    cases scanUnits rest <;> rfl

theorem scanUnits_escaped (s rest : Str) :
    scanUnits (escaped s ++ 0x22 :: rest) = some (s.flatMap unitsOf, rest) := by
  induction s with
  | nil =>
      rw [escaped, List.flatMap_nil, List.nil_append, scanUnits.eq_def]
      rfl
  | cons c s ih =>
      rw [escaped, List.flatMap_cons, List.append_assoc, scanUnits_escapeAscii, ← escaped, ih]
      rfl

/-- A unit that is no high surrogate stands for itself. -/
theorem joinPairs_cons {marked : Bool} {c : CodePoint} {units : List (Bool × CodePoint)}
    (h : c.isSurrogate = false) : joinPairs ((marked, c) :: units) = c :: joinPairs units := by
  simp only [CodePoint.isSurrogate, Bool.and_eq_false_iff, decide_eq_false_iff_not] at h
  cases units with
  | nil => rfl
  | cons u units =>
      rw [joinPairs, dif_neg]
      rintro ⟨-, -, hlow, -, hhigh, -⟩
      dsimp only at hlow hhigh
      omega

/-- The surrogates of a character pair up to it. -/
theorem surrogatePair_surrogates {c : CodePoint} (h : 0x10000 ≤ c.val)
    (h' : (highSurrogate c h).val ≤ 0xDBFF ∧ (lowSurrogate c).val ≤ 0xDFFF) :
    surrogatePair (highSurrogate c h) (lowSurrogate c) h' = c := by
  apply Fin.ext
  have hhigh : (highSurrogate c h).val = 0xD800 + (c.val - 0x10000) / 0x400 := rfl
  have hlow : (lowSurrogate c).val = 0xDC00 + (c.val - 0x10000) % 0x400 := rfl
  have hvalue : (surrogatePair (highSurrogate c h) (lowSurrogate c) h').val =
      0x10000 + ((highSurrogate c h).val - 0xD800) * 0x400 + ((lowSurrogate c).val - 0xDC00) := rfl
  rw [hvalue, hhigh, hlow]
  omega

theorem joinPairs_unitsOf {c : CodePoint} {units : List (Bool × CodePoint)}
    (h : c.isSurrogate = false) : joinPairs (unitsOf c ++ units) = c :: joinPairs units := by
  unfold unitsOf
  split
  · rename_i hlarge
    have hhigh : (highSurrogate c hlarge).val = 0xD800 + (c.val - 0x10000) / 0x400 := rfl
    have hlow : (lowSurrogate c).val = 0xDC00 + (c.val - 0x10000) % 0x400 := rfl
    have hlt := c.isLt
    have hpair : 0xD800 ≤ (highSurrogate c hlarge).val ∧ 0xDC00 ≤ (lowSurrogate c).val ∧
        (highSurrogate c hlarge).val ≤ 0xDBFF ∧ (lowSurrogate c).val ≤ 0xDFFF := by
      rw [hhigh, hlow]
      omega
    rw [List.cons_append, List.singleton_append, joinPairs, dif_pos ⟨rfl, rfl, hpair⟩,
      surrogatePair_surrogates hlarge]
  split
  · exact joinPairs_cons h
  · exact joinPairs_cons h

/-- **A quoted text without surrogates is scanned as itself.** -/
theorem scanString_escaped {s : Str} (hs : s.Scalar) (rest : Str) :
    scanString (escaped s ++ 0x22 :: rest) = some (s, rest) := by
  have hjoin : joinPairs (s.flatMap unitsOf) = s := by
    induction s with
    | nil => rfl
    | cons c s ih =>
        rw [scalar_cons] at hs
        rw [List.flatMap_cons, joinPairs_unitsOf hs.1, ih hs.2]
  rw [scanString, scanUnits_escaped, Option.map_some, hjoin]

/-! ### Numbers

The scanner reads a number as far as it goes on. What follows a number in JSON text is a
comma, a bracket or a blank, none of which continues it.
-/

/-- A number may go on with the character. -/
def continuesNumber (c : CodePoint) : Bool :=
  isDigit c || c.val == 0x2E || c.val == 0x65 || c.val == 0x45 || c.val == 0x2B || c.val == 0x2D

/-- A number before this text ends where the text begins. -/
def Ends (rest : Str) : Prop := ∀ c ∈ rest.head?, continuesNumber c = false

theorem ends_cons {c : CodePoint} {rest : Str} : Ends (c :: rest) ↔ continuesNumber c = false := by
  simp [Ends]

section

variable {s rest : Str}

theorem not_digit_of_continues {c : CodePoint} (h : continuesNumber c = false) :
    isDigit c = false ∧ c.val ≠ 0x2E ∧ c.val ≠ 0x65 ∧ c.val ≠ 0x45 ∧ c.val ≠ 0x2B ∧
      c.val ≠ 0x2D := by
  simp only [continuesNumber, Bool.or_eq_false_iff, beq_eq_false_iff_ne] at h
  tauto

theorem digits_append (hrest : Ends rest) : (s ++ rest).takeWhile isDigit = s.takeWhile isDigit ∧
    (s ++ rest).dropWhile isDigit = s.dropWhile isDigit ++ rest := by
  induction s with
  | nil =>
      cases rest with
      | nil => exact ⟨rfl, rfl⟩
      | cons c rest =>
          have hdigit := (not_digit_of_continues (ends_cons.mp hrest)).1
          simp [hdigit]
  | cons c s ih =>
      rw [List.cons_append, List.takeWhile_cons, List.dropWhile_cons, List.takeWhile_cons,
        List.dropWhile_cons, ih.1, ih.2]
      split <;> simp

theorem scanSign_append (hs : s ≠ []) :
    scanSign (s ++ rest) = ((scanSign s).1, (scanSign s).2 ++ rest) := by
  cases s with
  | nil => exact absurd rfl hs
  | cons c s =>
      rw [List.cons_append, scanSign, scanSign]
      split <;> rfl

theorem scanInteger_append {digits tail : Str} (hrest : Ends rest)
    (h : scanInteger s = some (digits, tail)) :
    scanInteger (s ++ rest) = some (digits, tail ++ rest) := by
  cases s with
  | nil => cases h
  | cons c s =>
      obtain ⟨htake, hdrop⟩ := digits_append (s := c :: s) hrest
      rw [List.cons_append] at htake hdrop ⊢
      rw [scanInteger] at h ⊢
      split
      · rename_i hzero
        rw [if_pos hzero] at h
        cases h
        rfl
      · rename_i hzero
        rw [if_neg hzero] at h
        split at h
        · rename_i hdigit
          cases h
          rw [if_pos hdigit, htake, hdrop]
        · cases h

theorem scanInteger_append_none (hs : s ≠ []) (h : scanInteger s = Option.none) :
    scanInteger (s ++ rest) = Option.none := by
  cases s with
  | nil => exact absurd rfl hs
  | cons c s =>
      rw [scanInteger] at h
      rw [List.cons_append, scanInteger]
      split at h
      · cases h
      rename_i hzero
      rw [if_neg hzero]
      split at h
      · cases h
      · rename_i hdigit
        rw [if_neg hdigit]

theorem scanFraction_append (hrest : Ends rest) :
    scanFraction (s ++ rest) = ((scanFraction s).1, (scanFraction s).2 ++ rest) := by
  match s with
  | [] =>
      match rest with
      | [] => rfl
      | [c] => rfl
      | c :: d :: rest =>
          have hpoint := (not_digit_of_continues (ends_cons.mp hrest)).2.1
          simp [scanFraction, hpoint]
  | [c] =>
      match rest with
      | [] => rfl
      | d :: rest =>
          have hdigit := (not_digit_of_continues (ends_cons.mp hrest)).1
          simp [scanFraction, hdigit]
  | c :: d :: s =>
      obtain ⟨htake, hdrop⟩ := digits_append (s := d :: s) hrest
      rw [List.cons_append] at htake hdrop
      rw [List.cons_append, List.cons_append, scanFraction, scanFraction, htake, hdrop]
      split <;> rfl

theorem scanExponent_append (hrest : Ends rest) :
    scanExponent (s ++ rest) = ((scanExponent s).1, (scanExponent s).2 ++ rest) := by
  match s with
  | [] =>
      match rest with
      | [] => rfl
      | [c] => rfl
      | c :: d :: rest =>
          obtain ⟨-, -, he, hE, -⟩ := not_digit_of_continues (ends_cons.mp hrest)
          simp [scanExponent, he, hE]
  | [c] =>
      match rest with
      | [] => rfl
      | d :: rest =>
          obtain ⟨hdigit, -, -, -, hplus, hminus⟩ := not_digit_of_continues (ends_cons.mp hrest)
          simp only [List.cons_append, List.nil_append, scanExponent, hdigit, hplus, hminus]
          cases rest <;> simp
  | [c, d] =>
      match rest with
      | [] => simp
      | x :: rest =>
          have hdigit := (not_digit_of_continues (ends_cons.mp hrest)).1
          obtain ⟨htake, hdrop⟩ := digits_append (s := [d]) hrest
          simp only [List.cons_append, List.nil_append] at htake hdrop ⊢
          simp only [scanExponent, htake, hdrop, hdigit]
          split
          · split <;> simp
          · simp
  | c :: d :: x :: s =>
      obtain ⟨htake, hdrop⟩ := digits_append (s := d :: x :: s) hrest
      obtain ⟨htake', hdrop'⟩ := digits_append (s := x :: s) hrest
      simp only [List.cons_append] at htake hdrop htake' hdrop' ⊢
      simp only [scanExponent, htake, hdrop, htake', hdrop']
      split
      · split
        · rfl
        · split <;> rfl
      · rfl

theorem isPrefixOf_append {word : Str} (h : word.isPrefixOf s = true) :
    word.isPrefixOf (s ++ rest) = true :=
  List.isPrefixOf_iff_prefix.mpr ((List.isPrefixOf_iff_prefix.mp h).trans (List.prefix_append s rest))

theorem drop_append_of_isPrefixOf {word : Str} (h : word.isPrefixOf s = true) :
    (s ++ rest).drop word.length = s.drop word.length ++ rest :=
  List.drop_append_of_le_length (List.isPrefixOf_iff_prefix.mp h).length_le

/-- Two words that begin differently do not begin the same text. -/
theorem isPrefixOf_eq_false {c d : CodePoint} {word : Str} (h : c ≠ d) :
    (c :: word).isPrefixOf (d :: s) = false := by
  rw [List.isPrefixOf_cons_cons, beq_eq_false_iff_ne.mpr h, Bool.false_and]

theorem readConstant_append {value : PyJson} {tail : Str} (h : readConstant s = some (value, tail)) :
    readConstant (s ++ rest) = some (value, tail ++ rest) := by
  have hnan : Str.ofString "NaN" = [0x4E, 0x61, 0x4E] := by rfl
  have hinf : Str.ofString "Infinity" = [0x49, 0x6E, 0x66, 0x69, 0x6E, 0x69, 0x74, 0x79] := by rfl
  have hneg : Str.ofString "-Infinity" = 0x2D :: Str.ofString "Infinity" := by rfl
  cases s with
  | nil =>
      rw [readConstant, hneg, hinf, hnan] at h
      cases h
  | cons c s =>
      unfold readConstant at h ⊢
      split at h
      · rename_i hword
        cases h
        rw [if_pos (isPrefixOf_append hword)]
        exact congrArg (fun t => some (PyJson.float _, t)) (drop_append_of_isPrefixOf hword)
      split at h
      · rename_i hword
        have hfirst : c = 0x49 := by
          by_contra hne
          rw [hinf, isPrefixOf_eq_false (Ne.symm hne)] at hword
          cases hword
        cases h
        rw [if_neg, if_pos (isPrefixOf_append hword)]
        · exact congrArg (fun t => some (PyJson.float _, t)) (drop_append_of_isPrefixOf hword)
        · rw [hfirst, hnan, List.cons_append, isPrefixOf_eq_false (by decide)]
          decide
      split at h
      · rename_i hword
        have hfirst : c = 0x2D := by
          by_contra hne
          rw [hneg, isPrefixOf_eq_false (Ne.symm hne)] at hword
          cases hword
        cases h
        rw [if_neg, if_neg, if_pos (isPrefixOf_append hword)]
        · exact congrArg (fun t => some (PyJson.float _, t)) (drop_append_of_isPrefixOf hword)
        · rw [hfirst, hinf, List.cons_append, isPrefixOf_eq_false (by decide)]
          decide
        · rw [hfirst, hnan, List.cons_append, isPrefixOf_eq_false (by decide)]
          decide
      · cases h

/-- A constant is more than a sign. -/
theorem unsigned_ne_nil {out : PyJson × Str} (h : readConstant s = some out) :
    (scanSign s).2 ≠ [] := by
  intro hnil
  cases s with
  | nil =>
      have hnone : readConstant [] = Option.none := by rfl
      rw [hnone] at h
      cases h
  | cons c s =>
      rw [scanSign] at hnil
      split at hnil
      · rename_i hminus
        obtain rfl : s = [] := hnil
        obtain rfl : c = 0x2D := Fin.ext hminus
        have hnone : readConstant [0x2D] = Option.none := by rfl
        rw [hnone] at h
        cases h
      · cases hnil

/-- **A number is read to its end before a text it does not go on with.** -/
theorem readNumber_append {value : PyJson} {tail : Str} (hrest : Ends rest)
    (h : readNumber s = .ok (value, tail)) : readNumber (s ++ rest) = .ok (value, tail ++ rest) := by
  cases s with
  | nil =>
      have hnone : readNumber [] = .error .jsonDecodeError := by rfl
      rw [hnone] at h
      cases h
  | cons c s =>
      unfold readNumber at h ⊢
      rw [scanSign_append (List.cons_ne_nil c s)]
      split at h
      · rename_i hinteger
        split at h
        · rename_i out hconstant
          cases h
          rw [scanInteger_append_none (unsigned_ne_nil hconstant) hinteger,
            readConstant_append hconstant]
        · cases h
      · rename_i digits rest' hinteger
        rw [scanInteger_append hrest hinteger]
        dsimp only at h ⊢
        rw [scanFraction_append hrest, scanExponent_append hrest]
        dsimp only
        split at h
        · rename_i hint
          rw [if_pos hint]
          split at h
          · rename_i hlength
            rw [if_pos hlength]
            cases h
            rfl
          · cases h
        · rename_i hfloat
          rw [if_neg hfloat]
          cases h
          rfl

/-- A number or a constant may begin with the character. -/
def startsNumber (c : CodePoint) : Bool :=
  isDigit c || c.val == 0x2D || c.val == 0x4E || c.val == 0x49

theorem readConstant_head {c : CodePoint} {out : PyJson × Str}
    (h : readConstant (c :: s) = some out) : startsNumber c = true := by
  have hnan : Str.ofString "NaN" = [0x4E, 0x61, 0x4E] := by rfl
  have hinf : Str.ofString "Infinity" = [0x49, 0x6E, 0x66, 0x69, 0x6E, 0x69, 0x74, 0x79] := by rfl
  have hneg : Str.ofString "-Infinity" = 0x2D :: Str.ofString "Infinity" := by rfl
  have hfirst : ∀ {d : CodePoint} {word : Str}, (d :: word).isPrefixOf (c :: s) = true →
      startsNumber d = true → startsNumber c = true := by
    intro d word hword hd
    by_cases hcd : d = c
    · rwa [← hcd]
    · rw [isPrefixOf_eq_false hcd] at hword
      cases hword
  unfold readConstant at h
  rw [hneg, hinf, hnan] at h
  split at h
  · rename_i hword
    exact hfirst hword (by decide)
  split at h
  · rename_i hword
    exact hfirst hword (by decide)
  split at h
  · rename_i hword
    exact hfirst hword (by decide)
  · cases h

theorem readNumber_head {out : PyJson × Str} (h : readNumber s = .ok out) :
    ∃ c t, s = c :: t ∧ startsNumber c = true := by
  cases s with
  | nil =>
      have hnone : readNumber [] = .error .jsonDecodeError := by rfl
      rw [hnone] at h
      cases h
  | cons c s =>
      refine ⟨c, s, rfl, ?_⟩
      unfold readNumber at h
      split at h
      · split at h
        · rename_i hconstant
          exact readConstant_head hconstant
        · cases h
      · rename_i digits rest hinteger
        rw [scanSign] at hinteger
        split at hinteger
        · rename_i hminus
          simp [startsNumber, hminus]
        · rw [scanInteger] at hinteger
          split at hinteger
          · rename_i hzero
            simp [startsNumber, isDigit, hzero]
          split at hinteger
          · rename_i hdigit
            simp [startsNumber, hdigit]
          · cases hinteger

/-- A number is no literal, and opens nothing. -/
theorem of_startsNumber {c : CodePoint} (h : startsNumber c = true) (t : Str) :
    c.val ≠ 0x22 ∧ c.val ≠ 0x7B ∧ c.val ≠ 0x5B ∧ isWhitespace c = false ∧
      scanLiteral (c :: t) = Option.none := by
  have hnull : Str.ofString "null" = [0x6E, 0x75, 0x6C, 0x6C] := by rfl
  have htrue : Str.ofString "true" = [0x74, 0x72, 0x75, 0x65] := by rfl
  have hfalse : Str.ofString "false" = [0x66, 0x61, 0x6C, 0x73, 0x65] := by rfl
  simp only [startsNumber, isDigit, Bool.or_eq_true, Bool.and_eq_true, decide_eq_true_eq,
    beq_iff_eq] at h
  have hne : ∀ {d : CodePoint}, 0x5E < d.val → d ≠ c := by
    rintro d hd rfl
    omega
  refine ⟨by omega, by omega, by omega, ?_, ?_⟩
  · simp only [isWhitespace, Bool.or_eq_false_iff, beq_eq_false_iff_ne]
    omega
  · rw [scanLiteral, hnull, htrue, hfalse, isPrefixOf_eq_false (hne (by decide)),
      isPrefixOf_eq_false (hne (by decide)), isPrefixOf_eq_false (hne (by decide))]
    rfl

/-- How a value is read that is neither text nor bracketed. -/
theorem read_plain {nesting : Nat} {c : CodePoint} {t : Str} (hquote : c.val ≠ 0x22)
    (hbrace : c.val ≠ 0x7B) (hbracket : c.val ≠ 0x5B) :
    read nesting (c :: t) = match scanLiteral (c :: t) with
      | some out => .ok out
      | Option.none => readNumber (c :: t) := by
  cases hliteral : scanLiteral (c :: t) <;> cases nesting <;>
    simp only [read, readWith, if_neg hquote, if_neg hbrace, if_neg hbracket, hliteral]

theorem read_number {nesting : Nat} {value : PyJson} (h : readNumber s = .ok (value, []))
    (hrest : Ends rest) : read nesting (s ++ rest) = .ok (value, rest) := by
  have happend := readNumber_append hrest h
  obtain ⟨c, t, rfl, hc⟩ := readNumber_head h
  rw [List.cons_append] at happend ⊢
  obtain ⟨hquote, hbrace, hbracket, -, hliteral⟩ := of_startsNumber hc (t ++ rest)
  rw [read_plain hquote hbrace hbracket, hliteral]
  exact happend

end

/-! ### Integers -/

theorem isDigit_ofChar {c : Char} (h : c.isDigit = true) : isDigit (CodePoint.ofChar c) = true := by
  simp only [Char.isDigit, Bool.and_eq_true, decide_eq_true_eq] at h
  simp only [isDigit, Bool.and_eq_true, decide_eq_true_eq]
  exact h

/-- The decimal digits of a number, as a text. -/
def decimal (n : Nat) : Str := (Nat.toDigits 10 n).map CodePoint.ofChar

theorem decimal_digits (n : Nat) : ∀ c ∈ decimal n, isDigit c = true := by
  intro c hc
  obtain ⟨x, hx, rfl⟩ := List.mem_map.mp hc
  exact isDigit_ofChar (Nat.isDigit_of_mem_toDigits (by decide) (by decide) hx)

theorem digitsValue_decimal (n : Nat) : digitsValue (decimal n) = n := by
  have hfold : ∀ (l : List Char) (m : Nat),
      (l.map CodePoint.ofChar).foldl (fun n c => n * 10 + (c.val - 0x30)) m =
        Nat.ofDigitChars 10 l m := by
    intro l
    induction l with
    | nil => simp
    | cons c l ih =>
        intro m
        rw [List.map_cons, List.foldl_cons, ih, Nat.ofDigitChars_cons, Nat.mul_comm]
        rfl
  rw [digitsValue, decimal, hfold, Nat.ofDigitChars_ten_toDigits]

/-- A positive number has no leading zero. -/
theorem head_toDigits {n : Nat} (h : 0 < n) : ∀ c ∈ (Nat.toDigits 10 n).head?, c ≠ '0' := by
  induction n using Nat.strong_induction_on with
  | _ n ih =>
      by_cases hlt : n < 10
      · have hall : ∀ m : Fin 10, 0 < m.val → Nat.digitChar m.val ≠ '0' := by decide
        rw [Nat.toDigits_of_lt_base hlt]
        simpa using hall ⟨n, hlt⟩ h
      · rw [Nat.toDigits_of_base_le (by decide) (Nat.le_of_not_lt hlt),
          List.head?_append_of_ne_nil _ Nat.toDigits_ne_nil]
        exact ih (n / 10) (by omega) (by omega)

theorem scanInteger_decimal (n : Nat) : scanInteger (decimal n) = some (decimal n, []) := by
  have hall := decimal_digits n
  rcases Nat.eq_zero_or_pos n with rfl | hpos
  · rfl
  · cases hdigits : Nat.toDigits 10 n with
    | nil => exact absurd hdigits Nat.toDigits_ne_nil
    | cons c l =>
        have hdecimal : decimal n = CodePoint.ofChar c :: l.map CodePoint.ofChar := by
          rw [decimal, hdigits, List.map_cons]
        have hne : (CodePoint.ofChar c).val ≠ 0x30 := by
          intro hzero
          refine head_toDigits hpos c (by rw [hdigits]; rfl) ?_
          exact Char.ext (UInt32.toNat_inj.mp hzero)
        rw [hdecimal] at hall ⊢
        rw [scanInteger, if_neg hne, if_pos (hall _ List.mem_cons_self),
          List.takeWhile_eq_self_iff.mpr hall, List.dropWhile_eq_nil_iff.mpr hall]

/-- The text of a number is read as it. -/
theorem readNumber_decimal {n : Nat} {sign : Str} (hsign : sign = [] ∨ sign = [0x2D])
    (h : (Nat.toDigits 10 n).length ≤ maxIntDigits) : readNumber (sign ++ decimal n) =
      .ok (.int (if sign = [] then (n : Int) else -n), []) := by
  have hscan : scanSign (sign ++ decimal n) = (sign, decimal n) := by
    rcases hsign with rfl | rfl
    · cases hdecimal : decimal n with
      | nil => rfl
      | cons c l =>
          have hdigit := decimal_digits n c (by rw [hdecimal]; exact List.mem_cons_self)
          simp only [isDigit, Bool.and_eq_true, decide_eq_true_eq] at hdigit
          rw [List.nil_append, scanSign, if_neg (by omega)]
    · rfl
  have hlength : (decimal n).length ≤ maxIntDigits := by
    rw [decimal, List.length_map]
    exact h
  have hfraction : scanFraction [] = ([], []) := rfl
  have hexponent : scanExponent [] = ([], []) := rfl
  rw [readNumber, hscan]
  dsimp only
  rw [scanInteger_decimal]
  dsimp only
  rw [hfraction, hexponent, if_pos ⟨rfl, rfl⟩, if_pos hlength, digitsValue_decimal]

theorem readNumber_int {n : Int} (h : overlong n = false) :
    readNumber (Str.ofString (toString n)) = .ok (.int n, []) := by
  rw [overlong, decide_eq_false_iff_not, Nat.not_lt] at h
  cases n with
  | ofNat n =>
      have htext : Str.ofString (toString (Int.ofNat n)) = [] ++ decimal n := by
        show (n.repr).toList.map CodePoint.ofChar = _
        rw [Nat.toList_repr]
        rfl
      replace h : (Nat.toDigits 10 n).length ≤ maxIntDigits := h
      rw [htext, readNumber_decimal (.inl rfl) h]
      rfl
  | negSucc n =>
      have htext : Str.ofString (toString (Int.negSucc n)) = [0x2D] ++ decimal (n + 1) := by
        show (("-" ++ (n + 1).repr).toList).map CodePoint.ofChar = _
        rw [String.toList_append, Nat.toList_repr, List.map_append]
        rfl
      replace h : (Nat.toDigits 10 (n + 1)).length ≤ maxIntDigits := h
      rw [htext, readNumber_decimal (.inr rfl) h]
      rfl

/-! ### Values

The proof follows the writer: each value is read to its end, whatever text comes after
it that does not continue a number. The loops over items and fields get the bound they
need from the length of what was written.
-/

section

variable (repr : Str → Str)

mutual

/-- What a JSON column holds: texts without surrogates, integers that `int` reads, floats that
are read back as they are written, and no key twice. -/
def Storable : PyJson → Prop
  | .int n => overlong n = false
  | .float literal => readNumber (repr literal) = .ok (.float literal, [])
  | .str s => Str.Scalar s
  | .list items => StorableItems items
  | .dict fields => (fields.map Prod.fst).Nodup ∧ StorableFields fields
  | _ => True

def StorableItems : List PyJson → Prop
  | [] => True
  | item :: items => item.Storable ∧ StorableItems items

def StorableFields : List (Str × PyJson) → Prop
  | [] => True
  | (key, value) :: fields => (Str.Scalar key ∧ value.Storable) ∧ StorableFields fields

end

end

section

variable {repr : Str → Str} {indent : Option Nat}

theorem storableItems_iff {items : List PyJson} :
    StorableItems repr items ↔ ∀ item ∈ items, item.Storable repr := by
  induction items with
  | nil => simp [StorableItems]
  | cons item items ih => simp [StorableItems, ih]

theorem storableFields_iff {fields : List (Str × PyJson)} :
    StorableFields repr fields ↔ ∀ f ∈ fields, Str.Scalar f.1 ∧ f.2.Storable repr := by
  induction fields with
  | nil => simp [StorableFields]
  | cons f fields ih => simp [StorableFields, ih]

/-- Blanks before a character are skipped. -/
theorem skipWhitespace_append {blank t : Str} {c : CodePoint}
    (hblank : ∀ x ∈ blank, isWhitespace x = true) (hc : isWhitespace c = false) :
    skipWhitespace (blank ++ c :: t) = c :: t := by
  rw [skipWhitespace, List.dropWhile_append_of_pos hblank,
    List.dropWhile_cons_of_neg (by rw [hc]; decide)]

theorem newline_blank (indent : Option Nat) (level : Nat) :
    ∀ c ∈ newline indent level, isWhitespace c = true := by
  intro c hc
  cases indent with
  | none => cases hc
  | some n =>
      rw [newline, List.mem_cons] at hc
      rcases hc with rfl | hc
      · rfl
      · rw [List.eq_of_mem_replicate hc]
        rfl

theorem gap_blank (indent : Option Nat) (level : Nat) :
    ∀ c ∈ gap indent level, isWhitespace c = true := by
  cases indent with
  | none => simp [gap, isWhitespace]
  | some n => exact newline_blank (some n) level

/-- What is written begins with a character that is no blank and closes nothing. -/
theorem write_head (indent : Option Nat) (level : Nat) {value : PyJson} (h : value.Storable repr) :
    ∃ c t, write repr indent level value = c :: t ∧ isWhitespace c = false ∧ c.val ≠ 0x5D := by
  have hnumber : ∀ {s : Str} {out : PyJson × Str}, readNumber s = .ok out →
      ∃ c t, s = c :: t ∧ isWhitespace c = false ∧ c.val ≠ 0x5D := by
    intro s out hread
    obtain ⟨c, t, hs, hc⟩ := readNumber_head hread
    have hbracket : c.val ≠ 0x5D := by
      intro hc'
      simp [startsNumber, isDigit, hc'] at hc
    exact ⟨c, t, hs, (of_startsNumber hc t).2.2.2.1, hbracket⟩
  cases value with
  | none => exact ⟨_, _, rfl, by decide⟩
  | bool b => cases b <;> exact ⟨_, _, rfl, by decide⟩
  | int n =>
      rw [write]
      exact hnumber (readNumber_int h)
  | float literal =>
      rw [write]
      exact hnumber h
  | str s => exact ⟨_, _, rfl, by decide⟩
  | list items => cases items <;> exact ⟨_, _, rfl, by decide⟩
  | dict fields => cases fields <;> exact ⟨_, _, rfl, by decide⟩

/-- So a blank before it is skipped. -/
theorem skipWhitespace_write {level : Nat} {value : PyJson} (h : value.Storable repr)
    {blank : Str} (hblank : ∀ c ∈ blank, isWhitespace c = true) (rest : Str) :
    skipWhitespace (blank ++ (write repr indent level value ++ rest)) =
      write repr indent level value ++ rest := by
  obtain ⟨c, t, hwrite, hc, -⟩ := write_head indent level h
  rw [hwrite, List.cons_append, skipWhitespace_append hblank hc]

theorem length_le_writeItems (repr : Str → Str) (indent : Option Nat) (level : Nat) (items : List PyJson) :
    items.length ≤ (writeItems repr indent level items).length := by
  induction items with
  | nil => exact Nat.zero_le _
  | cons item items ih =>
      rw [writeItems, List.length_cons, List.length_cons, List.length_append]
      omega

theorem length_le_writeFields (repr : Str → Str) (indent : Option Nat) (level : Nat) (fields : List (Str × PyJson)) :
    fields.length ≤ (writeFields repr indent level fields).length := by
  induction fields with
  | nil => exact Nat.zero_le _
  | cons f fields ih =>
      obtain ⟨key, value⟩ := f
      rw [writeFields, List.length_cons, List.length_cons, List.length_append]
      omega

/-- A line break and a bracket end a number. -/
theorem ends_newline {level : Nat} {c : CodePoint} (hc : continuesNumber c = false) (rest : Str) :
    Ends (newline indent level ++ c :: rest) := by
  cases indent with
  | none => exact ends_cons.mpr hc
  | some n => exact ends_cons.mpr (by decide)

theorem ends_writeItems {level outer : Nat} (items : List PyJson) (rest : Str) :
    Ends (writeItems repr indent level items ++ (newline indent outer ++ 0x5D :: rest)) := by
  cases items with
  | nil => exact ends_newline (by decide) rest
  | cons item items => exact ends_cons.mpr (by decide)

theorem ends_writeFields {level outer : Nat} (fields : List (Str × PyJson)) (rest : Str) :
    Ends (writeFields repr indent level fields ++ (newline indent outer ++ 0x7D :: rest)) := by
  cases fields with
  | nil => exact ends_newline (by decide) rest
  | cons f fields => exact ends_cons.mpr (by decide)

/-- A new key is put at the end. -/
theorem setField_new {fields : List (Str × PyJson)} {key : Str} {value : PyJson}
    (h : key ∉ fields.map Prod.fst) : setField fields key value = fields ++ [(key, value)] := by
  rw [setField, if_neg]
  rw [List.any_eq_true]
  rintro ⟨f, hf, hkey⟩
  exact h (List.mem_map.mpr ⟨f, hf, by simpa using hkey⟩)

theorem new_key {before fields : List (Str × PyJson)} {field : Str × PyJson}
    (h : ((before ++ field :: fields).map Prod.fst).Nodup) : field.1 ∉ before.map Prod.fst := by
  rw [List.map_append, List.map_cons, List.nodup_append] at h
  exact fun hmem => h.2.2 _ hmem _ List.mem_cons_self rfl

/-- The text of a literal is read as it. -/
theorem read_literal {nesting : Nat} {word : String} {value : PyJson} {rest : Str}
    (h : word = "null" ∧ value = .none ∨ word = "true" ∧ value = .bool true ∨
      word = "false" ∧ value = .bool false) :
    read nesting (Str.ofString word ++ rest) = .ok (value, rest) := by
  have hnull : Str.ofString "null" = [0x6E, 0x75, 0x6C, 0x6C] := by rfl
  have htrue : Str.ofString "true" = [0x74, 0x72, 0x75, 0x65] := by rfl
  have hfalse : Str.ofString "false" = [0x66, 0x61, 0x6C, 0x73, 0x65] := by rfl
  rcases h with ⟨rfl, rfl⟩ | ⟨rfl, rfl⟩ | ⟨rfl, rfl⟩
  · rw [hnull, List.cons_append, read_plain (by decide) (by decide) (by decide), scanLiteral, hnull]
    rfl
  · rw [htrue, List.cons_append, read_plain (by decide) (by decide) (by decide), scanLiteral, hnull,
      htrue]
    rfl
  · rw [hfalse, List.cons_append, read_plain (by decide) (by decide) (by decide), scanLiteral,
      hnull, htrue, hfalse]
    rfl

/-- A quoted text is read as the text. -/
theorem read_quoteAscii {nesting : Nat} {s rest : Str} (hs : s.Scalar) :
    read nesting (quoteAscii s ++ rest) = .ok (.str s, rest) := by
  have hscan := scanString_escaped hs rest
  have htext : quoteAscii s ++ rest = 0x22 :: (escaped s ++ 0x22 :: rest) := by
    simp [quoteAscii]
  rw [htext]
  cases nesting with
  | zero => rw [read, readWith, if_pos (by decide), hscan]
  | succ nesting => rw [read, readWith, if_pos (by decide), hscan]

/-- A key, its colon and its value are read as a field. -/
theorem readField_write {nesting level : Nat} {key : Str} {value : PyJson} {tail : Str}
    (hkey : key.Scalar) (hvalue : value.Storable repr)
    (hread : read nesting (write repr indent level value ++ tail) = .ok (value, tail)) :
    readField (read nesting) (quoteAscii key ++ (Str.ofString ": " ++
      (write repr indent level value ++ tail))) = .ok ((key, value), tail) := by
  have hcolon : Str.ofString ": " = [0x3A, 0x20] := by rfl
  have hscan := scanString_escaped hkey
    (0x3A :: ([0x20] ++ (write repr indent level value ++ tail)))
  have htext : quoteAscii key ++ (Str.ofString ": " ++ (write repr indent level value ++ tail)) =
      0x22 :: (escaped key ++
        0x22 :: 0x3A :: ([0x20] ++ (write repr indent level value ++ tail))) := by
    simp [quoteAscii, hcolon]
  have hskip : ∀ t : Str, skipWhitespace (0x3A :: t) = 0x3A :: t :=
    fun t => skipWhitespace_append (by simp : ∀ x ∈ ([] : Str), _) (by decide)
  rw [htext, readField, if_neg (by decide), hscan]
  dsimp only
  rw [hskip]
  dsimp only
  rw [if_neg (by decide), skipWhitespace_write hvalue (by simp [isWhitespace]), hread]
  rfl

mutual

/--
**What is written is read back.**  The induction is on the value; the loops over the items and
the fields are entered once their first has been read.
-/
theorem read_write : ∀ (value : PyJson) {nesting : Nat} (level : Nat) {rest : Str},
    value.Storable repr → value.depth ≤ nesting → Ends rest →
    read nesting (write repr indent level value ++ rest) = .ok (value, rest)
  | .none, _, _, _, _, _, _ => by
      rw [write]
      exact read_literal (.inl ⟨rfl, rfl⟩)
  | .bool b, _, _, _, _, _, _ => by
      rw [write]
      cases b with
      | false => exact read_literal (.inr (.inr ⟨rfl, rfl⟩))
      | true => exact read_literal (.inr (.inl ⟨rfl, rfl⟩))
  | .int n, _, _, _, h, _, hrest => by
      rw [write]
      exact read_number (readNumber_int h) hrest
  | .float literal, _, _, _, h, _, hrest => by
      rw [write]
      exact read_number h hrest
  | .str s, _, _, _, h, _, _ => by
      rw [write]
      exact read_quoteAscii h
  | .list [], nesting, _, rest, _, hdepth, _ => by
      have hopen : Str.ofString "[]" = [0x5B, 0x5D] := by rfl
      obtain ⟨nesting, rfl⟩ := Nat.exists_eq_succ_of_ne_zero (Nat.ne_of_gt hdepth)
      rw [write, hopen]
      rfl
  | .list (item :: items), nesting, level, rest, h, hdepth, _ => by
      obtain ⟨nesting, rfl⟩ :=
        Nat.exists_eq_succ_of_ne_zero (Nat.ne_of_gt (Nat.zero_lt_of_lt hdepth))
      rw [Storable, StorableItems] at h
      rw [depth, depthItems, Nat.succ_le_succ_iff, Nat.max_le] at hdepth
      have htail : Ends (writeItems repr indent (level + 1) items ++
        (newline indent level ++ 0x5D :: rest)) := ends_writeItems items rest
      have hitem := read_write item (level + 1) h.1 hdepth.1 htail
      have hlength := length_le_writeItems repr indent (level + 1) items
      obtain ⟨c, t, hwrite, -, hbracket⟩ := write_head indent (level + 1) h.1
      have htext : write repr indent level (.list (item :: items)) ++ rest =
          0x5B :: (newline indent (level + 1) ++ (write repr indent (level + 1) item ++
            (writeItems repr indent (level + 1) items ++
              (newline indent level ++ 0x5D :: rest)))) := by
        simp [write]
      rw [htext, read, readWith, if_neg (by decide), if_neg (by decide), if_pos (by decide),
        readList, skipWhitespace_write h.1 (newline_blank indent _), hwrite, List.cons_append]
      dsimp only
      rw [if_neg hbracket, ← List.cons_append, ← hwrite, readItems_write items h.2 hdepth.2 ?_ hitem]
      · rfl
      · simp only [List.length_append]
        omega
  | .dict [], nesting, _, rest, _, hdepth, _ => by
      have hopen : Str.ofString "\x7b\x7d" = [0x7B, 0x7D] := by rfl
      obtain ⟨nesting, rfl⟩ := Nat.exists_eq_succ_of_ne_zero (Nat.ne_of_gt hdepth)
      rw [write, hopen]
      rfl
  | .dict ((key, value) :: fields), nesting, level, rest, h, hdepth, _ => by
      obtain ⟨nesting, rfl⟩ :=
        Nat.exists_eq_succ_of_ne_zero (Nat.ne_of_gt (Nat.zero_lt_of_lt hdepth))
      rw [Storable, StorableFields] at h
      rw [depth, depthFields, Nat.succ_le_succ_iff, Nat.max_le] at hdepth
      have htail : Ends (writeFields repr indent (level + 1) fields ++
        (newline indent level ++ 0x7D :: rest)) := ends_writeFields fields rest
      have hvalue := read_write value (level + 1) h.2.1.2 hdepth.1 htail
      have hfield := readField_write h.2.1.1 h.2.1.2 hvalue
      have hlength := length_le_writeFields repr indent (level + 1) fields
      have htext : write repr indent level (.dict ((key, value) :: fields)) ++ rest =
          0x7B :: (newline indent (level + 1) ++ 0x22 :: (escaped key ++ 0x22 :: (Str.ofString ": " ++
            (write repr indent (level + 1) value ++ (writeFields repr indent (level + 1) fields ++
              (newline indent level ++ 0x7D :: rest)))))) := by
        simp [write, quoteAscii]
      have hquoted : ∀ tail : Str, quoteAscii key ++ tail = 0x22 :: (escaped key ++ 0x22 :: tail) :=
        fun tail => by simp [quoteAscii]
      rw [htext, read, readWith, if_neg (by decide), if_pos (by decide), readDict,
        skipWhitespace_append (newline_blank indent _) (by decide)]
      dsimp only
      rw [hquoted] at hfield
      rw [if_neg (by decide), readFields_write fields h.2.2 hdepth.2 h.1 ?_ hfield]
      · rfl
      · simp only [List.length_append, List.length_cons]
        omega

/-- The loop over the items, where it has read one and the others follow. -/
theorem readItems_write : ∀ (items : List PyJson) {nesting level outer bound : Nat} {rest s : Str}
    {item : PyJson}, StorableItems repr items → depthItems items ≤ nesting → items.length < bound →
    read nesting s = .ok (item, writeItems repr indent level items ++
      (newline indent outer ++ 0x5D :: rest)) →
    readItems (read nesting) bound s = .ok (item :: items, rest)
  | [], nesting, level, outer, bound, rest, s, item, _, _, hbound, hread => by
      obtain ⟨bound, rfl⟩ := Nat.exists_eq_succ_of_ne_zero (Nat.ne_of_gt hbound)
      rw [readItems, hread, Run.ok_bind]
      dsimp only
      rw [writeItems, List.nil_append, skipWhitespace_append (newline_blank indent _) (by decide)]
      rfl
  | next :: items, nesting, level, outer, bound, rest, s, item, h, hdepth, hbound, hread => by
      obtain ⟨bound, rfl⟩ :=
        Nat.exists_eq_succ_of_ne_zero (Nat.ne_of_gt (Nat.zero_lt_of_lt hbound))
      rw [StorableItems] at h
      rw [depthItems, Nat.max_le] at hdepth
      rw [List.length_cons, Nat.succ_lt_succ_iff] at hbound
      have htail : Ends (writeItems repr indent level items ++
        (newline indent outer ++ 0x5D :: rest)) := ends_writeItems items rest
      have hnext := read_write next level h.1 hdepth.1 htail
      have htext : writeItems repr indent level (next :: items) ++
          (newline indent outer ++ 0x5D :: rest) =
          0x2C :: (gap indent level ++ (write repr indent level next ++
            (writeItems repr indent level items ++ (newline indent outer ++ 0x5D :: rest)))) := by
        simp [writeItems]
      have hskip : ∀ t : Str, skipWhitespace (0x2C :: t) = 0x2C :: t :=
        fun t => skipWhitespace_append (by simp : ∀ x ∈ ([] : Str), _) (by decide)
      rw [readItems, hread, Run.ok_bind]
      dsimp only
      rw [htext, hskip]
      dsimp only
      rw [if_neg (by decide), if_pos (by decide), skipWhitespace_write h.1 (gap_blank indent level),
        readItems_write items h.2 hdepth.2 hbound hnext]
      rfl

/-- The loop over the fields, where it has read one and the others follow. -/
theorem readFields_write : ∀ (fields : List (Str × PyJson)) {nesting level outer bound : Nat}
    {rest s : Str} {before : List (Str × PyJson)} {field : Str × PyJson},
    StorableFields repr fields → depthFields fields ≤ nesting →
    ((before ++ field :: fields).map Prod.fst).Nodup → fields.length < bound →
    readField (read nesting) s = .ok (field, writeFields repr indent level fields ++
      (newline indent outer ++ 0x7D :: rest)) →
    readFields (read nesting) bound before s = .ok (before ++ field :: fields, rest)
  | [], nesting, level, outer, bound, rest, s, before, field, _, _, hkeys, hbound, hread => by
      obtain ⟨bound, rfl⟩ := Nat.exists_eq_succ_of_ne_zero (Nat.ne_of_gt hbound)
      rw [readFields, hread, Run.ok_bind]
      dsimp only
      rw [writeFields, List.nil_append, skipWhitespace_append (newline_blank indent _) (by decide),
        setField_new (new_key hkeys)]
      rfl
  | (key, value) :: fields, nesting, level, outer, bound, rest, s, before, field, h, hdepth, hkeys,
      hbound, hread => by
      obtain ⟨bound, rfl⟩ :=
        Nat.exists_eq_succ_of_ne_zero (Nat.ne_of_gt (Nat.zero_lt_of_lt hbound))
      rw [StorableFields] at h
      rw [depthFields, Nat.max_le] at hdepth
      rw [List.length_cons, Nat.succ_lt_succ_iff] at hbound
      have htail : Ends (writeFields repr indent level fields ++
        (newline indent outer ++ 0x7D :: rest)) := ends_writeFields fields rest
      have hvalue := read_write value level h.1.2 hdepth.1 htail
      have hfield := readField_write h.1.1 h.1.2 hvalue
      have htext : writeFields repr indent level ((key, value) :: fields) ++
          (newline indent outer ++ 0x7D :: rest) =
          0x2C :: (gap indent level ++ 0x22 :: (escaped key ++ 0x22 :: (Str.ofString ": " ++
            (write repr indent level value ++ (writeFields repr indent level fields ++
              (newline indent outer ++ 0x7D :: rest)))))) := by
        simp [writeFields, quoteAscii]
      have hquoted : ∀ tail : Str, quoteAscii key ++ tail = 0x22 :: (escaped key ++ 0x22 :: tail) :=
        fun tail => by simp [quoteAscii]
      have hskip : ∀ t : Str, skipWhitespace (0x2C :: t) = 0x2C :: t :=
        fun t => skipWhitespace_append (by simp : ∀ x ∈ ([] : Str), _) (by decide)
      rw [hquoted] at hfield
      have hrest : ((before ++ [field]) ++ (key, value) :: fields).map Prod.fst |>.Nodup := by
        rwa [List.append_assoc, List.singleton_append]
      rw [readFields, hread, Run.ok_bind]
      dsimp only
      rw [htext, hskip]
      dsimp only
      rw [if_neg (by decide), if_pos (by decide),
        skipWhitespace_append (gap_blank indent level) (by decide), setField_new (new_key hkeys),
        readFields_write fields h.2 hdepth.2 hrest hbound hfield, List.append_assoc,
        List.singleton_append]

end

end

end PyJson

end Text
