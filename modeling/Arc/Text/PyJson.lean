/-
JSON as Python's `json` module reads and writes it: the tokens, and the compact writer.

`decodeBytes` guesses the encoding of bytes and decodes them with surrogates passing.
Strings of a value are texts of code points, since an escape may stand for a surrogate.
`dumps` writes a value with sorted keys, no spaces, and characters as they are; what it
writes has a surrogate exactly where the value has one.  `repr` of a float is a parameter
of it.
-/
import Arc.Text.Unicode
import Mathlib.Data.List.Lex
import Mathlib.Data.List.Sort

namespace Text

/-- How deep the interpreter may recurse. -/
class Recursion where
  /-- How deep a value may nest for `json`. -/
  nesting : Nat

/-- What a JSON text is read as; a float is kept as it was written. -/
inductive PyJson
  | none
  | bool (b : Bool)
  | int (n : Int)
  | float (literal : Str)
  | str (s : Str)
  | list (items : List PyJson)
  | dict (fields : List (Str × PyJson))

namespace PyJson

/-! ### Scanning

The tokens of a JSON text, read as Python's scanner reads them: it takes escapes of lone
surrogates, refuses integers of too many digits, and lets the last of two equal keys
win.
-/

def isWhitespace (c : CodePoint) : Bool :=
  c.val == 0x20 || c.val == 0x09 || c.val == 0x0A || c.val == 0x0D

def isDigit (c : CodePoint) : Bool := 0x30 ≤ c.val && c.val ≤ 0x39

def skipWhitespace (s : Str) : Str := s.dropWhile isWhitespace

def hexDigit? (c : CodePoint) : Option Nat :=
  if isDigit c then some (c.val - 0x30)
  else if 0x61 ≤ c.val ∧ c.val ≤ 0x66 then some (c.val - 0x61 + 10)
  else if 0x41 ≤ c.val ∧ c.val ≤ 0x46 then some (c.val - 0x41 + 10)
  else Option.none

/-- The unit of an escape of four hexadecimal digits. -/
def hexUnit? (a b c d : CodePoint) : Option CodePoint := do
  CodePoint.ofNat? ((((← hexDigit? a) * 16 + (← hexDigit? b)) * 16 + (← hexDigit? c)) * 16 +
    (← hexDigit? d))

/-- The escapes of one character. -/
def simpleEscape? (c : CodePoint) : Option CodePoint :=
  if c.val = 0x22 ∨ c.val = 0x5C ∨ c.val = 0x2F then some c
  else if c.val = 0x62 then some 0x08
  else if c.val = 0x66 then some 0x0C
  else if c.val = 0x6E then some 0x0A
  else if c.val = 0x72 then some 0x0D
  else if c.val = 0x74 then some 0x09
  else Option.none

/-- `scanstring` after the opening quote: its units, those of `\u` escapes marked, and the rest. -/
def scanUnits : Str → Option (List (Bool × CodePoint) × Str)
  | [] => Option.none
  | c :: rest =>
    if c.val = 0x22 then some ([], rest)
    else if c.val = 0x5C then
      match rest with
      | e :: rest =>
        if e.val = 0x75 then
          match rest with
          | h₁ :: h₂ :: h₃ :: h₄ :: rest => do
            let unit ← hexUnit? h₁ h₂ h₃ h₄
            let (units, rest) ← scanUnits rest
            return ((true, unit) :: units, rest)
          | _ => Option.none
        else do
          let unit ← simpleEscape? e
          let (units, rest) ← scanUnits rest
          return ((false, unit) :: units, rest)
      | [] => Option.none
    -- a control character must be escaped
    else if c.val < 0x20 then Option.none
    else do
      let (units, rest) ← scanUnits rest
      return ((false, c) :: units, rest)

def scanString (s : Str) : Option (Str × Str) :=
  (scanUnits s).map fun out => (joinPairs out.1, out.2)

/-- The value of a run of decimal digits. -/
def digitsValue (digits : Str) : Nat := digits.foldl (fun n c => n * 10 + (c.val - 0x30)) 0

/-- How many digits `int` reads. -/
def maxIntDigits : Nat := 4300

/-- The integer part of a number: a zero, or digits without a leading zero. -/
def scanInteger (s : Str) : Option (Str × Str) :=
  match s with
  | c :: rest =>
    if c.val = 0x30 then some ([c], rest)
    else if isDigit c then some (s.takeWhile isDigit, s.dropWhile isDigit)
    else Option.none
  | [] => Option.none

/-- A fraction, where one follows. -/
def scanFraction (s : Str) : Str × Str :=
  match s with
  | point :: d :: rest =>
    if point.val = 0x2E ∧ isDigit d then
      (point :: (d :: rest).takeWhile isDigit, (d :: rest).dropWhile isDigit)
    else ([], s)
  | _ => ([], s)

/-- An exponent, where one follows. -/
def scanExponent (s : Str) : Str × Str :=
  match s with
  | e :: d :: rest =>
    if e.val = 0x65 ∨ e.val = 0x45 then
      if isDigit d then (e :: (d :: rest).takeWhile isDigit, (d :: rest).dropWhile isDigit)
      else
        match rest with
        | d' :: rest' =>
          if (d.val = 0x2B ∨ d.val = 0x2D) ∧ isDigit d' then
            (e :: d :: (d' :: rest').takeWhile isDigit, (d' :: rest').dropWhile isDigit)
          else ([], s)
        | [] => ([], s)
    else ([], s)
  | _ => ([], s)

/-- A minus sign, where there is one. -/
def scanSign (s : Str) : Str × Str :=
  match s with
  | c :: rest => if c.val = 0x2D then ([c], rest) else ([], s)
  | [] => ([], s)

/-- Store a field: the first place of the key, the last value. -/
def setField (fields : List (Str × PyJson)) (key : Str) (value : PyJson) : List (Str × PyJson) :=
  if fields.any fun f => f.1 == key then
    fields.map fun f => if f.1 = key then (f.1, value) else f
  else fields ++ [(key, value)]

/-- The literals; a constant that is no JSON is refused. -/
def scanLiteral (s : Str) : Option (PyJson × Str) :=
  if (Str.ofString "null").isPrefixOf s then some (.none, s.drop 4)
  else if (Str.ofString "true").isPrefixOf s then some (.bool true, s.drop 4)
  else if (Str.ofString "false").isPrefixOf s then some (.bool false, s.drop 5)
  else Option.none

/-- `detect_encoding`, with the decoding it leads to. -/
def decodeBytes (bytes : List UInt8) : Option Str :=
  match bytes with
  | 0 :: 0 :: 0xFE :: 0xFF :: rest => decodeUtf32 true rest
  | 0xFF :: 0xFE :: 0 :: 0 :: rest => decodeUtf32 false rest
  | 0xFE :: 0xFF :: rest => decodeUtf16 true rest
  | 0xFF :: 0xFE :: rest => decodeUtf16 false rest
  | 0xEF :: 0xBB :: 0xBF :: rest => decodeUtf8 rest
  | a :: b :: c :: d :: _ =>
    if a = 0 then if b ≠ 0 then decodeUtf16 true bytes else decodeUtf32 true bytes
    else if b = 0 then
      if c ≠ 0 ∨ d ≠ 0 then decodeUtf16 false bytes else decodeUtf32 false bytes
    else decodeUtf8 bytes
  | [a, b] =>
    if a = 0 then decodeUtf16 true bytes
    else if b = 0 then decodeUtf16 false bytes
    else decodeUtf8 bytes
  | _ => decodeUtf8 bytes

/-! ### A token leaves a shorter text -/

theorem length_skipWhitespace_le (s : Str) : (skipWhitespace s).length ≤ s.length :=
  (List.dropWhile_sublist _).length_le

theorem scanUnits_shorter : ∀ {s : Str} {units : List (Bool × CodePoint)} {rest : Str},
    scanUnits s = some (units, rest) → rest.length < s.length := by
  intro s
  fun_induction scanUnits s with
  | case1 => intro units rest h; cases h
  | case2 c tail hquote =>
      intro units rest h
      cases h
      exact Nat.lt_succ_self _
  | case3 c hquote hslash e he h₁ h₂ h₃ h₄ tail ih =>
      intro units rest h
      simp only [bind, Option.bind_eq_some_iff] at h
      obtain ⟨unit, -, ⟨units', rest'⟩, hrest, h⟩ := h
      cases h
      have := ih hrest
      simp only [List.length_cons]
      omega
  | case4 => intro units rest h; cases h
  | case5 c hquote hslash e tail he ih =>
      intro units rest h
      simp only [bind, Option.bind_eq_some_iff] at h
      obtain ⟨unit, -, ⟨units', rest'⟩, hrest, h⟩ := h
      cases h
      have := ih hrest
      simp only [List.length_cons]
      omega
  | case6 => intro units rest h; cases h
  | case7 => intro units rest h; cases h
  | case8 c tail hquote hslash hcontrol ih =>
      intro units rest h
      simp only [bind, Option.bind_eq_some_iff] at h
      obtain ⟨⟨units', rest'⟩, hrest, h⟩ := h
      cases h
      have := ih hrest
      simp only [List.length_cons]
      omega

theorem scanString_shorter {s key rest : Str} (h : scanString s = some (key, rest)) :
    rest.length < s.length := by
  obtain ⟨⟨units, rest'⟩, hunits, h⟩ := Option.map_eq_some_iff.mp h
  cases h
  exact scanUnits_shorter hunits

theorem scanLiteral_shorter {s rest : Str} {value : PyJson}
    (h : scanLiteral s = some (value, rest)) : rest.length < s.length := by
  have hdrop : ∀ {word : String} {n : Nat}, (Str.ofString word).isPrefixOf s = true →
      0 < n → n ≤ (Str.ofString word).length → (s.drop n).length < s.length := by
    intro word n hprefix hpos hle
    have := (List.isPrefixOf_iff_prefix.mp hprefix).length_le
    rw [List.length_drop]
    omega
  unfold scanLiteral at h
  split at h
  · rename_i hword
    cases h
    exact hdrop hword (by decide) (by decide)
  split at h
  · rename_i hword
    cases h
    exact hdrop hword (by decide) (by decide)
  split at h
  · rename_i hword
    cases h
    exact hdrop hword (by decide) (by decide)
  · cases h

theorem scanInteger_shorter {s digits rest : Str} (h : scanInteger s = some (digits, rest)) :
    rest.length < s.length := by
  unfold scanInteger at h
  split at h
  · rename_i c tail
    split at h
    · cases h
      exact Nat.lt_succ_self _
    split at h
    · rename_i hdigit
      cases h
      rw [List.dropWhile_cons_of_pos hdigit]
      exact Nat.lt_succ_of_le (List.dropWhile_sublist _).length_le
    · cases h
  · cases h

theorem length_scanSign_le (s : Str) : (scanSign s).2.length ≤ s.length := by
  unfold scanSign
  split
  · split
    · exact Nat.le_succ _
    · exact le_rfl
  · exact le_rfl

theorem length_scanFraction_le (s : Str) : (scanFraction s).2.length ≤ s.length := by
  unfold scanFraction
  split
  · split
    · exact (List.dropWhile_sublist _).length_le.trans (Nat.le_succ _)
    · exact le_rfl
  · exact le_rfl

theorem length_scanExponent_le (s : Str) : (scanExponent s).2.length ≤ s.length := by
  unfold scanExponent
  split
  · split
    · split
      · exact (List.dropWhile_sublist _).length_le.trans (Nat.le_succ _)
      · split
        · split
          · exact (List.dropWhile_sublist _).length_le.trans (by simp)
          · exact le_rfl
        · exact le_rfl
    · exact le_rfl
  · exact le_rfl

/-! ### Writing -/

def hexDigit (n : Nat) : CodePoint := CodePoint.ofChar (Nat.digitChar n)

/-- How a character stands in a quoted string. -/
def escape (c : CodePoint) : Str :=
  if c.val = 0x22 ∨ c.val = 0x5C then [0x5C, c]
  else if c.val = 0x0A then Str.ofString "\\n"
  else if c.val = 0x0D then Str.ofString "\\r"
  else if c.val = 0x09 then Str.ofString "\\t"
  else if c.val = 0x0C then Str.ofString "\\f"
  else if c.val = 0x08 then Str.ofString "\\b"
  else if c.val < 0x20 then
    Str.ofString "\\u00" ++ [hexDigit (c.val / 16), hexDigit (c.val % 16)]
  else [c]

def quote (s : Str) : Str := 0x22 :: s.flatMap escape ++ [0x22]

mutual

/-- `json.dumps` with `ensure_ascii=False`, `sort_keys=True` and the compact separators. -/
def dumps (repr : Str → Str) : PyJson → Str
  | .none => Str.ofString "null"
  | .bool b => Str.ofString (if b then "true" else "false")
  | .int n => Str.ofString (toString n)
  | .float literal => repr literal
  | .str s => quote s
  | .list items => 0x5B :: List.intercalate [0x2C] (dumpItems repr items) ++ [0x5D]
  | .dict fields =>
    let members := (dumpFields repr fields).insertionSort fun a b => a.1 ≤ b.1
    0x7B :: List.intercalate [0x2C] (members.map fun m => quote m.1 ++ 0x3A :: m.2) ++ [0x7D]

def dumpItems (repr : Str → Str) : List PyJson → List Str
  | [] => []
  | item :: items => dumps repr item :: dumpItems repr items

/-- The fields with their values written, before they are sorted. -/
def dumpFields (repr : Str → Str) : List (Str × PyJson) → List (Str × Str)
  | [] => []
  | (key, value) :: fields => (key, dumps repr value) :: dumpFields repr fields

end

/-! ### Surrogates

A text with a surrogate can be held but not encoded. The writer with
`ensure_ascii=False` copies characters as they are, so it carries a surrogate of the
value into the text, and nothing else brings one there.
-/

mutual

/-- No string of the value, keys included, has a surrogate. -/
def Scalar : PyJson → Prop
  | .str s => Str.Scalar s
  | .list items => ScalarItems items
  | .dict fields => ScalarFields fields
  | _ => True

def ScalarItems : List PyJson → Prop
  | [] => True
  | item :: items => item.Scalar ∧ ScalarItems items

def ScalarFields : List (Str × PyJson) → Prop
  | [] => True
  | (key, value) :: fields => (Str.Scalar key ∧ value.Scalar) ∧ ScalarFields fields

end

mutual

instance decidableScalar : ∀ value : PyJson, Decidable value.Scalar
  | .none | .bool _ | .int _ | .float _ => .isTrue trivial
  | .str s => inferInstanceAs (Decidable (Str.Scalar s))
  | .list items => decidableScalarItems items
  | .dict fields => decidableScalarFields fields

instance decidableScalarItems : ∀ items : List PyJson, Decidable (ScalarItems items)
  | [] => .isTrue trivial
  | item :: items =>
    @instDecidableAnd _ _ (decidableScalar item) (decidableScalarItems items)

instance decidableScalarFields : ∀ fields : List (Str × PyJson), Decidable (ScalarFields fields)
  | [] => .isTrue trivial
  | (key, value) :: fields =>
    @instDecidableAnd _ _
      (@instDecidableAnd _ _ (inferInstanceAs (Decidable (Str.Scalar key))) (decidableScalar value))
      (decidableScalarFields fields)

end

theorem scalar_cons {c : CodePoint} {s : Str} :
    Str.Scalar (c :: s) ↔ c.isSurrogate = false ∧ Str.Scalar s := List.forall_mem_cons

theorem scalar_append {s t : Str} : Str.Scalar (s ++ t) ↔ Str.Scalar s ∧ Str.Scalar t :=
  List.forall_mem_append

theorem scalar_intercalate {parts : List Str} :
    Str.Scalar (List.intercalate [0x2C] parts) ↔ ∀ part ∈ parts, Str.Scalar part := by
  have hcomma : Str.Scalar [0x2C] := by decide
  induction parts with
  | nil => simp [Str.Scalar]
  | cons part parts ih =>
      cases parts with
      | nil => simp
      | cons part' parts =>
          rw [List.intercalate_cons_cons, scalar_append, scalar_append, List.forall_mem_cons]
          simp only [hcomma, and_true]
          exact and_congr_right fun _ => ih

/-- An escape of a character that is no surrogate has none. -/
theorem escape_scalar {c : CodePoint} : Str.Scalar (escape c) ↔ c.isSurrogate = false := by
  have hdigit : ∀ n, (hexDigit n).isSurrogate = false := fun n => CodePoint.ofChar_scalar _
  have hsmall : ∀ n, c.val = n → n < 0xD800 → c.isSurrogate = false := by
    intro n hn hlt
    simp only [CodePoint.isSurrogate, hn, Bool.and_eq_false_iff, decide_eq_false_iff_not]
    omega
  unfold escape
  split
  · rename_i hc
    have hslash : (0x5C : CodePoint).isSurrogate = false := by decide
    have hc : c.isSurrogate = false := by
      rcases hc with hc | hc <;> exact hsmall _ hc (by decide)
    exact iff_of_true (scalar_cons.mpr ⟨hslash, scalar_cons.mpr ⟨hc, by simp [Str.Scalar]⟩⟩) hc
  repeat
    split
    · rename_i hc
      exact iff_of_true (Str.ofString_scalar _) (hsmall _ hc (by decide))
  split
  · rename_i hc
    refine iff_of_true ?_ (hsmall _ rfl (by omega))
    refine scalar_append.mpr ⟨Str.ofString_scalar _, ?_⟩
    exact scalar_cons.mpr ⟨hdigit _, scalar_cons.mpr ⟨hdigit _, by simp [Str.Scalar]⟩⟩
  · simp [Str.Scalar]

theorem quote_scalar {s : Str} : Str.Scalar (quote s) ↔ Str.Scalar s := by
  have hquote : (0x22 : CodePoint).isSurrogate = false := by decide
  have hescaped : Str.Scalar (s.flatMap escape) ↔ Str.Scalar s := by
    simp only [Str.Scalar, List.forall_mem_flatMap]
    exact forall₂_congr fun c _ => escape_scalar
  have hend : Str.Scalar [0x22] := by decide
  simp only [quote, List.cons_append, scalar_cons, scalar_append, hquote, hescaped, hend, true_and,
    and_true]

section

variable {repr : Str → Str}

mutual

/-- **What is written has a surrogate exactly where the value has one.** -/
theorem dumps_scalar (hrepr : ∀ literal, Str.Scalar (repr literal)) :
    ∀ value : PyJson, Str.Scalar (value.dumps repr) ↔ value.Scalar
  | .none | .bool _ | .int _ => by
      simp only [dumps, Scalar, iff_true]
      exact Str.ofString_scalar _
  | .float literal => by simp [dumps, Scalar, hrepr literal]
  | .str s => by simpa [dumps, Scalar] using quote_scalar
  | .list items => by
      have hopen : (0x5B : CodePoint).isSurrogate = false := by decide
      have hclose : Str.Scalar [0x5D] := by decide
      simp only [dumps, Scalar, List.cons_append, scalar_cons, scalar_append, scalar_intercalate,
        hopen, hclose, and_true, true_and]
      exact dumpItems_scalar hrepr items
  | .dict fields => by
      have hopen : (0x7B : CodePoint).isSurrogate = false := by decide
      have hclose : Str.Scalar [0x7D] := by decide
      have hcolon : (0x3A : CodePoint).isSurrogate = false := by decide
      simp only [dumps, Scalar, List.cons_append, scalar_cons, scalar_append, scalar_intercalate,
        hopen, hclose, hcolon, and_true, true_and, List.forall_mem_map, List.mem_insertionSort,
        quote_scalar]
      exact dumpFields_scalar hrepr fields

theorem dumpItems_scalar (hrepr : ∀ literal, Str.Scalar (repr literal)) :
    ∀ items : List PyJson,
      (∀ part ∈ dumpItems repr items, Str.Scalar part) ↔ ScalarItems items
  | [] => by simp [dumpItems, ScalarItems]
  | item :: items => by
      rw [dumpItems, ScalarItems, List.forall_mem_cons, dumps_scalar hrepr item,
        dumpItems_scalar hrepr items]

theorem dumpFields_scalar (hrepr : ∀ literal, Str.Scalar (repr literal)) :
    ∀ fields : List (Str × PyJson),
      (∀ m ∈ dumpFields repr fields, Str.Scalar m.1 ∧ Str.Scalar m.2) ↔ ScalarFields fields
  | [] => by simp [dumpFields, ScalarFields]
  | (key, value) :: fields => by
      rw [dumpFields, ScalarFields, List.forall_mem_cons, dumps_scalar hrepr value,
        dumpFields_scalar hrepr fields]

end

/-- **Writing and encoding a value works exactly where it has no surrogate.** -/
theorem encode_dumps_isSome (hrepr : ∀ literal, Str.Scalar (repr literal)) (value : PyJson) :
    (encodeUtf8 (value.dumps repr)).isSome ↔ value.Scalar :=
  encodeUtf8_isSome.trans (dumps_scalar hrepr value)

end

end PyJson

end Text
