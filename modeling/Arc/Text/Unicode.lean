/-
Text as sequences of code points, and its byte encodings.

A text may hold any code point, the surrogates included: they come out of a decoder that
lets them pass, and out of escapes that are not paired.  The decoders here let them
pass.  The encoder does not: `encodeUtf8` is defined exactly on the texts without any.
-/
import Mathlib.Data.List.Basic

namespace Text

abbrev CodePoint := Fin 0x110000

instance CodePoint.neZero : @NeZero Nat Zero.ofOfNat0 0x110000 := ⟨by decide⟩

/-- A text, as the sequence of its code points. -/
abbrev Str := List CodePoint

def CodePoint.ofNat? (n : Nat) : Option CodePoint :=
  if h : n < 0x110000 then some ⟨n, h⟩ else none

/-- The code point a character is. -/
def CodePoint.ofChar (c : Char) : CodePoint :=
  ⟨c.toNat, by
    have hvalid := c.valid
    simp only [UInt32.isValidChar, Nat.isValidChar] at hvalid
    show c.val.toNat < 0x110000
    omega⟩

/-- The text of a literal. -/
def Str.ofString (s : String) : Str := s.toList.map CodePoint.ofChar

/-- The code points that stand for no character. -/
def CodePoint.isSurrogate (c : CodePoint) : Bool := 0xD800 ≤ c.val && c.val ≤ 0xDFFF

/-- No code point of the text is a surrogate. -/
def Str.Scalar (s : Str) : Prop := ∀ c ∈ s, CodePoint.isSurrogate c = false

instance (s : Str) : Decidable (Str.Scalar s) :=
  decidable_of_iff (s.all fun c => !c.isSurrogate) (by simp [Str.Scalar])

/-! ### Characters -/

theorem CodePoint.ofChar_scalar (c : Char) : (CodePoint.ofChar c).isSurrogate = false := by
  have hvalid := c.valid
  simp only [UInt32.isValidChar, Nat.isValidChar] at hvalid
  have hval : (CodePoint.ofChar c).val = c.val.toNat := rfl
  simp only [CodePoint.isSurrogate, hval, Bool.and_eq_false_iff, decide_eq_false_iff_not]
  omega

theorem CodePoint.valid_of_scalar {c : CodePoint} (h : c.isSurrogate = false) :
    c.val.isValidChar := by
  have hlt := c.isLt
  simp only [CodePoint.isSurrogate, Bool.and_eq_false_iff, decide_eq_false_iff_not] at h
  simp only [Nat.isValidChar]
  omega

/-- The character a code point stands for; a surrogate stands for none. -/
def CodePoint.toChar (c : CodePoint) : Char := Char.ofNat c.val

theorem CodePoint.toNat_toChar {c : CodePoint} (h : c.isSurrogate = false) :
    c.toChar.toNat = c.val := by
  rw [toChar, Char.ofNat, dif_pos (valid_of_scalar h)]
  rfl

@[simp] theorem CodePoint.toChar_ofChar (c : Char) : (CodePoint.ofChar c).toChar = c :=
  Char.ofNat_toNat c

/-- A text without surrogates, as a string of characters. -/
def Str.toString (s : Str) : String := String.ofList (s.map CodePoint.toChar)

@[simp] theorem Str.length_toString (s : Str) : s.toString.length = s.length := by
  simp [Str.toString]

@[simp] theorem Str.toString_ofString (s : String) : (Str.ofString s).toString = s := by
  simp [Str.toString, Str.ofString, List.map_map, Function.comp_def]

theorem Str.ofString_scalar (s : String) : (Str.ofString s).Scalar := by
  intro c hc
  obtain ⟨x, -, rfl⟩ := List.mem_map.mp hc
  exact CodePoint.ofChar_scalar x

/-- On texts without surrogates nothing is lost. -/
theorem Str.toString_injective {s t : Str} (hs : s.Scalar) (ht : t.Scalar)
    (h : s.toString = t.toString) : s = t := by
  have hmap : s.map CodePoint.toChar = t.map CodePoint.toChar := by
    simpa [Str.toString] using congrArg String.toList h
  induction s generalizing t with
  | nil =>
      rw [List.map_nil, eq_comm, List.map_eq_nil_iff] at hmap
      exact hmap.symm
  | cons c s ih =>
      cases t with
      | nil => cases hmap
      | cons d t =>
          simp only [List.map_cons, List.cons.injEq] at hmap
          have hcd : c = d := by
            have hnat := congrArg Char.toNat hmap.1
            rw [CodePoint.toNat_toChar (hs c List.mem_cons_self),
              CodePoint.toNat_toChar (ht d List.mem_cons_self)] at hnat
            exact Fin.ext hnat
          have hrest := ih (fun x hx => hs x (List.mem_cons_of_mem _ hx))
            (fun x hx => ht x (List.mem_cons_of_mem _ hx))
            (by simp [Str.toString, hmap.2]) hmap.2
          rw [hcd, hrest]

/-! ### UTF-8

The encoder refuses surrogates, and there is a decoder that lets them pass, since
`json.loads` decodes bytes with `surrogatepass`.
-/

/-- The bytes of one code point. -/
def utf8Bytes (c : CodePoint) : List UInt8 :=
  let n := c.val
  if n < 0x80 then [.ofNat n]
  else if n < 0x800 then [.ofNat (0xC0 + n / 64), .ofNat (0x80 + n % 64)]
  else if n < 0x10000 then
    [.ofNat (0xE0 + n / 4096), .ofNat (0x80 + n / 64 % 64), .ofNat (0x80 + n % 64)]
  else
    [.ofNat (0xF0 + n / 262144), .ofNat (0x80 + n / 4096 % 64), .ofNat (0x80 + n / 64 % 64),
      .ofNat (0x80 + n % 64)]

/-- The strict encoder: a surrogate cannot be encoded. -/
def encodeUtf8 : Str → Option (List UInt8)
  | [] => some []
  | c :: s => if c.isSurrogate then none else (encodeUtf8 s).map (utf8Bytes c ++ ·)

/-- **The strict encoder is defined on the texts without surrogates.** -/
theorem encodeUtf8_isSome {s : Str} : (encodeUtf8 s).isSome ↔ s.Scalar := by
  induction s with
  | nil => simp [encodeUtf8, Str.Scalar]
  | cons c s ih =>
      have hcons : Str.Scalar (c :: s) ↔ c.isSurrogate = false ∧ Str.Scalar s :=
        List.forall_mem_cons
      rw [hcons, ← ih]
      cases hc : c.isSurrogate <;> simp [encodeUtf8, hc]

/-- A byte that continues a character. -/
def isTail (b : UInt8) : Bool := 0x80 ≤ b.toNat && b.toNat ≤ 0xBF

/-- The code point of a lead byte and its tails, or nothing where it is not in the range. -/
def utf8Point (lead : Nat) (tails : List UInt8) (least : Nat) : Option CodePoint :=
  if tails.all isTail then
    let n := tails.foldl (fun n b => n * 64 + (b.toNat - 0x80)) lead
    if least ≤ n then CodePoint.ofNat? n else none
  else none

/-- The decoder that lets surrogates pass. -/
def decodeUtf8 : List UInt8 → Option Str
  | [] => some []
  | a :: rest =>
    if a.toNat < 0x80 then do
      return (← CodePoint.ofNat? a.toNat) :: (← decodeUtf8 rest)
    else if 0xC2 ≤ a.toNat ∧ a.toNat ≤ 0xDF then
      match rest with
      | b :: rest => do
        return (← utf8Point (a.toNat - 0xC0) [b] 0x80) :: (← decodeUtf8 rest)
      | _ => none
    else if 0xE0 ≤ a.toNat ∧ a.toNat ≤ 0xEF then
      match rest with
      | b :: c :: rest => do
        return (← utf8Point (a.toNat - 0xE0) [b, c] 0x800) :: (← decodeUtf8 rest)
      | _ => none
    else if 0xF0 ≤ a.toNat ∧ a.toNat ≤ 0xF4 then
      match rest with
      | b :: c :: d :: rest => do
        return (← utf8Point (a.toNat - 0xF0) [b, c, d] 0x10000) :: (← decodeUtf8 rest)
      | _ => none
    else none

/-! ### UTF-16 and UTF-32 -/

/-- The 16-bit units of a sequence of bytes. -/
def units16 (big : Bool) : List UInt8 → Option Str
  | [] => some []
  | a :: b :: rest => do
    let n := if big then a.toNat * 256 + b.toNat else b.toNat * 256 + a.toNat
    return (← CodePoint.ofNat? n) :: (← units16 big rest)
  | _ => none

/-- The code point of a surrogate pair. -/
def surrogatePair (high low : CodePoint) (h : high.val ≤ 0xDBFF ∧ low.val ≤ 0xDFFF) : CodePoint :=
  ⟨0x10000 + (high.val - 0xD800) * 0x400 + (low.val - 0xDC00), by omega⟩

/-- Put the surrogate pairs of a sequence of units together; only marked units pair up, and a
surrogate without its partner passes. -/
def joinPairs : List (Bool × CodePoint) → Str
  | [] => []
  | [x] => [x.2]
  | x :: y :: rest =>
    if h : x.1 = true ∧ y.1 = true ∧ 0xD800 ≤ x.2.val ∧ 0xDC00 ≤ y.2.val ∧
        x.2.val ≤ 0xDBFF ∧ y.2.val ≤ 0xDFFF then
      surrogatePair x.2 y.2 h.2.2.2.2 :: joinPairs rest
    else x.2 :: joinPairs (y :: rest)

def decodeUtf16 (big : Bool) (bytes : List UInt8) : Option Str :=
  (units16 big bytes).map fun units => joinPairs (units.map fun u => (true, u))

def decodeUtf32 (big : Bool) : List UInt8 → Option Str
  | [] => some []
  | a :: b :: c :: d :: rest => do
    let digits := if big then [a, b, c, d] else [d, c, b, a]
    let n := digits.foldl (fun n b => n * 256 + b.toNat) 0
    return (← CodePoint.ofNat? n) :: (← decodeUtf32 big rest)
  | _ => none

example : decodeUtf8 [0xED, 0xA0, 0x80] = some [0xD800] := by decide
example : decodeUtf8 [0xE2, 0x82, 0xAC] = some (Str.ofString "€") := by decide
example : decodeUtf16 false [0x3D, 0xD8, 0x00, 0xDE] = some (Str.ofString "😀") := by decide

end Text
