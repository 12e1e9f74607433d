/-
Values the services compute with: identifiers, instants, JSON, text.

An instant is an `Int`, the microseconds since the epoch, the resolution both of the
clock and of the database; all instants are in UTC, so a comparison of instants is a
comparison of numbers.  JSON values are what the policy columns and the hashed fact
dictionaries hold; identifiers and instants stand in the facts as numbers, since
their text determines them and is determined by them.

What ARC takes from its platform is collected in `Platform`: SHA-256 over canonical
JSON, the digest behind a case reference, and the Unicode case tables.  Every theorem
holds for every platform; where a result needs the digests to be free of collisions
it says so.
-/
import Arc.Run.Loop
import Mathlib.Algebra.Group.Nat.Defs
import Mathlib.Data.Int.Order.Basic
import Mathlib.Data.List.Basic
import Mathlib.Data.Rat.Init

namespace Arc

abbrev Uuid := Nat

def seconds (n : Int) : Int := n * 1000000

def minutes (n : Int) : Int := seconds (60 * n)

/-- The whole seconds of an instant, as `int(value.timestamp())`. -/
def unixSeconds (t : Int) : Int := t / 1000000

/-- The order of instants, which the queries that sort by one are computed with. -/
abbrev instantOrder : Preorder Int := Int.instLinearOrder.toPreorder

/-- An exact quotient, zero where there is nothing to divide by; the code rounds it to a float. -/
def rate (part whole : Nat) : ℚ := if whole = 0 then 0 else part / whole

/-- JSON values, objects as lists of fields in the order they were written. -/
inductive Json
  | null
  | bool (b : Bool)
  | int (n : Int)
  | float (repr : String)
  | str (s : String)
  | arr (items : List Json)
  | obj (fields : List (String × Json))

namespace Json

mutual

/-- Structural equality, decided. -/
def beq : Json → Json → Bool
  | null, null => true
  | bool a, bool b => a == b
  | int a, int b => a == b
  | float a, float b => a == b
  | str a, str b => a == b
  | arr a, arr b => beqItems a b
  | obj a, obj b => beqFields a b
  | _, _ => false

def beqItems : List Json → List Json → Bool
  | [], [] => true
  | a :: as, b :: bs => beq a b && beqItems as bs
  | _, _ => false

def beqFields : List (String × Json) → List (String × Json) → Bool
  | [], [] => true
  | (k, a) :: as, (l, b) :: bs => k == l && beq a b && beqFields as bs
  | _, _ => false

end

mutual

theorem eq_of_beq : ∀ {a b : Json}, beq a b = true → a = b
  | null, b, h => by cases b <;> simp [beq] at h ⊢
  | bool x, b, h => by cases b <;> simp_all [beq]
  | int x, b, h => by cases b <;> simp_all [beq]
  | float x, b, h => by cases b <;> simp_all [beq]
  | str x, b, h => by cases b <;> simp_all [beq]
  | arr xs, b, h => by
      cases b with
      | arr ys =>
          have hxy : xs = ys := eq_of_beqItems (by simpa [beq] using h)
          rw [hxy]
      | _ => simp [beq] at h
  | obj xs, b, h => by
      cases b with
      | obj ys =>
          have hxy : xs = ys := eq_of_beqFields (by simpa [beq] using h)
          rw [hxy]
      | _ => simp [beq] at h

theorem eq_of_beqItems : ∀ {as bs : List Json}, beqItems as bs = true → as = bs
  | [], bs, h => by cases bs <;> simp [beqItems] at h ⊢
  | a :: as, bs, h => by
      cases bs with
      | nil => simp [beqItems] at h
      | cons b bs =>
          simp only [beqItems, Bool.and_eq_true] at h
          rw [eq_of_beq h.1, eq_of_beqItems h.2]

theorem eq_of_beqFields : ∀ {as bs : List (String × Json)}, beqFields as bs = true → as = bs
  | [], bs, h => by cases bs <;> simp [beqFields] at h ⊢
  | (k, a) :: as, bs, h => by
      cases bs with
      | nil => simp [beqFields] at h
      | cons b bs =>
          obtain ⟨l, b⟩ := b
          simp only [beqFields, Bool.and_eq_true, beq_iff_eq] at h
          rw [h.1.1, eq_of_beq h.1.2, eq_of_beqFields h.2]

end

mutual

theorem beq_refl : ∀ a : Json, beq a a = true
  | null => rfl
  | bool _ | int _ | float _ | str _ => by simp [beq]
  | arr xs => by simpa [beq] using beqItems_refl xs
  | obj xs => by simpa [beq] using beqFields_refl xs

theorem beqItems_refl : ∀ as : List Json, beqItems as as = true
  | [] => rfl
  | a :: as => by simp [beqItems, beq_refl a, beqItems_refl as]

theorem beqFields_refl : ∀ as : List (String × Json), beqFields as as = true
  | [] => rfl
  | (k, a) :: as => by simp [beqFields, beq_refl a, beqFields_refl as]

end

instance : DecidableEq Json := fun a b =>
  if h : beq a b = true then isTrue (eq_of_beq h)
  else isFalse fun e => h (e ▸ beq_refl a)

/-- The value of a field of an object; the last one written counts. -/
def field? (j : Json) (name : String) : Option Json :=
  match j with
  | obj fields => (fields.reverse.find? fun f => f.1 == name).map Prod.snd
  | _ => none

def ofOption {α : Type} (f : α → Json) : Option α → Json
  | none => null
  | some a => f a

def ofText : Option String → Json := ofOption str

end Json

/-- What ARC takes from the machine it runs on. -/
class Platform where
  /-- Digests, as hexadecimal text. -/
  Digest : Type
  decEqDigest : DecidableEq Digest
  /-- SHA-256 of the canonical JSON text of a dictionary of facts. -/
  hashFacts : Json → Digest
  /-- A digest as it stands in another dictionary of facts: its hexadecimal text. -/
  hexdigest : Digest → Json
  /-- Canonical JSON text, by which lists are put in order before they are hashed. -/
  dumps : Json → String
  /-- The first 48 hexadecimal digits of the SHA-256 of a text. -/
  caseDigest : String → Digest
  /-- `str.lower` -/
  lower : String → String
  /-- `str.upper` -/
  upper : String → String
  /-- On ASCII text without capital letters, `lower` changes nothing. -/
  lower_ascii : ∀ s : String, (∀ c ∈ s.toList, c.toNat < 128 ∧ ¬ (65 ≤ c.toNat ∧ c.toNat ≤ 90)) →
    lower s = s
  /-- On ASCII text without small letters, `upper` changes nothing. -/
  upper_ascii : ∀ s : String, (∀ c ∈ s.toList, c.toNat < 128 ∧ ¬ (97 ≤ c.toNat ∧ c.toNat ≤ 122)) →
    upper s = s

export Platform (Digest)

instance [Platform] : DecidableEq Digest := Platform.decEqDigest

/-! ### Text -/

/-- The characters `str.strip` removes from both ends. -/
def isSpace (c : Char) : Bool :=
  let n := c.toNat
  (9 ≤ n && n ≤ 13) || (28 ≤ n && n ≤ 32) || n == 0x85 || n == 0xA0 || n == 0x1680 ||
    (0x2000 ≤ n && n ≤ 0x200A) || n == 0x2028 || n == 0x2029 || n == 0x202F || n == 0x205F ||
    n == 0x3000

/-- `str.strip` -/
def strip (s : String) : String :=
  String.ofList ((s.toList.dropWhile isSpace).reverse.dropWhile isSpace).reverse

/-- `str.startswith` -/
def hasPrefix (s p : String) : Bool := p.toList.isPrefixOf s.toList

/-- `UUID.hex`: 32 hexadecimal digits. -/
def uuidHex (id : Uuid) : String :=
  String.ofList ((List.range 32).reverse.map fun i => Nat.digitChar (id / 16 ^ i % 16))

/-- Whether Python takes an optional text for true: present and not empty. -/
def truthy : Option String → Bool
  | none => false
  | some s => s != ""

/-- `a or b` on optional texts. -/
def pyOr (a b : Option String) : Option String := if truthy a then a else b

section

variable [Platform]

/-- Stripped, in small letters, and absent when nothing is left. -/
def normalized (value : Option String) : Option String :=
  value.bind fun s =>
    let t := Platform.lower (strip s)
    if t = "" then none else some t

def upperStripped (s : String) : String := Platform.upper (strip s)

end

/-! ### Checks that raise -/

export Run (ok_bind bind_eq_ok bind_eq_error)

/-- Raise `e` unless the condition holds. -/
def require {ε : Type} (c : Prop) [Decidable c] (e : ε) : Except ε Unit :=
  if c then .ok () else .error e

/-- The value, or raise `e` where there is none. -/
def requireSome {ε α : Type} (o : Option α) (e : ε) : Except ε α :=
  match o with
  | some a => .ok a
  | none => .error e

@[simp] theorem require_eq_ok {ε : Type} {c : Prop} [Decidable c] {e : ε} {u : Unit} :
    require c e = .ok u ↔ c := by
  unfold require
  split <;> simp_all

@[simp] theorem requireSome_eq_ok {ε α : Type} {o : Option α} {e : ε} {a : α} :
    requireSome o e = .ok a ↔ o = some a := by
  unfold requireSome
  split <;> simp_all

/-- A check before the rest of a computation. -/
theorem require_bind {ε β : Type} {c : Prop} [Decidable c] {e : ε} {f : Unit → Except ε β} :
    (require c e >>= f) = if c then f () else .error e := by
  unfold require
  split <;> rfl

/-- Renaming an error changes nothing where there is none. -/
theorem mapError_eq_ok {ε ε' α : Type} {f : ε → ε'} {x : Except ε α} {a : α} :
    x.mapError f = .ok a ↔ x = .ok a := by
  cases x <;> simp [Except.mapError]

theorem mapError_eq_error {ε ε' α : Type} {f : ε → ε'} {x : Except ε α} {e' : ε'} :
    x.mapError f = .error e' ↔ ∃ e, x = .error e ∧ e' = f e := by
  cases x <;> simp [Except.mapError, eq_comm]

theorem requireSome_eq_error {ε α : Type} {o : Option α} {e e' : ε} :
    requireSome o e = .error e' ↔ o = none ∧ e' = e := by
  cases o <;> simp [requireSome, eq_comm]

theorem require_eq_error {ε : Type} {p : Prop} [Decidable p] {e e' : ε} :
    require p e = .error e' ↔ ¬ p ∧ e' = e := by
  unfold require
  split
  · simp_all
  · simp_all [eq_comm]

end Arc
