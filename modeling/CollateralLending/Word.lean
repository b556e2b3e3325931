/-
  CollateralLending.Word

  Integers of a fixed width, each carried together with the proof that it fits.
  No operation on unsigned ones wraps: a sum or a difference that leaves the
  width is `none`, and the caller names the error. Products are exact because
  the width of the result is the sum of the widths of the factors.

  Times and ages are signed integers of 64 bits (`Seconds`). The difference of
  two times is clamped to the range.

  Main statements: `add?_eq_some_iff` and `sub?_eq_some_iff` say exactly when
  the checked operations succeed and with which number.
-/

namespace CollateralLending

-- Where algebra is imported, a power would be read as one of a monoid. All modules read it as a
-- power of numbers, so that the same bound is the same term everywhere.
attribute [scoped instance (high)] instPowNat

/-- An unsigned integer below `2 ^ bits`. -/
@[ext]
structure Word (bits : Nat) where
  /-- The number itself. -/
  toNat : Nat
  /-- The number fits the width. -/
  lt : toNat < 2 ^ bits
deriving DecidableEq

/-- Amounts of lamports, tokens, shares and debt, and oracle magnitudes: 64 bits. -/
abbrev Amount := Word 64

/-- Products of two amounts, sums over accounts and exchange rates: 128 bits. -/
abbrev Wide := Word 128

/-- Succeeds when `p` holds and fails with `error` when it does not. -/
def ensure {ε : Type} (p : Prop) [Decidable p] (error : ε) : Except ε Unit :=
  if p then .ok () else .error error

/-- The value of an option, or `error` when there is none. -/
def someOr {ε α : Type} (value : Option α) (error : ε) : Except ε α :=
  match value with
  | some a => .ok a
  | none => .error error

namespace Word

variable {m n : Nat}

/-! ## Construction -/

/-- Zero fits every width. -/
def zero : Word n := ⟨0, Nat.two_pow_pos n⟩

instance : Inhabited (Word n) := ⟨zero⟩

/-- The word with this number, when it fits. -/
def ofNat? (bits number : Nat) : Option (Word bits) :=
  if h : number < 2 ^ bits then some ⟨number, h⟩ else none

/-- The characters behind the plus sign that may stand in front of a number. -/
def withoutPlus : List Char → List Char
  | '+' :: digits => digits
  | digits => digits

/-- So many units; none when they do not fit. -/
def units (number : Nat) : Word n := (ofNat? n number).getD .zero

/-- The word whose decimal text this is, when it fits: digits and nothing else, but for a plus sign
in front. -/
def ofText? (bits : Nat) (text : String) : Option (Word bits) :=
  let digits := withoutPlus text.toList
  if digits ≠ [] ∧ digits.all Char.isDigit then ofNat? bits (Nat.ofDigitChars 10 digits 0)
  else none

/-- The decimal digits of the number. -/
def text (a : Word n) : String := toString a.toNat

/-! ## Arithmetic -/

/-- The sum, when it fits. -/
def add? (a b : Word n) : Option (Word n) := ofNat? n (a.toNat + b.toNat)

/-- The difference, when it is not negative. -/
def sub? (a b : Word n) : Option (Word n) :=
  if b.toNat ≤ a.toNat then some ⟨a.toNat - b.toNat, Nat.lt_of_le_of_lt (Nat.sub_le _ _) a.lt⟩
  else none

/-- The difference, or zero when it would be negative. -/
def monus (a b : Word n) : Word n :=
  ⟨a.toNat - b.toNat, Nat.lt_of_le_of_lt (Nat.sub_le _ _) a.lt⟩

/-- The exact product; its width is the sum of the widths. -/
def mulWide (a : Word m) (b : Word n) : Word (m + n) :=
  ⟨a.toNat * b.toNat, by
    rw [Nat.pow_add]
    exact Nat.mul_lt_mul'' a.lt b.lt⟩

/-- The quotient, rounded down. -/
def floorDiv (a b : Word n) : Word n :=
  ⟨a.toNat / b.toNat, Nat.lt_of_le_of_lt (Nat.div_le_self _ _) a.lt⟩

/-! ## What the operations compute -/

@[simp] theorem toNat_zero : (zero : Word n).toNat = 0 := rfl

/-- A number that fits is the number of the word. -/
theorem ofNat?_eq_some_iff {bits number : Nat} {a : Word bits} :
    ofNat? bits number = some a ↔ a.toNat = number := by
  unfold ofNat?
  split
  · rename_i h
    constructor
    · intro e
      cases e
      rfl
    · intro e
      cases a
      cases e
      rfl
  · rename_i h
    constructor
    · intro e
      cases e
    · intro e
      exact absurd (e ▸ a.lt) h

/-- A number that does not fit is past the width. -/
theorem ofNat?_eq_none_iff {bits number : Nat} :
    ofNat? bits number = none ↔ 2 ^ bits ≤ number := by
  unfold ofNat?
  split <;> simp_all

/-- A sum succeeds with the exact sum. -/
theorem add?_eq_some_iff {a b c : Word n} :
    a.add? b = some c ↔ c.toNat = a.toNat + b.toNat :=
  ofNat?_eq_some_iff

/-- A sum fails exactly when it leaves the width. -/
theorem add?_eq_none_iff {a b : Word n} :
    a.add? b = none ↔ 2 ^ n ≤ a.toNat + b.toNat :=
  ofNat?_eq_none_iff

/-- A difference succeeds with what has to be added to get back. -/
theorem sub?_eq_some_iff {a b c : Word n} :
    a.sub? b = some c ↔ a.toNat = c.toNat + b.toNat := by
  unfold sub?
  split
  · rename_i h
    constructor
    · intro e
      cases e
      simp only
      omega
    · intro e
      congr 1
      ext
      simp only
      omega
  · rename_i h
    constructor
    · intro e
      cases e
    · intro e
      omega

/-- A difference fails exactly when it would be negative. -/
theorem sub?_eq_none_iff {a b : Word n} :
    a.sub? b = none ↔ a.toNat < b.toNat := by
  unfold sub?
  split <;> simp_all

/-- What is enough leaves a rest. -/
theorem exists_rest {a b : Word n} (h : b.toNat ≤ a.toNat) :
    ∃ rest : Word n, a.toNat = rest.toNat + b.toNat :=
  ⟨a.monus b, (Nat.sub_add_cancel h).symm⟩

@[simp] theorem toNat_monus (a b : Word n) :
    (a.monus b).toNat = a.toNat - b.toNat := rfl

end Word

/-! ## Times -/

/-- A time or an age in seconds, from `-2 ^ 63` up to and without `2 ^ 63`. -/
@[ext]
structure Seconds where
  /-- The number itself. -/
  toInt : Int
  /-- It is not below the smallest representable number. -/
  ge : -(2 ^ (63 : Nat)) ≤ toInt
  /-- It is below the first number past the range. -/
  lt : toInt < 2 ^ (63 : Nat)
deriving DecidableEq

namespace Seconds

/-- The epoch. -/
def zero : Seconds := ⟨0, by decide, by decide⟩

instance : Inhabited Seconds := ⟨zero⟩

/-- The time with this number, when it is in range. -/
def ofInt? (number : Int) : Option Seconds :=
  if h : -(2 ^ (63 : Nat)) ≤ number ∧ number < 2 ^ (63 : Nat) then some ⟨number, h.1, h.2⟩ else none

/-- The time whose decimal text this is, when it is in range. -/
def ofText? (text : String) : Option Seconds := text.toInt?.bind ofInt?

/-- The decimal digits of the number, after a minus sign when it is negative. -/
def text (a : Seconds) : String := toString a.toInt

/-- The difference, clamped to the nearest representable number. -/
def clampedSub (a b : Seconds) : Seconds :=
  ⟨max (-(2 ^ (63 : Nat))) (min (2 ^ (63 : Nat) - 1) (a.toInt - b.toInt)), by omega, by omega⟩

@[simp] theorem toInt_clampedSub (a b : Seconds) :
    (a.clampedSub b).toInt =
      max (-(2 ^ (63 : Nat))) (min (2 ^ (63 : Nat) - 1) (a.toInt - b.toInt)) := rfl

end Seconds

end CollateralLending
