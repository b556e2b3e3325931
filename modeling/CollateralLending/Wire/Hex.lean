/-
  CollateralLending.Wire.Hex

  Bytes as text. Data is written with two lower-case hexadecimal digits for each
  byte, and keys are written in base 58: the bytes are the digits of a number to
  the base 256, the highest first, and the text holds its digits to the base 58.
  Each zero byte at the front, which the number does not show, is written as the
  digit zero. The digits leave out the characters that are easily taken for
  another one: the zero, the capital I and O, and the small l.
-/

namespace CollateralLending

/-! ## Hexadecimal -/

namespace Hex

/-- The digits, by their value. -/
def digits : List Char :=
  ['0', '1', '2', '3', '4', '5', '6', '7', '8', '9', 'a', 'b', 'c', 'd', 'e', 'f']

/-- The digit of a value below 16. -/
def digit (value : Nat) : Char := digits.getD value '0'

/-- The value of a digit. -/
def value? (char : Char) : Option Nat := digits.findIdx? (· == char)

/-- Two digits for each byte, the high one first. -/
def encode (bytes : List UInt8) : String :=
  String.ofList (bytes.flatMap fun byte => [digit (byte.toNat / 16), digit (byte.toNat % 16)])

/-- Reads pairs of digits. -/
def decodeChars? : List Char → Option (List UInt8)
  | [] => some []
  | [_] => none
  | high :: low :: rest => do
    let h ← value? high
    let l ← value? low
    let bytes ← decodeChars? rest
    return UInt8.ofNat (16 * h + l) :: bytes

/-- The bytes written as `text`, when it is made of pairs of digits. -/
def decode? (text : String) : Option (List UInt8) := decodeChars? text.toList

end Hex

/-! ## Base 58 -/

namespace Base58

/-- The digits of a number to a base of at least two, the highest first; zero has none. -/
def digits (base number : Nat) : List Nat :=
  if number = 0 ∨ base < 2 then [] else digits base (number / base) ++ [number % base]
termination_by number
decreasing_by exact Nat.div_lt_self (by omega) (by omega)

/-- The number with these digits to a base, the highest first. -/
def ofDigits (base : Nat) (values : List Nat) : Nat :=
  values.foldl (fun number value => base * number + value) 0

/-- The characters of the digits, by their value. -/
def alphabet : List Char :=
  "123456789ABCDEFGHJKLMNPQRSTUVWXYZabcdefghijkmnopqrstuvwxyz".toList

/-- The character of a digit. -/
def digit (value : Nat) : Char := alphabet.getD value '1'

/-- The text of a byte string. -/
def encode (bytes : List UInt8) : String :=
  let zeros := bytes.takeWhile (· == 0)
  String.ofList
    ((zeros.map (fun _ => 0) ++ digits 58 (ofDigits 256 (bytes.map UInt8.toNat))).map digit)

/-- The bytes of a text, when all its characters are digits. -/
def decode? (text : String) : Option (List UInt8) := do
  let values ← text.toList.mapM fun char => alphabet.idxOf? char
  let zeros := values.takeWhile (· == 0)
  return (zeros ++ digits 256 (ofDigits 58 values)).map UInt8.ofNat

end Base58

end CollateralLending
