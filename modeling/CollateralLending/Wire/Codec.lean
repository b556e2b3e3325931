/-
  CollateralLending.Wire.Codec

  Binary layouts of fixed width. A codec says how a value is written and how it
  is read off the front of a byte string; fields are written one after the
  other. Integers are little-endian, signed ones in two's complement; a flag is
  one byte, 0 or 1; a key is its 32 bytes; a value that may be missing is led by
  a mark.

  Reading proceeds field by field and stops at the first fault: too few bytes
  for a field, or a flag that is neither 0 nor 1.
-/
import CollateralLending.PublicKey
import CollateralLending.Error
import CollateralLending.Word

namespace CollateralLending

/-- Why a byte string is refused. -/
inductive WireError where
  /-- The bytes end inside a value. -/
  | unexpectedEnd
  /-- A flag is neither 0 nor 1. -/
  | invalidBool (byte : UInt8)
  /-- Bytes are left over behind the value. -/
  | trailingBytes
deriving DecidableEq

/-- How the error is reported. -/
def WireError.report : WireError → Report
  | unexpectedEnd => ⟨"InvalidInput", "Unexpected length of input", none⟩
  | invalidBool byte =>
    ⟨"InvalidInput", "Invalid bool representation: " ++ toString byte.toNat, none⟩
  | trailingBytes => ⟨"InvalidData", "Not all bytes read", none⟩

/-- A binary layout of the values of a type. -/
structure Codec (α : Type) where
  /-- How many bytes a value takes. -/
  width : Nat
  /-- The bytes of a value. -/
  encode : α → List UInt8
  /-- Reads a value off the front and yields the bytes behind it. -/
  decode : List UInt8 → Except WireError (α × List UInt8)

/-! ## Little-endian numbers -/

/-- The lowest `count` bytes of a number, the lowest first. -/
def littleEndian : (count : Nat) → Nat → List UInt8
  | 0, _ => []
  | count + 1, number => UInt8.ofNat number :: littleEndian count (number / 256)

/-- The number whose bytes these are, the lowest first. -/
def ofLittleEndian : List UInt8 → Nat
  | [] => 0
  | byte :: rest => byte.toNat + 256 * ofLittleEndian rest

/-- Bytes make a number with eight bits for each of them. -/
theorem ofLittleEndian_lt (bytes : List UInt8) :
    ofLittleEndian bytes < 2 ^ (8 * bytes.length) := by
  induction bytes with
  | nil => simp [ofLittleEndian]
  | cons byte rest ih =>
    have hb : byte.toNat < 256 := UInt8.toNat_lt byte
    have hp : 2 ^ (8 * (rest.length + 1)) = 256 * 2 ^ (8 * rest.length) := by
      rw [Nat.mul_add, Nat.pow_add, Nat.mul_comm]
    simp only [ofLittleEndian, List.length_cons]
    omega

namespace Codec

variable {α β : Type}

/-! ## Fields -/

/-- A codec that takes `width` bytes off the front and interprets them. -/
def block (width : Nat) (encode : α → List UInt8)
    (interpret : (bytes : List UInt8) → bytes.length = width → Except WireError α) : Codec α where
  width := width
  encode := encode
  decode bytes :=
    if h : width ≤ bytes.length then
      (interpret (bytes.take width) (List.length_take_of_le h)).map fun value =>
        (value, bytes.drop width)
    else .error .unexpectedEnd

/-- An unsigned integer of `count` bytes. -/
def word (count : Nat) : Codec (Word (8 * count)) :=
  block count (fun value => littleEndian count value.toNat) fun bytes h =>
    .ok ⟨ofLittleEndian bytes, h ▸ ofLittleEndian_lt bytes⟩

/-- An amount: 8 bytes. -/
def amount : Codec Amount := word 8

/-- A wide number: 16 bytes. -/
def wide : Codec Wide := word 16

/-- The number of 64 bits that stands for a signed one in two's complement. -/
def twosComplement (value : Int) : Nat := (value % 2 ^ (64 : Nat)).toNat

/-- The signed number for which a number of 64 bits stands. -/
def ofTwosComplement (number : Nat) : Int :=
  if number < 2 ^ (63 : Nat) then number else (number : Int) - 2 ^ (64 : Nat)

/-- Every number of 64 bits is a signed one in range. -/
theorem ofTwosComplement_bounds {number : Nat} (h : number < 2 ^ (64 : Nat)) :
    -(2 ^ (63 : Nat)) ≤ ofTwosComplement number ∧ ofTwosComplement number < 2 ^ (63 : Nat) := by
  unfold ofTwosComplement
  split <;> omega

/-- A time or an age: 8 bytes in two's complement. -/
def seconds : Codec Seconds :=
  block 8 (fun value => littleEndian 8 (twosComplement value.toInt)) fun bytes h =>
    have hlt : ofLittleEndian bytes < 2 ^ (64 : Nat) := by
      have := ofLittleEndian_lt bytes
      rwa [h] at this
    .ok ⟨ofTwosComplement (ofLittleEndian bytes), (ofTwosComplement_bounds hlt).1,
      (ofTwosComplement_bounds hlt).2⟩

/-- A single byte. -/
def byte : Codec UInt8 where
  width := 1
  encode value := [value]
  decode
    | [] => .error .unexpectedEnd
    | first :: rest => .ok (first, rest)

/-- A flag: the byte 0 or 1. -/
def flag : Codec Bool where
  width := 1
  encode value := [if value then 1 else 0]
  decode
    | [] => .error .unexpectedEnd
    | first :: rest =>
      if first = 0 then .ok (false, rest)
      else if first = 1 then .ok (true, rest)
      else .error (.invalidBool first)

/-- A key: its 32 bytes. -/
def key : Codec PublicKey := block 32 PublicKey.bytes fun bytes h => .ok ⟨bytes, h⟩

/-! ## Composition -/

/-- Two values, one behind the other. -/
def pair (first : Codec α) (second : Codec β) : Codec (α × β) where
  width := first.width + second.width
  encode value := first.encode value.1 ++ second.encode value.2
  decode bytes := do
    let (a, rest) ← first.decode bytes
    let (b, rest) ← second.decode rest
    return ((a, b), rest)

/-- A value that may be missing: a mark of 4 bytes, 1 or 0, and room for the value. What stands in
the room of a missing value does not matter. -/
def optional (codec : Codec α) : Codec (Option α) where
  width := 4 + codec.width
  encode
    | some value => [1, 0, 0, 0] ++ codec.encode value
    | none => List.replicate (4 + codec.width) 0
  decode
    | 1 :: 0 :: 0 :: 0 :: rest =>
      (codec.decode rest).map fun found => (some found.1, found.2)
    | 0 :: 0 :: 0 :: 0 :: rest =>
      if codec.width ≤ rest.length then .ok (none, rest.drop codec.width)
      else .error .unexpectedEnd
    | mark :: _ :: _ :: _ :: _ => .error (.invalidBool mark)
    | _ => .error .unexpectedEnd

/-- The layout of a type whose values are those of another one in different words. -/
def imap (codec : Codec α) (build : α → β) (parts : β → α) : Codec β where
  width := codec.width
  encode value := codec.encode (parts value)
  decode bytes := (codec.decode bytes).map fun found => (build found.1, found.2)

/-- Reads a value that takes up the whole byte string. -/
def decodeExact (codec : Codec α) (bytes : List UInt8) : Except WireError α :=
  match codec.decode bytes with
  | .error error => .error error
  | .ok (value, []) => .ok value
  | .ok (_, _ :: _) => .error .trailingBytes

end Codec

end CollateralLending
