/-
  CollateralLending.PublicKey

  Account keys as they are written: 32 bytes. A key whose bytes are a text
  padded with zeros has that text as its name. Every key has a text in base 58.
-/
import CollateralLending.Wire.Hex

namespace CollateralLending

/-- The key of an account: 32 bytes. -/
@[ext]
structure PublicKey where
  /-- The bytes of the key. -/
  bytes : List UInt8
  /-- There are 32 of them. -/
  length_eq : bytes.length = 32
deriving DecidableEq

namespace PublicKey

/-- The key of zero bytes. -/
def zero : PublicKey := ⟨List.replicate 32 0, by simp⟩

instance : Inhabited PublicKey := ⟨zero⟩

/-- The key made of these bytes, when there are 32. -/
def ofBytes? (bytes : List UInt8) : Option PublicKey :=
  if h : bytes.length = 32 then some ⟨bytes, h⟩ else none

/-- The text of the key in base 58. -/
def toBase58 (key : PublicKey) : String := Base58.encode key.bytes

/-- The key with this text in base 58. -/
def ofBase58? (text : String) : Option PublicKey := (Base58.decode? text).bind ofBytes?

/-! ## Names -/

/-- How many bytes a name has at most. -/
def nameLimit : Nat := 32

/-- The bytes without the zeros at their end. -/
def trimmed (key : PublicKey) : List UInt8 := (key.bytes.reverse.dropWhile (· == 0)).reverse

/-- The text that the key spells, when it spells one without a zero inside. -/
def name? (key : PublicKey) : Option String :=
  if key.trimmed.contains 0 then none
  else String.fromUTF8? (ByteArray.mk key.trimmed.toArray)

end PublicKey

end CollateralLending
