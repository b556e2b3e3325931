/-
  CollateralLending.Chain.AddressBook

  Addresses are shown as they were given. A derived address can be written in
  several ways, since its seeds can: `vault()` and `vault(system_program)` are
  one address. A book keeps, for every derived address, the text under which it
  first came up, and shows the address that way from then on. Addresses of other
  kinds are always shown in their own text.

  An address comes up when it is given, alone or as a part of another one, and
  when an account is looked at that keeps its bump seed.
-/
import CollateralLending.Chain.Account
import CollateralLending.Table.Lemmas

namespace CollateralLending

/-- The texts of the addresses that are derived from an account's own, the text `home`, and whose
bump seeds its data keeps. -/
def Data.derivedTexts (home : String) : Data → List String
  | vault .. => [Address.application "collateral" [home], Address.application "debt_vault" [home]]
  | shareVault .. =>
    [Address.application "share_mint" [home], Address.application "share_pool" [home]]
  | raw _ | feed .. | position .. | token _ | mint _ => []

/-- The texts under which derived addresses came up. -/
structure AddressBook where
  /-- The text of an address, when it came up under one. -/
  given : Table Address (Option String)

namespace AddressBook

/-- The book in which no address has come up. -/
def empty : AddressBook := ⟨Table.empty⟩

instance : Inhabited AddressBook := ⟨empty⟩

/-- The text that shows an address. -/
def textOf (book : AddressBook) (address : Address) : String :=
  (book.given.get address).getD address.text

/-- Records a text for the derived address that it means, unless that address has one. -/
def record (book : AddressBook) (text : String) : AddressBook :=
  let address := Address.ofText text
  if address.isDerived ∧ book.given.get address = none then
    ⟨book.given.set address (some text)⟩
  else book

/-- Reads an address, and records the text for it and those of its parts. -/
def read (text : String) (book : AddressBook) : Address × AddressBook :=
  (.ofText text, (Address.textsWithin (text.length + 1) text.toList).foldl record book)

/-- Records the texts of the addresses whose bump seeds are kept in the data of the account at
`home`. -/
def nameDerived (book : AddressBook) (home : Address) (data : Data) : AddressBook :=
  (data.derivedTexts (book.textOf home)).foldl record book

end AddressBook

end CollateralLending
