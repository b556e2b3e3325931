/-
  CollateralLending.Chain.Address.Text

  Addresses as text. Programs and system variables have a name of their own, a
  derived address is written as what it is derived for with its seeds in
  brackets, such as `position(vault(gld),alice)`, and any other text that fits
  into a key is the name of that key.

  A key that is no program and spells no name is written in base 58. A text that
  is too long for a name is read as a key in base 58, so the name of a key is
  never taken for the text of another one.
-/
import CollateralLending.Chain.Address
import CollateralLending.Chain.Deployment

namespace CollateralLending.Address

/-! ## Writing -/

/-- A word and its arguments in brackets. -/
def application (word : String) (arguments : List String) : String :=
  word ++ "(" ++ ",".intercalate arguments ++ ")"

/-- The text of an address. -/
def text : Address → String
  | systemProgram => "system_program"
  | tokenProgram => "token_program"
  | associatedTokenProgram => "ata_program"
  | lendingProgram => "green_vault"
  | feedProgram => "price_feed"
  | shareProgram => "share_vault"
  | rentSysvar => "rent"
  | named name => name
  | unnamed key => key.toBase58
  | feed authority feedId => application "feed" [authority.text, feedId.text]
  | vault mint => application "vault" [mint.text]
  | debtVault home => application "debt_vault" [home.text]
  | collateral home => application "collateral" [home.text]
  | position home owner => application "position" [home.text, owner.text]
  | shareVault mint => application "share_vault" [mint.text]
  | shareMint home => application "share_mint" [home.text]
  | sharePool home => application "share_pool" [home.text]
  | associated owner mint => application "ata" [owner.text, mint.text]

/-! ## Reading -/

/-- The programs and system variables that have a name of their own, by their keys. -/
def wellKnown : List (String × Address) :=
  [(Deployment.tokenProgram, tokenProgram),
    (Deployment.associatedTokenProgram, associatedTokenProgram),
    (Deployment.lendingProgram, lendingProgram),
    (Deployment.feedProgram, feedProgram),
    (Deployment.shareProgram, shareProgram),
    (Deployment.rentSysvar, rentSysvar)]

/-- The address of a key: the name that it spells, or the program or system variable that it is the
key of. -/
def ofKey (key : PublicKey) : Address :=
  match key.name? with
  | some "" => systemProgram
  | some name => named name
  | none => (wellKnown.lookup key.toBase58).getD (unnamed key)

/-- The address with a text that is no application: a program or system variable, a name, or a key
in base 58 where the text is too long for a name. -/
def ofWord (word : String) : Address :=
  match word with
  | "" | "system_program" => systemProgram
  | "token_program" => tokenProgram
  | "ata_program" => associatedTokenProgram
  | "green_vault" => lendingProgram
  | "price_feed" => feedProgram
  | "share_vault" => shareProgram
  | "rent" => rentSysvar
  | word =>
    if word.utf8ByteSize ≤ PublicKey.nameLimit then named word
    else ((PublicKey.ofBase58? word).map ofKey).getD (named word)

/-- The arguments between a pair of brackets: split at the commas that no inner bracket encloses.
`depth` is how many more inner brackets were opened than closed, below zero where a bracket closes
that was not opened; only a comma at depth zero splits. `current` is the argument so far,
backwards. -/
def splitArguments (depth : Int) (current : List Char) : List Char → List (List Char)
  | [] => [current.reverse]
  | ',' :: rest =>
    if depth = 0 then current.reverse :: splitArguments 0 [] rest
    else splitArguments depth (',' :: current) rest
  | '(' :: rest => splitArguments (depth + 1) ('(' :: current) rest
  | ')' :: rest => splitArguments (depth - 1) (')' :: current) rest
  | char :: rest => splitArguments depth (char :: current) rest

/-- A text of the form of an application: the word and the arguments. -/
def application? (chars : List Char) : Option (String × List (List Char)) :=
  match chars.dropWhile (· != '(') with
  | '(' :: inner =>
    if inner.getLast? = some ')' then
      some (String.ofList (chars.takeWhile (· != '(')), splitArguments 0 [] inner.dropLast)
    else none
  | _ => none

/-- Reads an address of at most `depth` nested applications; a text that is no application of a
known word to the right number of arguments is a word of its own. -/
def ofChars (depth : Nat) (chars : List Char) : Address :=
  match depth with
  | 0 => ofWord (String.ofList chars)
  | depth + 1 =>
    match application? chars with
    | some ("feed", [authority, feedId]) =>
      match Word.ofText? 64 (String.ofList feedId) with
      | some number => feed (ofChars depth authority) number
      | none => ofWord (String.ofList chars)
    | some ("vault", [mint]) => vault (ofChars depth mint)
    | some ("debt_vault", [home]) => debtVault (ofChars depth home)
    | some ("collateral", [home]) => collateral (ofChars depth home)
    | some ("position", [home, owner]) => position (ofChars depth home) (ofChars depth owner)
    | some ("share_vault", [mint]) => shareVault (ofChars depth mint)
    | some ("share_mint", [home]) => shareMint (ofChars depth home)
    | some ("share_pool", [home]) => sharePool (ofChars depth home)
    | some ("ata", [owner, mint]) => associated (ofChars depth owner) (ofChars depth mint)
    | _ => ofWord (String.ofList chars)

/-- The address with this text. -/
def ofText (text : String) : Address := ofChars (text.length + 1) text.toList

/-- The texts inside a text of at most `depth` nested applications: those of its arguments, and the
text itself at the end. -/
def textsWithin (depth : Nat) (chars : List Char) : List String :=
  match depth with
  | 0 => [String.ofList chars]
  | depth + 1 =>
    match application? chars with
    | some (_, arguments) => arguments.flatMap (textsWithin depth) ++ [String.ofList chars]
    | none => [String.ofList chars]

end CollateralLending.Address
