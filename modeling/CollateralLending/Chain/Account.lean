/-
  CollateralLending.Chain.Account

  Accounts: lamports, data, and the program that owns them. The data is kept as
  what it is to the program that owns the account, with keys as addresses: an
  account type of this library with whatever bytes follow its fields, a token
  account, a mint, or plain bytes that are none of these.

  An account holds lamports in proportion to its bytes; one that holds the rent
  of two years pays none, and every account made here holds that much. The rates
  are kept in the account of a system variable.
-/
import CollateralLending.Chain.TokenAccount
import CollateralLending.Table
import CollateralLending.Wire.Layout

namespace CollateralLending

/-! ## Rent -/

namespace Rent

/-- The lamports that a byte costs in a year. -/
def perByteYear : Nat := 3480

/-- How many years an account has to hold the rent of. -/
def exemptYears : Nat := 2

/-- The bytes that an account takes beside its data. -/
def overhead : Nat := 128

/-- The lamports that an account with `size` bytes of data has to hold. -/
def minimum (size : Nat) : Nat := (size + overhead) * (perByteYear * exemptYears)

/-- The rates as they are stored: the price of a byte, the years as a floating-point number with 64
bits, which for two years are a one at bit 62 and zeros, and the percentage of paid rent that is
destroyed. -/
def rates : List UInt8 := littleEndian 8 perByteYear ++ littleEndian 8 (2 ^ (62 : Nat)) ++ [50]

end Rent

/-! ## Content -/

/-- The content of an account. -/
inductive Data where
  /-- Bytes without a meaning, often none at all. -/
  | raw (bytes : List UInt8)
  /-- A price feed, and the bytes behind it. -/
  | feed (feed : PriceFeed Address Bump) (tail : List UInt8)
  /-- A lending vault, and the bytes behind it. -/
  | vault (vault : Vault Address Bump) (tail : List UInt8)
  /-- A position, and the bytes behind it. -/
  | position (position : UserPosition Address Bump) (tail : List UInt8)
  /-- A share vault, and the bytes behind it. -/
  | shareVault (vault : ShareVault Address Bump) (tail : List UInt8)
  /-- A token account. -/
  | token (account : TokenAccount)
  /-- A mint. -/
  | mint (mint : Mint)
deriving DecidableEq

namespace Data

/-- No data. -/
def empty : Data := raw []

instance : Inhabited Data := ⟨empty⟩

/-- Zeros. -/
def zeros (size : Nat) : Data := raw (List.replicate size 0)

/-- The number of bytes. -/
def size : Data → Nat
  | raw bytes => bytes.length
  | feed _ tail => PriceFeed.layout.size + tail.length
  | vault _ tail => Vault.layout.size + tail.length
  | position _ tail => UserPosition.layout.size + tail.length
  | shareVault _ tail => ShareVault.layout.size + tail.length
  | token _ => TokenAccount.size
  | mint _ => Mint.size

/-- The bytes that stay when an account type of `size` bytes is written over the data. -/
def behind (size : Nat) : Data → List UInt8
  | raw bytes => bytes.drop size
  | feed _ tail | vault _ tail | position _ tail | shareVault _ tail => tail
  | token _ | mint _ => []

/-- The program that owns accounts with such data, unless another one does. -/
def naturalOwner : Data → Address
  | raw _ => .systemProgram
  | feed .. => .feedProgram
  | vault .. | position .. => .lendingProgram
  | shareVault .. => .shareProgram
  | token _ | mint _ => .tokenProgram

/-! ### Content from bytes -/

/-- The bump seed with this number. Numbers do not show to which address they belong, so none of
them counts as canonical. -/
def bumpOf (_ : UInt8) : Bump := .other

/-- The price feed that these bytes start with, if they do. -/
def feedOf? (bytes : List UInt8) : Option Data :=
  match PriceFeed.layout.decode bytes with
  | .ok (found, tail) =>
    some (feed ⟨.ofKey found.authority, found.feedId, found.answer, bumpOf found.bump⟩ tail)
  | .error _ => none

/-- The lending vault that these bytes start with, if they do. -/
def vaultOf? (bytes : List UInt8) : Option Data :=
  match Vault.layout.decode bytes with
  | .ok (found, tail) =>
    some (vault ⟨.ofKey found.admin, .ofKey found.debtMint, .ofKey found.debtVault,
      .ofKey found.collateralVault, .ofKey found.priceFeed, found.totals, found.seizedCollateral,
      bumpOf found.bump, bumpOf found.collateralBump, bumpOf found.debtVaultBump⟩ tail)
  | .error _ => none

/-- The position that these bytes start with, if they do. -/
def positionOf? (bytes : List UInt8) : Option Data :=
  match UserPosition.layout.decode bytes with
  | .ok (found, tail) =>
    some (position ⟨.ofKey found.owner, .ofKey found.vault, found.record, bumpOf found.bump⟩ tail)
  | .error _ => none

/-- The share vault that these bytes start with, if they do. -/
def shareVaultOf? (bytes : List UInt8) : Option Data :=
  match ShareVault.layout.decode bytes with
  | .ok (found, tail) =>
    some (shareVault ⟨.ofKey found.admin, .ofKey found.underlyingMint, .ofKey found.shareMint,
      .ofKey found.pool, found.exchangeRate, found.totalUnderlying, bumpOf found.bump,
      bumpOf found.shareMintBump, bumpOf found.poolBump⟩ tail)
  | .error _ => none

/-- The token account or mint that these bytes are, if they are one. -/
def tokenOrMintOf? (bytes : List UInt8) : Option Data :=
  (TokenAccount.ofBytes bytes).toOption.map token <|> (Mint.ofBytes bytes).toOption.map mint

/-- What these bytes are to the program that owns them. Only that program reads them, so it does not
matter what they would be to another one. -/
def ofBytes (owner : Address) (bytes : List UInt8) : Data :=
  let found :=
    match owner with
    | .feedProgram => feedOf? bytes
    | .lendingProgram => vaultOf? bytes <|> positionOf? bytes
    | .shareProgram => shareVaultOf? bytes
    | .tokenProgram => tokenOrMintOf? bytes
    | _ => none
  found.getD (raw bytes)

/-- How data is shown: plain bytes as the content they would be to some program. -/
def shown : Data → Data
  | raw bytes =>
    (feedOf? bytes <|> vaultOf? bytes <|> positionOf? bytes <|> shareVaultOf? bytes <|>
      tokenOrMintOf? bytes).getD (raw bytes)
  | data => data

end Data

/-! ## Accounts -/

/-- An account. -/
@[ext]
structure Account where
  /-- What it holds of the native coin. -/
  lamports : Amount
  /-- The program that may change it. -/
  owner : Address
  /-- Its content. -/
  data : Data
  /-- It is a program, which may be run but not written to. -/
  isExecutable : Bool := false
deriving DecidableEq

/-- An account that was never used: no lamports, no data, owned by the system program. -/
instance : Inhabited Account :=
  ⟨{ lamports := .zero, owner := .systemProgram, data := .empty }⟩

/-- All accounts by address; those that were never used are not listed. -/
abbrev Bank := Table Address Account

namespace Account

/-- An account with this content; it holds the rent minimum and belongs to the natural owner unless
told otherwise. -/
def holding (data : Data) (lamports? : Option Amount) (owner? : Option Address) : Account where
  lamports := lamports?.getD ((Word.ofNat? 64 (Rent.minimum data.size)).getD .zero)
  owner := owner?.getD data.naturalOwner
  data := data

/-- An account with these bytes. Bytes belong to the system program unless told otherwise, even
where they are the content of another program's account. -/
def ofBytes (bytes : List UInt8) (lamports? : Option Amount) (owner? : Option Address) : Account :=
  let owner := owner?.getD .systemProgram
  holding (.ofBytes owner bytes) lamports? (some owner)

/-- Whether the account holds the rent minimum for its data. -/
def isRentExempt (account : Account) : Bool :=
  decide (Rent.minimum account.data.size ≤ account.lamports.toNat)

end Account

/-! ## Account types -/

/-- An account type that instructions ask for. -/
structure AccountKind (α : Type) where
  /-- The program that owns accounts of the type. -/
  program : Address
  /-- How many bytes the type takes. -/
  size : Nat
  /-- The value in the data of an account. -/
  read : Data → Except Cause α
  /-- The data with a value written over it. -/
  build : α → (tail : List UInt8) → Data

namespace AccountKind

variable {α : Type}

/-- The value of an account of the type. An account that was never used, one that belongs to another
program and one with other data are refused, in this order. -/
def load (kind : AccountKind α) (account : Account) : Except Cause α :=
  if account.owner = .systemProgram ∧ account.lamports.toNat = 0 then
    .error (.account .notInitialized)
  else if account.owner ≠ kind.program then .error (.account .ownedByWrongProgram)
  else kind.read account.data

/-- The account with a value written over its data. -/
def save (kind : AccountKind α) (account : Account) (value : α) : Account :=
  { account with data := kind.build value (account.data.behind kind.size) }

/-- Why data of another content is refused where a type with this discriminator is asked for. -/
def refusal (discriminator : List UInt8) : Data → Cause
  | .raw bytes =>
    if bytes.length < 8 then .account .discriminatorNotFound
    else if bytes.take 8 = discriminator then .account .didNotDeserialize
    else .account .discriminatorMismatch
  | _ => .account .discriminatorMismatch

/-- Price feeds. -/
def feed : AccountKind (PriceFeed Address Bump) where
  program := .feedProgram
  size := PriceFeed.layout.size
  read
    | .feed value _ => .ok value
    | data => .error (refusal PriceFeed.layout.discriminator data)
  build := .feed

/-- Lending vaults. -/
def vault : AccountKind (Vault Address Bump) where
  program := .lendingProgram
  size := Vault.layout.size
  read
    | .vault value _ => .ok value
    | data => .error (refusal Vault.layout.discriminator data)
  build := .vault

/-- Positions. -/
def position : AccountKind (UserPosition Address Bump) where
  program := .lendingProgram
  size := UserPosition.layout.size
  read
    | .position value _ => .ok value
    | data => .error (refusal UserPosition.layout.discriminator data)
  build := .position

/-- Share vaults. -/
def shareVault : AccountKind (ShareVault Address Bump) where
  program := .shareProgram
  size := ShareVault.layout.size
  read
    | .shareVault value _ => .ok value
    | data => .error (refusal ShareVault.layout.discriminator data)
  build := .shareVault

/-- Token accounts. -/
def token : AccountKind TokenAccount where
  program := .tokenProgram
  size := TokenAccount.size
  read
    | .token value => .ok value
    | .raw bytes => (TokenAccount.ofBytes bytes).mapError .program
    | _ => .error (.program .invalidAccountData)
  build value _ := .token value

/-- Mints. -/
def mint : AccountKind Mint where
  program := .tokenProgram
  size := Mint.size
  read
    | .mint value => .ok value
    | .raw bytes => (Mint.ofBytes bytes).mapError .program
    | _ => .error (.program .invalidAccountData)
  build value _ := .mint value

end AccountKind

end CollateralLending
