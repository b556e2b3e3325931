/-
  CollateralLending.Chain.TokenAccount

  What the accounts of the token program hold: holdings of a token, mints, and
  groups of signers. Each of them has a length of its own, which no other one
  has, and says whether it was ever set up.

  A holding belongs to its owner, who may have let a delegate spend a part of
  it. A frozen holding does not move, and a holding of the native coin moves
  together with the lamports it stands for.
-/
import CollateralLending.Chain.Address.Text
import CollateralLending.Chain.Failure
import CollateralLending.Wire.Codec

namespace CollateralLending

/-! ## Holdings -/

/-- The right to spend a part of another one's tokens. -/
@[ext]
structure Delegation where
  /-- Who may spend. -/
  delegate : Address
  /-- How much is left to spend. -/
  amount : Amount
deriving DecidableEq

/-- A holding of one token. -/
@[ext]
structure TokenAccount where
  /-- The token. -/
  mint : Address
  /-- Who may move it. -/
  owner : Address
  /-- How much is held. -/
  amount : Amount
  /-- Who may move a part of it beside the owner. -/
  delegation? : Option Delegation := none
  /-- Nothing moves into or out of a frozen account. -/
  isFrozen : Bool := false
  /-- The token stands for lamports of the account. -/
  isNative : Bool := false
deriving DecidableEq

namespace TokenAccount

/-- Mint, owner, amount, delegate, state, the reserve of a native account, what the delegate may
spend, and who may close the account. -/
def layout : Codec (PublicKey × PublicKey × Amount × Option PublicKey × UInt8 × Option Amount ×
    Amount × Option PublicKey) :=
  Codec.key.pair <| Codec.key.pair <| Codec.amount.pair <| Codec.key.optional.pair <|
    Codec.byte.pair <| Codec.amount.optional.pair <| Codec.amount.pair Codec.key.optional

/-- The number of bytes of a token account. -/
def size : Nat := layout.width

/-- The token account that these bytes are. The state is 0 before the account is set up, then 1, and
2 while it is frozen. -/
def ofBytes (bytes : List UInt8) : Except ProgramError TokenAccount :=
  match layout.decodeExact bytes with
  | .error _ => .error .invalidAccountData
  | .ok (mint, owner, amount, delegate?, state, reserve?, delegated, _) =>
    if 2 < state then .error .invalidAccountData
    else if state = 0 then .error .uninitializedAccount
    else .ok
      { mint := .ofKey mint
        owner := .ofKey owner
        amount := amount
        delegation? := delegate?.map fun delegate => ⟨.ofKey delegate, delegated⟩
        isFrozen := state = 2
        isNative := reserve?.isSome }

end TokenAccount

/-! ## Mints -/

/-- A token. -/
@[ext]
structure Mint where
  /-- Who may create units; nobody may when there is none. -/
  authority? : Option Address
  /-- How many units exist. -/
  supply : Amount
  /-- How many decimals a unit has. -/
  decimals : UInt8
deriving DecidableEq

namespace Mint

/-- Who may create units, supply, decimals, whether the mint is set up, and who may freeze
holdings. -/
def layout : Codec (Option PublicKey × Amount × UInt8 × Bool × Option PublicKey) :=
  Codec.key.optional.pair <| Codec.amount.pair <| Codec.byte.pair <| Codec.flag.pair
    Codec.key.optional

/-- The number of bytes of a mint. -/
def size : Nat := layout.width

/-- The mint that these bytes are. -/
def ofBytes (bytes : List UInt8) : Except ProgramError Mint :=
  match layout.decodeExact bytes with
  | .error _ => .error .invalidAccountData
  | .ok (authority?, supply, decimals, isSetUp, _) =>
    if isSetUp then .ok ⟨authority?.map Address.ofKey, supply, decimals⟩
    else .error .uninitializedAccount

end Mint

/-! ## Groups of signers -/

namespace SignerGroup

/-- How many of the members have to sign, how many members there are, and whether the group is set
up; the keys of eleven members follow. -/
def layout : Codec (UInt8 × UInt8 × Bool) :=
  Codec.byte.pair <| Codec.byte.pair Codec.flag

/-- The number of bytes of a group of signers. -/
def size : Nat := layout.width + 11 * Codec.key.width

/-- How many members of the group that these bytes are have to sign. -/
def required (bytes : List UInt8) : Except ProgramError Nat :=
  match layout.decode bytes with
  | .error _ => .error .invalidAccountData
  | .ok ((required, _, isSetUp), _) =>
    if isSetUp then .ok required.toNat else .error .uninitializedAccount

end SignerGroup

end CollateralLending
