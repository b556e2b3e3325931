/-
  CollateralLending.Share.ShareVault

  The account of a share vault: a pool of underlying tokens against which
  shares are issued at an exchange rate that its admin sets.

  An exchange rate says how many shares one underlying unit is worth, scaled by
  `wad`. Deposits round the shares down and withdrawals round them up, so
  rounding never favours the user. The product of amount and rate has to fit
  128 bits and the shares have to fit 64.
-/
import CollateralLending.Error
import CollateralLending.Word

namespace CollateralLending

/-! ## What shares cost -/

/-- The scale of exchange rates: this number stands for one share per unit. -/
def wad : Nat := 1000000000000000000

/-- Amount times rate, when it fits 128 bits. -/
def scaled (amount : Amount) (rate : Wide) : Except ShareError Wide :=
  someOr (Word.ofNat? 128 (amount.toNat * rate.toNat)) .mathOverflow

/-- A number of shares, when it fits 64 bits. -/
def narrowShares (shares : Nat) : Except ShareError Amount :=
  someOr (Word.ofNat? 64 shares) .mathOverflow

/-- The shares minted for a deposit: rounded down. -/
def mintedShares (amount : Amount) (rate : Wide) : Except ShareError Amount := do
  let value ← scaled amount rate
  narrowShares (value.toNat / wad)

/-- The shares burned for a withdrawal: rounded up. -/
def burnedShares (amount : Amount) (rate : Wide) : Except ShareError Amount := do
  let value ← scaled amount rate
  narrowShares (value.toNat / wad + if value.toNat % wad = 0 then 0 else 1)

/-! ## Share vaults -/

/-- A share vault, with keys in `K` and bump seeds in `B`. -/
@[ext]
structure ShareVault (K B : Type) where
  /-- Who may set the exchange rate. -/
  admin : K
  /-- The token deposited. -/
  underlyingMint : K
  /-- The token of the shares. -/
  shareMint : K
  /-- The token account that holds the pool. -/
  pool : K
  /-- Shares per underlying unit, scaled by `wad`. -/
  exchangeRate : Wide
  /-- Underlying units that came in by deposits and did not go out by withdrawals. -/
  totalUnderlying : Amount
  /-- The bump seed of the share vault's own address. -/
  bump : B
  /-- The bump seed of the share mint's address. -/
  shareMintBump : B
  /-- The bump seed of the pool's address. -/
  poolBump : B
deriving DecidableEq, Inhabited

namespace ShareVault

variable {K B : Type}

/-- Accepts an exchange rate: it has to be positive. -/
def checkRate (rate : Wide) : Except ShareError Unit :=
  ensure (0 < rate.toNat) ShareError.invalidRate

/-- The share vault with another exchange rate, set by its admin. -/
def setExchangeRate [DecidableEq K] (vault : ShareVault K B) (caller : K) (rate : Wide) :
    Except ShareError (ShareVault K B) := do
  ensure (vault.admin = caller) ShareError.unauthorized
  checkRate rate
  return { vault with exchangeRate := rate }

/-- The shares minted for a deposit at the stored rate. -/
def mintedShares (vault : ShareVault K B) (amount : Amount) : Except ShareError Amount :=
  CollateralLending.mintedShares amount vault.exchangeRate

/-- The shares burned for a withdrawal at the stored rate. -/
def burnedShares (vault : ShareVault K B) (amount : Amount) : Except ShareError Amount :=
  CollateralLending.burnedShares amount vault.exchangeRate

end ShareVault

end CollateralLending
