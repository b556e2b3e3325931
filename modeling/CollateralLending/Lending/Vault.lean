/-
  CollateralLending.Lending.Vault

  The accounts a lending vault lives in: the vault itself, which keeps the
  totals over its positions, and one position for each user.
-/
import CollateralLending.Lending.Record

namespace CollateralLending

/-- The totals that a vault keeps over its positions. -/
@[ext]
structure Totals where
  /-- Collateral claimed by open positions. -/
  deposited : Amount
  /-- Debt owed by open positions. -/
  borrowed : Amount
deriving DecidableEq, Inhabited

/-- A lending vault, with keys in `K` and bump seeds in `B`. -/
@[ext]
structure Vault (K B : Type) where
  /-- Who may liquidate. -/
  admin : K
  /-- The token lent out. -/
  debtMint : K
  /-- The token account that holds the debt pool. -/
  debtVault : K
  /-- The account that holds the collateral pool. -/
  collateralVault : K
  /-- The feed that prices the debt. -/
  priceFeed : K
  /-- The totals over all positions. -/
  totals : Totals
  /-- Collateral taken over by liquidations. -/
  seizedCollateral : Amount
  /-- The bump seed of the vault's own address. -/
  bump : B
  /-- The bump seed of the collateral pool's address. -/
  collateralBump : B
  /-- The bump seed of the debt pool's address. -/
  debtVaultBump : B
deriving DecidableEq, Inhabited

/-- The position of one user in one vault. -/
@[ext]
structure UserPosition (K B : Type) where
  /-- The user. -/
  owner : K
  /-- The vault. -/
  vault : K
  /-- What is deposited and owed. -/
  record : Record
  /-- The bump seed of the position's own address. -/
  bump : B
deriving DecidableEq, Inhabited

/-- A total without the old part of one position and with the new one. -/
def Amount.replace (total before after : Amount) : Except LendingError Amount :=
  someOr ((total.sub? before).bind (·.add? after)) .mathOverflow

/-- Moves the totals from the record a position had to the one it gets. The deposits are moved
first and stay moved when the debt then overflows, so the totals left behind are part of the
outcome. -/
def Totals.move (totals : Totals) (before after : Record) : Totals × Except LendingError Unit :=
  match Amount.replace totals.deposited before.deposited after.deposited with
  | .error error => (totals, .error error)
  | .ok deposited =>
    let moved := { totals with deposited := deposited }
    match Amount.replace totals.borrowed before.debt after.debt with
    | .error error => (moved, .error error)
    | .ok borrowed => ({ moved with borrowed := borrowed }, .ok ())

end CollateralLending
