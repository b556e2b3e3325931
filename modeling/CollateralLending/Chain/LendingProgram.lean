/-
  CollateralLending.Chain.LendingProgram

  The instructions of the lending program. A vault is derived from its debt
  token, its two pools from the vault, and a position from vault and owner; so
  there is one vault for each debt token and one position for each user of it.

  An instruction takes its accounts in order, creates what has to be created,
  checks the rest, settles by the rules of lending, moves the asset, moves the
  vault's totals, and writes vault and position back.
-/
import CollateralLending.Chain.Transaction
import CollateralLending.Lending.Settlement

namespace CollateralLending.LendingProgram

/-- A position account that was only just created: its bytes are zeros. -/
def blankPosition : UserPosition Address Bump where
  owner := .systemProgram
  vault := .systemProgram
  record := .zero
  bump := .other

/-- Binds a new position to its owner. Positions that have an owner are left alone. -/
def bind (position : UserPosition Address Bump) (vault owner : Address) :
    UserPosition Address Bump :=
  if position.owner = .systemProgram then
    { position with owner := owner, vault := vault, bump := .canonical }
  else position

/-- A lamport transfer or token transfer that failed. -/
def transferFailed : Cause := .lending .transferFailed

/-! ## Accounts of an operation -/

/-- The vault and the position on which an operation of a user works. -/
structure Site where
  /-- The user, who signs. -/
  user : Address
  /-- The vault. -/
  vault : Loaded (Vault Address Bump)
  /-- The user's position. -/
  position : Loaded (UserPosition Address Bump)

/-- The value of the user's position, which is created when it does not exist. -/
def positionValue (call : Call) (user position : Address) : Tx (UserPosition Address Bump) := do
  let account ← Tx.account position
  if account.owner = .systemProgram then
    call.create user position UserPosition.layout.size .lendingProgram
    return blankPosition
  else Tx.liftCause (AccountKind.position.load account) (some .position)

/-- The user's position, bound to the user. -/
def userPosition (call : Call) (user vault position : Address) :
    Tx (Loaded (UserPosition Address Bump)) := do
  Call.derived .position position (.position vault user)
  let value ← positionValue call user position
  let account ← Tx.account position
  Tx.check (account.data.size = UserPosition.layout.size) (.account .constraintSpace .position)
  Tx.check (Rent.minimum UserPosition.layout.size ≤ account.lamports.toNat)
    (.account .constraintRentExempt .position)
  call.created .position position
  return ⟨position, bind value vault user⟩

/-- The vault is bound to the feed that was passed. -/
def boundFeed (vault : Loaded (Vault Address Bump)) (feed : Address) : Tx Unit :=
  Tx.check (vault.value.priceFeed = feed) ⟨.lending .invalidOracle, some .vault⟩

/-- Moves the totals of the vault and writes vault and position back. -/
def conclude (site : Site) (next : Record) : Tx Unit := do
  let (totals, tracked) := site.vault.value.totals.move site.position.value.record next
  Tx.liftCause (tracked.mapError .lending) none
  Tx.save .vault site.vault.address { site.vault.value with totals := totals }
  Tx.save .position site.position.address { site.position.value with record := next }

/-- The outcome of a settled operation, whose oracle reads do not show on chain. -/
def settled {α : Type} (settlement : Consultation α) : Tx α :=
  Tx.liftCause (settlement.result.mapError .lending) none

/-! ## Instructions -/

/-- Opens the vault of a debt token with its two pools, and binds it to a price feed. The admin pays
for the accounts and keeps the collateral pool rent exempt. -/
def openVault (call : Call) : Tx Unit := do
  let admin ← call.signer .admin
  let vault ← call.pending .vault
  let debtMint ← call.load .mint .debtMint
  let debtVault ← call.pending .debtVault
  let pool ← call.systemAccount .collateralVault
  let feed ← call.load .feed .priceFeed
  call.program .tokenProgram .tokenProgram
  call.program .systemProgram .systemProgram
  call.rent
  -- Create the vault and its debt pool; the collateral pool needs no data and exists already.
  call.createRecord .vault .vault admin vault (.vault debtMint.address)
  call.createToken .debtVault admin debtVault (.debtVault vault) debtMint.address vault
  call.mutable .admin admin
  Call.derived .collateralVault pool (.collateral vault)
  call.mutable .collateralVault pool
  -- Keep the collateral pool rent exempt, so that it can always pay out all that it owes.
  let account ← Tx.account pool
  let reserve := Rent.minimum 0 - account.lamports.toNat
  if 0 < reserve then Tx.invoke (System.transfer call.signs admin pool reserve)
  Tx.log (.vaultOpened debtMint.address feed.address)
  Tx.save .vault vault
    { admin := admin
      debtMint := debtMint.address
      debtVault := debtVault
      collateralVault := pool
      priceFeed := feed.address
      totals := ⟨.zero, .zero⟩
      seizedCollateral := .zero
      bump := .canonical
      collateralBump := .canonical
      debtVaultBump := .canonical }

/-- The user deposits lamports into the collateral pool. -/
def deposit (call : Call) (amount : Amount) : Tx Unit := do
  let user ← call.signer .user
  let vault ← call.load .vault .vault
  let position ← call.pending .position
  let pool ← call.systemAccount .collateralVault
  call.program .systemProgram .systemProgram
  let position ← userPosition call user vault.address position
  call.mutable .user user
  call.mutable .vault vault.address
  Call.derivedWith .collateralVault pool (.collateral vault.address) vault.value.collateralBump
  call.mutable .collateralVault pool
  -- Settle on the record, then move the asset, then store the record.
  let outcome ← settled (.ofResult (position.value.record.deposit amount))
  Tx.invokeOr transferFailed (System.transfer call.signs user pool amount.toNat)
  conclude ⟨user, vault, position⟩ outcome.next
  Tx.emit (.lending (.deposited amount))

/-- The accounts of a borrow or a payback. -/
structure DebtSite where
  /-- The vault and the position. -/
  site : Site
  /-- The oracle that the feed is at this time. -/
  oracle : Oracle
  /-- The debt pool. -/
  pool : Address
  /-- The user's account of the token lent out. -/
  wallet : Address

/-- Takes and checks the accounts of a borrow or a payback. -/
def debtSite (call : Call) : Tx DebtSite := do
  let user ← call.signer .user
  let vault ← call.load .vault .vault
  let position ← call.pending .position
  let feed ← call.load .feed .priceFeed
  let pool ← call.load .token .debtVault
  let wallet ← call.load .token .userDebtAccount
  call.program .tokenProgram .tokenProgram
  call.program .systemProgram .systemProgram
  let position ← userPosition call user vault.address position
  call.mutable .user user
  call.mutable .vault vault.address
  boundFeed vault feed.address
  Call.hasOne .vault vault.value.debtVault pool.address
  Call.derivedWith .debtVault pool.address (.debtVault vault.address) vault.value.debtVaultBump
  call.mutable .debtVault pool.address
  call.mutable .userDebtAccount wallet.address
  Tx.check (wallet.value.mint = vault.value.debtMint) ⟨transferFailed, some .userDebtAccount⟩
  return ⟨⟨user, vault, position⟩, feed.value.answer.snapshot call.now, pool.address,
    wallet.address⟩

/-- The user borrows from the debt pool. The vault signs for its pool. -/
def borrow (call : Call) (amount : Amount) : Tx Unit := do
  let ⟨site, oracle, pool, wallet⟩ ← debtSite call
  let vault := site.vault
  -- The pool belongs to the vault, which signs with its own seeds.
  let outcome ← settled (site.position.value.record.borrow oracle amount)
  Tx.invokeOr transferFailed
    (Tokens.transfer (call.signsWith (.vault vault.value.debtMint) vault.value.bump) pool wallet
      vault.address amount)
  conclude site outcome.next
  Tx.emit (.lending (.borrowed amount outcome.collateralEquivalent))

/-- The user pays back into the debt pool. -/
def payback (call : Call) (amount : Amount) : Tx Unit := do
  let ⟨site, oracle, pool, wallet⟩ ← debtSite call
  -- The user signs for the wallet; no seeds are needed.
  let outcome ← settled (site.position.value.record.payBack oracle amount)
  Tx.invokeOr transferFailed (Tokens.transfer call.signs wallet pool site.user amount)
  conclude site outcome.next
  Tx.emit (.lending (.paidBack amount outcome.collateralEquivalent))

/-- The user takes lamports out of the collateral pool, which signs for itself. -/
def withdraw (call : Call) (amount : Amount) : Tx Unit := do
  let user ← call.signer .user
  let vault ← call.load .vault .vault
  let position ← call.pending .position
  let feed ← call.load .feed .priceFeed
  let pool ← call.systemAccount .collateralVault
  call.program .systemProgram .systemProgram
  let position ← userPosition call user vault.address position
  call.mutable .user user
  call.mutable .vault vault.address
  boundFeed vault feed.address
  Call.derivedWith .collateralVault pool (.collateral vault.address) vault.value.collateralBump
  call.mutable .collateralVault pool
  let oracle := feed.value.answer.snapshot call.now
  let outcome ← settled (position.value.record.withdraw oracle amount)
  Tx.invokeOr transferFailed
    (System.transfer
      (call.signsWith (.collateral vault.address) vault.value.collateralBump) pool user
      amount.toNat)
  conclude ⟨user, vault, position⟩ outcome.next
  Tx.emit (.lending (.withdrawn amount))

/-- The admin wipes a position that its collateral no longer covers. The whole deposit stays in the
collateral pool as seized collateral and the whole debt is cleared. -/
def liquidate (call : Call) : Tx Unit := do
  let admin ← call.signer .admin
  let vault ← call.load .vault .vault
  let owner ← call.required .account
  let position ← call.load .position .position
  let feed ← call.load .feed .priceFeed
  call.mutable .vault vault.address
  boundFeed vault feed.address
  Call.derivedWith .position position.address (.position vault.address owner) position.value.bump
  call.mutable .position position.address
  Call.hasOne .position position.value.vault vault.address
  let oracle := feed.value.answer.snapshot call.now
  -- The admin may be anyone up to here; the settlement compares it with the vault's.
  let outcome ← settled
    (position.value.record.liquidate admin vault.value.admin oracle)
  let (totals, tracked) := vault.value.totals.move position.value.record .zero
  Tx.liftCause (tracked.mapError .lending) none
  let seized ← Tx.liftCause
    (someOr (vault.value.seizedCollateral.add? outcome.seizedCollateral)
      (.lending .mathOverflow)) none
  -- The log and the event name the owner stored in the position.
  Tx.log
    (.liquidated position.value.owner outcome.seizedCollateral .lamports outcome.clearedDebt)
  Tx.emit (.lending (.liquidated position.value.owner))
  Tx.save .vault vault.address { vault.value with totals := totals, seizedCollateral := seized }
  Tx.save .position position.address { position.value with record := .zero }

end CollateralLending.LendingProgram
