/-
  CollateralLending.Chain.ShareProgram

  The instructions of the share vault program. A share vault is derived from
  its underlying token, its share token and its pool from the share vault.
  Shares are held in the user's associated token account.
-/
import CollateralLending.Chain.Transaction

namespace CollateralLending.ShareProgram

/-- A token transfer that failed. -/
def transferFailed : Cause := .share .transferFailed

/-- Opens the share vault of an underlying token, with its share token and its pool. -/
def openShareVault (call : Call) (rate : Wide) : Tx Unit := do
  let admin ← call.signer .admin
  let vault ← call.pending .shareVault
  let underlying ← call.load .mint .underlyingMint
  let shareMint ← call.pending .shareMint
  let pool ← call.pending .vault
  call.program .tokenProgram .tokenProgram
  call.program .systemProgram .systemProgram
  call.rent
  call.createRecord .shareVault .shareVault admin vault (.shareVault underlying.address)
  call.createMint .shareMint admin shareMint (.shareMint vault) vault underlying.value.decimals
  call.createToken .vault admin pool (.sharePool vault) underlying.address vault
  call.mutable .admin admin
  -- The rate is checked last: a refused rate undoes the three accounts.
  Tx.liftCause ((ShareVault.checkRate rate).mapError .share) none
  Tx.log (.shareVaultOpened underlying.address rate)
  Tx.save .shareVault vault
    { admin := admin
      underlyingMint := underlying.address
      shareMint := shareMint
      pool := pool
      exchangeRate := rate
      totalUnderlying := .zero
      bump := .canonical
      shareMintBump := .canonical
      poolBump := .canonical }

/-- The accounts of a deposit or a withdrawal. -/
structure Site where
  /-- The user, who signs. -/
  user : Address
  /-- The share vault. -/
  vault : Loaded (ShareVault Address Bump)
  /-- The user's account of the underlying token. -/
  wallet : Loaded TokenAccount
  /-- The pool of underlying tokens. -/
  pool : Loaded TokenAccount
  /-- The share token. -/
  shareMint : Loaded Mint

/-- Takes the accounts that a deposit and a withdrawal begin with. -/
def takeSite (call : Call) : Tx Site := do
  let user ← call.signer .user
  let vault ← call.load .shareVault .shareVault
  let wallet ← call.load .token .userTokenAccount
  let pool ← call.load .token .vault
  let shareMint ← call.load .mint .shareMint
  return ⟨user, vault, wallet, pool, shareMint⟩

/-- Checks the accounts that a deposit and a withdrawal begin with. -/
def checkSite (call : Call) (site : Site) : Tx Unit := do
  let vault := site.vault
  call.mutable .user site.user
  call.mutable .shareVault vault.address
  Call.hasOne .shareVault vault.value.shareMint site.shareMint.address
  Call.hasOne .shareVault vault.value.pool site.pool.address
  call.mutable .userTokenAccount site.wallet.address
  Tx.check (site.wallet.value.mint = vault.value.underlyingMint)
    ⟨transferFailed, some .userTokenAccount⟩
  Call.derivedWith .vault site.pool.address (.sharePool vault.address) vault.value.poolBump
  call.mutable .vault site.pool.address
  call.mutable .shareMint site.shareMint.address

/-- The user's account of shares, which is created when it does not exist. -/
def shareAccount (call : Call) (site : Site) (address : Address) : Tx Unit := do
  let account ← Tx.account address
  if account.owner = .systemProgram then
    Tx.invoke
      (Tokens.createAssociated (fun a => call.signs a || a = address) site.user address site.user
        site.shareMint.address)
  -- Created or not, it has to be the user's account of this share token, at its own address.
  let account ← Tx.account address
  let held ← Tx.liftCause (AccountKind.token.load account) (some .userShareAccount)
  Tx.check (held.mint = site.shareMint.address) (.account .constraintTokenMint .userShareAccount)
  Tx.check (held.owner = site.user) (.account .constraintTokenOwner .userShareAccount)
  Tx.check (address = .associated site.user site.shareMint.address)
    (.account .notAssociatedTokenAccount .userShareAccount)
  call.created .userShareAccount address

/-- Who signs for a share vault. -/
def vaultSigns (call : Call) (vault : Loaded (ShareVault Address Bump)) : Address → Bool :=
  call.signsWith (.shareVault vault.value.underlyingMint) vault.value.bump

/-- The user deposits underlying tokens for shares. -/
def deposit (call : Call) (amount : Amount) : Tx Unit := do
  let site ← takeSite call
  let shareAddress ← call.pending .userShareAccount
  call.program .tokenProgram .tokenProgram
  call.program .associatedTokenProgram .associatedTokenProgram
  call.program .systemProgram .systemProgram
  shareAccount call site shareAddress
  checkSite call site
  -- A deposit worth less than one share is refused before anything moves.
  let vault := site.vault
  let shares ← Tx.liftCause ((vault.value.mintedShares amount).mapError .share) none
  Tx.check (0 < shares.toNat) (.unblamed (.share .invalidAmount))
  Tx.invokeOr transferFailed
    (Tokens.transfer call.signs site.wallet.address site.pool.address site.user amount)
  Tx.invoke
    (Tokens.mintTo (vaultSigns call vault) site.shareMint.address shareAddress vault.address
      shares)
  let total ← Tx.liftCause
    (someOr (vault.value.totalUnderlying.add? amount) (.share .mathOverflow)) none
  Tx.emit (.share (.minted site.user vault.value.underlyingMint shares))
  Tx.save .shareVault vault.address { vault.value with totalUnderlying := total }

/-- The user gives shares back for underlying tokens. -/
def withdraw (call : Call) (amount : Amount) : Tx Unit := do
  let site ← takeSite call
  let shareAccount ← call.load .token .userShareAccount
  call.program .tokenProgram .tokenProgram
  checkSite call site
  Tx.check (shareAccount.value.owner = site.user)
    (.account .constraintTokenOwner .userShareAccount)
  Tx.check (shareAccount.address = .associated site.user site.shareMint.address)
    (.account .constraintAssociated .userShareAccount)
  call.mutable .userShareAccount shareAccount.address
  Tx.check (0 < amount.toNat) (.unblamed (.share .invalidAmount))
  let vault := site.vault
  let shares ← Tx.liftCause ((vault.value.burnedShares amount).mapError .share) none
  Tx.check (shares.toNat ≤ shareAccount.value.amount.toNat)
    (.unblamed (.share .insufficientShares))
  -- Burn first: a user short of shares is never paid.
  Tx.invoke
    (Tokens.burn call.signs site.shareMint.address shareAccount.address site.user shares)
  Tx.invokeOr transferFailed
    (Tokens.transfer (vaultSigns call vault) site.pool.address site.wallet.address vault.address
      amount)
  -- After a change of the rate more may go out than was tracked; the pool's balance decides.
  Tx.emit (.share (.burned site.user vault.value.underlyingMint shares))
  Tx.save .shareVault vault.address
    { vault.value with totalUnderlying := vault.value.totalUnderlying.monus amount }

/-- The admin sets the exchange rate. -/
def setExchangeRate (call : Call) (rate : Wide) : Tx Unit := do
  let vault ← call.load .shareVault .shareVault
  let admin ← call.signer .admin
  call.mutable .shareVault vault.address
  let next ← Tx.liftCause ((vault.value.setExchangeRate admin rate).mapError .share) none
  Tx.log (.exchangeRateSet rate)
  Tx.emit (.share (.exchangeRateSet rate))
  Tx.save .shareVault vault.address next

end CollateralLending.ShareProgram
