/-
  CollateralLending.Proofs.Chain.ShareProgram

  What an instruction of the share vault program did when it went through. A
  deposit and a withdrawal share `Visit`: the user, the share vault, the pool
  and the wallet that tokens move between.
-/
import CollateralLending.Proofs.Outcome
import CollateralLending.Proofs.Chain.Yields

namespace CollateralLending.ShareProgram

open Tx (Yields)

/-- The share vault of an underlying token as it is opened. -/
def openedVault (admin underlyingMint : Address) (rate : Wide) : ShareVault Address Bump where
  admin := admin
  underlyingMint := underlyingMint
  shareMint := .shareMint (.shareVault underlyingMint)
  pool := .sharePool (.shareVault underlyingMint)
  exchangeRate := rate
  totalUnderlying := .zero
  bump := .canonical
  shareMintBump := .canonical
  poolBump := .canonical

/-- The opening of a share vault. -/
structure OpenShareVaultRun (call : Call) (rate : Wide) (s t : Session) where
  admin : Address
  underlyingMint : Address
  decimals : UInt8
  /-- The accounts after the share vault's own was made. -/
  made : Bank
  /-- The accounts after the share token was made. -/
  minted : Bank
  /-- The accounts after the pool was made. -/
  pooled : Bank
  signs : call.signs admin = true
  vault_role : call.address? .shareVault = some (.shareVault underlyingMint)
  makes : call.Makes admin (.shareVault underlyingMint) ShareVault.layout.size .shareProgram s.bank
    made
  makes_mint : call.Makes admin (.shareMint (.shareVault underlyingMint)) Mint.size .tokenProgram
    made minted
  makes_pool : call.Makes admin (.sharePool (.shareVault underlyingMint)) TokenAccount.size
    .tokenProgram
    (Tokens.openMint (.shareMint (.shareVault underlyingMint)) (.shareVault underlyingMint) decimals
      minted) pooled
  plain : (made.get (.shareVault underlyingMint)).isExecutable = false
  mint_plain : ((Tokens.openMint (.shareMint (.shareVault underlyingMint))
    (.shareVault underlyingMint) decimals minted).get
      (.shareMint (.shareVault underlyingMint))).isExecutable = false
  pool_plain : ((Tokens.openAccount (.sharePool (.shareVault underlyingMint)) underlyingMint
    (.shareVault underlyingMint) pooled).get
      (.sharePool (.shareVault underlyingMint))).isExecutable = false
  accepts : ShareVault.checkRate rate = .ok ()
  ends : t =
    { bank := (Tokens.openAccount (.sharePool (.shareVault underlyingMint)) underlyingMint
          (.shareVault underlyingMint) pooled).write .shareVault (.shareVault underlyingMint)
        (openedVault admin underlyingMint rate)
      events := s.events
      log := s.log ++ [.shareVaultOpened underlyingMint rate] }

/-- The accounts of a deposit or a withdrawal. -/
structure Visit (call : Call) (s : Session) where
  user : Address
  /-- The address of the share vault. -/
  home : Address
  vault : ShareVault Address Bump
  wallet : Address
  wallet_tokens : TokenAccount
  pool_tokens : TokenAccount
  mint : Mint
  user_role : call.address? .user = some user
  vault_role : call.address? .shareVault = some home
  wallet_role : call.address? .userTokenAccount = some wallet
  signs : call.signs user = true
  loads : AccountKind.shareVault.load (s.bank.get home) = .ok vault
  wallet_loads : AccountKind.token.load (s.bank.get wallet) = .ok wallet_tokens
  pool_loads : AccountKind.token.load (s.bank.get (.sharePool home)) = .ok pool_tokens
  mint_loads : AccountKind.mint.load (s.bank.get vault.shareMint) = .ok mint
  pool_eq : vault.pool = .sharePool home
  wallet_mint : wallet_tokens.mint = vault.underlyingMint

/-- The user's account of shares: made where it did not exist. -/
inductive Opens (call : Call) (user mint : Address) (bank : Bank) : Bank → Prop where
  | fresh {opened : Bank}
      (made : Tokens.createAssociated (call.signsMaking (.associated user mint)) user
        (.associated user mint) user mint bank = .ok opened) :
      Opens call user mint bank opened
  | known : Opens call user mint bank bank

/-- A deposit of underlying tokens for shares. -/
structure DepositRun (call : Call) (amount : Amount) (s t : Session) extends Visit call s where
  shares : Amount
  total : Amount
  /-- The accounts after the user's account of shares was opened. -/
  opened : Bank
  /-- What the user's account of shares held then. -/
  held : TokenAccount
  /-- The accounts after the underlying tokens came in. -/
  paid : Bank
  /-- The accounts after the shares were minted. -/
  minted : Bank
  opens : Opens call user vault.shareMint s.bank opened
  held_loads : AccountKind.token.load (opened.get (.associated user vault.shareMint)) = .ok held
  prices : vault.mintedShares amount = .ok shares
  positive : 0 < shares.toNat
  pays : Tokens.transfer call.signs wallet (.sharePool home) user amount opened = .ok paid
  mints : Tokens.mintTo (vaultSigns call ⟨home, vault⟩) vault.shareMint
    (.associated user vault.shareMint) home shares paid = .ok minted
  counts : vault.totalUnderlying.add? amount = some total
  ends : t =
    { bank := minted.write .shareVault home { vault with totalUnderlying := total }
      events := s.events ++ [.share (.minted user vault.underlyingMint shares)]
      log := s.log }

/-- A withdrawal of underlying tokens for shares. -/
structure WithdrawRun (call : Call) (amount : Amount) (s t : Session) extends Visit call s where
  shares : Amount
  /-- What the user's account of shares held before. -/
  held : TokenAccount
  /-- The accounts after the shares were burned. -/
  burned : Bank
  /-- The accounts after the underlying tokens went out. -/
  paid : Bank
  held_loads : AccountKind.token.load (s.bank.get (.associated user vault.shareMint)) = .ok held
  positive : 0 < amount.toNat
  prices : vault.burnedShares amount = .ok shares
  enough : shares.toNat ≤ held.amount.toNat
  burns : Tokens.burn call.signs vault.shareMint (.associated user vault.shareMint) user shares
    s.bank = .ok burned
  pays : Tokens.transfer (vaultSigns call ⟨home, vault⟩) (.sharePool home) wallet home amount
    burned = .ok paid
  ends : t =
    { bank := paid.write .shareVault home
        { vault with totalUnderlying := vault.totalUnderlying.monus amount }
      events := s.events ++ [.share (.burned user vault.underlyingMint shares)]
      log := s.log }

/-- A change of the exchange rate. -/
structure SetExchangeRateRun (call : Call) (rate : Wide) (s t : Session) where
  /-- The address of the share vault. -/
  home : Address
  vault : ShareVault Address Bump
  vault_role : call.address? .shareVault = some home
  signs : call.signs vault.admin = true
  loads : AccountKind.shareVault.load (s.bank.get home) = .ok vault
  positive : 0 < rate.toNat
  ends : t =
    { bank := s.bank.write .shareVault home { vault with exchangeRate := rate }
      events := s.events ++ [.share (.exchangeRateSet rate)]
      log := s.log ++ [.exchangeRateSet rate] }

/-! ## Opening the instructions -/

variable {call : Call} {amount : Amount} {s t : Session}

/-- What opening a share vault did, step by step. -/
theorem openShareVault_run {rate : Wide} (h : Yields (openShareVault call rate) s () t) :
    Nonempty (OpenShareVaultRun call rate s t) := by
  simp only [openShareVault, Tx.yields_bind, Tx.yields_liftCause, Tx.yields_log, Tx.yields_save,
    Call.yields_signer, Call.yields_load, Call.yields_pending, Call.yields_program,
    Call.yields_rent, Call.yields_mutable, mapError_eq_ok_iff, and_assoc, exists_and_left,
    exists_eq_left, exists_const] at h
  obtain ⟨admin, -, hsigns, vault, hvault, ⟨underlying, mint⟩, -, -, shareMint, -, pool, -, -, -, -,
    -, -, -, _, u₁, hrecord, _, u₂, hmint, _, u₃, htoken, -, -, _, hrate, rfl⟩ := h
  -- Nothing is made at the address of a program.
  have hplain := Call.plain_of_createRecord hrecord
  have hmintPlain := Call.plain_of_createMint hmint
  have hpoolPlain := Call.plain_of_createToken htoken
  obtain ⟨rfl, made, hmade, rfl⟩ := Call.makes_of_createRecord hrecord
  obtain ⟨rfl, minted, hminted, rfl⟩ := Call.makes_of_createMint hmint
  obtain ⟨rfl, pooled, hpooled, rfl⟩ := Call.makes_of_createToken htoken
  exact ⟨{
    admin := admin
    underlyingMint := underlying
    decimals := mint.decimals
    made := made
    minted := minted
    pooled := pooled
    signs := hsigns
    vault_role := hvault
    makes := hmade
    makes_mint := hminted
    makes_pool := hpooled
    plain := hplain
    mint_plain := hmintPlain
    pool_plain := hpoolPlain
    accepts := hrate
    ends := rfl }⟩

/-- The accounts that a deposit or a withdrawal begins with make a visit. -/
theorem visit_of_site {site : Site} {u v : Session} {w : Unit}
    (htake : Yields (takeSite call) s site t) (hcheck : Yields (checkSite call site) u w v) :
    (t = s ∧ v = u) ∧ ∃ visit : Visit call s,
      site = ⟨visit.user, ⟨visit.home, visit.vault⟩, ⟨visit.wallet, visit.wallet_tokens⟩,
        ⟨.sharePool visit.home, visit.pool_tokens⟩, ⟨visit.vault.shareMint, visit.mint⟩⟩ := by
  simp only [takeSite, Tx.yields_bind, Tx.yields_pure, Call.yields_signer, Call.yields_load,
    and_assoc, exists_and_left, exists_eq_left] at htake
  obtain ⟨user, huser, hsigns, ⟨home, vault⟩, hvault, hload, ⟨wallet, walletTokens⟩, hwallet,
    hwalletTokens, ⟨pool, poolTokens⟩, -, hpoolTokens, ⟨shareMint, mint⟩, -, hmint, rfl,
    rfl⟩ := htake
  simp only [checkSite, Tx.yields_bind, Tx.yields_check, Call.yields_mutable, Call.yields_hasOne,
    Call.yields_derivedWith, and_assoc, exists_and_left, exists_eq_left, exists_const] at hcheck
  obtain ⟨-, -, -, -, rfl, hpool, -, -, hwalletMint, rfl, -, -, -, -, -, rfl⟩ := hcheck
  exact ⟨⟨rfl, rfl⟩, {
    user := user
    home := home
    vault := vault
    wallet := wallet
    wallet_tokens := walletTokens
    pool_tokens := poolTokens
    mint := mint
    user_role := huser
    vault_role := hvault
    wallet_role := hwallet
    signs := hsigns
    loads := hload
    wallet_loads := hwalletTokens
    pool_loads := hpoolTokens
    mint_loads := hmint
    pool_eq := hpool
    wallet_mint := hwalletMint }, rfl⟩

/-- The user's account of shares is its associated one, and was made when it did not exist. -/
theorem opens_of_shareAccount {site : Site} {address : Address} {u : Unit}
    (h : Yields (shareAccount call site address) s u t) :
    address = .associated site.user site.shareMint.address ∧ ∃ opened held,
      Opens call site.user site.shareMint.address s.bank opened ∧
      AccountKind.token.load (opened.get address) = .ok held ∧ t = { s with bank := opened } := by
  simp only [shareAccount, Tx.yields_bind, Tx.yields_account, and_assoc] at h
  obtain ⟨_, _, rfl, rfl, h⟩ := h
  split at h
  · simp only [Tx.yields_bind, Tx.yields_invoke, Tx.yields_liftCause, Tx.yields_check,
      Tx.yields_account, Call.yields_created, and_assoc, exists_and_left, exists_eq_left,
      exists_const] at h
    obtain ⟨_, ⟨opened, hopened, rfl⟩, held, hheld, -, -, rfl, -, -, -, rfl⟩ := h
    exact ⟨rfl, opened, held, .fresh hopened, hheld, rfl⟩
  · simp only [Tx.yields_bind, Tx.yields_liftCause, Tx.yields_check, Tx.yields_account,
      Call.yields_created, and_assoc, exists_and_left, exists_eq_left, exists_const] at h
    obtain ⟨held, hheld, -, -, rfl, -, -, -, rfl⟩ := h
    exact ⟨rfl, t.bank, held, .known, hheld, rfl⟩

/-- What a deposit of underlying tokens did. -/
theorem deposit_run (h : Yields (deposit call amount) s () t) :
    Nonempty (DepositRun call amount s t) := by
  simp only [deposit, Tx.yields_bind, Tx.yields_liftCause, Tx.yields_check, Tx.yields_invoke,
    Tx.yields_invokeOr, Tx.yields_emit, Tx.yields_save, Call.yields_pending, Call.yields_program,
    mapError_eq_ok_iff, someOr_eq_ok_iff, and_assoc, exists_and_left, exists_eq_left,
    exists_const] at h
  obtain ⟨site, _, htake, address, -, -, -, -, -, -, -, _, u, hshare, _, v, hcheck, shares, hprice,
    hpositive, _, ⟨paid, hpay, rfl⟩, _, ⟨minted, hmint, rfl⟩, total, hcount, hend⟩ := h
  obtain ⟨⟨rfl, rfl⟩, visit, rfl⟩ := visit_of_site htake hcheck
  obtain ⟨rfl, opened, held, hopens, hheld, rfl⟩ := opens_of_shareAccount hshare
  exact ⟨{
    visit with
    shares := shares
    total := total
    opened := opened
    held := held
    paid := paid
    minted := minted
    opens := hopens
    held_loads := hheld
    prices := hprice
    positive := hpositive
    pays := hpay
    mints := hmint
    counts := hcount
    ends := hend }⟩

/-- What a withdrawal of underlying tokens did. -/
theorem withdraw_run (h : Yields (withdraw call amount) s () t) :
    Nonempty (WithdrawRun call amount s t) := by
  simp only [withdraw, Tx.yields_bind, Tx.yields_liftCause, Tx.yields_check, Tx.yields_invoke,
    Tx.yields_invokeOr, Tx.yields_emit, Tx.yields_save, Call.yields_load, Call.yields_program,
    Call.yields_mutable, mapError_eq_ok_iff, and_assoc, exists_and_left, exists_eq_left,
    exists_const] at h
  obtain ⟨site, _, htake, ⟨address, held⟩, -, hheld, -, -, _, v, hcheck, -, haddress, -, -,
    hpositive, shares, hprice, henough, _, ⟨burned, hburn, rfl⟩, _, ⟨paid, hpay, rfl⟩, hend⟩ := h
  obtain ⟨⟨rfl, rfl⟩, visit, rfl⟩ := visit_of_site htake hcheck
  simp only at haddress
  subst haddress
  exact ⟨{
    visit with
    shares := shares
    held := held
    burned := burned
    paid := paid
    held_loads := hheld
    positive := hpositive
    prices := hprice
    enough := henough
    burns := hburn
    pays := hpay
    ends := hend }⟩

/-- What setting the rate did. -/
theorem setExchangeRate_run {rate : Wide} (h : Yields (setExchangeRate call rate) s () t) :
    Nonempty (SetExchangeRateRun call rate s t) := by
  simp only [setExchangeRate, ShareVault.setExchangeRate, ShareVault.checkRate, Tx.yields_bind,
    Tx.yields_liftCause, Tx.yields_emit, Tx.yields_log, Tx.yields_save, Call.yields_load,
    Call.yields_signer, Call.yields_mutable, mapError_eq_ok_iff, bind_eq_ok_iff, ensure_eq_ok_iff,
    pure_eq_ok_iff, and_assoc, exists_and_left, exists_eq_left, exists_const] at h
  obtain ⟨⟨home, vault⟩, hvault, hload, admin, -, hsigns, -, -, hadmin, hpositive, _, rfl, rfl⟩ := h
  subst hadmin
  exact ⟨{
    home := home
    vault := vault
    vault_role := hvault
    signs := hsigns
    loads := hload
    positive := hpositive
    ends := rfl }⟩

end CollateralLending.ShareProgram
