/-
  CollateralLending.Proofs.Chain.LendingProgram

  What an instruction of the lending program did when it went through: whom it
  found in which role, what it loaded, which calls it made on which bank, and
  the session it left. There is one structure for each instruction; the four
  operations of a user share `Visit`, and the two that move debt share
  `DebtVisit`.
-/
import CollateralLending.Proofs.Outcome
import CollateralLending.Proofs.Chain.Yields

namespace CollateralLending.LendingProgram

open Tx (Yields)

/-! ## Runs -/

/-- The position of a user in a vault: made where nobody used its address, otherwise the one that is
there; in both cases bound to the user. -/
inductive Opens (call : Call) (user home : Address) (bank : Bank) :
    Bank → UserPosition Address Bump → Prop where
  | fresh {opened : Bank}
      (made : call.Makes user (.position home user) UserPosition.layout.size .lendingProgram bank
        opened) :
      Opens call user home bank opened (bind blankPosition home user)
  | known {value : UserPosition Address Bump}
      (loads : AccountKind.position.load (bank.get (.position home user)) = .ok value) :
      Opens call user home bank bank (bind value home user)

/-- An operation of a user on a vault. -/
structure Visit (call : Call) (s t : Session) where
  user : Address
  /-- The address of the vault. -/
  home : Address
  vault : Vault Address Bump
  /-- The user's position before the operation. -/
  position : UserPosition Address Bump
  settlement : Settlement
  totals : Totals
  /-- The accounts after the position was opened. -/
  opened : Bank
  /-- The accounts after the asset was moved. -/
  moved : Bank
  event : LendingEvent Address
  user_role : call.address? .user = some user
  vault_role : call.address? .vault = some home
  signs : call.signs user = true
  loads : AccountKind.vault.load (s.bank.get home) = .ok vault
  opens : Opens call user home s.bank opened position
  tracks : vault.totals.move position.record settlement.next = (totals, .ok ())
  ends : t =
    { bank := (moved.write .vault home { vault with totals := totals }).write .position
        (.position home user) { position with record := settlement.next }
      events := s.events ++ [.lending event]
      log := s.log }

/-- A deposit: lamports of the user go to the collateral pool. -/
structure DepositRun (call : Call) (amount : Amount) (s t : Session) extends Visit call s t where
  announces : event = .deposited amount
  settles : position.record.deposit amount = .ok settlement
  pays : System.transfer call.signs user (.collateral home) amount.toNat opened = .ok moved

/-- A withdrawal: lamports of the collateral pool go to the user. -/
structure WithdrawRun (call : Call) (amount : Amount) (s t : Session) extends Visit call s t where
  feed : PriceFeed Address Bump
  announces : event = .withdrawn amount
  feed_loads : AccountKind.feed.load (s.bank.get vault.priceFeed) = .ok feed
  settles : (position.record.withdraw (feed.answer.snapshot call.now) amount).result =
    .ok settlement
  pays : System.transfer (call.signsWith (.collateral home) vault.collateralBump)
    (.collateral home) user amount.toNat opened = .ok moved

/-- An operation that moves tokens between the debt pool and the user's wallet. -/
structure DebtVisit (call : Call) (s t : Session) extends Visit call s t where
  feed : PriceFeed Address Bump
  wallet : Address
  pool_tokens : TokenAccount
  wallet_tokens : TokenAccount
  feed_loads : AccountKind.feed.load (s.bank.get vault.priceFeed) = .ok feed
  pool_eq : vault.debtVault = .debtVault home
  pool_loads : AccountKind.token.load (s.bank.get (.debtVault home)) = .ok pool_tokens
  wallet_role : call.address? .userDebtAccount = some wallet
  wallet_loads : AccountKind.token.load (s.bank.get wallet) = .ok wallet_tokens
  wallet_mint : wallet_tokens.mint = vault.debtMint

/-- A borrow: debt tokens of the pool go to the user's wallet. -/
structure BorrowRun (call : Call) (amount : Amount) (s t : Session)
    extends DebtVisit call s t where
  announces : event = .borrowed amount settlement.collateralEquivalent
  settles : (position.record.borrow (feed.answer.snapshot call.now) amount).result =
    .ok settlement
  pays : Tokens.transfer (call.signsWith (.vault vault.debtMint) vault.bump) (.debtVault home)
    wallet home amount opened = .ok moved

/-- A payback: debt tokens of the user's wallet go to the pool. -/
structure PaybackRun (call : Call) (amount : Amount) (s t : Session)
    extends DebtVisit call s t where
  announces : event = .paidBack amount settlement.collateralEquivalent
  settles : (position.record.payBack (feed.answer.snapshot call.now) amount).result =
    .ok settlement
  pays : Tokens.transfer call.signs wallet (.debtVault home) user amount opened = .ok moved

/-- A liquidation. -/
structure LiquidateRun (call : Call) (s t : Session) where
  admin : Address
  /-- The address of the vault. -/
  home : Address
  vault : Vault Address Bump
  /-- Whose position is wiped. -/
  owner : Address
  position : UserPosition Address Bump
  feed : PriceFeed Address Bump
  liquidation : Liquidation
  totals : Totals
  seized : Amount
  admin_role : call.address? .admin = some admin
  signs : call.signs admin = true
  vault_role : call.address? .vault = some home
  loads : AccountKind.vault.load (s.bank.get home) = .ok vault
  account_role : call.address? .account = some owner
  position_loads : AccountKind.position.load (s.bank.get (.position home owner)) = .ok position
  position_bump : position.bump = .canonical
  position_vault : position.vault = home
  feed_loads : AccountKind.feed.load (s.bank.get vault.priceFeed) = .ok feed
  settles : (position.record.liquidate admin vault.admin (feed.answer.snapshot call.now)).result =
    .ok liquidation
  tracks : vault.totals.move position.record .zero = (totals, .ok ())
  seizes : vault.seizedCollateral.add? liquidation.seizedCollateral = some seized
  ends : t =
    { bank := (s.bank.write .vault home
          { vault with totals := totals, seizedCollateral := seized }).write .position
        (.position home owner) { position with record := .zero }
      events := s.events ++ [.lending (.liquidated position.owner)]
      log := s.log ++ [.liquidated position.owner liquidation.seizedCollateral .lamports
        liquidation.clearedDebt] }

/-- The vault of a debt token as it is opened. -/
def openedVault (admin debtMint priceFeed : Address) : Vault Address Bump where
  admin := admin
  debtMint := debtMint
  debtVault := .debtVault (.vault debtMint)
  collateralVault := .collateral (.vault debtMint)
  priceFeed := priceFeed
  totals := ⟨.zero, .zero⟩
  seizedCollateral := .zero
  bump := .canonical
  collateralBump := .canonical
  debtVaultBump := .canonical

/-- The admin adds what the collateral pool lacks of the rent minimum. -/
def Reserves (call : Call) (admin pool : Address) (bank reserved : Bank) : Prop :=
  let reserve := Rent.minimum 0 - (bank.get pool).lamports.toNat
  if 0 < reserve then System.transfer call.signs admin pool reserve bank = .ok reserved
  else reserved = bank

/-- The opening of a vault. -/
structure OpenVaultRun (call : Call) (s t : Session) where
  admin : Address
  debtMint : Address
  priceFeed : Address
  /-- The accounts after the vault's own was made. -/
  made : Bank
  /-- The accounts after the debt pool was made. -/
  pooled : Bank
  /-- The accounts after the collateral pool was made rent exempt. -/
  reserved : Bank
  signs : call.signs admin = true
  vault_role : call.address? .vault = some (.vault debtMint)
  pool_owner : (s.bank.get (.collateral (.vault debtMint))).owner = .systemProgram
  makes : call.Makes admin (.vault debtMint) Vault.layout.size .lendingProgram s.bank made
  makes_pool : call.Makes admin (.debtVault (.vault debtMint)) TokenAccount.size .tokenProgram made
    pooled
  reserves : Reserves call admin (.collateral (.vault debtMint))
    (Tokens.openAccount (.debtVault (.vault debtMint)) debtMint (.vault debtMint) pooled) reserved
  ends : t =
    { bank := reserved.write .vault (.vault debtMint) (openedVault admin debtMint priceFeed)
      events := s.events
      log := s.log ++ [.vaultOpened debtMint priceFeed] }

/-! ## Opening the instructions -/

variable {call : Call} {amount : Amount} {s t : Session}

/-- The position is at its derived address, and it was made there when it did not exist. -/
theorem opens_of_userPosition {user home position : Address}
    {loaded : Loaded (UserPosition Address Bump)}
    (h : Yields (userPosition call user home position) s loaded t) :
    position = .position home user ∧ ∃ opened value,
      loaded = ⟨.position home user, value⟩ ∧ Opens call user home s.bank opened value ∧
        t = { s with bank := opened } := by
  simp only [userPosition, Tx.yields_bind, Tx.yields_pure, Tx.yields_check, Tx.yields_account,
    Call.yields_derived, Call.yields_created] at h
  obtain ⟨_, _, ⟨rfl, rfl⟩, value, u, hvalue, _, _, ⟨-, rfl⟩, _, _, ⟨-, rfl⟩, _, _, ⟨-, rfl⟩, _, _,
    ⟨-, rfl⟩, rfl, rfl⟩ := h
  refine ⟨rfl, t.bank, bind value home user, rfl, ?_⟩
  -- Whether the position is made is decided by whose the account at its address is.
  simp only [positionValue, Tx.yields_bind, Tx.yields_account] at hvalue
  obtain ⟨_, _, ⟨rfl, rfl⟩, hvalue⟩ := hvalue
  split at hvalue
  · simp only [Tx.yields_bind, Tx.yields_pure, Call.yields_create] at hvalue
    obtain ⟨_, _, ⟨-, made, hmade, rfl⟩, rfl, rfl⟩ := hvalue
    exact ⟨.fresh hmade, rfl⟩
  · simp only [Tx.yields_liftCause] at hvalue
    obtain ⟨hload, rfl⟩ := hvalue
    exact ⟨.known hload, rfl⟩

/-- An operation of a user ends with writing the vault, with its totals moved, and the record. -/
theorem writes_of_conclude {site : Site} {next : Record} {u : Unit}
    (h : Yields (conclude site next) s u t) :
    ∃ totals, site.vault.value.totals.move site.position.value.record next = (totals, .ok ()) ∧
      t = { s with
        bank := (s.bank.write .vault site.vault.address
          { site.vault.value with totals := totals }).write .position site.position.address
            { site.position.value with record := next } } := by
  unfold conclude at h
  cases hmove : site.vault.value.totals.move site.position.value.record next with
  | mk totals tracked =>
      simp only [hmove, Tx.yields_bind, Tx.yields_liftCause, Tx.yields_save,
        mapError_eq_ok_iff] at h
      obtain ⟨_, _, ⟨rfl, rfl⟩, _, _, rfl, rfl⟩ := h
      exact ⟨totals, rfl, rfl⟩

/-- The steps that every operation of a user takes make a visit. -/
theorem visit_of_steps {user home position : Address} {vault : Vault Address Bump}
    {loaded : Loaded (UserPosition Address Bump)} {settlement : Settlement} {moved : Bank}
    {event : LendingEvent Address} {u v : Session} {w : Unit}
    (huser : call.address? .user = some user) (hvault : call.address? .vault = some home)
    (hsigns : call.signs user = true) (hload : AccountKind.vault.load (s.bank.get home) = .ok vault)
    (hopen : Yields (userPosition call user home position) s loaded u)
    (hconclude : Yields (conclude ⟨user, ⟨home, vault⟩, loaded⟩ settlement.next)
      { u with bank := moved } w v)
    (hend : t = { v with events := v.events ++ [.lending event] }) :
    ∃ visit : Visit call s t, visit.user = user ∧ visit.home = home ∧ visit.vault = vault ∧
      visit.settlement = settlement ∧ visit.moved = moved ∧ visit.event = event ∧
      loaded = ⟨.position home user, visit.position⟩ ∧
      u = { s with bank := visit.opened } := by
  obtain ⟨rfl, opened, value, rfl, hopens, rfl⟩ := opens_of_userPosition hopen
  obtain ⟨totals, htrack, rfl⟩ := writes_of_conclude hconclude
  let visit : Visit call s t :=
    { user := user
      home := home
      vault := vault
      position := value
      settlement := settlement
      totals := totals
      opened := opened
      moved := moved
      event := event
      user_role := huser
      vault_role := hvault
      signs := hsigns
      loads := hload
      opens := hopens
      tracks := htrack
      ends := hend }
  exact ⟨visit, rfl, rfl, rfl, rfl, rfl, rfl, rfl, rfl⟩

/-- What a deposit did, step by step. -/
theorem deposit_run (h : Yields (deposit call amount) s () t) :
    Nonempty (DepositRun call amount s t) := by
  simp only [deposit, settled, Tx.yields_bind, Tx.yields_liftCause, Tx.yields_invokeOr,
    Tx.yields_emit, Call.yields_signer, Call.yields_load, Call.yields_pending,
    Call.yields_systemAccount, Call.yields_program, Call.yields_mutable, Call.yields_derivedWith,
    mapError_eq_ok_iff, and_assoc, exists_and_left, exists_eq_left, exists_const] at h
  obtain ⟨user, huser, hsigns, ⟨home, vault⟩, hvault, hload, position, -, pool, -, -, -, -, loaded,
    u, hopen, -, -, -, -, hpool, -, -, -, settlement, hsettle, _, ⟨moved, hpay, rfl⟩, w, v,
    hconclude, hend⟩ := h
  obtain ⟨visit, rfl, rfl, rfl, rfl, rfl, hevent, rfl, rfl⟩ :=
    visit_of_steps huser hvault hsigns hload hopen hconclude hend
  -- The pool that was passed is the one derived for the vault.
  rw [hpool] at hpay
  exact ⟨{ visit with announces := hevent, settles := hsettle, pays := hpay }⟩

/-- What a withdrawal did. -/
theorem withdraw_run (h : Yields (withdraw call amount) s () t) :
    Nonempty (WithdrawRun call amount s t) := by
  simp only [withdraw, settled, boundFeed, Tx.yields_bind, Tx.yields_liftCause, Tx.yields_check,
    Tx.yields_invokeOr, Tx.yields_emit, Call.yields_signer, Call.yields_load, Call.yields_pending,
    Call.yields_systemAccount, Call.yields_program, Call.yields_mutable, Call.yields_derivedWith,
    mapError_eq_ok_iff, and_assoc, exists_and_left, exists_eq_left, exists_const] at h
  obtain ⟨user, huser, hsigns, ⟨home, vault⟩, hvault, hload, position, -, feed, -, hfeed, pool, -,
    -, -, -, loaded, u, hopen, -, -, -, -, hbound, hpool, -, -, -, settlement, hsettle, _,
    ⟨moved, hpay, rfl⟩, w, v, hconclude, hend⟩ := h
  obtain ⟨visit, rfl, rfl, rfl, rfl, rfl, hevent, rfl, rfl⟩ :=
    visit_of_steps huser hvault hsigns hload hopen hconclude hend
  -- The pool that was passed is the one derived for the vault, and the feed the one bound to it.
  rw [hpool] at hpay
  rw [← hbound] at hfeed
  exact ⟨{
    visit with
    feed := feed.value
    announces := hevent
    feed_loads := hfeed
    settles := hsettle
    pays := hpay }⟩

/-- The steps that a borrow and a payback take make a visit that moves debt. -/
theorem debtVisit_of_steps {found : DebtSite} {settlement : Settlement} {moved : Bank}
    {event : LendingEvent Address} {u v : Session} {w : Unit}
    (hfound : Yields (debtSite call) s found u)
    (hconclude : Yields (conclude found.site settlement.next) { u with bank := moved } w v)
    (hend : t = { v with events := v.events ++ [.lending event] }) :
    ∃ visit : DebtVisit call s t, visit.settlement = settlement ∧ visit.moved = moved ∧
      visit.event = event ∧ u = { s with bank := visit.opened } ∧
      found = ⟨⟨visit.user, ⟨visit.home, visit.vault⟩,
          ⟨.position visit.home visit.user, visit.position⟩⟩,
        visit.feed.answer.snapshot call.now, .debtVault visit.home, visit.wallet⟩ := by
  simp only [debtSite, boundFeed, Tx.yields_bind, Tx.yields_pure, Tx.yields_check,
    Call.yields_signer, Call.yields_load, Call.yields_pending, Call.yields_program,
    Call.yields_mutable, Call.yields_derivedWith, Call.yields_hasOne,
    and_assoc, exists_and_left, exists_eq_left, exists_const] at hfound
  obtain ⟨user, huser, hsigns, ⟨home, vault⟩, hvault, hload, position, -, feed, -, hfeed, pool, -,
    hpoolTokens, wallet, hwallet, hwalletTokens, -, -, -, -, loaded, u', hopen, -, -, -, -, hbound,
    hpool, hderived, -, -, -, -, -, hmint, rfl, rfl⟩ := hfound
  obtain ⟨visit, rfl, rfl, rfl, rfl, rfl, rfl, rfl, rfl⟩ :=
    visit_of_steps huser hvault hsigns hload hopen hconclude hend
  -- The pool that was passed is the one derived for the vault, and the feed the one bound to it.
  rw [hderived] at hpoolTokens hpool
  rw [← hbound] at hfeed
  let debtVisit : DebtVisit call s t :=
    { visit with
      feed := feed.value
      wallet := wallet.address
      pool_tokens := pool.value
      wallet_tokens := wallet.value
      feed_loads := hfeed
      pool_eq := hpool
      pool_loads := hpoolTokens
      wallet_role := hwallet
      wallet_loads := hwalletTokens
      wallet_mint := hmint }
  refine ⟨debtVisit, rfl, rfl, rfl, rfl, ?_⟩
  rw [hderived]

/-- What a borrow did. -/
theorem borrow_run (h : Yields (borrow call amount) s () t) :
    Nonempty (BorrowRun call amount s t) := by
  simp only [borrow, settled, Tx.yields_bind, Tx.yields_liftCause, Tx.yields_invokeOr,
    Tx.yields_emit, mapError_eq_ok_iff, and_assoc, exists_and_left, exists_eq_left] at h
  obtain ⟨found, u, hfound, settlement, hsettle, _, _, ⟨moved, hpay, rfl⟩, w, v, hconclude,
    hend⟩ := h
  obtain ⟨visit, rfl, rfl, hevent, rfl, rfl⟩ := debtVisit_of_steps hfound hconclude hend
  exact ⟨{ visit with announces := hevent, settles := hsettle, pays := hpay }⟩

/-- What a payback did. -/
theorem payback_run (h : Yields (payback call amount) s () t) :
    Nonempty (PaybackRun call amount s t) := by
  simp only [payback, settled, Tx.yields_bind, Tx.yields_liftCause, Tx.yields_invokeOr,
    Tx.yields_emit, mapError_eq_ok_iff, and_assoc, exists_and_left, exists_eq_left] at h
  obtain ⟨found, u, hfound, settlement, hsettle, _, _, ⟨moved, hpay, rfl⟩, w, v, hconclude,
    hend⟩ := h
  obtain ⟨visit, rfl, rfl, hevent, rfl, rfl⟩ := debtVisit_of_steps hfound hconclude hend
  exact ⟨{ visit with announces := hevent, settles := hsettle, pays := hpay }⟩

/-- What a liquidation did. -/
theorem liquidate_run (h : Yields (liquidate call) s () t) :
    Nonempty (LiquidateRun call s t) := by
  simp only [liquidate, settled, boundFeed, Tx.yields_bind, Tx.yields_liftCause, Tx.yields_check,
    Tx.yields_emit, Tx.yields_log, Tx.yields_save, Call.yields_signer, Call.yields_load,
    Call.yields_required, Call.yields_mutable, Call.yields_derivedWith, Call.yields_hasOne,
    mapError_eq_ok_iff, someOr_eq_ok_iff, and_assoc, exists_and_left, exists_eq_left,
    exists_const] at h
  obtain ⟨admin, hrole, hsigns, ⟨home, vault⟩, hvault, hload, owner, howner, ⟨address, position⟩, -,
    hposition, ⟨feedAddress, feed⟩, -, hfeed, -, -, hbound, hderived, hbump, -, -, hhome,
    liquidation, hsettle, _, htrack, seized, hseize, rfl⟩ := h
  -- The feed that was passed is the one bound to the vault, and the position the one derived.
  simp only at hbound hderived
  subst hbound hderived
  exact ⟨{
    admin := admin
    home := home
    vault := vault
    owner := owner
    position := position
    feed := feed
    liquidation := liquidation
    totals := (vault.totals.move position.record .zero).1
    seized := seized
    admin_role := hrole
    signs := hsigns
    vault_role := hvault
    loads := hload
    account_role := howner
    position_loads := hposition
    position_bump := hbump
    position_vault := hhome
    feed_loads := hfeed
    settles := hsettle
    tracks := Prod.ext rfl htrack
    seizes := hseize
    ends := rfl }⟩

/-- What opening a vault did. -/
theorem openVault_run (h : Yields (openVault call) s () t) : Nonempty (OpenVaultRun call s t) := by
  simp only [openVault, Tx.yields_bind, Tx.yields_account, Call.yields_signer, Call.yields_load,
    Call.yields_pending, Call.yields_systemAccount, Call.yields_program, Call.yields_rent,
    Call.yields_mutable, Call.yields_derived, and_assoc, exists_and_left, exists_eq_left,
    exists_const] at h
  obtain ⟨admin, -, hsigns, vault, hvault, ⟨debtMint, mint⟩, -, -, debtVault, -, pool, -, howner,
    ⟨priceFeed, feed⟩, -, -, -, -, -, -, -, -, _, u₁, hrecord, _, u₂, htoken, -, -, hpool, -, -,
    h⟩ := h
  obtain ⟨rfl, made, hmade, rfl⟩ := Call.makes_of_createRecord hrecord
  obtain ⟨rfl, pooled, hpooled, rfl⟩ := Call.makes_of_createToken htoken
  subst hpool
  -- The admin pays in only when the pool lacks something.
  have hreserve : ∃ reserved,
      Reserves call admin (.collateral (.vault debtMint))
        (Tokens.openAccount (.debtVault (.vault debtMint)) debtMint (.vault debtMint) pooled)
        reserved ∧
      t = { bank := reserved.write .vault (.vault debtMint) (openedVault admin debtMint priceFeed)
            events := s.events
            log := s.log ++ [.vaultOpened debtMint priceFeed] } := by
    unfold Reserves
    split at h
    · rename_i hmissing
      simp only [Tx.yields_bind, Tx.yields_invoke, Tx.yields_log, Tx.yields_save] at h
      obtain ⟨_, _, ⟨reserved, hpay, rfl⟩, _, _, rfl, rfl⟩ := h
      exact ⟨reserved, (if_pos hmissing).mpr hpay, rfl⟩
    · rename_i hmissing
      simp only [Tx.yields_bind, Tx.yields_log, Tx.yields_save] at h
      obtain ⟨_, _, rfl, rfl⟩ := h
      exact ⟨_, (if_neg hmissing).mpr rfl, rfl⟩
  obtain ⟨reserved, hreserved, hend⟩ := hreserve
  exact ⟨{
    admin := admin
    debtMint := debtMint
    priceFeed := priceFeed
    made := made
    pooled := pooled
    reserved := reserved
    signs := hsigns
    vault_role := hvault
    pool_owner := howner
    makes := hmade
    makes_pool := hpooled
    reserves := hreserved
    ends := hend }⟩

end CollateralLending.LendingProgram
