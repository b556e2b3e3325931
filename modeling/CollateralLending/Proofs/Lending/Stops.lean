/-
  CollateralLending.Proofs.Lending.Stops

  Where an instruction of the lending program stops when it is refused for a
  reason of its own: at its settlement, at its transfer, or at the totals of the
  vault (`Stops`); a liquidation also where it counts the seized collateral
  (`LiquidateStops`). There is one `_refused` lemma for each instruction that
  users leave by, and one for deposits.
-/
import CollateralLending.Proofs.Chain.LendingProgram
import CollateralLending.Proofs.Chain.Failures

namespace CollateralLending

namespace LendingProgram

open Tx (Yields Refuses)

/-! ## Operations of a user -/

/-- A user at a vault, with the position opened: an operation that has come to its settlement. -/
structure Approach (call : Call) (s : Session) where
  user : Address
  /-- The address of the vault. -/
  home : Address
  vault : Vault Address Bump
  position : UserPosition Address Bump
  /-- The accounts after the position was opened. -/
  opened : Bank
  user_role : call.address? .user = some user
  vault_role : call.address? .vault = some home
  signs : call.signs user = true
  loads : AccountKind.vault.load (s.bank.get home) = .ok vault
  opens : Opens call user home s.bank opened position

/-- An operation stops at its settlement, at its transfer, or at the totals of the vault. -/
inductive Stops (vault : Vault Address Bump) (record : Record)
    (settled : Except LendingError Settlement) (paid : Except ProgramError Bank) :
    LendingError → Prop where
  | settlement {error : LendingError} (refused : settled = .error error) :
      Stops vault record settled paid error
  | transfer {settlement : Settlement} {fault : ProgramError} (settles : settled = .ok settlement)
      (refused : paid = .error fault) : Stops vault record settled paid .transferFailed
  | totals {settlement : Settlement} {moved : Bank} {error : LendingError}
      (settles : settled = .ok settlement) (pays : paid = .ok moved)
      (refused : (vault.totals.move record settlement.next).2 = .error error) :
      Stops vault record settled paid error

variable {call : Call} {amount : Amount} {s t : Session} {error : LendingError}

/-- The ways in which the steps behind the accounts are refused, one after the other, are the places
to stop. -/
theorem stops_of_cases {vault : Vault Address Bump} {record : Record}
    {settled : Except LendingError Settlement} {paid : Except ProgramError Bank}
    {after : Bank → Session}
    (h : settled = .error error ∨ ∃ settlement, settled = .ok settlement ∧
      ((∃ fault, paid = .error fault) ∧ LendingError.transferFailed = error ∨
        ∃ u, (∃ moved, paid = .ok moved ∧ u = after moved) ∧
          (vault.totals.move record settlement.next).2 = .error error)) :
    Stops vault record settled paid error := by
  rcases h with hrefused | ⟨settlement, hsettles, ⟨⟨fault, hfault⟩, rfl⟩ |
    ⟨u, ⟨moved, hpays, -⟩, hrefused⟩⟩
  · exact .settlement hrefused
  · exact .transfer hsettles hfault
  · exact .totals hsettles hpays hrefused

/-- Opening a position is refused for no reason of the lending program. -/
theorem refuses_userPosition {user home position : Address} :
    Refuses (userPosition call user home position) s error ↔ False := by
  have hown : (Cause.lending error).isOwn = true := rfl
  have hvalue : ∀ u, ¬ Refuses (positionValue call user position) u error := by
    intro u h
    simp only [positionValue, Tx.fails_bind, Tx.fails_account, false_or] at h
    obtain ⟨account, v, -, h⟩ := h
    split at h
    · simp only [Tx.fails_bind, Call.fails_create hown, Tx.fails_pure, and_false, exists_false,
        or_false] at h
    · have hneutral := AccountKind.position_neutral account _ (Tx.fails_liftCause.1 h)
      rw [hown] at hneutral
      cases hneutral
  simp only [userPosition, Tx.fails_bind, Call.fails_derived hown, hvalue, Tx.fails_account,
    Tx.fails_check, Call.fails_created hown, Tx.fails_pure, Failure.account, reduceCtorEq,
    and_false, exists_false, or_false]

/-- The only reason about the price feed is that it is not the one the vault is bound to. -/
theorem refuses_boundFeed {vault : Loaded (Vault Address Bump)} {feed : Address} :
    Refuses (boundFeed vault feed) s error ↔
      vault.value.priceFeed ≠ feed ∧ LendingError.invalidOracle = error := by
  simp only [boundFeed, Tx.fails_check, Cause.lending.injEq, ne_eq]

theorem yields_boundFeed {vault : Loaded (Vault Address Bump)} {feed : Address} {u : Unit} :
    Yields (boundFeed vault feed) s u t ↔ vault.value.priceFeed = feed ∧ t = s :=
  Tx.yields_check

/-- A settlement is refused as its rule says. -/
theorem refuses_settled {α : Type} {settlement : Consultation α} :
    Refuses (settled settlement) s error ↔ settlement.result = .error error := by
  simp only [settled, Tx.fails_liftCause, mapError_eq_error_iff, Cause.lending.injEq,
    exists_eq_right]

theorem yields_settled {α : Type} {settlement : Consultation α} {a : α} :
    Yields (settled settlement) s a t ↔ settlement.result = .ok a ∧ t = s := by
  simp only [settled, Tx.yields_liftCause, mapError_eq_ok_iff]

/-- Concluding an operation is refused where the totals cannot be moved. -/
theorem refuses_conclude {site : Site} {next : Record} :
    Refuses (conclude site next) s error ↔
      (site.vault.value.totals.move site.position.value.record next).2 = .error error := by
  unfold conclude
  cases site.vault.value.totals.move site.position.value.record next with
  | mk totals tracked =>
      simp only [Tx.fails_bind, Tx.fails_liftCause, mapError_eq_error_iff,
        Cause.lending.injEq, exists_eq_right, Tx.fails_save, and_false, exists_false, or_false]

/-- The accounts that every operation of a user takes make an approach. -/
theorem approach_of_steps {user home position : Address} {vault : Vault Address Bump}
    {loaded : Loaded (UserPosition Address Bump)} (huser : call.address? .user = some user)
    (hvault : call.address? .vault = some home) (hsigns : call.signs user = true)
    (hload : AccountKind.vault.load (s.bank.get home) = .ok vault)
    (hopen : Yields (userPosition call user home position) s loaded t) :
    ∃ approach : Approach call s, approach.user = user ∧ approach.home = home ∧
      approach.vault = vault ∧ loaded = ⟨.position home user, approach.position⟩ ∧
      t = { s with bank := approach.opened } := by
  obtain ⟨rfl, opened, value, rfl, hopens, rfl⟩ := opens_of_userPosition hopen
  let approach : Approach call s :=
    { user := user
      home := home
      vault := vault
      position := value
      opened := opened
      user_role := huser
      vault_role := hvault
      signs := hsigns
      loads := hload
      opens := hopens }
  exact ⟨approach, rfl, rfl, rfl, rfl, rfl⟩

/-- A deposit that is refused was refused at its settlement, at the transfer into the pool, or at
the totals. -/
theorem deposit_refused (h : Refuses (deposit call amount) s error) :
    ∃ approach : Approach call s,
      Stops approach.vault approach.position.record (approach.position.record.deposit amount)
        (System.transfer call.signs approach.user (.collateral approach.home) amount.toNat
          approach.opened) error := by
  have hown : (Cause.lending error).isOwn = true := rfl
  simp only [deposit, Tx.fails_bind, Call.fails_signer hown,
    Call.fails_load hown AccountKind.vault_neutral, Call.fails_pending hown,
    Call.fails_systemAccount hown, Call.fails_program hown, refuses_userPosition,
    Call.fails_mutable hown, Call.fails_derivedWith hown, refuses_settled, Tx.fails_invokeOr,
    refuses_conclude, Tx.fails_emit, false_or, and_false, exists_false, or_false,
    Call.yields_signer, Call.yields_load, Call.yields_pending, Call.yields_systemAccount,
    Call.yields_program, Call.yields_mutable, Call.yields_derivedWith, yields_settled,
    Tx.yields_invokeOr, transferFailed, Cause.lending.injEq, and_assoc, exists_and_left,
    exists_eq_left, exists_const] at h
  obtain ⟨user, huser, hsigns, ⟨home, vault⟩, hvault, hload, position, -, pool, -, -, -, -, loaded,
    u, hopen, -, -, -, -, rfl, -, -, -, h⟩ := h
  obtain ⟨approach, rfl, rfl, rfl, rfl, rfl⟩ := approach_of_steps huser hvault hsigns hload hopen
  exact ⟨approach, stops_of_cases h⟩

/-- A withdrawal that is refused has the wrong price feed, or was refused at its settlement, at the
transfer out of the pool, or at the totals. -/
theorem withdraw_refused (h : Refuses (withdraw call amount) s error) :
    error = .invalidOracle ∨ ∃ (approach : Approach call s) (feed : PriceFeed Address Bump),
      AccountKind.feed.load (s.bank.get approach.vault.priceFeed) = .ok feed ∧
      Stops approach.vault approach.position.record
        (approach.position.record.withdraw (feed.answer.snapshot call.now) amount).result
        (System.transfer
          (call.signsWith (.collateral approach.home) approach.vault.collateralBump)
          (.collateral approach.home) approach.user amount.toNat approach.opened) error := by
  have hown : (Cause.lending error).isOwn = true := rfl
  simp only [withdraw, Tx.fails_bind, Call.fails_signer hown,
    Call.fails_load hown AccountKind.vault_neutral, Call.fails_load hown AccountKind.feed_neutral,
    Call.fails_pending hown, Call.fails_systemAccount hown, Call.fails_program hown,
    refuses_userPosition, Call.fails_mutable hown, refuses_boundFeed, Call.fails_derivedWith hown,
    refuses_settled, Tx.fails_invokeOr, refuses_conclude, Tx.fails_emit, false_or, and_false,
    exists_false, or_false, Call.yields_signer, Call.yields_load, Call.yields_pending,
    Call.yields_systemAccount, Call.yields_program, Call.yields_mutable, yields_boundFeed,
    Call.yields_derivedWith, yields_settled, Tx.yields_invokeOr, transferFailed,
    Cause.lending.injEq, and_assoc, exists_and_left, exists_eq_left, exists_const] at h
  obtain ⟨user, huser, hsigns, ⟨home, vault⟩, hvault, hload, position, -, feed, -, hfeed, pool, -,
    -, -, -, loaded, u, hopen, -, -, -, -, ⟨-, rfl⟩ | ⟨hbound, rfl, -, -, -, h⟩⟩ := h
  · exact .inl rfl
  · obtain ⟨approach, rfl, rfl, rfl, rfl, rfl⟩ := approach_of_steps huser hvault hsigns hload hopen
    rw [← hbound] at hfeed
    exact .inr ⟨approach, feed.value, hfeed, stops_of_cases h⟩

/-- The accounts of a borrow or a payback are refused for the price feed, or for a wallet of another
token. -/
theorem refuses_debtSite (h : Refuses (debtSite call) s error) :
    error = .invalidOracle ∨ error = .transferFailed := by
  have hown : (Cause.lending error).isOwn = true := rfl
  simp only [debtSite, Tx.fails_bind, Call.fails_signer hown,
    Call.fails_load hown AccountKind.vault_neutral, Call.fails_load hown AccountKind.feed_neutral,
    Call.fails_load hown AccountKind.token_neutral, Call.fails_pending hown,
    Call.fails_program hown, refuses_userPosition, Call.fails_mutable hown, refuses_boundFeed,
    Call.fails_hasOne hown, Call.fails_derivedWith hown, Tx.fails_check, Tx.fails_pure,
    transferFailed, Cause.lending.injEq, false_or, and_false, exists_false, or_false] at h
  grind

/-- The accounts of a borrow or a payback make an approach, with the feed that the vault is bound
to. -/
theorem approach_of_debtSite {found : DebtSite} (h : Yields (debtSite call) s found t) :
    ∃ (approach : Approach call s) (feed : PriceFeed Address Bump) (pool wallet : Address),
      AccountKind.feed.load (s.bank.get approach.vault.priceFeed) = .ok feed ∧
      t = { s with bank := approach.opened } ∧
      found = ⟨⟨approach.user, ⟨approach.home, approach.vault⟩,
          ⟨.position approach.home approach.user, approach.position⟩⟩,
        feed.answer.snapshot call.now, pool, wallet⟩ := by
  simp only [debtSite, Tx.yields_bind, Tx.yields_pure, Tx.yields_check, yields_boundFeed,
    Call.yields_signer, Call.yields_load, Call.yields_pending, Call.yields_program,
    Call.yields_mutable, Call.yields_derivedWith, Call.yields_hasOne, and_assoc, exists_and_left,
    exists_eq_left, exists_const] at h
  obtain ⟨user, huser, hsigns, ⟨home, vault⟩, hvault, hload, position, -, feed, -, hfeed, pool, -,
    -, wallet, -, -, -, -, -, -, loaded, u, hopen, -, -, -, -, hbound, -, -, -, -, -, -, -, -, rfl,
    rfl⟩ := h
  obtain ⟨approach, rfl, rfl, rfl, rfl, rfl⟩ := approach_of_steps huser hvault hsigns hload hopen
  rw [← hbound] at hfeed
  exact ⟨approach, feed.value, pool.address, wallet.address, hfeed, rfl, rfl⟩

/-- A payback that is refused has the wrong price feed or wallet, or was refused at its settlement,
at the transfer or at the totals. -/
theorem payback_refused (h : Refuses (payback call amount) s error) :
    error = .invalidOracle ∨ error = .transferFailed ∨
      ∃ (approach : Approach call s) (feed : PriceFeed Address Bump)
        (paid : Except ProgramError Bank),
        AccountKind.feed.load (s.bank.get approach.vault.priceFeed) = .ok feed ∧
        Stops approach.vault approach.position.record
          (approach.position.record.payBack (feed.answer.snapshot call.now) amount).result paid
          error := by
  simp only [payback, Tx.fails_bind, refuses_settled, Tx.fails_invokeOr, refuses_conclude,
    Tx.fails_emit, and_false, exists_false, or_false, yields_settled, Tx.yields_invokeOr,
    transferFailed, Cause.lending.injEq, and_assoc, exists_and_left, exists_eq_left,
    exists_const] at h
  rcases h with h | ⟨found, u, hfound, h⟩
  · rcases refuses_debtSite h with rfl | rfl
    · exact .inl rfl
    · exact .inr (.inl rfl)
  · obtain ⟨approach, feed, pool, wallet, hfeed, rfl, rfl⟩ := approach_of_debtSite hfound
    exact .inr (.inr ⟨approach, feed, _, hfeed, stops_of_cases h⟩)

/-! ## Liquidations -/

/-- An admin at a position: a liquidation that has come to its settlement. -/
structure LiquidateApproach (call : Call) (s : Session) where
  admin : Address
  /-- The address of the vault. -/
  home : Address
  vault : Vault Address Bump
  /-- Whose position it is. -/
  owner : Address
  position : UserPosition Address Bump
  feed : PriceFeed Address Bump
  loads : AccountKind.vault.load (s.bank.get home) = .ok vault
  position_loads : AccountKind.position.load (s.bank.get (.position home owner)) = .ok position
  feed_loads : AccountKind.feed.load (s.bank.get vault.priceFeed) = .ok feed

/-- A liquidation stops at its settlement, at the totals of the vault, or where the seized
collateral is counted. -/
inductive LiquidateStops (approach : LiquidateApproach call s) : LendingError → Prop where
  | settlement {error : LendingError}
      (refused : (approach.position.record.liquidate approach.admin approach.vault.admin
        (approach.feed.answer.snapshot call.now)).result = .error error) :
      LiquidateStops approach error
  | totals {error : LendingError}
      (refused : (approach.vault.totals.move approach.position.record .zero).2 = .error error) :
      LiquidateStops approach error
  | seized {liquidation : Liquidation}
      (settles : (approach.position.record.liquidate approach.admin approach.vault.admin
        (approach.feed.answer.snapshot call.now)).result = .ok liquidation)
      (refused : approach.vault.seizedCollateral.add? liquidation.seizedCollateral = none) :
      LiquidateStops approach .mathOverflow

/-- A liquidation that is refused has the wrong price feed, or was refused at its settlement, at the
totals, or where the seized collateral is counted. -/
theorem liquidate_refused (h : Refuses (liquidate call) s error) :
    error = .invalidOracle ∨
      ∃ approach : LiquidateApproach call s, LiquidateStops approach error := by
  have hown : (Cause.lending error).isOwn = true := rfl
  simp only [liquidate, Tx.fails_bind, Call.fails_signer hown, Call.fails_required hown,
    Call.fails_load hown AccountKind.vault_neutral, Call.fails_load hown AccountKind.feed_neutral,
    Call.fails_load hown AccountKind.position_neutral, Call.fails_mutable hown, refuses_boundFeed,
    Call.fails_derivedWith hown, Call.fails_hasOne hown, refuses_settled, Tx.fails_liftCause,
    mapError_eq_error_iff, someOr_eq_error_iff, Tx.fails_log, Tx.fails_emit, Tx.fails_save,
    false_or, and_false, exists_false, or_false, Call.yields_signer, Call.yields_required,
    Call.yields_load, Call.yields_mutable, yields_boundFeed, Call.yields_derivedWith,
    Call.yields_hasOne, yields_settled, Tx.yields_liftCause, mapError_eq_ok_iff,
    Cause.lending.injEq, exists_eq_right, and_assoc, exists_and_left, exists_eq_left,
    exists_const] at h
  obtain ⟨admin, -, -, ⟨home, vault⟩, -, hload, owner, -, ⟨address, position⟩, -, hposition,
    ⟨feedAddress, feed⟩, -, hfeed, -, -, ⟨-, rfl⟩ | ⟨hbound, hderived, -, -, -, -, h⟩⟩ := h
  · exact .inl rfl
  · simp only at hderived hbound
    subst hderived hbound
    let approach : LiquidateApproach call s :=
      { admin := admin
        home := home
        vault := vault
        owner := owner
        position := position
        feed := feed
        loads := hload
        position_loads := hposition
        feed_loads := hfeed }
    rcases h with hsettle | ⟨liquidation, hsettle, htotals | ⟨_, -, hseized, rfl⟩⟩
    · exact .inr ⟨approach, .settlement hsettle⟩
    · exact .inr ⟨approach, .totals htotals⟩
    · exact .inr ⟨approach, .seized hsettle hseized⟩

end LendingProgram

end CollateralLending
