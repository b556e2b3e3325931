/-
  CollateralLending.Proofs.Lending.Effect

  What an instruction that goes through does to the books of the lending
  program and to the collateral pools (`Effect`): nothing, when it is one of
  another program; otherwise it opens a vault, posts a record for the user who
  signs, or wipes a position for the admin who signs.

  Main statement: `effect_of_run`. All that follows about vaults and positions
  is a case analysis on `Effect`.
-/
import CollateralLending.Proofs.Chain.FeedProgram
import CollateralLending.Proofs.Chain.ShareProgram
import CollateralLending.Proofs.Lending.Pools
import CollateralLending.Proofs.Lending.Settlements

namespace CollateralLending

/-! ## Effects -/

/-- Whether a user asks for it with a position of its own. -/
def Instruction.isOperation : Instruction → Bool
  | deposit _ | borrow _ | payback _ | withdraw _ => true
  | openFeed _ | setAnswer _ | setStaleness _ | openVault | liquidate | openShareVault _
  | depositUnderlying _ | withdrawUnderlying _ | setExchangeRate _ => false

open Bank

/-- What an instruction does to books and pools. What it does to pools holds where only keys
sign. -/
inductive Effect (call : Call) (before after : Bank) : Instruction → Prop where
  | aside {instruction : Instruction}
      (other : instruction.program ≠ .lendingProgram)
      (aside : Aside call before after) :
      Effect call before after instruction
  | opens {admin debtMint priceFeed : Address}
      (role : call.address? .vault = some (.vault debtMint))
      (signs : call.signs admin = true)
      (opening : Opening before after (.vault debtMint)
        (LendingProgram.openedVault admin debtMint priceFeed))
      (pool : call.KeysSign → before.IdlePools → PoolMove before after (.vault debtMint) 0
        (Rent.minimum 0 - before.pooled (.vault debtMint))) :
      Effect call before after .openVault
  | operates {instruction : Instruction} {home user : Address} {vault : Vault Address Bump}
      {totals : Totals} {next : Record}
      (operation : instruction.isOperation = true)
      (role : call.address? .vault = some home)
      (user_role : call.address? .user = some user)
      (signs : call.signs user = true)
      (tracks : vault.totals.move (before.record home user) next = (totals, .ok ()))
      (posting : Posting before after home user vault { vault with totals := totals } next)
      (pool : call.KeysSign → before.IdlePools → PoolMove before after home
        (before.record home user).deposited.toNat next.deposited.toNat) :
      Effect call before after instruction
  | liquidates {home owner : Address} {vault : Vault Address Bump}
      {feed : PriceFeed Address Bump} {quote : Quote} {totals : Totals} {seized : Amount}
      (role : call.address? .vault = some home)
      (signs : call.signs vault.admin = true)
      (feed_loads : before.find? .feed vault.priceFeed = some feed)
      (quotes : (feed.answer.snapshot call.now).currentQuote.result = .ok quote)
      (uncovered : (before.record home owner).deposited.toNat <
        (quote.wide (before.record home owner).debt).toNat)
      (tracks : vault.totals.move (before.record home owner) .zero = (totals, .ok ()))
      (seizes : seized.toNat =
        vault.seizedCollateral.toNat + (before.record home owner).deposited.toNat)
      (posting : Posting before after home owner vault
        { vault with totals := totals, seizedCollateral := seized } .zero)
      (pools : call.KeysSign → before.IdlePools → SamePools before after) :
      Effect call before after .liquidate

variable {call : Call} {s t : Session}

/-! ## Instructions of other programs -/

namespace FeedProgram

theorem OpenFeedRun.aside {terms : FeedTerms} (run : OpenFeedRun call terms s t) :
    Aside call s.bank t.bank := by
  have howner := (made_of_establish run.makes).owner
  rw [run.ends]
  exact (aside_of_makes run.makes run.signs (by simp)).trans
    (aside_of_write AccountKind.feed_lawful howner (by decide))

theorem FeedVisit.aside (visit : FeedVisit call s t) : Aside call s.bank t.bank := by
  have howner := owner_of_find? AccountKind.feed_lawful (find?_of_load visit.loads)
  rw [visit.writes]
  exact aside_of_write AccountKind.feed_lawful howner (by decide)

end FeedProgram

namespace ShareProgram

theorem OpenShareVaultRun.aside {rate : Wide} (run : OpenShareVaultRun call rate s t) :
    Aside call s.bank t.bank := by
  have hmade := made_of_establish run.makes
  have hminted := made_of_establish run.makes_mint
  have hpooled := made_of_establish run.makes_pool
  rw [run.ends]
  refine (aside_of_makes run.makes run.signs (by simp)).trans
    ((aside_of_makes_put run.makes_mint run.signs (by simp)).trans
      ((aside_of_makes_put run.makes_pool run.signs (by simp)).trans
        (aside_of_write AccountKind.shareVault_lawful ?_ (by decide))))
  -- The share vault's own account was made first; the two others do not touch it.
  rw [owner_put, hpooled.owner_of_ne (by simp), Tokens.openMint, owner_put,
    hminted.owner_of_ne (by simp)]
  exact hmade.owner

theorem Opens.sameRecords {user mint : Address} {bank opened : Bank}
    (h : Opens call user mint bank opened) : SameRecords bank opened := by
  cases h with
  | known => exact .refl bank
  | fresh made =>
      simp only [Tokens.createAssociated, bind_eq_ok_iff, pure_eq_ok_iff] at made
      obtain ⟨_, -, middle, hmakes, rfl⟩ := made
      -- The account is made for the token program, and set up by it after that.
      have hmade := made_of_establish hmakes
      exact hmade.sameRecords.trans (sameRecords_put hmade.owner)

theorem Opens.aside {user mint : Address} {bank opened : Bank}
    (h : Opens call user mint bank opened) (hsigns : call.signs user = true) :
    Aside call bank opened := by
  cases h with
  | known => exact .refl call bank
  | fresh made =>
      simp only [Tokens.createAssociated, bind_eq_ok_iff, pure_eq_ok_iff] at made
      obtain ⟨_, -, middle, hmakes, rfl⟩ := made
      exact aside_of_makes_put hmakes hsigns (by simp)

/-- The share vault is there when it is written back, whatever tokens moved before. -/
theorem Visit.aside_write (visit : Visit call s) {bank : Bank} (hsame : SameRecords s.bank bank)
    (next : ShareVault Address Bump) :
    Aside call bank (bank.write .shareVault visit.home next) := by
  have hvault : bank.find? .shareVault visit.home = some visit.vault := by
    rw [hsame.find? AccountKind.shareVault_lawful]
    exact find?_of_load visit.loads
  exact aside_of_write AccountKind.shareVault_lawful
    (owner_of_find? AccountKind.shareVault_lawful hvault) (by decide)

theorem DepositRun.aside {amount : Amount} (run : DepositRun call amount s t) :
    Aside call s.bank t.bank := by
  have hpaid := retokened_of_transfer run.pays
  have hminted := retokened_of_mintTo run.mints
  have hsame : SameRecords s.bank run.minted :=
    run.opens.sameRecords.trans (hpaid.trans hminted).sameRecords
  rw [run.ends]
  exact (run.opens.aside run.signs).trans
    (((hpaid.trans hminted).aside call).trans (run.aside_write hsame _))

theorem WithdrawRun.aside {amount : Amount} (run : WithdrawRun call amount s t) :
    Aside call s.bank t.bank := by
  have hburned := retokened_of_burn run.burns
  have hpaid := retokened_of_transfer run.pays
  rw [run.ends]
  exact ((hburned.trans hpaid).aside call).trans
    (run.aside_write (hburned.trans hpaid).sameRecords _)

theorem SetExchangeRateRun.aside {rate : Wide} (run : SetExchangeRateRun call rate s t) :
    Aside call s.bank t.bank := by
  have howner := owner_of_find? AccountKind.shareVault_lawful (find?_of_load run.loads)
  rw [run.ends]
  exact aside_of_write AccountKind.shareVault_lawful howner (by decide)

end ShareProgram

/-! ## Operations of a user -/

namespace LendingProgram

variable {user home : Address} {bank opened : Bank} {position : UserPosition Address Bump}

/-- Opening a position leaves the books alone: a new position has the zero record, and one that is
there is bound to its owner already. -/
theorem Opens.aside (h : Opens call user home bank opened position) (horderly : bank.Orderly)
    (hsigns : call.signs user = true) :
    (opened.get (.position home user)).owner = .lendingProgram ∧ Aside call bank opened ∧
      position = ⟨user, home, bank.record home user, .canonical⟩ := by
  cases h with
  | fresh made =>
      have hmade := made_of_establish made
      have hnone : bank.find? .position (.position home user) = none := by
        refine find?_eq_none_of_owner AccountKind.position_lawful ?_
        rw [hmade.unowned]
        decide
      refine ⟨hmade.owner, aside_of_makes made hsigns (by simp), ?_⟩
      unfold Bank.record
      rw [hnone]
      rfl
  | @known value loads =>
      have hfound := find?_of_load loads
      have howner := owner_of_find? AccountKind.position_lawful hfound
      obtain ⟨haddress, hbump, -⟩ := horderly.positions _ _ hfound
      refine ⟨howner, .refl call bank, ?_⟩
      -- Binding it again to its owner changes nothing.
      unfold Bank.record
      rw [hfound]
      obtain ⟨owner, vault, record, bump⟩ := value
      simp only at haddress hbump
      cases haddress
      subst hbump
      unfold bind
      split <;> rfl

/-- The record settled on is the one that the books have for the caller. -/
theorem Visit.record_eq (visit : Visit call s t) (horderly : s.bank.Orderly) :
    visit.position.record = s.bank.record visit.home visit.user := by
  obtain ⟨-, -, hposition⟩ := visit.opens.aside horderly visit.signs
  rw [hposition]

/-- An operation posts what it settled, when moving the asset leaves the books alone. -/
theorem Visit.posting (visit : Visit call s t) (horderly : s.bank.Orderly)
    (hbooks : SameBooks visit.opened visit.moved)
    (howner : ∀ a, (visit.moved.get a).owner = (visit.opened.get a).owner) :
    t.bank = (visit.moved.write .vault visit.home
      { visit.vault with totals := visit.totals }).write .position
        (.position visit.home visit.user)
        ⟨visit.user, visit.home, visit.settlement.next, .canonical⟩ ∧
      Posting s.bank t.bank visit.home visit.user visit.vault
        { visit.vault with totals := visit.totals } visit.settlement.next := by
  obtain ⟨hopenedOwner, hopen, hposition⟩ := visit.opens.aside horderly visit.signs
  -- Moving the asset changes the owner of no account, so the position can be written.
  have hmovedOwner :
      (visit.moved.get (.position visit.home visit.user)).owner = .lendingProgram := by
    rw [howner]
    exact hopenedOwner
  have hbank := congrArg Session.bank visit.ends
  rw [hposition] at hbank
  refine ⟨hbank, ?_⟩
  rw [hbank]
  exact posting_of_writes horderly (hopen.books.trans hbooks)
    (find?_of_load visit.loads) hmovedOwner

/-- An operation that went through posted its settlement, with the pool moved as it says. -/
theorem Visit.effect (visit : Visit call s t) (horderly : s.bank.Orderly)
    {instruction : Instruction} (hoperation : instruction.isOperation = true)
    (hbooks : SameBooks visit.opened visit.moved)
    (howner : ∀ a, (visit.moved.get a).owner = (visit.opened.get a).owner)
    (hpool : call.KeysSign → visit.opened.IdlePools → PoolMove visit.opened visit.moved visit.home
      visit.position.record.deposited.toNat visit.settlement.next.deposited.toNat) :
    Effect call s.bank t.bank instruction := by
  have hrecord := visit.record_eq horderly
  have hseat := horderly.vaults _ _ (find?_of_load visit.loads)
  obtain ⟨-, hopen, -⟩ := visit.opens.aside horderly visit.signs
  obtain ⟨hbank, hposting⟩ := visit.posting horderly hbooks howner
  have htrack := visit.tracks
  rw [hrecord] at htrack
  refine .operates hoperation visit.vault_role visit.user_role visit.signs htrack hposting ?_
  intro hkeys hidle
  -- Opening the position and writing both accounts back touches no pool.
  have hbefore := hopen.pools hkeys hidle
  have hmove := hpool hkeys (hbefore.idlePools hidle)
  rw [hrecord] at hmove
  have hafter : SamePools visit.moved t.bank := by
    rw [hbank]
    exact (samePools_write hseat.collateral_ne).trans (samePools_write (by simp))
  exact .between hbefore hmove hafter

theorem DepositRun.effect {amount : Amount} (run : DepositRun call amount s t)
    (horderly : s.bank.Orderly) : Effect call s.bank t.bank (.deposit amount) := by
  have hpaid := (paid_of_transfer run.pays).2.2
  obtain ⟨-, hdeposited, -⟩ := Record.deposit_eq_ok_iff.1 run.settles
  refine run.toVisit.effect horderly rfl hpaid.sameRecords.sameBooks hpaid.owner ?_
  intro hkeys _
  have hmove := hpaid.poolMove_into (hkeys.collateral_ne run.signs)
  have hlamports := hmove.lamports
  exact { hmove with lamports := by omega }

theorem WithdrawRun.effect {amount : Amount} (run : WithdrawRun call amount s t)
    (horderly : s.bank.Orderly) : Effect call s.bank t.bank (.withdraw amount) := by
  have hpaid := (paid_of_transfer run.pays).2.2
  obtain ⟨-, -, hdeposited, -⟩ := Record.withdraw_eq_ok_iff.1 run.settles
  refine run.toVisit.effect horderly rfl hpaid.sameRecords.sameBooks hpaid.owner ?_
  intro hkeys _
  have hmove := hpaid.poolMove_from (hkeys.collateral_ne run.signs)
  have hlamports := hmove.lamports
  exact { hmove with lamports := by omega }

/-- A borrow or a payback moves tokens only, so no pool of lamports changes. -/
theorem DebtVisit.effect (visit : DebtVisit call s t) (horderly : s.bank.Orderly)
    {instruction : Instruction} (hoperation : instruction.isOperation = true)
    (hmoved : Retokened visit.opened visit.moved)
    (hdeposited : visit.settlement.next.deposited = visit.position.record.deposited) :
    Effect call s.bank t.bank instruction := by
  refine visit.toVisit.effect horderly hoperation hmoved.sameRecords.sameBooks hmoved.owner ?_
  intro _ hidle
  rw [hdeposited]
  exact (hmoved.samePools hidle).poolMove _ _

theorem BorrowRun.effect {amount : Amount} (run : BorrowRun call amount s t)
    (horderly : s.bank.Orderly) : Effect call s.bank t.bank (.borrow amount) := by
  obtain ⟨-, quote, -, -, -, hdeposited, -⟩ := Record.borrow_eq_ok_iff.1 run.settles
  exact run.toDebtVisit.effect horderly rfl (retokened_of_transfer run.pays) hdeposited

theorem PaybackRun.effect {amount : Amount} (run : PaybackRun call amount s t)
    (horderly : s.bank.Orderly) : Effect call s.bank t.bank (.payback amount) := by
  obtain ⟨-, quote, -, -, -, hdeposited⟩ := Record.payBack_eq_ok_iff.1 run.settles
  exact run.toDebtVisit.effect horderly rfl (retokened_of_transfer run.pays) hdeposited

/-! ## Liquidations and new vaults -/

theorem LiquidateRun.record_eq (run : LiquidateRun call s t) :
    s.bank.record run.home run.owner = run.position.record := by
  unfold Bank.record
  rw [find?_of_load run.position_loads]
  rfl

theorem LiquidateRun.owner_eq (run : LiquidateRun call s t) (horderly : s.bank.Orderly) :
    run.position.owner = run.owner := by
  obtain ⟨haddress, -, -⟩ := horderly.positions _ _ (find?_of_load run.position_loads)
  simp only [Address.position.injEq] at haddress
  exact haddress.2.symm

/-- A liquidation posts the zero record. -/
theorem LiquidateRun.posting (run : LiquidateRun call s t) (horderly : s.bank.Orderly) :
    t.bank = (s.bank.write .vault run.home
      { run.vault with totals := run.totals, seizedCollateral := run.seized }).write .position
        (.position run.home run.owner) ⟨run.owner, run.home, .zero, .canonical⟩ ∧
      Posting s.bank t.bank run.home run.owner run.vault
        { run.vault with totals := run.totals, seizedCollateral := run.seized } .zero := by
  have hvalue : ({ run.position with record := .zero } : UserPosition Address Bump) =
      ⟨run.owner, run.home, .zero, .canonical⟩ := by
    simp only [run.owner_eq horderly, run.position_vault, run.position_bump]
  have hbank := congrArg Session.bank run.ends
  rw [hvalue] at hbank
  have howner := owner_of_find? AccountKind.position_lawful (find?_of_load run.position_loads)
  refine ⟨hbank, ?_⟩
  rw [hbank]
  exact posting_of_writes horderly (.refl _) (find?_of_load run.loads) howner

/-- A liquidation clears the record and adds its deposit to what was seized. -/
theorem LiquidateRun.effect (run : LiquidateRun call s t) (horderly : s.bank.Orderly) :
    Effect call s.bank t.bank .liquidate := by
  have hseat := horderly.vaults _ _ (find?_of_load run.loads)
  obtain ⟨hbank, hposting⟩ := run.posting horderly
  obtain ⟨hadmin, hliquidation, quote, hquote, huncovered⟩ :=
    Record.liquidate_eq_ok_iff.1 run.settles
  have hsigns : call.signs run.vault.admin = true := by
    rw [← hadmin]
    exact run.signs
  -- What is seized is the whole deposit of the record.
  have hseizes : run.seized.toNat =
      run.vault.seizedCollateral.toNat + run.position.record.deposited.toNat := by
    have hsum := Word.add?_eq_some_iff.1 run.seizes
    rw [hliquidation] at hsum
    exact hsum
  have htrack := run.tracks
  rw [← run.record_eq] at htrack hseizes huncovered
  refine .liquidates run.vault_role hsigns (find?_of_load run.feed_loads) hquote huncovered htrack
    hseizes hposting ?_
  intro _ _
  rw [hbank]
  exact (samePools_write hseat.collateral_ne).trans (samePools_write (by simp))

theorem paid_of_reserves {admin pool : Address} {bank reserved : Bank}
    (h : Reserves call admin pool bank reserved) :
    Paid bank reserved admin pool (Rent.minimum 0 - (bank.get pool).lamports.toNat) := by
  unfold Reserves at h
  simp only at h
  split at h
  · exact (paid_of_transfer h).2.2
  · rename_i hnone
    have hzero : Rent.minimum 0 - (bank.get pool).lamports.toNat = 0 := by omega
    rw [h, hzero]
    exact .nothing bank admin pool

/-- A vault opens with nothing owed and nothing deposited, and its pool is filled up to the rent
minimum. -/
theorem OpenVaultRun.effect (run : OpenVaultRun call s t) :
    Effect call s.bank t.bank .openVault := by
  have hmade := made_of_establish run.makes
  have hpooled := made_of_establish run.makes_pool
  have hpaid := paid_of_reserves run.reserves
  have hmake := aside_of_makes run.makes run.signs (by simp)
  have hpool : Aside call s.bank (Tokens.openAccount (.debtVault (.vault run.debtMint)) run.debtMint
      (.vault run.debtMint) run.pooled) :=
    hmake.trans (aside_of_makes_put run.makes_pool run.signs (by simp))
  have hbooks : SameBooks s.bank run.reserved := hpool.books.trans hpaid.sameRecords.sameBooks
  have howner : (run.reserved.get (.vault run.debtMint)).owner = .lendingProgram := by
    rw [hpaid.owner, Tokens.openAccount, owner_put, hpooled.owner_of_ne (by simp)]
    exact hmade.owner
  -- What was made a vault was an account of the system program.
  have hfree : ∀ {α : Type} {kind : AccountKind α}, kind.Lawful →
      s.bank.find? kind (.vault run.debtMint) = none := by
    intro α kind hkind
    apply find?_eq_none_of_owner hkind
    have hown := hkind.own
    rw [hmade.unowned]
    intro hsystem
    rw [← hsystem] at hown
    cases hown
  have hbank : t.bank = run.reserved.write .vault (.vault run.debtMint)
      (openedVault run.admin run.debtMint run.priceFeed) := congrArg Session.bank run.ends
  have hopened : t.bank.find? .vault (.vault run.debtMint) =
      some (openedVault run.admin run.debtMint run.priceFeed) := by
    rw [hbank]
    exact find?_write_of_owner AccountKind.vault_lawful _ howner
  refine .opens run.vault_role run.signs ⟨hfree AccountKind.vault_lawful, hopened, ?_, ?_⟩ ?_
  · intro a ha
    rw [hbank, find?_write_of_ne .vault _ ha, hbooks.vaults]
  · intro a
    by_cases ha : a = .vault run.debtMint
    · subst ha
      rw [find?_position_of_vault hopened, hfree AccountKind.position_lawful]
    · rw [hbank, find?_write_of_ne .vault _ ha, hbooks.positions]
  · intro hkeys hidle
    -- What the pool lacks is counted after two accounts were made, which did not touch it.
    have hbefore := hpool.pools hkeys hidle
    have hmove := hpaid.poolMove_into (hkeys.collateral_ne run.signs)
    have hreserve := hbefore.pooled (.vault run.debtMint)
    have hafter : SamePools run.reserved t.bank := by
      rw [hbank]
      exact samePools_write (by simp)
    rw [← hreserve]
    exact .between hbefore hmove hafter

end LendingProgram

/-! ## Every instruction -/

/-- What an instruction that goes through does to books and pools. -/
theorem effect_of_run (horderly : s.bank.Orderly) {instruction : Instruction}
    (h : Tx.Yields (instruction.run call) s () t) : Effect call s.bank t.bank instruction := by
  -- The other two programs write no books; the lending program's instructions post their
  -- settlement.
  cases instruction with
  | openFeed terms =>
      obtain ⟨run⟩ := FeedProgram.openFeed_run h
      exact .aside (by simp [Instruction.program]) run.aside
  | setAnswer rate =>
      obtain ⟨visit, -⟩ := FeedProgram.setAnswer_run h
      exact .aside (by simp [Instruction.program]) visit.aside
  | setStaleness isStale =>
      obtain ⟨visit, -⟩ := FeedProgram.setStaleness_run h
      exact .aside (by simp [Instruction.program]) visit.aside
  | openVault =>
      obtain ⟨run⟩ := LendingProgram.openVault_run h
      exact run.effect
  | deposit amount =>
      obtain ⟨run⟩ := LendingProgram.deposit_run h
      exact run.effect horderly
  | borrow amount =>
      obtain ⟨run⟩ := LendingProgram.borrow_run h
      exact run.effect horderly
  | payback amount =>
      obtain ⟨run⟩ := LendingProgram.payback_run h
      exact run.effect horderly
  | withdraw amount =>
      obtain ⟨run⟩ := LendingProgram.withdraw_run h
      exact run.effect horderly
  | liquidate =>
      obtain ⟨run⟩ := LendingProgram.liquidate_run h
      exact run.effect horderly
  | openShareVault rate =>
      obtain ⟨run⟩ := ShareProgram.openShareVault_run h
      exact .aside (by simp [Instruction.program]) run.aside
  | depositUnderlying amount =>
      obtain ⟨run⟩ := ShareProgram.deposit_run h
      exact .aside (by simp [Instruction.program]) run.aside
  | withdrawUnderlying amount =>
      obtain ⟨run⟩ := ShareProgram.withdraw_run h
      exact .aside (by simp [Instruction.program]) run.aside
  | setExchangeRate rate =>
      obtain ⟨run⟩ := ShareProgram.setExchangeRate_run h
      exact .aside (by simp [Instruction.program]) run.aside

end CollateralLending
