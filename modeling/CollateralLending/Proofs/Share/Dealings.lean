/-
  CollateralLending.Proofs.Share.Dealings

  There are no free shares and there is no free underlying. Share vaults sit at
  their derived addresses at positive rates (`Bank.Chartered`), whoever signs
  and whatever else happens. So a deposit mints at least one share for its
  amount, and a withdrawal burns at least one: rounding up cannot end at none.
  `ShareProgram.Deals` says what each instruction does to the share vault it is
  called with; it leaves all others alone.

  Main statement: `no_free_shares`.
-/
import CollateralLending.Proofs.Lending.DebtPool
import CollateralLending.Proofs.Share.Tracking

namespace CollateralLending

open Bank

section Vaults

variable {call : Call} {amount : Amount} {s t : Session} {home : Address}
variable {vault : ShareVault Address Bump}

/-! ## Share vaults at positive rates -/

/-- If there is a share vault at the address, it is seated there and its rate is positive. -/
def Bank.Chartered (bank : Bank) (home : Address) : Prop :=
  ∀ vault, bank.find? .shareVault home = some vault →
    vault.Seated home ∧ 0 < vault.exchangeRate.toNat

/-- The share vault is as it was, and so is the supply of its shares. -/
structure Bank.LeavesShares (before after : Bank) (home : Address)
    (vault : ShareVault Address Bump) : Prop where
  found : after.find? .shareVault home = some vault
  supply : after.supplyOf vault.shareMint = before.supplyOf vault.shareMint

namespace ShareProgram

/-- A share vault that was written back seated and at a positive rate leaves all of them so. -/
theorem Course.chartered {before after : Bank} (course : Course call before after)
    (hnext : course.next.Seated course.place ∧ 0 < course.next.exchangeRate.toNat)
    (h : before.Chartered home) : after.Chartered home := by
  intro vault hvault
  by_cases hhome : home = course.place
  · subst hhome
    rw [course.find?_place] at hvault
    cases hvault
    exact hnext
  · rw [course.find?_of_ne hhome] at hvault
    exact h vault hvault

/-! ## Depositing -/

/-- While only keys sign, the amount of a deposit goes from the wallet to the pool. -/
theorem DepositRun.takes (run : DepositRun call amount s t) (hkeys : call.KeysSign)
    (h : s.bank.Upholds ShareVault.tracking run.home) :
    (s.bank.get run.wallet).data.units run.vault.underlyingMint =
        (t.bank.get run.wallet).data.units run.vault.underlyingMint + amount.toNat ∧
      (t.bank.get run.vault.pool).data.units run.vault.underlyingMint =
        (s.bank.get run.vault.pool).data.units run.vault.underlyingMint + amount.toNat := by
  have hmeets := h run.vault (find?_of_load run.loads)
  obtain ⟨payment⟩ := transfer_run run.pays
  obtain ⟨minting⟩ := mint_run run.mints
  have hopens : Quiet s.bank run.opened := run.opens.steps
  have hwallet : run.wallet ≠ .sharePool run.home := by
    obtain ⟨mint, pool, hissues, -⟩ :=
      (hmeets.of_spares ShareVault.tracking_lasts (hopens.spares id)).issues
    refine hissues.source_ne (fun heq => ?_) payment
    exact hmeets.seated.not_signs hkeys (heq ▸ run.signs)
  have hmoves := payment.moves hwallet
  rw [run.mint_of_payment payment] at hmoves
  -- Minting shares leaves the underlying token alone.
  have hrest : SameToken run.paid t.bank run.vault.underlyingMint :=
    (minting.sameToken hmeets.seated.shareMint_ne.symm).trans (run.course.sameToken_last _)
  rw [hmeets.seated.pool, hrest.units, hrest.units, ← hopens.units _ run.wallet,
    ← hopens.units _ (.sharePool run.home)]
  exact ⟨hmoves.takes, hmoves.gives⟩

/-! ## Any instruction -/

/-- What an instruction that went through did to the share vault it was called with. A deposit
minted shares to the user for its amount, rounded down, and a withdrawal burned shares of the
user for its amount, rounded up, but never none; the admin set the rate; nothing else changed
anything. -/
def Deals (call : Call) (before after : Bank) (home : Address) (vault : ShareVault Address Bump) :
    Instruction → Prop
  | .depositUnderlying amount => ∃ user total,
    call.address? .user = some user ∧ call.signs user = true ∧ 0 < amount.toNat ∧
      1 ≤ amount.toNat * vault.exchangeRate.toNat / wad ∧
      Issued before after vault.shareMint (.associated user vault.shareMint)
        (amount.toNat * vault.exchangeRate.toNat / wad) ∧
      after.find? .shareVault home = some { vault with totalUnderlying := total }
  | .withdrawUnderlying amount => ∃ user total,
    call.address? .user = some user ∧ call.signs user = true ∧ 0 < amount.toNat ∧
      1 ≤ sharesFor amount vault.exchangeRate ∧
      Issued after before vault.shareMint (.associated user vault.shareMint)
        (sharesFor amount vault.exchangeRate) ∧
      after.find? .shareVault home = some { vault with totalUnderlying := total }
  | .setExchangeRate rate => call.signs vault.admin = true ∧ 0 < rate.toNat ∧
      after.supplyOf vault.shareMint = before.supplyOf vault.shareMint ∧
      after.find? .shareVault home = some { vault with exchangeRate := rate }
  | _ => before.LeavesShares after home vault

/-- A deposit that went through minted to the user, who signed, the value of its amount rounded
down. -/
theorem DepositRun.deals (run : DepositRun call amount s t)
    (hseated : run.vault.Seated run.home) :
    Deals call s.bank t.bank run.home run.vault (.depositUnderlying amount) := by
  have hshares := toNat_of_mintedShares run.prices
  refine ⟨run.user, run.total, run.user_role, run.signs,
    amount_pos_of_mintedShares run.prices run.positive, ?_, ?_, run.course.find?_place⟩
  · rw [← hshares]
    exact run.positive
  · rw [← hshares]
    exact run.issued hseated

/-- A withdrawal that went through burned of the user, who signed, the value of its amount rounded
up. -/
theorem WithdrawRun.deals (run : WithdrawRun call amount s t) (hseated : run.vault.Seated run.home)
    (hrate : 0 < run.vault.exchangeRate.toNat) :
    Deals call s.bank t.bank run.home run.vault (.withdrawUnderlying amount) := by
  have hredemption := run.redemption hseated
  exact ⟨run.user, _, run.user_role, run.signs, run.positive, sharesFor_pos run.positive hrate,
    hredemption.burns, hredemption.found⟩

end ShareProgram

/-- Every instruction that goes through leaves the share vaults chartered. -/
theorem chartered_of_run {instruction : Instruction} (h : Tx.Yields (instruction.run call) s () t)
    (hchartered : ∀ home, s.bank.Chartered home) (home : Address) : t.bank.Chartered home := by
  by_cases hother : instruction.program ≠ .shareProgram
  · -- Another program writes no share vaults.
    intro vault hvault
    rw [(steps_of_run hother h).find?_shareVault] at hvault
    exact hchartered home vault hvault
  · -- The share program writes one, which it opens at its seat or found there.
    cases instruction with
    | openShareVault rate =>
        obtain ⟨run⟩ := ShareProgram.openShareVault_run h
        exact run.course.chartered ⟨⟨rfl, rfl, rfl, rfl, rfl⟩, ensure_eq_ok_iff.1 run.accepts⟩
          (hchartered home)
    | depositUnderlying amount =>
        obtain ⟨run⟩ := ShareProgram.deposit_run h
        obtain ⟨hseated, hrate⟩ := hchartered _ run.vault (find?_of_load run.loads)
        exact run.course.chartered ⟨hseated.of_same rfl, hrate⟩ (hchartered home)
    | withdrawUnderlying amount =>
        obtain ⟨run⟩ := ShareProgram.withdraw_run h
        obtain ⟨hseated, hrate⟩ := hchartered _ run.vault (find?_of_load run.loads)
        exact run.course.chartered ⟨hseated.of_same rfl, hrate⟩ (hchartered home)
    | setExchangeRate rate =>
        obtain ⟨run⟩ := ShareProgram.setExchangeRate_run h
        obtain ⟨hseated, -⟩ := hchartered _ run.vault (find?_of_load run.loads)
        exact run.course.chartered ⟨hseated.of_same rfl, run.positive⟩ (hchartered home)
    | openFeed _ | setAnswer _ | setStaleness _ | openVault | deposit _ | borrow _ | payback _
    | withdraw _ | liquidate => exact absurd nofun hother

/-- The two other programs create and destroy no tokens. -/
theorem supplyOf_of_run {instruction : Instruction} (hother : instruction.program ≠ .shareProgram)
    (h : Tx.Yields (instruction.run call) s () t) (token : Address) :
    t.bank.supplyOf token = s.bank.supplyOf token := by
  have hquiet : Quiet s.bank t.bank → t.bank.supplyOf token = s.bank.supplyOf token :=
    fun hquiet => (hquiet.sameToken token).supply
  have htransfer : ∀ {source target authority : Address} {amount : Amount} {opened moved : Bank},
      Quiet s.bank opened → TransferRun source target authority amount opened moved →
      Quiet moved t.bank → t.bank.supplyOf token = s.bank.supplyOf token := by
    intro source target authority amount opened moved hbefore payment hafter
    rw [(hafter.sameToken token).supply, payment.supplyOf, (hbefore.sameToken token).supply]
  -- A borrow and a payback move tokens, which makes none; nothing else asks for tokens at all.
  cases instruction with
  | openFeed terms =>
      obtain ⟨run⟩ := FeedProgram.openFeed_run h
      exact hquiet run.steps
  | setAnswer rate =>
      obtain ⟨visit⟩ := FeedProgram.setAnswer_run h
      exact hquiet visit.steps
  | setStaleness isStale =>
      obtain ⟨visit⟩ := FeedProgram.setStaleness_run h
      exact hquiet visit.steps
  | openVault =>
      obtain ⟨run⟩ := LendingProgram.openVault_run h
      exact hquiet run.steps
  | deposit amount =>
      obtain ⟨run⟩ := LendingProgram.deposit_run h
      exact hquiet run.steps
  | borrow amount =>
      obtain ⟨run⟩ := LendingProgram.borrow_run h
      obtain ⟨payment⟩ := transfer_run run.pays
      exact htransfer run.quiet_before payment run.quiet_after
  | payback amount =>
      obtain ⟨run⟩ := LendingProgram.payback_run h
      obtain ⟨payment⟩ := transfer_run run.pays
      exact htransfer run.quiet_before payment run.quiet_after
  | withdraw amount =>
      obtain ⟨run⟩ := LendingProgram.withdraw_run h
      exact hquiet run.steps
  | liquidate =>
      obtain ⟨run⟩ := LendingProgram.liquidate_run h
      exact hquiet run.steps
  | openShareVault _ | depositUnderlying _ | withdrawUnderlying _ | setExchangeRate _ =>
      exact absurd rfl hother

/-- Share vaults at different addresses have different share tokens. -/
theorem shareMint_ne_of_ne {other : ShareVault Address Bump} {place : Address}
    (hvault : vault.Seated home) (hother : other.Seated place) (hne : home ≠ place) :
    vault.shareMint ≠ other.shareMint := by
  rw [hvault.shareMint, hother.shareMint]
  intro heq
  injection heq with heq
  exact hne heq

/-- An instruction deals with the share vault it is called with, and leaves all others. -/
theorem deals_of_run {instruction : Instruction} (h : Tx.Yields (instruction.run call) s () t)
    (hchartered : ∀ home, s.bank.Chartered home)
    (hvault : s.bank.find? .shareVault home = some vault) :
    (call.address? .shareVault = some home →
      ShareProgram.Deals call s.bank t.bank home vault instruction) ∧
    (call.address? .shareVault ≠ some home → s.bank.LeavesShares t.bank home vault) := by
  obtain ⟨hseated, -⟩ := hchartered home vault hvault
  -- The share vault is the one that the instruction is on, or it is another one.
  have hplaces : ∀ {place : Address} {found : ShareVault Address Bump},
      call.address? .shareVault = some place → s.bank.find? .shareVault place = some found →
      ShareProgram.Deals call s.bank t.bank place found instruction →
      (home ≠ place → s.bank.LeavesShares t.bank home vault) →
      (call.address? .shareVault = some home →
        ShareProgram.Deals call s.bank t.bank home vault instruction) ∧
      (call.address? .shareVault ≠ some home → s.bank.LeavesShares t.bank home vault) := by
    intro place found hrole hfound hdeals hleaves
    constructor
    · intro hplace
      cases hrole.symm.trans hplace
      cases hvault.symm.trans hfound
      exact hdeals
    · intro hplace
      exact hleaves fun heq => hplace (heq ▸ hrole)
  by_cases hother : instruction.program ≠ .shareProgram
  · have hleaves : s.bank.LeavesShares t.bank home vault :=
      ⟨((steps_of_run hother h).find?_shareVault home).trans hvault, supplyOf_of_run hother h _⟩
    refine ⟨fun _ => ?_, fun _ => hleaves⟩
    cases instruction with
    | openFeed _ | setAnswer _ | setStaleness _ | openVault | deposit _ | borrow _ | payback _
    | withdraw _ | liquidate => exact hleaves
    | openShareVault _ | depositUnderlying _ | withdrawUnderlying _ | setExchangeRate _ =>
        exact absurd rfl hother
  · cases instruction with
    | openShareVault rate =>
        obtain ⟨run⟩ := ShareProgram.openShareVault_run h
        have hleaves : s.bank.LeavesShares t.bank home vault :=
          ⟨(run.course.find?_of_ne (run.place_ne hvault)).trans hvault, (run.sameToken _).supply⟩
        exact ⟨fun _ => hleaves, fun _ => hleaves⟩
    | depositUnderlying amount =>
        obtain ⟨run⟩ := ShareProgram.deposit_run h
        have hfound := find?_of_load run.loads
        obtain ⟨hplaced, -⟩ := hchartered _ _ hfound
        refine hplaces run.vault_role hfound (run.deals hplaced) ?_
        intro hne
        have hmint := shareMint_ne_of_ne hseated hplaced hne
        exact ⟨(run.course.find?_of_ne hne).trans hvault, run.supplyOf_of_ne hmint⟩
    | withdrawUnderlying amount =>
        obtain ⟨run⟩ := ShareProgram.withdraw_run h
        have hfound := find?_of_load run.loads
        obtain ⟨hplaced, hrate⟩ := hchartered _ _ hfound
        refine hplaces run.vault_role hfound (run.deals hplaced hrate) ?_
        intro hne
        have hmint := shareMint_ne_of_ne hseated hplaced hne
        exact ⟨(run.course.find?_of_ne hne).trans hvault, run.supplyOf_of_ne hmint⟩
    | setExchangeRate rate =>
        obtain ⟨run⟩ := ShareProgram.setExchangeRate_run h
        refine hplaces run.vault_role (find?_of_load run.loads)
          ⟨run.signs, run.positive, (run.sameToken _).supply, run.course.find?_place⟩ ?_
        intro hne
        exact ⟨(run.course.find?_of_ne hne).trans hvault, (run.sameToken _).supply⟩
    | openFeed _ | setAnswer _ | setStaleness _ | openVault | deposit _ | borrow _ | payback _
    | withdraw _ | liquidate => exact absurd nofun hother

/-! ## Along a run -/

variable {start chain later : Chain} {moves more : List Move}

/-- There is a share vault at the address with the admin, the tokens, the accounts and the bump
seeds of the given one, and with its rate if that was left alone. -/
def Bank.Continues (bank : Bank) (home : Address) (vault : ShareVault Address Bump)
    (untouched : Prop) : Prop :=
  ∃ next, bank.find? .shareVault home = some next ∧
    next = { vault with
      exchangeRate := next.exchangeRate, totalUnderlying := next.totalUnderlying } ∧
    (untouched → next.exchangeRate = vault.exchangeRate)

/-- The admin sets the rate of the share vault at the address. -/
def SetsRate (home admin : Address) (chain : Chain) : Move → Prop
  | .transact (.setExchangeRate rate) passed =>
    chain.Accepts (.setExchangeRate rate) passed ∧
      (chain.callOf (.setExchangeRate rate) passed).address? .shareVault = some home ∧
      (chain.callOf (.setExchangeRate rate) passed).signs admin = true
  | _ => False

theorem chartered_of_move {move : Move} (hallowed : move.Allowed chain)
    (hchartered : ∀ home, chain.bank.Chartered home) (home : Address) :
    (chain.after move).bank.Chartered home := by
  cases move with
  | clock now => exact hchartered home
  | outside bank =>
      intro vault hvault
      rw [show (chain.after (.outside bank)).bank = bank from rfl,
        hallowed.sameRecords.find? AccountKind.shareVault_lawful] at hvault
      exact hchartered home vault hvault
  | transact instruction passed =>
      by_cases haccepts : chain.Accepts instruction passed
      · obtain ⟨t, hyields, hafter⟩ := Chain.yields_of_accepts haccepts
        rw [hafter]
        exact chartered_of_run hyields hchartered home
      · rw [Chain.after_eq_of_refused haccepts]
        exact hchartered home

/-- After any run the share vaults are chartered if they were before it. -/
theorem chartered_of_chain_run (hstart : ∀ home, start.bank.Chartered home)
    (run : start.Run moves chain) (home : Address) : chain.bank.Chartered home := by
  induction run generalizing home with
  | nil => exact hstart home
  | snoc run move allowed ih => exact chartered_of_move allowed ih home

theorem Bank.Fresh.chartered {bank : Bank} (h : bank.Fresh) (home : Address) :
    bank.Chartered home := by
  intro vault hvault
  have howner := h.unowned home
  rw [owner_of_find? AccountKind.shareVault_lawful hvault] at howner
  cases howner

/-- A share vault goes on with the same admin and the same accounts, and at the same rate unless its
admin sets another. -/
theorem shareVault_after_move {move : Move} (hallowed : move.Allowed chain)
    (hchartered : ∀ home, chain.bank.Chartered home)
    (hvault : chain.bank.find? .shareVault home = some vault) :
    (chain.after move).bank.Continues home vault (¬ SetsRate home vault.admin chain move) := by
  have hsame : (chain.after move).bank.find? .shareVault home = some vault →
      (chain.after move).bank.Continues home vault (¬ SetsRate home vault.admin chain move) :=
    fun h => ⟨vault, h, rfl, fun _ => rfl⟩
  cases move with
  | clock now => exact hsame hvault
  | outside bank =>
      exact hsame ((hallowed.sameRecords.find? AccountKind.shareVault_lawful home).trans hvault)
  | transact instruction passed =>
      by_cases haccepts : chain.Accepts instruction passed
      · obtain ⟨t, hyields, hafter⟩ := Chain.yields_of_accepts haccepts
        obtain ⟨hdeals, hleaves⟩ := deals_of_run hyields hchartered hvault
        rw [hafter] at hsame ⊢
        by_cases hplace : (chain.callOf instruction passed).address? .shareVault = some home
        · have hdeals := hdeals hplace
          cases instruction with
          | depositUnderlying amount =>
              obtain ⟨-, total, -, -, -, -, -, hnext⟩ := hdeals
              exact ⟨_, hnext, rfl, fun _ => rfl⟩
          | withdrawUnderlying amount =>
              obtain ⟨-, total, -, -, -, -, -, hnext⟩ := hdeals
              exact ⟨_, hnext, rfl, fun _ => rfl⟩
          | setExchangeRate rate =>
              obtain ⟨hsigns, -, -, hnext⟩ := hdeals
              exact ⟨_, hnext, rfl, fun hnot => absurd ⟨haccepts, hplace, hsigns⟩ hnot⟩
          | openFeed _ | setAnswer _ | setStaleness _ | openVault | deposit _ | borrow _ | payback _
          | withdraw _ | liquidate | openShareVault _ => exact hsame hdeals.found
        · exact hsame (hleaves hplace).found
      · rw [Chain.after_eq_of_refused haccepts] at hsame ⊢
        exact hsame hvault

/-- A share vault is there for good, with all that identifies it, and at its rate until its admin
sets another. -/
theorem shareVault_of_run (hchartered : ∀ home, chain.bank.Chartered home)
    (hvault : chain.bank.find? .shareVault home = some vault) (run : chain.Run more later) :
    later.bank.Continues home vault (Chain.Never (SetsRate home vault.admin) chain more) := by
  induction run with
  | nil => exact ⟨vault, hvault, rfl, fun _ => rfl⟩
  | snoc run move allowed ih =>
      obtain ⟨middle, hmiddle, hsame, hrate⟩ := ih
      obtain ⟨next, hnext, hlast, hlastRate⟩ :=
        shareVault_after_move allowed (chartered_of_chain_run hchartered run) hmiddle
      have hadmin : middle.admin = vault.admin := by rw [hsame]
      refine ⟨next, hnext, hlast.trans ?_, fun hnever => ?_⟩
      · rw [hsame]
      · obtain ⟨hbefore, hmove⟩ := (run.never_snoc _ move).1 hnever
        rw [hlastRate (by rw [hadmin]; exact hmove), hrate hbefore]

/-- Others can only destroy shares. -/
theorem Bank.Outside.supplyOf_shareMint_le {before after : Bank} (h : before.Outside after)
    (home : Address) : after.supplyOf (.shareMint home) ≤ before.supplyOf (.shareMint home) := by
  have hgiven := (h.given (.shareMint home) (.inl rfl)).data
  unfold Bank.supplyOf
  generalize (before.get (.shareMint home)).data = old at hgiven
  generalize (after.get (.shareMint home)).data = new at hgiven
  cases hgiven with
  | same => exact Nat.le_refl _
  | token given => exact Nat.le_refl _
  | mint given => exact given.supply

/-- In every reached state, whoever signs: the rate of a share vault is positive. So a deposit mints
at least one share, to the user's associated account, and a withdrawal burns at least one from
there; no other instruction changes the supply of shares, and other programs can only destroy some.
Later on the share vault is the same but for its rate, which only its admin sets, and what it
tracks. And while only keys sign, a deposit moves its amount from the user's wallet to the pool. -/
theorem no_free_shares (hfresh : start.bank.Fresh) (run : start.Run moves chain)
    (hvault : chain.bank.find? .shareVault home = some vault) :
    0 < vault.exchangeRate.toNat ∧
    (∀ instruction passed, chain.Accepts instruction passed →
      ((chain.callOf instruction passed).address? .shareVault = some home →
        ShareProgram.Deals (chain.callOf instruction passed) chain.bank
          (chain.after (.transact instruction passed)).bank home vault instruction) ∧
      ((chain.callOf instruction passed).address? .shareVault ≠ some home →
        chain.bank.LeavesShares (chain.after (.transact instruction passed)).bank home vault)) ∧
    (∀ bank, chain.bank.Outside bank →
      bank.supplyOf vault.shareMint ≤ chain.bank.supplyOf vault.shareMint) ∧
    (∀ {more later}, chain.Run more later →
      later.bank.Continues home vault (Chain.Never (SetsRate home vault.admin) chain more)) ∧
    ((∀ move ∈ moves, move.KeysSign) → ∀ (amount : Amount) (passed : Passed),
      (Move.transact (.depositUnderlying amount) passed).KeysSign →
      chain.Accepts (.depositUnderlying amount) passed →
      (chain.callOf (.depositUnderlying amount) passed).address? .shareVault = some home →
      ∃ wallet,
        (chain.callOf (.depositUnderlying amount) passed).address? .userTokenAccount = some wallet ∧
        (chain.bank.get wallet).data.units vault.underlyingMint =
          ((chain.after (.transact (.depositUnderlying amount) passed)).bank.get wallet).data.units
            vault.underlyingMint + amount.toNat ∧
        ((chain.after (.transact (.depositUnderlying amount) passed)).bank.get
            vault.pool).data.units vault.underlyingMint =
          (chain.bank.get vault.pool).data.units vault.underlyingMint + amount.toNat) := by
  have hchartered : ∀ home, chain.bank.Chartered home :=
    chartered_of_chain_run hfresh.chartered run
  obtain ⟨hseated, hrate⟩ := hchartered home vault hvault
  refine ⟨hrate, ?_, ?_, ?_, ?_⟩
  · intro instruction passed haccepts
    obtain ⟨t, hyields, hafter⟩ := Chain.yields_of_accepts haccepts
    rw [hafter]
    exact deals_of_run hyields hchartered hvault
  · intro bank houtside
    rw [hseated.shareMint]
    exact houtside.supplyOf_shareMint_le home
  · exact fun hlater => shareVault_of_run hchartered hvault hlater
  · intro hkeys amount passed hsigns haccepts hplace
    obtain ⟨t, hyields, hafter⟩ := Chain.yields_of_accepts haccepts
    obtain ⟨deposit⟩ := ShareProgram.deposit_run hyields
    cases deposit.vault_role.symm.trans hplace
    cases hvault.symm.trans (find?_of_load deposit.loads)
    have htracked := upholds_of_chain_run ShareVault.tracking_lasts (fun _ h => h) hfresh run hkeys
      deposit.home
    obtain ⟨htakes, hgives⟩ := deposit.takes (hsigns chain) htracked
    rw [hafter]
    exact ⟨deposit.wallet, deposit.wallet_role, htakes, hgives⟩

end Vaults

namespace FirstShares

theorem find?_fallen : fallen.bank.find? .shareVault home = some (vault 1 1001) := by decide +kernel

/-- The user withdraws one unit, which is worth half a share. -/
def unitWithdrawal : Instruction := .withdrawUnderlying (.units 1)

theorem unitWithdrawal_accepted :
    fallen.Accepts unitWithdrawal (.redemption home user wallet) :=
  Chain.accepts_of_isOk (by decide +kernel)

end FirstShares

open FirstShares in
/-- A whole share is burned for it. -/
theorem first_shares_are_not_free :
    Issued (fallen.after (.transact unitWithdrawal (.redemption home user wallet))).bank fallen.bank
      (vault 1 1001).shareMint (.associated user (vault 1 1001).shareMint) 1 := by
  obtain ⟨-, hdeals, -⟩ := no_free_shares start_fresh fallen_run find?_fallen
  obtain ⟨hwithdrawal, -⟩ :=
    hdeals unitWithdrawal (.redemption home user wallet) unitWithdrawal_accepted
  obtain ⟨holder, total, hholder, -, -, -, hburned, -⟩ := hwithdrawal rfl
  cases (redeems_of_passed fallen (.units 1) home user wallet).user_role.symm.trans hholder
  exact hburned

end CollateralLending
