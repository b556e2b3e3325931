/-
  CollateralLending.Proofs.Lending.PoolAccounts

  What a lending vault over a ledger holds of its two tokens, to the unit. The
  collateral is what direct uses of the token brought in, what everybody else
  has on deposit, and what liquidations took over. The debt tokens are what
  direct uses brought in, less what everybody else owes and less what
  liquidations wrote off.

  The vault's own account counts for nothing: it may deposit and borrow like
  any other, but then its tokens only move to itself.
-/
import CollateralLending.Proofs.Lending.Operations

namespace CollateralLending

variable {K : Type}

/-- What a direct use of a token brings into an account when it goes through. -/
def TokenStep.inflow [DecidableEq K] (account : K) : TokenStep K → Int
  | mint receiver amount => if receiver = account then (amount.toNat : Int) else 0
  | approve .. => 0
  | transfer source target amount => CollateralLending.inflow account source target amount
  | transferFrom _ owner target amount => CollateralLending.inflow account owner target amount

variable [Ord K] [Std.TransOrd K] [Std.LawfulEqOrd K] [DecidableEq K]

theorem TokenLedger.balanceOf_step (token : TokenLedger K) (step : TokenStep K) (account : K) :
    (((token.step step).1.balanceOf account).toNat : Int) =
      (token.balanceOf account).toNat + whenOk (token.step step).2 (step.inflow account) := by
  cases step with
  | mint receiver amount => exact token.balanceOf_mint receiver amount account
  | approve owner spender amount => exact (Int.add_zero _).symm
  | transfer source target amount => exact token.balanceOf_transfer source target amount account
  | transferFrom spender owner target amount =>
      exact token.balanceOf_transferFrom spender owner target amount account

namespace LedgerVault

variable {vault : LedgerVault K}

/-! ## What is counted -/

/-- The sum of a measure over the records of all accounts but the vault's own. -/
def sumOthers (vault : LedgerVault K) (measure : Record → Nat) : Nat :=
  vault.ledger.sum fun account record => if account = vault.address then 0 else measure record

/-- What a step brings into the vault's collateral by a direct use of the token. -/
def collateralIn (vault : LedgerVault K) : VaultStep K → Int
  | .collateral step => whenOk (vault.collateral.step step).2 (step.inflow vault.address)
  | .deposit .. | .borrow .. | .payback .. | .withdraw .. | .liquidate .. | .debt _ | .oracle _ => 0

/-- What a step brings into the vault's debt tokens by a direct use of the token. -/
def debtIn (vault : LedgerVault K) : VaultStep K → Int
  | .debt step => whenOk (vault.debt.step step).2 (step.inflow vault.address)
  | .deposit .. | .borrow .. | .payback .. | .withdraw .. | .liquidate .. | .collateral _
  | .oracle _ => 0

/-- The liquidation that a step carries out, of an account other than the vault's own. -/
def liquidation? (vault : LedgerVault K) : VaultStep K → Option Liquidation
  | .liquidate caller account =>
    if account = vault.address then none
    else ((vault.record account).liquidate caller vault.admin vault.oracle).result.toOption
  | .deposit .. | .borrow .. | .payback .. | .withdraw .. | .collateral _ | .debt _ | .oracle _ =>
    none

/-- The collateral that a step seizes. -/
def seizes (vault : LedgerVault K) (step : VaultStep K) : Int :=
  ((vault.liquidation? step).map fun liquidation =>
    (liquidation.seizedCollateral.toNat : Int)).getD 0

/-- The debt that a step clears. -/
def clears (vault : LedgerVault K) (step : VaultStep K) : Int :=
  ((vault.liquidation? step).map fun liquidation => (liquidation.clearedDebt.toNat : Int)).getD 0

/-- A quantity that steps add to, counted over a run. -/
def sumSteps (quantity : LedgerVault K → VaultStep K → Int) (vault : LedgerVault K) :
    List (VaultStep K) → Int
  | [] => 0
  | step :: steps => quantity vault step + sumSteps quantity (vault.step step).vault steps

/-! ## What both accounts come to -/

variable {settlement : Consultation Settlement} {move : LedgerVault K × Except LendingError Unit}
variable {event : Settlement → LendingEvent K} {account : K}

/-- What the vault holds of its collateral beyond the deposits of others. -/
def collateralExcess (vault : LedgerVault K) : Int :=
  (vault.collateral.balanceOf vault.address).toNat - vault.sumOthers (·.deposited.toNat)

/-- What the vault holds of its debt tokens together with what others owe. -/
def debtHeldOrOwed (vault : LedgerVault K) : Int :=
  (vault.debt.balanceOf vault.address).toNat + vault.sumOthers (·.debt.toNat)

/-- A record was stored, and the vault's balances grew. The vault is still at its address. -/
structure Stores (vault after : LedgerVault K) (account : K) (next : Record)
    (collateral debt : Int) : Prop where
  address : after.address = vault.address
  ledger : after.ledger = vault.ledger.set account next
  collateral_eq : ((after.collateral.balanceOf vault.address).toNat : Int) =
    (vault.collateral.balanceOf vault.address).toNat + collateral
  debt_eq : ((after.debt.balanceOf vault.address).toNat : Int) =
    (vault.debt.balanceOf vault.address).toNat + debt

variable {after : LedgerVault K} {next : Record} {collateral debt : Int}

/-- Storing a record changes a sum by that record, unless it is the vault's own. -/
theorem Stores.sumOthers_eq (h : vault.Stores after account next collateral debt)
    (measure : Record → Nat) (hzero : measure .zero = 0) :
    (after.sumOthers measure : Int) = vault.sumOthers measure +
      if account = vault.address then 0
      else (measure next : Int) - measure (vault.record account) := by
  have hsum := Table.sum_set
    (fun account record => if account = vault.address then 0 else measure record)
    (fun _ => by simp only [Record.default_eq_zero, hzero, ite_self]) vault.ledger account next
  unfold sumOthers
  rw [h.address, h.ledger]
  unfold record
  by_cases hown : account = vault.address
  · simp only [if_pos hown] at hsum ⊢
    omega
  · simp only [if_neg hown] at hsum ⊢
    omega

theorem Stores.collateralExcess_eq (h : vault.Stores after account next collateral debt) :
    after.collateralExcess = vault.collateralExcess + collateral -
      if account = vault.address then 0
      else (next.deposited.toNat : Int) - (vault.record account).deposited.toNat := by
  have hsum := h.sumOthers_eq (·.deposited.toNat) rfl
  have hbalance := h.collateral_eq
  unfold collateralExcess
  rw [h.address]
  omega

theorem Stores.debtHeldOrOwed_eq (h : vault.Stores after account next collateral debt) :
    after.debtHeldOrOwed = vault.debtHeldOrOwed + debt +
      if account = vault.address then 0
      else (next.debt.toNat : Int) - (vault.record account).debt.toNat := by
  have hsum := h.sumOthers_eq (·.debt.toNat) rfl
  have hbalance := h.debt_eq
  unfold debtHeldOrOwed
  rw [h.address]
  omega

/-! ## Operations -/

/-- Both accounts of the vault are kept: the collateral beyond the deposits of others, and the debt
tokens held or owed. -/
structure KeepsAccounts (vault after : LedgerVault K) : Prop where
  address : after.address = vault.address
  collateral : after.collateralExcess = vault.collateralExcess
  debt : after.debtHeldOrOwed = vault.debtHeldOrOwed

/-- An operation keeps both accounts when, each time it is concluded, the pools gain what the record
gains and lose what it comes to owe. -/
theorem keepsAccounts_of_perform (hfail : ∀ error, move.2 = .error error → move.1 = vault)
    (hsettle : ∀ settled, settlement.result = .ok settled → move.2 = .ok () →
      ∃ collateral debt,
        (vault.Stores (move.1.conclude account settled.next (event settled)) account settled.next
          collateral debt) ∧
        (collateral = if account = vault.address then 0
          else (settled.next.deposited.toNat : Int) - (vault.record account).deposited.toNat) ∧
        debt = if account = vault.address then 0
          else ((vault.record account).debt.toNat : Int) - settled.next.debt.toNat) :
    vault.KeepsAccounts (vault.perform account settlement move event).vault := by
  rcases perform_unchanged_or_concluded hfail with heq | ⟨settled, hsettled, hmove, heq⟩
  · rw [heq]
    exact ⟨rfl, rfl, rfl⟩
  · obtain ⟨collateral, debt, hstores, hcollateral, hdebt⟩ := hsettle settled hsettled hmove
    rw [heq]
    refine ⟨hstores.address, ?_, ?_⟩
    · rw [hstores.collateralExcess_eq, hcollateral]
      omega
    · rw [hstores.debtHeldOrOwed_eq, hdebt]
      split <;> omega

variable {caller target : K} {amount : Amount}

theorem keepsAccounts_deposit : vault.KeepsAccounts (vault.deposit caller amount).vault := by
  unfold deposit
  apply keepsAccounts_of_perform (withCollateral_of_error fun _ => TokenLedger.transfer_of_error)
  intro settled hsettled hmove
  obtain ⟨-, hdeposited, hdebt, -⟩ := Record.deposit_eq_ok_iff.1 hsettled
  have hbalance := vault.collateral.balanceOf_transfer caller vault.address amount vault.address
  rw [show (vault.collateral.transfer caller vault.address amount).2 = .ok () from hmove]
    at hbalance
  refine ⟨_, 0, ⟨rfl, rfl, hbalance, (Int.add_zero _).symm⟩, ?_, ?_⟩
  · rw [whenOk_ok, inflow, if_pos rfl]
    split <;> omega
  · rw [hdebt]
    split <;> omega

theorem keepsAccounts_withdraw : vault.KeepsAccounts (vault.withdraw caller amount).vault := by
  unfold withdraw
  apply keepsAccounts_of_perform (withCollateral_of_error fun _ => TokenLedger.transfer_of_error)
  intro settled hsettled hmove
  obtain ⟨-, -, hdeposited, hdebt, -⟩ := Record.withdraw_eq_ok_iff.1 hsettled
  have hbalance := vault.collateral.balanceOf_transfer vault.address caller amount vault.address
  rw [show (vault.collateral.transfer vault.address caller amount).2 = .ok () from hmove]
    at hbalance
  refine ⟨_, 0, ⟨rfl, rfl, hbalance, (Int.add_zero _).symm⟩, ?_, ?_⟩
  · rw [whenOk_ok, inflow, if_pos rfl]
    split <;> omega
  · rw [hdebt]
    split <;> omega

theorem keepsAccounts_borrow : vault.KeepsAccounts (vault.borrow caller amount).vault := by
  unfold borrow
  apply keepsAccounts_of_perform (withDebt_of_error fun _ => TokenLedger.transfer_of_error)
  intro settled hsettled hmove
  obtain ⟨-, quote, -, -, hdebt, hdeposited, -⟩ := Record.borrow_eq_ok_iff.1 hsettled
  have hbalance := vault.debt.balanceOf_transfer vault.address caller amount vault.address
  rw [show (vault.debt.transfer vault.address caller amount).2 = .ok () from hmove] at hbalance
  refine ⟨0, _, ⟨rfl, rfl, (Int.add_zero _).symm, hbalance⟩, ?_, ?_⟩
  · rw [hdeposited]
    split <;> omega
  · rw [whenOk_ok, inflow, if_pos rfl]
    split <;> omega

theorem keepsAccounts_payback : vault.KeepsAccounts (vault.payback caller amount).vault := by
  unfold payback
  apply keepsAccounts_of_perform (withDebt_of_error fun _ => TokenLedger.transferFrom_of_error)
  intro settled hsettled hmove
  obtain ⟨-, quote, -, -, hdebt, hdeposited⟩ := Record.payBack_eq_ok_iff.1 hsettled
  have hbalance := vault.debt.balanceOf_transferFrom vault.address caller vault.address amount
    vault.address
  rw [show (vault.debt.transferFrom vault.address caller vault.address amount).2 = .ok () from
    hmove] at hbalance
  refine ⟨0, _, ⟨rfl, rfl, (Int.add_zero _).symm, hbalance⟩, ?_, ?_⟩
  · rw [hdeposited]
    split <;> omega
  · rw [whenOk_ok, inflow, if_pos rfl]
    split <;> omega

/-! ## Steps -/

/-- What a step does to both accounts of the vault. -/
structure Accounts (vault : LedgerVault K) (step : VaultStep K) (after : LedgerVault K) : Prop where
  address : after.address = vault.address
  collateral : after.collateralExcess =
    vault.collateralExcess + vault.collateralIn step + vault.seizes step
  debt : after.debtHeldOrOwed = vault.debtHeldOrOwed + vault.debtIn step - vault.clears step

/-- A step that is no liquidation and uses no token directly has nothing to count. -/
theorem KeepsAccounts.accounts {step : VaultStep K} (h : vault.KeepsAccounts after)
    (hcollateral : vault.collateralIn step = 0) (hdebt : vault.debtIn step = 0)
    (hliquidation : vault.liquidation? step = none) : vault.Accounts step after where
  address := h.address
  collateral := by
    rw [h.collateral, hcollateral, seizes, hliquidation]
    simp
  debt := by
    rw [h.debt, hdebt, clears, hliquidation]
    simp

/-- A liquidation moves no token: what the record loses is seized and cleared. -/
theorem accounts_liquidate (vault : LedgerVault K) (caller account : K) :
    vault.Accounts (.liquidate caller account) (vault.liquidate caller account).vault := by
  rcases vault.liquidate_unchanged_or_concluded caller account with
    ⟨error, hresult, heq⟩ | ⟨settled, hresult, log, heq⟩
  · -- Refused: nothing changed and nothing is counted.
    have hnone : vault.liquidation? (.liquidate caller account) = none := by
      simp [liquidation?, hresult, Except.toOption]
    have hkeeps : vault.KeepsAccounts (vault.liquidate caller account).vault := by
      rw [heq]
      exact ⟨rfl, rfl, rfl⟩
    exact hkeeps.accounts rfl rfl hnone
  · obtain ⟨-, rfl, -⟩ := Record.liquidate_eq_ok_iff.1 hresult
    have hstores : vault.Stores (vault.liquidate caller account).vault account .zero 0 0 := by
      rw [heq]
      exact ⟨rfl, rfl, (Int.add_zero _).symm, (Int.add_zero _).symm⟩
    have hzero : Record.zero.deposited.toNat = 0 ∧ Record.zero.debt.toNat = 0 := ⟨rfl, rfl⟩
    -- The vault's own position stands outside both accounts, so nothing of it is counted as seized.
    have hliquidation : vault.liquidation? (.liquidate caller account) =
        if account = vault.address then none
        else some ⟨(vault.record account).deposited, (vault.record account).debt⟩ := by
      simp [liquidation?, hresult, Except.toOption]
    refine ⟨hstores.address, ?_, ?_⟩
    · rw [hstores.collateralExcess_eq, collateralIn, seizes, hliquidation, hzero.1]
      split <;> simp
    · rw [hstores.debtHeldOrOwed_eq, debtIn, clears, hliquidation, hzero.2]
      split
      · simp
      · simp
        omega

/-- Every step changes both accounts by what is counted for it. -/
theorem accounts_step (vault : LedgerVault K) (step : VaultStep K) :
    vault.Accounts step (vault.step step).vault := by
  cases step with
  | deposit caller amount => exact keepsAccounts_deposit.accounts rfl rfl rfl
  | borrow caller amount => exact keepsAccounts_borrow.accounts rfl rfl rfl
  | payback caller amount => exact keepsAccounts_payback.accounts rfl rfl rfl
  | withdraw caller amount => exact keepsAccounts_withdraw.accounts rfl rfl rfl
  | liquidate caller account => exact vault.accounts_liquidate caller account
  | collateral step =>
      -- The balance is all that a direct use of a token changes.
      have hbalance := vault.collateral.balanceOf_step step vault.address
      have hsum : ((vault.step (.collateral step)).vault.collateralExcess) =
          ((vault.collateral.step step).1.balanceOf vault.address).toNat -
            vault.sumOthers (·.deposited.toNat) := rfl
      have hseizes : vault.seizes (.collateral step) = 0 := rfl
      have hkeeps : (vault.step (.collateral step)).vault.debtHeldOrOwed = vault.debtHeldOrOwed :=
        rfl
      refine ⟨rfl, ?_, ?_⟩
      · rw [hsum, hbalance, hseizes, collateralExcess, collateralIn]
        omega
      · rw [hkeeps, debtIn, clears, liquidation?]
        simp
  | debt step =>
      have hbalance := vault.debt.balanceOf_step step vault.address
      have hsum : ((vault.step (.debt step)).vault.debtHeldOrOwed) =
          ((vault.debt.step step).1.balanceOf vault.address).toNat +
            vault.sumOthers (·.debt.toNat) := rfl
      have hclears : vault.clears (.debt step) = 0 := rfl
      have hkeeps : (vault.step (.debt step)).vault.collateralExcess = vault.collateralExcess := rfl
      refine ⟨rfl, ?_, ?_⟩
      · rw [hkeeps, collateralIn, seizes, liquidation?]
        simp
      · rw [hsum, hbalance, hclears, debtHeldOrOwed, debtIn]
        omega
  | oracle next =>
      have hkeeps : vault.KeepsAccounts (vault.step (.oracle next)).vault := ⟨rfl, rfl, rfl⟩
      exact hkeeps.accounts rfl rfl rfl

/-! ## Runs -/

/-- What a run does to both accounts of the vault. -/
theorem accounts_after (vault : LedgerVault K) (steps : List (VaultStep K)) :
    (vault.after steps).address = vault.address ∧
      (vault.after steps).collateralExcess = vault.collateralExcess +
        sumSteps collateralIn vault steps + sumSteps seizes vault steps ∧
      (vault.after steps).debtHeldOrOwed = vault.debtHeldOrOwed +
        sumSteps debtIn vault steps - sumSteps clears vault steps := by
  induction steps generalizing vault with
  | nil => exact ⟨rfl, by simp [after, sumSteps], by simp [after, sumSteps]⟩
  | cons step steps ih =>
      have hstep := vault.accounts_step step
      obtain ⟨haddress, hcollateral, hdebt⟩ := ih (vault.step step).vault
      have hfirst := hstep.collateral
      have hfirstDebt := hstep.debt
      simp only [after_cons, sumSteps]
      refine ⟨haddress.trans hstep.address, ?_, ?_⟩
      · omega
      · omega

/-- Take any run of a vault that starts out without positions over two tokens that nobody holds. In
the end its balances are exact: of the collateral, what direct uses of the token brought in, the
deposits of all others, and what was seized from them; of the debt token, what direct uses brought
in, less what all others owe, and less what was cleared for them. -/
theorem balances_are_exact (address admin : K) (oracle : Oracle) (steps : List (VaultStep K)) :
    (((new address admin .empty .empty oracle).after steps).collateral.balanceOf address).toNat =
        sumSteps collateralIn (new address admin .empty .empty oracle) steps +
          ((new address admin .empty .empty oracle).after steps).sumOthers (·.deposited.toNat) +
          sumSteps seizes (new address admin .empty .empty oracle) steps ∧
      (((new address admin .empty .empty oracle).after steps).debt.balanceOf address).toNat =
        sumSteps debtIn (new address admin .empty .empty oracle) steps -
          ((new address admin .empty .empty oracle).after steps).sumOthers (·.debt.toNat) -
          sumSteps clears (new address admin .empty .empty oracle) steps := by
  obtain ⟨haddress, hcollateral, hdebt⟩ :=
    (new address admin .empty .empty oracle).accounts_after steps
  -- Nothing is held or owed at the start.
  have hstart : (new address admin .empty .empty oracle).collateralExcess = 0 ∧
      (new address admin .empty .empty oracle).debtHeldOrOwed = 0 := ⟨rfl, rfl⟩
  rw [hstart.1, collateralExcess, haddress] at hcollateral
  rw [hstart.2, debtHeldOrOwed, haddress] at hdebt
  simp only [new] at hcollateral hdebt ⊢
  constructor
  · omega
  · omega

/-! ### A run with a liquidation -/

/-- Account 0 is the vault's own, which deposits as well; account 1 is the admin. Account 2 borrows
and is liquidated when the price rises; account 3 keeps its deposit. -/
def liquidatedRun : List (VaultStep Nat) :=
  [.collateral (.mint 0 (.units 50)), .collateral (.mint 2 (.units 900)),
    .collateral (.mint 3 (.units 300)), .debt (.mint 0 (.units 600)),
    .deposit 0 (.units 40), .deposit 2 (.units 900), .deposit 3 (.units 300),
    .borrow 2 (.units 400), .debt (.approve 2 0 (.units 100)),
    .payback 2 (.units 100), .debt (.transfer 2 0 (.units 20)),
    .oracle (.answers ⟨⟨.units 4, 0⟩, false⟩), .liquidate 3 2, .liquidate 1 2,
    .withdraw 3 (.units 70)]

/-- One unit of debt is worth two units of collateral at the start. -/
def doubled : Oracle := .answers ⟨⟨.units 2, 0⟩, false⟩

theorem balances_in_liquidated_run :
    sumSteps collateralIn (new 0 1 .empty .empty doubled) liquidatedRun = 50 ∧
      sumSteps seizes (new 0 1 .empty .empty doubled) liquidatedRun = 900 ∧
      sumSteps debtIn (new 0 1 .empty .empty doubled) liquidatedRun = 620 ∧
      sumSteps clears (new 0 1 .empty .empty doubled) liquidatedRun = 300 ∧
      (((new 0 1 .empty .empty doubled).after liquidatedRun).collateral.balanceOf 0).toNat =
        (50 + 230 + 900 : Int) ∧
      (((new 0 1 .empty .empty doubled).after liquidatedRun).debt.balanceOf 0).toNat =
        (620 - 0 - 300 : Int) := by
  have hexact := balances_are_exact 0 1 doubled liquidatedRun
  have hin : sumSteps collateralIn (new 0 1 .empty .empty doubled) liquidatedRun = 50 := by
    decide +kernel
  have hseized : sumSteps seizes (new 0 1 .empty .empty doubled) liquidatedRun = 900 := by
    decide +kernel
  have hdebtIn : sumSteps debtIn (new 0 1 .empty .empty doubled) liquidatedRun = 620 := by
    decide +kernel
  have hcleared : sumSteps clears (new 0 1 .empty .empty doubled) liquidatedRun = 300 := by
    decide +kernel
  have hdeposits : ((new 0 1 .empty .empty doubled).after liquidatedRun).sumOthers
      (·.deposited.toNat) = 230 := by decide +kernel
  have hdebts : ((new 0 1 .empty .empty doubled).after liquidatedRun).sumOthers
      (·.debt.toNat) = 0 := by decide +kernel
  rw [hin, hseized, hdebtIn, hcleared, hdeposits, hdebts] at hexact
  exact ⟨hin, hseized, hdebtIn, hcleared, hexact.1, hexact.2⟩

end LedgerVault

end CollateralLending
