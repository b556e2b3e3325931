/-
  CollateralLending.Proofs.Lending.Operations

  Operations on an account of a lending vault over a ledger, and what each of
  them comes to. An operation that fails leaves the whole vault as it was. One
  that goes through stores the settled record of its account and announces one
  event (`Concludes`).

  Main statement: `operation_cases` says that there is no third way.
-/
import CollateralLending.Proofs.Lending.VaultRun
import CollateralLending.Proofs.Token.Balances

namespace CollateralLending

variable {K : Type}

/-! ## Operations on an account -/

/-- An operation that concerns one account: its own, or a liquidation of it by anyone. -/
inductive Operation (K : Type) where
  | deposit (amount : Amount)
  | borrow (amount : Amount)
  | payback (amount : Amount)
  | withdraw (amount : Amount)
  | liquidate (caller : K)

namespace Operation

/-- The operation, on this account. -/
def on (account : K) : Operation K → VaultStep K
  | deposit amount => .deposit account amount
  | borrow amount => .borrow account amount
  | payback amount => .payback account amount
  | withdraw amount => .withdraw account amount
  | liquidate caller => .liquidate caller account

/-- What the operation announces when it goes through: its amount, and the value of the debt it
moves at the price that was read, rounded down. -/
inductive Announces (oracle : Oracle) (account : K) : Operation K → LendingEvent K → Prop where
  | deposit {amount : Amount} : Announces oracle account (.deposit amount) (.deposited amount)
  | borrow {amount value : Amount} {quote : Quote}
      (quotes : oracle.currentQuote.result = .ok quote)
      (floors : value.toNat =
        amount.toNat * quote.rate.raw.toNat / 10 ^ quote.rate.decimals.toNat) :
      Announces oracle account (.borrow amount) (.borrowed amount value)
  | payback {amount value : Amount} {quote : Quote}
      (quotes : oracle.currentQuote.result = .ok quote)
      (floors : value.toNat =
        amount.toNat * quote.rate.raw.toNat / 10 ^ quote.rate.decimals.toNat) :
      Announces oracle account (.payback amount) (.paidBack amount value)
  | withdraw {amount : Amount} : Announces oracle account (.withdraw amount) (.withdrawn amount)
  | liquidate {caller : K} : Announces oracle account (.liquidate caller) (.liquidated account)

end Operation

namespace LedgerVault

variable [Ord K] [Std.TransOrd K] [Std.LawfulEqOrd K] [DecidableEq K]
variable {vault : LedgerVault K} {account : K} {next : Record} {announced : LendingEvent K}

/-! ## What an operation concludes -/

/-- The transfer that an operation makes; what makes none does not fail at it. -/
def transfer (vault : LedgerVault K) : VaultStep K → Except LendingError Unit
  | .deposit caller amount => (vault.collateral.transfer caller vault.address amount).2
  | .borrow caller amount => (vault.debt.transfer vault.address caller amount).2
  | .payback caller amount =>
    (vault.debt.transferFrom vault.address caller vault.address amount).2
  | .withdraw caller amount => (vault.collateral.transfer vault.address caller amount).2
  | .liquidate .. | .collateral _ | .debt _ | .oracle _ => .ok ()

/-- A step goes through with a new record of one account and one event. -/
structure Concludes (vault : LedgerVault K) (step : VaultStep K) (account : K) (next : Record)
    (announced : LendingEvent K) : Prop where
  result : (vault.step step).result = .ok ()
  admin : (vault.step step).vault.admin = vault.admin
  ledger : (vault.step step).vault.ledger = vault.ledger.set account next
  events : (vault.step step).vault.events = vault.events ++ [announced]

/-- Moving an asset touches neither the admin, nor the records, nor what was announced. -/
structure Moves (vault moved : LedgerVault K) : Prop where
  admin : moved.admin = vault.admin
  ledger : moved.ledger = vault.ledger
  events : moved.events = vault.events

omit [Std.TransOrd K] [Std.LawfulEqOrd K] [DecidableEq K] in
theorem moves_withCollateral (vault : LedgerVault K)
    (outcome : TokenLedger K × Except LendingError Unit) :
    vault.Moves (vault.withCollateral outcome).1 := ⟨rfl, rfl, rfl⟩

omit [Std.TransOrd K] [Std.LawfulEqOrd K] [DecidableEq K] in
theorem moves_withDebt (vault : LedgerVault K)
    (outcome : TokenLedger K × Except LendingError Unit) :
    vault.Moves (vault.withDebt outcome).1 := ⟨rfl, rfl, rfl⟩

variable {settlement : Consultation Settlement} {move : LedgerVault K × Except LendingError Unit}
variable {event : Settlement → LendingEvent K} {settled : Settlement} {step : VaultStep K}

/-- An operation concludes when its settlement and its transfer both go through. -/
theorem concludes_of_perform
    (hstep : vault.step step = vault.perform account settlement move event)
    (hsettled : settlement.result = .ok settled) (hmove : move.2 = .ok ())
    (hmoves : vault.Moves move.1) :
    vault.Concludes step account settled.next (event settled) := by
  obtain ⟨hresult, hvault⟩ : (vault.step step).result = .ok () ∧
      (vault.step step).vault = move.1.conclude account settled.next (event settled) := by
    rw [hstep]
    exact perform_iff.2 ⟨settled, hsettled, hmove, rfl⟩
  refine ⟨hresult, ?_, ?_, ?_⟩
  · rw [hvault]
    exact hmoves.admin
  · rw [hvault]
    exact congrArg (fun ledger => Table.set ledger account settled.next) hmoves.ledger
  · rw [hvault]
    exact congrArg (· ++ [event settled]) hmoves.events

variable {amount : Amount}

theorem concludes_of_deposit (hsettled : (vault.record account).deposit amount = .ok settled)
    (htransfer : vault.transfer (.deposit account amount) = .ok ()) :
    vault.Concludes (.deposit account amount) account settled.next (.deposited amount) :=
  concludes_of_perform (vault.step_deposit account amount) hsettled htransfer
    (vault.moves_withCollateral _)

theorem concludes_of_borrow
    (hsettled : ((vault.record account).borrow vault.oracle amount).result = .ok settled)
    (htransfer : vault.transfer (.borrow account amount) = .ok ()) :
    vault.Concludes (.borrow account amount) account settled.next
      (.borrowed amount settled.collateralEquivalent) :=
  concludes_of_perform (vault.step_borrow account amount) hsettled htransfer
    (vault.moves_withDebt _)

theorem concludes_of_payback
    (hsettled : ((vault.record account).payBack vault.oracle amount).result = .ok settled)
    (htransfer : vault.transfer (.payback account amount) = .ok ()) :
    vault.Concludes (.payback account amount) account settled.next
      (.paidBack amount settled.collateralEquivalent) :=
  concludes_of_perform (vault.step_payback account amount) hsettled htransfer
    (vault.moves_withDebt _)

theorem concludes_of_withdraw
    (hsettled : ((vault.record account).withdraw vault.oracle amount).result = .ok settled)
    (htransfer : vault.transfer (.withdraw account amount) = .ok ()) :
    vault.Concludes (.withdraw account amount) account settled.next (.withdrawn amount) :=
  concludes_of_perform (vault.step_withdraw account amount) hsettled htransfer
    (vault.moves_withCollateral _)

theorem concludes_of_liquidate {caller : K} {settled : Liquidation}
    (hsettled : ((vault.record account).liquidate caller vault.admin vault.oracle).result =
      .ok settled) :
    vault.Concludes (.liquidate caller account) account .zero (.liquidated account) := by
  have hstep : vault.step (.liquidate caller account) = vault.liquidate caller account := rfl
  unfold liquidate at hstep
  simp only [hsettled] at hstep
  exact ⟨by rw [hstep], by rw [hstep]; rfl, by rw [hstep]; rfl, by rw [hstep]; rfl⟩

/-! ## What an operation comes to -/

omit [Std.TransOrd K] [Std.LawfulEqOrd K] [DecidableEq K] in
/-- A collateral call that fails with its ledger unchanged fails with the vault unchanged. -/
theorem withCollateral_of_error {outcome : TokenLedger K × Except LendingError Unit}
    (hfail : ∀ error, outcome.2 = .error error → outcome.1 = vault.collateral)
    (error : LendingError) (h : (vault.withCollateral outcome).2 = .error error) :
    (vault.withCollateral outcome).1 = vault := by
  unfold withCollateral
  rw [hfail error h]

omit [Std.TransOrd K] [Std.LawfulEqOrd K] [DecidableEq K] in
theorem withDebt_of_error {outcome : TokenLedger K × Except LendingError Unit}
    (hfail : ∀ error, outcome.2 = .error error → outcome.1 = vault.debt) (error : LendingError)
    (h : (vault.withDebt outcome).2 = .error error) : (vault.withDebt outcome).1 = vault := by
  unfold withDebt
  rw [hfail error h]

/-- An operation that moves an asset fails and leaves the vault as it was, or concludes. -/
theorem failed_or_concludes
    (hstep : vault.step step = vault.perform account settlement move event)
    (hfail : ∀ error, move.2 = .error error → move.1 = vault) (hmoves : vault.Moves move.1) :
    (∃ error, (vault.step step).result = .error error ∧ (vault.step step).vault = vault) ∨
      ∃ settled, settlement.result = .ok settled ∧
        vault.Concludes step account settled.next (event settled) := by
  rcases vault.perform_cases account settlement move event with
    ⟨error, -, heq⟩ | ⟨settled, hsettled, ⟨error, hfailed, heq⟩ | ⟨hmove, -⟩⟩
  · rw [hstep, heq]
    exact .inl ⟨error, rfl, rfl⟩
  · rw [hstep, heq]
    exact .inl ⟨.transferFailed, rfl, hfail error hfailed⟩
  · exact .inr ⟨settled, hsettled, concludes_of_perform hstep hsettled hmove hmoves⟩

/-- An operation fails and leaves the vault as it was, or it stores the record it settled and
announces its event. -/
theorem operation_cases (vault : LedgerVault K) (operation : Operation K) (account : K) :
    (∃ error, (vault.step (operation.on account)).result = .error error ∧
      (vault.step (operation.on account)).vault = vault) ∨
    ∃ next announced, vault.Settles (operation.on account) account next ∧
      operation.Announces vault.oracle account announced ∧
      vault.Concludes (operation.on account) account next announced := by
  cases operation with
  | deposit amount =>
      rcases failed_or_concludes (vault.step_deposit account amount)
        (withCollateral_of_error fun _ => TokenLedger.transfer_of_error)
        (vault.moves_withCollateral _) with hfailed | ⟨settled, hsettled, hconcludes⟩
      · exact .inl hfailed
      · exact .inr ⟨_, _, .deposit hsettled, .deposit, hconcludes⟩
  | borrow amount =>
      rcases failed_or_concludes (vault.step_borrow account amount)
        (withDebt_of_error fun _ => TokenLedger.transfer_of_error)
        (vault.moves_withDebt _) with hfailed | ⟨settled, hsettled, hconcludes⟩
      · exact .inl hfailed
      · obtain ⟨-, quote, hquote, hvalue, -⟩ := Record.borrow_eq_ok_iff.1 hsettled
        exact .inr ⟨_, _, .borrow hsettled, .borrow hquote hvalue, hconcludes⟩
  | payback amount =>
      rcases failed_or_concludes (vault.step_payback account amount)
        (withDebt_of_error fun _ => TokenLedger.transferFrom_of_error)
        (vault.moves_withDebt _) with hfailed | ⟨settled, hsettled, hconcludes⟩
      · exact .inl hfailed
      · obtain ⟨-, quote, hquote, hvalue, -⟩ := Record.payBack_eq_ok_iff.1 hsettled
        exact .inr ⟨_, _, .payback hsettled, .payback hquote hvalue, hconcludes⟩
  | withdraw amount =>
      rcases failed_or_concludes (vault.step_withdraw account amount)
        (withCollateral_of_error fun _ => TokenLedger.transfer_of_error)
        (vault.moves_withCollateral _) with hfailed | ⟨settled, hsettled, hconcludes⟩
      · exact .inl hfailed
      · exact .inr ⟨_, _, .withdraw hsettled, .withdraw, hconcludes⟩
  | liquidate caller =>
      rcases vault.liquidate_cases caller account with hfailed | ⟨settled, hsettled, -⟩
      · exact .inl hfailed
      · exact .inr ⟨_, _, .liquidate hsettled, .liquidate, concludes_of_liquidate hsettled⟩

end LedgerVault

end CollateralLending
