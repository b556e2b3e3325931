/-
  CollateralLending.Proofs.Lending.VaultRun

  Runs of a lending vault over a ledger. Anyone may call any operation, or use
  the tokens directly, and the oracle may change at any time; steps that fail
  count as steps too.

  What an operation does to the records is one of three: nothing, the
  settlement of the caller, or the end of a position (`step_records`).
-/
import CollateralLending.Lending.LedgerVault
import CollateralLending.Proofs.Lending.Settlements
import CollateralLending.Proofs.Token.Run
import CollateralLending.Table.Lemmas

namespace CollateralLending

variable {K : Type}

/-! ## Steps -/

/-- A step of a run. -/
inductive VaultStep (K : Type) where
  | deposit (caller : K) (amount : Amount)
  | borrow (caller : K) (amount : Amount)
  | payback (caller : K) (amount : Amount)
  | withdraw (caller : K) (amount : Amount)
  | liquidate (caller account : K)
  | collateral (step : TokenStep K)
  | debt (step : TokenStep K)
  | oracle (oracle : Oracle)

/-- The oracle that a step sets, if it sets one. -/
def VaultStep.oracle? : VaultStep K → Option Oracle
  | oracle next => some next
  | deposit .. | borrow .. | payback .. | withdraw .. | liquidate .. | collateral _ | debt _ => none

variable [Ord K] [Std.TransOrd K] [Std.LawfulEqOrd K] [DecidableEq K]

namespace LedgerVault

/-- Takes a step. -/
def step (vault : LedgerVault K) : VaultStep K → VaultOutcome K
  | .deposit caller amount => vault.deposit caller amount
  | .borrow caller amount => vault.borrow caller amount
  | .payback caller amount => vault.payback caller amount
  | .withdraw caller amount => vault.withdraw caller amount
  | .liquidate caller account => vault.liquidate caller account
  | .collateral step =>
    let outcome := vault.collateral.step step
    ⟨{ vault with collateral := outcome.1 }, outcome.2, 0⟩
  | .debt step =>
    let outcome := vault.debt.step step
    ⟨{ vault with debt := outcome.1 }, outcome.2, 0⟩
  | .oracle next => ⟨{ vault with oracle := next }, .ok (), 0⟩

/-- The vault after all steps of a run. -/
def after (vault : LedgerVault K) (steps : List (VaultStep K)) : LedgerVault K :=
  steps.foldl (fun vault step => (vault.step step).vault) vault

variable {vault : LedgerVault K} {account : K}

theorem after_cons (vault : LedgerVault K) (step : VaultStep K) (steps : List (VaultStep K)) :
    vault.after (step :: steps) = (vault.step step).vault.after steps := rfl

theorem after_snoc (vault : LedgerVault K) (steps : List (VaultStep K)) (step : VaultStep K) :
    vault.after (steps ++ [step]) = ((vault.after steps).step step).vault := by
  unfold after
  rw [List.foldl_append]
  rfl

/-! ## Steps that move an asset -/

theorem step_deposit (vault : LedgerVault K) (caller : K) (amount : Amount) :
    vault.step (.deposit caller amount) =
      vault.perform caller (.ofResult ((vault.record caller).deposit amount))
        (vault.withCollateral (vault.collateral.transfer caller vault.address amount))
        fun _ => .deposited amount := rfl

theorem step_borrow (vault : LedgerVault K) (caller : K) (amount : Amount) :
    vault.step (.borrow caller amount) =
      vault.perform caller ((vault.record caller).borrow vault.oracle amount)
        (vault.withDebt (vault.debt.transfer vault.address caller amount))
        fun settled => .borrowed amount settled.collateralEquivalent := rfl

theorem step_payback (vault : LedgerVault K) (caller : K) (amount : Amount) :
    vault.step (.payback caller amount) =
      vault.perform caller ((vault.record caller).payBack vault.oracle amount)
        (vault.withDebt (vault.debt.transferFrom vault.address caller vault.address amount))
        fun settled => .paidBack amount settled.collateralEquivalent := rfl

theorem step_withdraw (vault : LedgerVault K) (caller : K) (amount : Amount) :
    vault.step (.withdraw caller amount) =
      vault.perform caller ((vault.record caller).withdraw vault.oracle amount)
        (vault.withCollateral (vault.collateral.transfer vault.address caller amount))
        fun _ => .withdrawn amount := rfl

/-! ## What an operation leaves behind -/

variable {settlement : Consultation Settlement} {move : LedgerVault K × Except LendingError Unit}
variable {event : Settlement → LendingEvent K}

omit [DecidableEq K] in
/-- An operation is refused, or its asset does not move, or it is concluded. -/
theorem perform_cases (vault : LedgerVault K) (account : K) (settlement : Consultation Settlement)
    (move : LedgerVault K × Except LendingError Unit) (event : Settlement → LendingEvent K) :
    (∃ error, settlement.result = .error error ∧
      vault.perform account settlement move event = ⟨vault, .error error, settlement.reads⟩) ∨
    ∃ settled, settlement.result = .ok settled ∧
      ((∃ error, move.2 = .error error ∧ vault.perform account settlement move event =
          ⟨move.1, .error .transferFailed, settlement.reads⟩) ∨
        (move.2 = .ok () ∧ vault.perform account settlement move event =
          ⟨move.1.conclude account settled.next (event settled), .ok (), settlement.reads⟩)) := by
  unfold perform
  cases hresult : settlement.result with
  | error error => exact .inl ⟨error, rfl, rfl⟩
  | ok settled =>
      obtain ⟨moved, outcome⟩ := move
      cases outcome with
      | error error => exact .inr ⟨settled, rfl, .inl ⟨error, rfl, rfl⟩⟩
      | ok _ => exact .inr ⟨settled, rfl, .inr ⟨rfl, rfl⟩⟩

omit [DecidableEq K] in
/-- An operation that is not concluded leaves the vault as it was, when a failed move does. -/
theorem perform_unchanged_or_concluded (hfail : ∀ error, move.2 = .error error → move.1 = vault) :
    (vault.perform account settlement move event).vault = vault ∨
      ∃ settled, settlement.result = .ok settled ∧ move.2 = .ok () ∧
        (vault.perform account settlement move event).vault =
          move.1.conclude account settled.next (event settled) := by
  rcases perform_cases vault account settlement move event with
    ⟨error, -, heq⟩ | ⟨settled, hsettled, ⟨error, hmove, heq⟩ | ⟨hmove, heq⟩⟩
  · rw [heq]
    exact .inl rfl
  · rw [heq]
    exact .inl (hfail error hmove)
  · rw [heq]
    exact .inr ⟨settled, hsettled, hmove, rfl⟩

omit [DecidableEq K] in
/-- An operation goes through when it settles and its asset moves, and ends in what is concluded
then. -/
theorem perform_iff {after : LedgerVault K} :
    ((vault.perform account settlement move event).result = .ok () ∧
        (vault.perform account settlement move event).vault = after) ↔
      ∃ settled, settlement.result = .ok settled ∧ move.2 = .ok () ∧
        after = move.1.conclude account settled.next (event settled) := by
  rcases perform_cases vault account settlement move event with
    ⟨error, hsettled, heq⟩ | ⟨settled, hsettled, ⟨error, hmove, heq⟩ | ⟨hmove, heq⟩⟩
  · simp [heq, hsettled]
  · simp [heq, hsettled, hmove]
  · simp [heq, hsettled, hmove, eq_comm]

variable {outcome : VaultOutcome K}

omit [DecidableEq K] in
/-- Moving an asset touches neither the records nor the oracle. -/
theorem perform_oracle (h : outcome = vault.perform account settlement move event)
    (hmove : move.1.oracle = vault.oracle) : outcome.vault.oracle = vault.oracle := by
  rcases perform_cases vault account settlement move event with
    ⟨error, -, heq⟩ | ⟨settled, -, ⟨error, -, heq⟩ | ⟨-, heq⟩⟩
  · rw [h, heq]
  · rw [h, heq]
    exact hmove
  · rw [h, heq]
    exact hmove

/-- The records after an operation: as before, or with the one that was settled. -/
theorem perform_records (h : outcome = vault.perform account settlement move event)
    (hmove : move.1.ledger = vault.ledger) :
    (∀ a, outcome.vault.record a = vault.record a) ∨
      ∃ settled, settlement.result = .ok settled ∧
        ∀ a, outcome.vault.record a = if a = account then settled.next else vault.record a := by
  rcases perform_cases vault account settlement move event with
    ⟨error, -, heq⟩ | ⟨settled, hsettled, ⟨error, -, heq⟩ | ⟨-, heq⟩⟩
  · rw [h, heq]
    exact .inl fun _ => rfl
  · -- The asset did not move: what is left of the attempt has the old records.
    rw [h, heq]
    left
    intro a
    unfold record
    rw [hmove]
  · rw [h, heq]
    refine .inr ⟨settled, hsettled, ?_⟩
    intro a
    unfold record conclude
    rw [hmove]
    exact Table.get_set vault.ledger account a settled.next

/-- How a step changes the record of one account, told by the outcome of its settlement. -/
inductive Settles (vault : LedgerVault K) : VaultStep K → K → Record → Prop where
  | deposit {caller : K} {amount : Amount} {settled : Settlement}
      (settles : (vault.record caller).deposit amount = .ok settled) :
      Settles vault (.deposit caller amount) caller settled.next
  | borrow {caller : K} {amount : Amount} {settled : Settlement}
      (settles : ((vault.record caller).borrow vault.oracle amount).result = .ok settled) :
      Settles vault (.borrow caller amount) caller settled.next
  | payback {caller : K} {amount : Amount} {settled : Settlement}
      (settles : ((vault.record caller).payBack vault.oracle amount).result = .ok settled) :
      Settles vault (.payback caller amount) caller settled.next
  | withdraw {caller : K} {amount : Amount} {settled : Settlement}
      (settles : ((vault.record caller).withdraw vault.oracle amount).result = .ok settled) :
      Settles vault (.withdraw caller amount) caller settled.next
  | liquidate {caller account : K} {settled : Liquidation}
      (settles : ((vault.record account).liquidate caller vault.admin vault.oracle).result =
        .ok settled) :
      Settles vault (.liquidate caller account) account .zero

/-- A liquidation changes nothing, or clears the record of the account and concludes. -/
theorem liquidate_cases (vault : LedgerVault K) (caller account : K) :
    (∃ error, (vault.liquidate caller account).result = .error error ∧
      (vault.liquidate caller account).vault = vault) ∨
    ∃ settled, ((vault.record account).liquidate caller vault.admin vault.oracle).result =
        .ok settled ∧ (vault.liquidate caller account).vault.oracle = vault.oracle ∧
      ∀ a, (vault.liquidate caller account).vault.record a =
        if a = account then .zero else vault.record a := by
  unfold liquidate
  simp only
  cases hresult : ((vault.record account).liquidate caller vault.admin vault.oracle).result with
  | error error => exact .inl ⟨error, rfl, rfl⟩
  | ok settled =>
      refine .inr ⟨settled, rfl, rfl, ?_⟩
      intro a
      exact Table.get_set vault.ledger account a .zero

/-- A liquidation leaves the vault as it was, or ends the position and moves nothing. -/
theorem liquidate_unchanged_or_concluded (vault : LedgerVault K) (caller account : K) :
    (∃ error, ((vault.record account).liquidate caller vault.admin vault.oracle).result =
        .error error ∧ (vault.liquidate caller account).vault = vault) ∨
    ∃ settled, ((vault.record account).liquidate caller vault.admin vault.oracle).result =
        .ok settled ∧ ∃ log, (vault.liquidate caller account).vault =
          { vault.conclude account .zero (.liquidated account) with log := log } := by
  unfold liquidate
  simp only
  cases hresult : ((vault.record account).liquidate caller vault.admin vault.oracle).result with
  | error error => exact .inl ⟨error, rfl, rfl⟩
  | ok settled => exact .inr ⟨settled, rfl, _, rfl⟩

/-- A step changes no record, or one record by its settlement. -/
theorem step_records (vault : LedgerVault K) (step : VaultStep K) :
    (∀ a, (vault.step step).vault.record a = vault.record a) ∨
      ∃ account next, vault.Settles step account next ∧
        ∀ a, (vault.step step).vault.record a =
          if a = account then next else vault.record a := by
  -- Only operations settle anything; uses of the tokens and of the oracle leave the records alone.
  cases step with
  | deposit caller amount =>
      rcases perform_records (vault.step_deposit caller amount) rfl with hsame |
        ⟨settled, hsettled, hrecords⟩
      · exact .inl hsame
      · exact .inr ⟨caller, settled.next, .deposit hsettled, hrecords⟩
  | borrow caller amount =>
      rcases perform_records (vault.step_borrow caller amount) rfl with hsame |
        ⟨settled, hsettled, hrecords⟩
      · exact .inl hsame
      · exact .inr ⟨caller, settled.next, .borrow hsettled, hrecords⟩
  | payback caller amount =>
      rcases perform_records (vault.step_payback caller amount) rfl with hsame |
        ⟨settled, hsettled, hrecords⟩
      · exact .inl hsame
      · exact .inr ⟨caller, settled.next, .payback hsettled, hrecords⟩
  | withdraw caller amount =>
      rcases perform_records (vault.step_withdraw caller amount) rfl with hsame |
        ⟨settled, hsettled, hrecords⟩
      · exact .inl hsame
      · exact .inr ⟨caller, settled.next, .withdraw hsettled, hrecords⟩
  | liquidate caller account =>
      rcases vault.liquidate_cases caller account with
        ⟨error, -, hsame⟩ | ⟨settled, hsettled, -, hrecords⟩
      · left
        intro a
        show (vault.liquidate caller account).vault.record a = vault.record a
        rw [hsame]
      · exact .inr ⟨account, .zero, .liquidate hsettled, hrecords⟩
  | collateral step => exact .inl fun _ => rfl
  | debt step => exact .inl fun _ => rfl
  | oracle next => exact .inl fun _ => rfl

theorem step_oracle (vault : LedgerVault K) (step : VaultStep K) :
    (vault.step step).vault.oracle = step.oracle?.getD vault.oracle := by
  cases step with
  | deposit caller amount => exact perform_oracle (vault.step_deposit caller amount) rfl
  | borrow caller amount => exact perform_oracle (vault.step_borrow caller amount) rfl
  | payback caller amount => exact perform_oracle (vault.step_payback caller amount) rfl
  | withdraw caller amount => exact perform_oracle (vault.step_withdraw caller amount) rfl
  | liquidate caller account =>
      show (vault.liquidate caller account).vault.oracle = vault.oracle
      rcases vault.liquidate_cases caller account with ⟨error, -, hsame⟩ | ⟨_, -, horacle, -⟩
      · rw [hsame]
      · exact horacle
  | collateral step => rfl
  | debt step => rfl
  | oracle next => rfl

end LedgerVault

end CollateralLending
