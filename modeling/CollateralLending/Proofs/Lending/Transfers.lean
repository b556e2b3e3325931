/-
  CollateralLending.Proofs.Lending.Transfers

  When an operation on a lending vault over a ledger fails for its transfer.
  A settled withdrawal is always paid out, and the other operations fail only
  when whoever has to pay is short: the depositor, the pool of debt tokens, or
  the debtor with its allowance.

  Three facts about a run carry this. The balances of each token add up to its
  supply, so no credit overflows; the collateral in the vault covers the
  deposits of all others, as long as nobody uses the token directly to take it
  out (`Solvent`); and no record asks for more than its own deposit.
-/
import CollateralLending.Proofs.Lending.PoolAccounts
import CollateralLending.Proofs.Token.Conservation

namespace CollateralLending

variable {K : Type} [Ord K] [Std.TransOrd K] [Std.LawfulEqOrd K] [DecidableEq K]

/-! ## Tokens in a run -/

/-- Whatever an account is credited with, its balance has room for. -/
structure TokenLedger.HasRoom (token : TokenLedger K) : Prop where
  moved : ∀ source target (amount : Amount), source ≠ target →
    amount.toNat ≤ (token.balanceOf source).toNat →
      (token.balanceOf target).toNat + amount.toNat < 2 ^ (64 : Nat)
  minted : ∀ receiver (amount : Amount), token.supply.toNat + amount.toNat < 2 ^ (64 : Nat) →
    (token.balanceOf receiver).toNat + amount.toNat < 2 ^ (64 : Nat)

theorem TokenLedger.Accounted.hasRoom {token : TokenLedger K} (h : token.Accounted) :
    token.HasRoom where
  moved _ _ _ hne henough := h.room hne henough
  minted receiver _ hsupply := h.room_for_minted receiver hsupply

namespace LedgerVault

variable {vault : LedgerVault K} {caller account : K} {amount : Amount}

/-- Both tokens of a vault are accounted for. -/
structure Accounted (vault : LedgerVault K) : Prop where
  collateral : vault.collateral.Accounted
  debt : vault.debt.Accounted

variable {settlement : Consultation Settlement} {move : LedgerVault K × Except LendingError Unit}
variable {event : Settlement → LendingEvent K}

omit [DecidableEq K] in
/-- An operation keeps both ledgers accounted for, whether or not it goes through. -/
theorem Accounted.perform (h : vault.Accounted) (hmove : move.1.Accounted) :
    (vault.perform account settlement move event).vault.Accounted := by
  rcases perform_cases vault account settlement move event with
    ⟨error, -, heq⟩ | ⟨settled, -, ⟨error, -, heq⟩ | ⟨-, heq⟩⟩
  · rw [heq]
    exact h
  · rw [heq]
    exact hmove
  · rw [heq]
    exact ⟨hmove.collateral, hmove.debt⟩

theorem Accounted.step (h : vault.Accounted) (step : VaultStep K) :
    (vault.step step).vault.Accounted := by
  cases step with
  | deposit caller amount => exact h.perform ⟨h.collateral.transfer _ _ _, h.debt⟩
  | borrow caller amount => exact h.perform ⟨h.collateral, h.debt.transfer _ _ _⟩
  | payback caller amount => exact h.perform ⟨h.collateral, h.debt.transferFrom _ _ _ _⟩
  | withdraw caller amount => exact h.perform ⟨h.collateral.transfer _ _ _, h.debt⟩
  | liquidate caller account =>
      show (vault.liquidate caller account).vault.Accounted
      rcases vault.liquidate_unchanged_or_concluded caller account with
        ⟨error, -, heq⟩ | ⟨settled, -, log, heq⟩
      · rw [heq]
        exact h
      · rw [heq]
        exact ⟨h.collateral, h.debt⟩
  | collateral step => exact ⟨h.collateral.step step, h.debt⟩
  | debt step => exact ⟨h.collateral, h.debt.step step⟩
  | oracle next => exact ⟨h.collateral, h.debt⟩

/-! ## Solvent vaults -/

/-- The collateral covers the deposits of all others, and both tokens are accounted for. -/
structure Solvent (vault : LedgerVault K) : Prop extends vault.Accounted where
  deposits : vault.sumOthers (·.deposited.toNat) ≤
    (vault.collateral.balanceOf vault.address).toNat

omit [Std.TransOrd K] [Std.LawfulEqOrd K] in
theorem seizes_nonneg (vault : LedgerVault K) (step : VaultStep K) : 0 ≤ vault.seizes step := by
  unfold seizes
  cases vault.liquidation? step with
  | none => exact Int.le_refl _
  | some liquidation => exact Int.natCast_nonneg _

/-- A step that draws no collateral keeps a vault solvent. -/
theorem Solvent.step (h : vault.Solvent) {step : VaultStep K} (hin : 0 ≤ vault.collateralIn step) :
    (vault.step step).vault.Solvent := by
  refine ⟨h.toAccounted.step step, ?_⟩
  have hdeposits := h.deposits
  have hexcess := (vault.accounts_step step).collateral
  have hseizes := vault.seizes_nonneg step
  unfold collateralExcess at hexcess
  omega

/-- No direct use of the collateral token takes it out of the vault while the steps are taken. -/
def NeverDrawn (vault : LedgerVault K) : List (VaultStep K) → Prop
  | [] => True
  | step :: steps => 0 ≤ vault.collateralIn step ∧ NeverDrawn (vault.step step).vault steps

instance decidableNeverDrawn (vault : LedgerVault K) :
    (steps : List (VaultStep K)) → Decidable (vault.NeverDrawn steps)
  | [] => isTrue trivial
  | step :: steps =>
    have := decidableNeverDrawn (vault.step step).vault steps
    inferInstanceAs (Decidable (_ ∧ _))

/-- A vault whose collateral nobody else draws on stays solvent. -/
theorem Solvent.after (h : vault.Solvent) {steps : List (VaultStep K)}
    (hdrawn : vault.NeverDrawn steps) : (vault.after steps).Solvent := by
  induction steps generalizing vault with
  | nil => exact h
  | cons step steps ih =>
      obtain ⟨hfirst, hrest⟩ := hdrawn
      rw [after_cons]
      exact ih (h.step hfirst) hrest

omit [Std.TransOrd K] [Std.LawfulEqOrd K] in
theorem solvent_new (address admin : K) (oracle : Oracle) :
    (new address admin .empty .empty oracle).Solvent where
  collateral := TokenLedger.accounted_empty
  debt := TokenLedger.accounted_empty
  deposits := Nat.le_refl _

/-- Nobody else has more on deposit than the vault holds. -/
theorem Solvent.deposited_le (h : vault.Solvent) (hcaller : caller ≠ vault.address) :
    (vault.record caller).deposited.toNat ≤ (vault.collateral.balanceOf vault.address).toNat := by
  have hsum := Table.le_sum
    (fun account (record : Record) => if account = vault.address then 0 else record.deposited.toNat)
    (fun _ => ite_self _) vault.ledger caller
  rw [if_neg hcaller] at hsum
  exact Nat.le_trans hsum h.deposits

/-! ## Transfers of settled operations -/

omit [DecidableEq K] in
/-- A settled operation fails when its move does. -/
theorem perform_result {settled : Settlement} (hsettled : settlement.result = .ok settled)
    {short : Prop} [Decidable short]
    (hmove : move.2 = if short then .error .transferFailed else .ok ()) :
    (vault.perform account settlement move event).result =
      if short then .error .transferFailed else .ok () := by
  rcases perform_cases vault account settlement move event with
    ⟨error, hresult, -⟩ | ⟨_, -, ⟨error, hfailed, heq⟩ | ⟨hdone, heq⟩⟩
  · rw [hsettled] at hresult
    cases hresult
  · rw [heq]
    by_cases hshort : short
    · rw [if_pos hshort]
    · rw [hmove, if_neg hshort] at hfailed
      cases hfailed
  · rw [heq, ← hmove, hdone]

/-- Operations that settle fail only when whoever has to pay is short, and then because the transfer
fails. A withdrawal that settles never fails. -/
structure FailsOnlyWhenShort (vault : LedgerVault K) (caller : K) (amount : Amount) : Prop where
  withdraw : ∀ settled, ((vault.record caller).withdraw vault.oracle amount).result = .ok settled →
    (vault.withdraw caller amount).result = .ok ()
  deposit : ∀ settled, (vault.record caller).deposit amount = .ok settled →
    (vault.deposit caller amount).result =
      if (vault.collateral.balanceOf caller).toNat < amount.toNat then .error .transferFailed
      else .ok ()
  borrow : ∀ settled, ((vault.record caller).borrow vault.oracle amount).result = .ok settled →
    (vault.borrow caller amount).result =
      if (vault.debt.balanceOf vault.address).toNat < amount.toNat then .error .transferFailed
      else .ok ()
  payback : ∀ settled, ((vault.record caller).payBack vault.oracle amount).result = .ok settled →
    (vault.payback caller amount).result =
      if (vault.debt.allowance caller vault.address).toNat < amount.toNat ∨
          (vault.debt.balanceOf caller).toNat < amount.toNat then .error .transferFailed
      else .ok ()

/-- A deposit that settles fails only for a caller who is short of collateral. -/
theorem Accounted.deposit_result (h : vault.Accounted) {settled : Settlement}
    (hsettled : (vault.record caller).deposit amount = .ok settled) :
    (vault.deposit caller amount).result =
      if (vault.collateral.balanceOf caller).toNat < amount.toNat then .error .transferFailed
      else .ok () :=
  perform_result hsettled (h.collateral.transfer_result caller vault.address amount)

/-- A borrow that settles fails only for a vault that is short of debt tokens. -/
theorem Accounted.borrow_result (h : vault.Accounted) {settled : Settlement}
    (hsettled : ((vault.record caller).borrow vault.oracle amount).result = .ok settled) :
    (vault.borrow caller amount).result =
      if (vault.debt.balanceOf vault.address).toNat < amount.toNat then .error .transferFailed
      else .ok () :=
  perform_result hsettled (h.debt.transfer_result vault.address caller amount)

/-- A payback that settles fails only for a caller who is short of debt tokens or of allowance. -/
theorem Accounted.payback_result (h : vault.Accounted) (hcaller : caller ≠ vault.address)
    {settled : Settlement}
    (hsettled : ((vault.record caller).payBack vault.oracle amount).result = .ok settled) :
    (vault.payback caller amount).result =
      if (vault.debt.allowance caller vault.address).toNat < amount.toNat ∨
          (vault.debt.balanceOf caller).toNat < amount.toNat then .error .transferFailed
      else .ok () :=
  perform_result hsettled (h.debt.transferFrom_result (Ne.symm hcaller) vault.address amount)

/-- A withdrawal that settles never fails. -/
theorem Solvent.withdraw_result (h : vault.Solvent) (hcaller : caller ≠ vault.address)
    {settled : Settlement}
    (hsettled : ((vault.record caller).withdraw vault.oracle amount).result = .ok settled) :
    (vault.withdraw caller amount).result = .ok () := by
  obtain ⟨-, -, hdeposited, -⟩ := Record.withdraw_eq_ok_iff.1 hsettled
  have hdeposit := h.deposited_le hcaller
  have hresult : (vault.withdraw caller amount).result = _ :=
    perform_result hsettled (h.collateral.transfer_result vault.address caller amount)
  rw [hresult, if_neg (by omega)]

theorem Solvent.failsOnlyWhenShort (h : vault.Solvent) (hcaller : caller ≠ vault.address)
    (amount : Amount) : vault.FailsOnlyWhenShort caller amount where
  withdraw _ hsettled := h.withdraw_result hcaller hsettled
  deposit _ hsettled := h.deposit_result hsettled
  borrow _ hsettled := h.borrow_result hsettled
  payback _ hsettled := h.payback_result hcaller hsettled

/-- Take any run of a vault that starts out without positions over two tokens that nobody holds, in
which no direct use of the collateral token takes it out of the vault. In the end an operation of
anyone but the vault's own account fails for its transfer only when whoever has to pay is short, and
a withdrawal never does: the collateral covers all deposits of others. No credit can overflow. -/
theorem transfers_fail_only_when_short (address admin : K) (oracle : Oracle)
    (steps : List (VaultStep K))
    (hdrawn : (new address admin .empty .empty oracle).NeverDrawn steps) :
    (∀ caller amount, caller ≠ address →
      ((new address admin .empty .empty oracle).after steps).FailsOnlyWhenShort caller amount) ∧
    ((new address admin .empty .empty oracle).after steps).sumOthers (·.deposited.toNat) ≤
      (((new address admin .empty .empty oracle).after steps).collateral.balanceOf address).toNat ∧
    ((new address admin .empty .empty oracle).after steps).collateral.HasRoom ∧
    ((new address admin .empty .empty oracle).after steps).debt.HasRoom := by
  have hsolvent := (solvent_new address admin oracle).after hdrawn
  have haddress : ((new address admin .empty .empty oracle).after steps).address = address :=
    ((new address admin .empty .empty oracle).accounts_after steps).1
  have hdeposits := hsolvent.deposits
  rw [haddress] at hdeposits
  refine ⟨?_, hdeposits, hsolvent.collateral.hasRoom, hsolvent.debt.hasRoom⟩
  intro caller amount hcaller
  rw [← haddress] at hcaller
  exact hsolvent.failsOnlyWhenShort hcaller amount

/-- After the run with a liquidation, account 3 has 230 units on deposit and 70 at hand. It can take
out all of its deposit, and can deposit no more than it has. -/
theorem transfers_after_liquidated_run :
    (new 0 1 .empty .empty doubled).NeverDrawn liquidatedRun ∧
      (((new 0 1 .empty .empty doubled).after liquidatedRun).withdraw 3 (.units 230)).result =
        .ok () ∧
      (((new 0 1 .empty .empty doubled).after liquidatedRun).deposit 3 (.units 70)).result =
        .ok () ∧
      (((new 0 1 .empty .empty doubled).after liquidatedRun).deposit 3 (.units 71)).result =
        .error .transferFailed := by
  have hdrawn : (new 0 1 .empty .empty doubled).NeverDrawn liquidatedRun := by decide +kernel
  obtain ⟨hfails, -, -, -⟩ := transfers_fail_only_when_short 0 1 doubled liquidatedRun hdrawn
  have hbalance : (((new 0 1 .empty .empty doubled).after liquidatedRun).collateral.balanceOf
      3).toNat = 70 := by decide +kernel
  have hfits := (hfails 3 (.units 70) (by decide)).deposit ⟨⟨.units 300, .zero⟩, .zero⟩
    (by decide +kernel)
  have hshort := (hfails 3 (.units 71) (by decide)).deposit ⟨⟨.units 301, .zero⟩, .zero⟩
    (by decide +kernel)
  rw [hbalance] at hfits hshort
  refine ⟨hdrawn, ?_, hfits, hshort⟩
  exact (hfails 3 (.units 230) (by decide)).withdraw ⟨⟨.zero, .zero⟩, .zero⟩ (by decide +kernel)

end LedgerVault

end CollateralLending
