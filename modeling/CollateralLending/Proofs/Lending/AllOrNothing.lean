/-
  CollateralLending.Proofs.Lending.AllOrNothing

  Steps of a lending vault over a ledger are all or nothing. One that fails
  leaves the whole vault as it was: records, both tokens, events and log. An
  operation that goes through announces one event.

  For the operations this is a matter of order, since they check before they
  change anything. Minting does not: it raises the supply first, and it is the
  sum of the balances over a run that keeps it from failing after that.

  Main statement: `reached_vault_is_all_or_nothing`.
-/
import CollateralLending.Proofs.Lending.Transfers

namespace CollateralLending

variable {K : Type} [Ord K] [Std.TransOrd K] [Std.LawfulEqOrd K] [DecidableEq K]

namespace LedgerVault

variable {vault : LedgerVault K}

theorem Accounted.after (h : vault.Accounted) (steps : List (VaultStep K)) :
    (vault.after steps).Accounted := by
  induction steps generalizing vault with
  | nil => exact h
  | cons step steps ih =>
      rw [after_cons]
      exact ih (h.step step)

/-- An operation that fails leaves the vault as it was. -/
theorem operation_of_error (operation : Operation K) {account : K} {error : LendingError}
    (hfail : (vault.step (operation.on account)).result = .error error) :
    (vault.step (operation.on account)).vault = vault := by
  rcases vault.operation_cases operation account with ⟨_, -, hsame⟩ | ⟨_, _, -, -, hconcludes⟩
  · exact hsame
  · rw [hconcludes.result] at hfail
    cases hfail

theorem Accounted.step_of_error (h : vault.Accounted) {step : VaultStep K} {error : LendingError}
    (hfail : (vault.step step).result = .error error) : (vault.step step).vault = vault := by
  cases step with
  | deposit caller amount => exact operation_of_error (.deposit amount) hfail
  | borrow caller amount => exact operation_of_error (.borrow amount) hfail
  | payback caller amount => exact operation_of_error (.payback amount) hfail
  | withdraw caller amount => exact operation_of_error (.withdraw amount) hfail
  | liquidate caller account => exact operation_of_error (.liquidate caller) hfail
  | collateral step =>
      show { vault with collateral := (vault.collateral.step step).1 } = vault
      rw [h.collateral.step_of_error hfail]
  | debt step =>
      show { vault with debt := (vault.debt.step step).1 } = vault
      rw [h.debt.step_of_error hfail]
  | oracle next => cases hfail

/-- A step that fails leaves the whole vault as it was, and an operation that goes through adds one
event to what was announced: its own, with its amount and, where the event tells the value of debt,
that value at the price that was read, rounded down. -/
structure AllOrNothing (vault : LedgerVault K) : Prop where
  failed : ∀ step error, (vault.step step).result = .error error → (vault.step step).vault = vault
  succeeded : ∀ (operation : Operation K) (account : K),
    (vault.step (operation.on account)).result = .ok () →
      ∃ event, operation.Announces vault.oracle account event ∧
        (vault.step (operation.on account)).vault.events = vault.events ++ [event]

theorem Accounted.allOrNothing (h : vault.Accounted) : vault.AllOrNothing where
  failed _ _ hfail := h.step_of_error hfail
  succeeded operation account hdone := by
    rcases vault.operation_cases operation account with
      ⟨error, hfail, -⟩ | ⟨_, event, -, hannounces, hconcludes⟩
    · rw [hfail] at hdone
      cases hdone
    · exact ⟨event, hannounces, hconcludes.events⟩

/-- Whatever a vault over two new tokens has been through, its next step is all or nothing. -/
theorem reached_vault_is_all_or_nothing (address admin : K) (oracle : Oracle)
    (steps : List (VaultStep K)) :
    ((new address admin .empty .empty oracle).after steps).AllOrNothing :=
  ((solvent_new address admin oracle).toAccounted.after steps).allOrNothing

/-- After the run with a liquidation the supply has no room for what would overflow it, and account
3 may still borrow. -/
theorem all_or_nothing_after_liquidated_run :
    (((new 0 1 .empty .empty doubled).after liquidatedRun).step
        (.collateral (.mint 9 (.units (2 ^ 64 - 1))))).vault =
      (new 0 1 .empty .empty doubled).after liquidatedRun ∧
    ∃ event, (Operation.borrow (.units 50)).Announces
        ((new 0 1 .empty .empty doubled).after liquidatedRun).oracle 3 event ∧
      (((new 0 1 .empty .empty doubled).after liquidatedRun).step
          (.borrow 3 (.units 50))).vault.events
        = ((new 0 1 .empty .empty doubled).after liquidatedRun).events ++ [event] := by
  have hreached := reached_vault_is_all_or_nothing 0 1 doubled liquidatedRun
  have hoverflows : (((new 0 1 .empty .empty doubled).after liquidatedRun).step
      (.collateral (.mint 9 (.units (2 ^ 64 - 1))))).result = .error .mathOverflow := by
    decide +kernel
  have hborrows : (((new 0 1 .empty .empty doubled).after liquidatedRun).step
      (.borrow 3 (.units 50))).result = .ok () := by decide +kernel
  exact ⟨hreached.failed _ _ hoverflows, hreached.succeeded (.borrow (.units 50)) 3 hborrows⟩

end LedgerVault

end CollateralLending
