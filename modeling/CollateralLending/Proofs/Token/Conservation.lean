/-
  CollateralLending.Proofs.Token.Conservation

  A token through a run. The balances add up to the supply at every moment, only
  minting changes the supply, and a call that fails changes nothing.

  Two checks in a token are never what a call fails by. Minting raises the supply
  before it checks the balance, and a move checks the balance it credits after the
  one it debits. In a ledger of any balances these checks could fail, the first of
  them with the supply already raised. In one that a run leads to they cannot: the
  balances add up to a supply that is a word (`Accounted.conserves`).

  Main statement: `supply_is_held`.
-/
import CollateralLending.Proofs.Token.Flows
import CollateralLending.Proofs.Token.Run
import CollateralLending.Proofs.Token.Supply

namespace CollateralLending

variable {K : Type}

/-- What a step mints when it goes through. -/
def TokenStep.minted : TokenStep K → Nat
  | mint _ amount => amount.toNat
  | approve .. | transfer .. | transferFrom .. => 0

namespace TokenLedger

variable [Ord K] [Std.TransOrd K] [Std.LawfulEqOrd K] [DecidableEq K]
variable {token : TokenLedger K}

/-! ## One step -/

/-- Every use of a token keeps its units accounted for. -/
theorem Accounted.step (h : token.Accounted) (step : TokenStep K) :
    (token.step step).1.Accounted := by
  cases step with
  | mint receiver amount => exact h.mint receiver amount
  | approve owner spender amount => exact h.approve owner spender amount
  | transfer source target amount => exact h.transfer source target amount
  | transferFrom spender owner target amount => exact h.transferFrom spender owner target amount

/-- A use of a token that fails changes nothing. -/
theorem Accounted.step_of_error (h : token.Accounted) {step : TokenStep K} {error : LendingError}
    (hfail : (token.step step).2 = .error error) : (token.step step).1 = token := by
  cases step with
  | mint receiver amount => exact h.mint_of_error hfail
  | approve owner spender amount => cases hfail
  | transfer source target amount => exact transfer_of_error hfail
  | transferFrom spender owner target amount => exact transferFrom_of_error hfail

/-- The supply grows by what is minted and changes by nothing else. -/
theorem Accounted.supply_step (h : token.Accounted) (step : TokenStep K) :
    (token.step step).1.supply.toNat =
      token.supply.toNat + (token.call step).counts TokenStep.minted := by
  cases hresult : (token.step step).2 with
  | error error => rw [counts_call_of_error _ hresult, h.step_of_error hresult, Nat.add_zero]
  | ok _ =>
    rw [counts_call_of_ok _ hresult]
    cases step with
    | mint receiver amount =>
      rcases h.mint_cases receiver amount with heq | ⟨supply, _, hsupply, -, heq⟩
      · rw [TokenLedger.step, heq] at hresult
        cases hresult
      · rw [TokenLedger.step, heq]
        exact hsupply
    | approve owner spender amount => rfl
    | transfer source target amount => exact congrArg Word.toNat (flows_of_transfer hresult).supply
    | transferFrom spender owner target amount =>
      exact congrArg Word.toNat (supply_of_transferFrom hresult)

/-! ## Checks on what is credited -/

/-- What the supply has room for, each balance has. -/
theorem Accounted.credit_of_mint (h : token.Accounted) (receiver : K) {amount supply : Amount}
    (hsupply : token.supply.add? amount = some supply) :
    ∃ balance, (token.balanceOf receiver).add? amount = some balance := by
  rw [Word.add?_eq_some_iff] at hsupply
  have hlt := supply.lt
  have hroom : (token.balanceOf receiver).toNat + amount.toNat < 2 ^ (64 : Nat) :=
    h.room_for_minted receiver (by omega)
  rw [← Option.ne_none_iff_exists', ne_eq, Word.add?_eq_none_iff]
  omega

/-- What one balance has, each other has room for. -/
theorem Accounted.credit_of_move (h : token.Accounted) {source target : K} (hne : source ≠ target)
    {amount rest : Amount} (hrest : (token.balanceOf source).sub? amount = some rest) :
    ∃ sum, (token.balanceOf target).add? amount = some sum := by
  rw [Word.sub?_eq_some_iff] at hrest
  have hroom : (token.balanceOf target).toNat + amount.toNat < 2 ^ (64 : Nat) :=
    h.room hne (by omega)
  rw [← Option.ne_none_iff_exists', ne_eq, Word.add?_eq_none_iff]
  omega

/-! ## Runs -/

/-- After any steps the supply is still what all accounts hold. -/
theorem Accounted.after (h : token.Accounted) (steps : List (TokenStep K)) :
    (token.after steps).Accounted := by
  induction steps generalizing token with
  | nil => exact h
  | cons step steps ih =>
    rw [after_cons]
    exact ih (h.step step)

/-- What all calls mint together. -/
def mintedBy (calls : List (TokenCall K)) : Nat := (calls.map (·.counts TokenStep.minted)).sum

/-- The supply grew by what was minted, and by nothing else. -/
theorem Accounted.supply_after (h : token.Accounted) (steps : List (TokenStep K)) :
    (token.after steps).supply.toNat = token.supply.toNat + mintedBy (token.calls steps) := by
  induction steps using List.reverseRecOn with
  | nil => rfl
  | append_singleton steps step ih =>
    rw [after_snoc, calls_snoc, (h.after steps).supply_step, ih, Nat.add_assoc]
    unfold mintedBy
    rw [List.map_append, List.sum_append]
    rfl

/-- A token whose units are all held by somebody and stay so, and in which no call fails with a part
of it done. -/
structure Conserves (token : TokenLedger K) : Prop where
  /-- The balances add up to the supply. -/
  held_eq : token.held = token.supply.toNat
  /-- Minting that goes through raises the supply by its amount, and nothing else changes it. -/
  supply_step : ∀ step, (token.step step).1.supply.toNat =
    token.supply.toNat + (token.call step).counts TokenStep.minted
  /-- A call that fails changes nothing. -/
  failed : ∀ step error, (token.step step).2 = .error error → (token.step step).1 = token
  /-- Once minting has raised the supply, the balance has room. -/
  mint_credits : ∀ receiver amount supply, token.supply.add? amount = some supply →
    ∃ balance, ({ token with supply := supply }.balanceOf receiver).add? amount = some balance
  /-- Once a move has found the source to hold the amount, the target has room. -/
  move_credits : ∀ source target amount rest, (token.balanceOf source).sub? amount = some rest →
    source ≠ target → ∃ sum, (token.balanceOf target).add? amount = some sum

theorem Accounted.conserves (h : token.Accounted) : token.Conserves where
  held_eq := h
  supply_step := h.supply_step
  failed _ _ hfail := h.step_of_error hfail
  mint_credits receiver _ _ hsupply := h.credit_of_mint receiver hsupply
  move_credits _ _ _ _ hrest hne := h.credit_of_move hne hrest

/-- Whatever has been done with a new token, all units are held by somebody, their number is what
was minted, and the next call does all it is asked for or nothing. -/
theorem supply_is_held (steps : List (TokenStep K)) :
    ((empty : TokenLedger K).after steps).Conserves ∧
      ((empty : TokenLedger K).after steps).supply.toNat =
        mintedBy ((empty : TokenLedger K).calls steps) := by
  refine ⟨(accounted_empty.after steps).conserves, ?_⟩
  rw [accounted_empty.supply_after]
  exact Nat.zero_add _

/-- Account 1 gets nearly as many units as there can be. Account 2 spends some of them on an
approval, then more on the next one, which replaces it; a part of that goes back to account 1, which
also pays itself and spends without an approval. In the end three calls fail, for want of room in
the supply, of balance, and of allowance. -/
def spendingRun : List (TokenStep Nat) :=
  [.mint 1 (.units (2 ^ 64 - 10)), .approve 1 2 (.units 50), .transferFrom 2 1 3 (.units 30),
    .transfer 1 1 (.units 5), .approve 1 2 (.units 40), .transferFrom 2 1 1 (.units 15),
    .transferFrom 1 1 3 (.units 7), .transferFrom 2 1 2 (.units 5), .mint 2 (.units 100),
    .transfer 3 1 (.units 38), .transferFrom 2 1 3 (.units 21)]

/-- Its units are what was minted in the one call that went through, and minting more than there is
room for fails without a trace. -/
theorem supply_after_spending_run :
    ((empty : TokenLedger Nat).after spendingRun).held = 2 ^ 64 - 10 ∧
      (((empty : TokenLedger Nat).after spendingRun).step (.mint 2 (.units 10))).1 =
        (empty : TokenLedger Nat).after spendingRun := by
  obtain ⟨hconserves, hsupply⟩ := supply_is_held spendingRun
  have hminted : mintedBy ((empty : TokenLedger Nat).calls spendingRun) = 2 ^ 64 - 10 := by
    decide +kernel
  have hfail : (((empty : TokenLedger Nat).after spendingRun).step (.mint 2 (.units 10))).2 =
      .error .mathOverflow := by decide +kernel
  exact ⟨by rw [hconserves.held_eq, hsupply, hminted], hconserves.failed _ _ hfail⟩

end TokenLedger

end CollateralLending
