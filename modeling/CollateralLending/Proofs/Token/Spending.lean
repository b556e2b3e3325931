/-
  CollateralLending.Proofs.Token.Spending

  What an account may spend of another one's balance. An approval sets an
  allowance, whatever was left of the one before; from then on the calls of the
  spender that go through use it up, unit by unit, also where they move units
  back to the owner. Nothing else changes it: an owner who spends without an
  approval uses up none.

  The calls since the last approval are told from the run (`sinceApproval`), so
  that what they spend can be compared with what was approved.

  Main statement: `spending_is_approved`.
-/
import CollateralLending.Proofs.Token.Conservation
import Mathlib.Data.List.DropRight

namespace CollateralLending

variable {K : Type} [DecidableEq K]

/-! ## What a step is for -/

namespace TokenStep

/-- What a step takes from an allowance when it goes through. -/
def spends (owner spender : K) : TokenStep K → Nat
  | transferFrom user holder _ amount => if owner = holder ∧ spender = user then amount.toNat else 0
  | mint .. | approve .. | transfer .. => 0

/-- The allowance that a step sets, if it sets this one. -/
def approval? (owner spender : K) : TokenStep K → Option Amount
  | approve holder user amount => if owner = holder ∧ spender = user then some amount else none
  | mint .. | transfer .. | transferFrom .. => none

variable {owner spender : K} {step : TokenStep K}

/-- Only an approval by the owner for the spender sets what is approved. -/
theorem eq_approve_of_approval? {amount : Amount} (h : step.approval? owner spender = some amount) :
    step = approve owner spender amount := by
  cases step with
  | approve holder user other =>
    obtain ⟨⟨rfl, rfl⟩, heq⟩ := Option.ite_none_right_eq_some.1 h
    cases heq
    rfl
  | mint receiver amount => cases h
  | transfer source target amount => cases h
  | transferFrom user holder target amount => cases h

/-- Only a transfer by the spender from the owner spends anything. -/
theorem eq_transferFrom_of_spends (h : step.spends owner spender ≠ 0) :
    ∃ target amount, step = transferFrom spender owner target amount := by
  cases step with
  | transferFrom user holder target amount =>
    obtain ⟨⟨rfl, rfl⟩, -⟩ := ite_ne_right_iff.1 h
    exact ⟨target, amount, rfl⟩
  | mint receiver amount => exact absurd rfl h
  | approve holder user amount => exact absurd rfl h
  | transfer source target amount => exact absurd rfl h

end TokenStep

/-! ## Histories -/

variable {owner spender : K}

/-- A call after which an allowance is counted anew. -/
def TokenCall.approves (owner spender : K) (call : TokenCall K) : Bool :=
  (call.step.approval? owner spender).isSome

/-- The calls after the last approval. -/
def sinceApproval (owner spender : K) (calls : List (TokenCall K)) : List (TokenCall K) :=
  calls.rtakeWhile fun call => !call.approves owner spender

/-- What the spender moved since the last approval. -/
def spent (owner spender : K) (calls : List (TokenCall K)) : Nat :=
  ((sinceApproval owner spender calls).map (·.counts (TokenStep.spends owner spender))).sum

/-- What the last approval was for; nothing if there was none. -/
def approved (owner spender : K) (calls : List (TokenCall K)) : Amount :=
  (calls.reverse.findSome? fun call => call.step.approval? owner spender).getD .zero

variable {call : TokenCall K}

/-- The last approval is the one that counts. -/
theorem approved_snoc (calls : List (TokenCall K)) (call : TokenCall K) :
    approved owner spender (calls ++ [call]) =
      (call.step.approval? owner spender).getD (approved owner spender calls) := by
  unfold approved
  rw [List.reverse_append, List.reverse_singleton, List.singleton_append, List.findSome?_cons]
  cases call.step.approval? owner spender <;> rfl

/-- Without an approval, what the last call spent is added to what was spent before it. -/
theorem spent_snoc (calls : List (TokenCall K)) (h : call.step.approval? owner spender = none) :
    spent owner spender (calls ++ [call]) =
      spent owner spender calls + call.counts (TokenStep.spends owner spender) := by
  unfold spent sinceApproval
  rw [List.rtakeWhile_concat_pos _ _ _ (by rw [TokenCall.approves, h]; rfl), List.map_append,
    List.sum_append]
  rfl

/-- An approval starts the count of what is spent over again. -/
theorem spent_snoc_approval (calls : List (TokenCall K)) {amount : Amount}
    (h : call.step.approval? owner spender = some amount) :
    spent owner spender (calls ++ [call]) = 0 := by
  unfold spent sinceApproval
  rw [List.rtakeWhile_concat_neg _ _ _ (by rw [TokenCall.approves, h]; exact Bool.false_ne_true)]
  rfl

namespace TokenLedger

variable [Ord K] [Std.TransOrd K] [Std.LawfulEqOrd K] {token : TokenLedger K}

/-! ## One step -/

omit [DecidableEq K] in
theorem allowances_mint (token : TokenLedger K) (receiver : K) (amount : Amount) :
    (token.mint receiver amount).1.allowances = token.allowances := by
  unfold mint
  cases token.supply.add? amount with
  | none => rfl
  | some supply =>
    simp only
    cases ({ token with supply := supply }.balanceOf receiver).add? amount <;> rfl

/-- A step sets an allowance, or takes from it what it spends. -/
theorem allowance_step (hne : owner ≠ spender) (token : TokenLedger K) (step : TokenStep K) :
    ((token.step step).1.allowance owner spender).toNat +
        (token.call step).counts (TokenStep.spends owner spender) =
      ((step.approval? owner spender).getD (token.allowance owner spender)).toNat := by
  cases step with
  | mint receiver amount =>
    -- Minting that fails may have raised the supply, but it has set no allowance.
    rw [counts_call_of_zero _ rfl]
    exact congrArg (fun table => ((table.get owner).get spender).toNat)
      (token.allowances_mint receiver amount)
  | approve holder user amount =>
    rw [counts_call_of_zero _ rfl, Nat.add_zero, TokenLedger.step, allowance_approve,
      TokenStep.approval?]
    split <;> rfl
  | transfer source target amount =>
    rw [counts_call_of_zero _ rfl]
    cases hresult : (token.transfer source target amount).2 with
    | ok _ => exact ((flows_of_transfer hresult).allowance owner spender).symm
    | error error => rw [TokenLedger.step, transfer_of_error hresult]; rfl
  | transferFrom user holder target amount =>
    cases hresult : (token.step (.transferFrom user holder target amount)).2 with
    | ok _ =>
      rw [counts_call_of_ok _ hresult]
      exact (allowance_of_transferFrom hne hresult).symm
    | error error =>
      rw [counts_call_of_error _ hresult, TokenLedger.step, transferFrom_of_error hresult]
      rfl

/-- Only an approval and the spender's own calls that go through change an allowance. -/
theorem cause_of_allowance_changed (hne : owner ≠ spender) {step : TokenStep K}
    (h : (token.step step).1.allowance owner spender ≠ token.allowance owner spender) :
    (∃ amount, step = .approve owner spender amount) ∨
      ∃ target amount, step = .transferFrom spender owner target amount ∧
        (token.step step).2 = .ok () := by
  -- The equation of a step has two ways to change an allowance: to set it and to spend of it.
  have hstep := allowance_step hne token step
  cases happroval : step.approval? owner spender with
  | some amount => exact .inl ⟨amount, TokenStep.eq_approve_of_approval? happroval⟩
  | none =>
    rw [happroval, Option.getD_none] at hstep
    have hcounts : (token.call step).counts (TokenStep.spends owner spender) ≠ 0 := by
      intro hzero
      rw [hzero, Nat.add_zero] at hstep
      exact h (Word.ext hstep)
    right
    cases hresult : (token.step step).2 with
    | error error => exact absurd (counts_call_of_error _ hresult) hcounts
    | ok _ =>
      rw [counts_call_of_ok _ hresult] at hcounts
      obtain ⟨target, amount, rfl⟩ := TokenStep.eq_transferFrom_of_spends hcounts
      exact ⟨target, amount, rfl, rfl⟩

/-- A spender moves what its allowance and the owner's balance have, and nothing more. -/
theorem Accounted.transferFrom_ok_iff (h : token.Accounted) (hne : owner ≠ spender) (target : K)
    (amount : Amount) :
    (token.transferFrom spender owner target amount).2 = .ok () ↔
      amount.toNat ≤ (token.allowance owner spender).toNat ∧
        amount.toNat ≤ (token.balanceOf owner).toNat := by
  rw [h.transferFrom_result hne.symm]
  split
  · simp only [reduceCtorEq, false_iff]
    omega
  · simp only [true_iff]
    omega

/-! ## Runs -/

/-- An allowance and what was spent of it are what was approved. -/
theorem allowance_add_spent (hne : owner ≠ spender) (steps : List (TokenStep K)) :
    (((empty : TokenLedger K).after steps).allowance owner spender).toNat +
        spent owner spender ((empty : TokenLedger K).calls steps) =
      (approved owner spender ((empty : TokenLedger K).calls steps)).toNat := by
  induction steps using List.reverseRecOn with
  | nil => rfl
  | append_singleton steps step ih =>
    have hstep := allowance_step hne ((empty : TokenLedger K).after steps) step
    rw [after_snoc, calls_snoc, approved_snoc, step_call]
    cases happroval : step.approval? owner spender with
    | some amount =>
      -- The step spends nothing, and what was spent before no longer counts.
      obtain rfl := TokenStep.eq_approve_of_approval? happroval
      rw [happroval, counts_call_of_zero _ rfl] at hstep
      rw [spent_snoc_approval _ happroval]
      exact hstep
    | none =>
      rw [happroval, Option.getD_none] at hstep
      rw [spent_snoc _ happroval, Option.getD_none]
      omega

/-- What is left of an allowance and what was spent of it make up what was approved, and only what
the spender moves of it changes it until it is approved anew. -/
structure SpendsWithin (token : TokenLedger K) (calls : List (TokenCall K)) (owner spender : K) :
    Prop where
  spent_eq : (spent owner spender calls : Int) =
    (approved owner spender calls).toNat - (token.allowance owner spender).toNat
  spent_le : spent owner spender calls ≤ (approved owner spender calls).toNat
  changed : ∀ step, (token.step step).1.allowance owner spender ≠ token.allowance owner spender →
    (∃ amount, step = .approve owner spender amount) ∨
      ∃ target amount, step = .transferFrom spender owner target amount ∧
        (token.step step).2 = .ok ()
  goes_through : ∀ target amount,
    (token.step (.transferFrom spender owner target amount)).2 = .ok () ↔
      amount.toNat ≤ (token.allowance owner spender).toNat ∧
        amount.toNat ≤ (token.balanceOf owner).toNat

/-- Whatever has been done with a new token, a spender has moved no more of an owner's units than
was last approved, and the difference is what it may still move. -/
theorem spending_is_approved (steps : List (TokenStep K)) (owner spender : K)
    (hne : owner ≠ spender) :
    ((empty : TokenLedger K).after steps).SpendsWithin ((empty : TokenLedger K).calls steps)
      owner spender := by
  have hsum := allowance_add_spent hne steps
  exact {
    spent_eq := by omega
    spent_le := by omega
    changed := fun _ => cause_of_allowance_changed hne
    goes_through := (accounted_empty.after steps).transferFrom_ok_iff hne }

/-- Account 2 has spent 20 of the 40 that were approved last: 15 that went back to their owner and 5
that it kept. Another 20 it may move, and 21 it may not. -/
theorem spending_after_spending_run :
    (1 : Nat) ≠ 2 ∧
      spent 1 2 ((empty : TokenLedger Nat).calls spendingRun) = 15 + 5 ∧
      (((empty : TokenLedger Nat).after spendingRun).step (.transferFrom 2 1 3 (.units 20))).2 =
        .ok () ∧
      (((empty : TokenLedger Nat).after spendingRun).step (.transferFrom 2 1 3 (.units 21))).2 ≠
        .ok () := by
  have hspends := spending_is_approved spendingRun 1 2 (by decide)
  have happroved : approved 1 2 ((empty : TokenLedger Nat).calls spendingRun) = .units 40 := by
    decide +kernel
  have hleft : ((empty : TokenLedger Nat).after spendingRun).allowance 1 2 = .units 20 := by
    decide +kernel
  have hholds : 20 ≤ (((empty : TokenLedger Nat).after spendingRun).balanceOf 1).toNat := by
    decide +kernel
  refine ⟨by decide, ?_, (hspends.goes_through 3 (.units 20)).2 ⟨?_, hholds⟩, fun hdone => ?_⟩
  · have hspent := hspends.spent_eq
    rw [happroved, hleft] at hspent
    exact Int.ofNat.inj hspent
  · rw [hleft]
  · have hcovered := ((hspends.goes_through 3 (.units 21)).1 hdone).1
    rw [hleft] at hcovered
    exact absurd hcovered (by decide)

end TokenLedger

end CollateralLending
