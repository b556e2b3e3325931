/-
  CollateralLending.Proofs.Lending.History

  The record of an account in a lending vault over a ledger is what the account
  did: the operations on it that went through, from its last liquidation on.
  What others did, and what failed, leaves no trace in it, and an account whose
  record falls back to zero starts over like one that was never there.

  Main statement: `record_is_own_history`.
-/
import CollateralLending.Proofs.Lending.PoolAccounts
import Mathlib.Data.List.DropRight

namespace CollateralLending

variable {K : Type}

/-! ## What an operation is for -/

namespace Operation

def deposits : Operation K → Nat
  | deposit amount => amount.toNat
  | borrow _ | payback _ | withdraw _ | liquidate _ => 0

def withdraws : Operation K → Nat
  | withdraw amount => amount.toNat
  | deposit _ | borrow _ | payback _ | liquidate _ => 0

def borrows : Operation K → Nat
  | borrow amount => amount.toNat
  | deposit _ | payback _ | withdraw _ | liquidate _ => 0

def paysBack : Operation K → Nat
  | payback amount => amount.toNat
  | deposit _ | borrow _ | withdraw _ | liquidate _ => 0

def isLiquidation : Operation K → Bool
  | liquidate _ => true
  | deposit _ | borrow _ | payback _ | withdraw _ => false

end Operation

namespace VaultStep

/-- The account that a step is an operation on, with the operation. -/
def operation? : VaultStep K → Option (K × Operation K)
  | deposit caller amount => some (caller, .deposit amount)
  | borrow caller amount => some (caller, .borrow amount)
  | payback caller amount => some (caller, .payback amount)
  | withdraw caller amount => some (caller, .withdraw amount)
  | liquidate caller account => some (account, .liquidate caller)
  | collateral _ | debt _ | oracle _ => none

theorem eq_on_of_operation? {account : K} {step : VaultStep K} {operation : Operation K}
    (h : step.operation? = some (account, operation)) : step = operation.on account := by
  cases step <;> cases h <;> rfl

end VaultStep

/-! ## Histories -/

/-- What of a history still counts: everything after the last liquidation. -/
def sinceLiquidation (history : List (Operation K)) : List (Operation K) :=
  history.rtakeWhile fun operation => !operation.isLiquidation

/-- The sum over what still counts. -/
def counted (measure : Operation K → Nat) (history : List (Operation K)) : Nat :=
  ((sinceLiquidation history).map measure).sum

/-- One more operation adds what it measures, if it does not start the count over. -/
theorem counted_snoc (measure : Operation K → Nat) (history : List (Operation K))
    {operation : Operation K} (h : operation.isLiquidation = false) :
    counted measure (history ++ [operation]) = counted measure history + measure operation := by
  unfold counted sinceLiquidation
  rw [List.rtakeWhile_concat_pos _ _ _ (by rw [h]; rfl), List.map_append, List.sum_append]
  rfl

/-- A liquidation starts the count over. -/
theorem counted_snoc_liquidation (measure : Operation K → Nat) (history : List (Operation K))
    {operation : Operation K} (h : operation.isLiquidation = true) :
    counted measure (history ++ [operation]) = 0 := by
  unfold counted sinceLiquidation
  rw [List.rtakeWhile_concat_neg _ _ _ (by rw [h]; decide)]
  rfl

/-- What a record holds is what still counts in the history: what came in is what went out and what
is left. -/
structure Record.Tells (record : Record) (history : List (Operation K)) : Prop where
  deposited : record.deposited.toNat + counted Operation.withdraws history =
    counted Operation.deposits history
  debt : record.debt.toNat + counted Operation.paysBack history =
    counted Operation.borrows history

variable {record next : Record} {past : List (Operation K)} {operation : Operation K}

/-- Liquidated accounts start over. -/
theorem Record.tells_snoc_liquidation (h : operation.isLiquidation = true) :
    Record.zero.Tells (past ++ [operation]) where
  deposited := by simp only [counted_snoc_liquidation _ _ h, Record.zero, Word.toNat_zero]
  debt := by simp only [counted_snoc_liquidation _ _ h, Record.zero, Word.toNat_zero]

theorem Record.Tells.snoc (h : record.Tells past) (hkind : operation.isLiquidation = false)
    (hdeposited : next.deposited.toNat + operation.withdraws =
      record.deposited.toNat + operation.deposits)
    (hdebt : next.debt.toNat + operation.paysBack = record.debt.toNat + operation.borrows) :
    next.Tells (past ++ [operation]) := by
  have hdeposits := h.deposited
  have hdebts := h.debt
  constructor
  · simp only [counted_snoc _ _ hkind]
    omega
  · simp only [counted_snoc _ _ hkind]
    omega

/-- Records that tell of the same operations are the same. -/
theorem Record.Tells.ext {other : Record} {otherPast : List (Operation K)}
    (h : record.Tells past) (hother : other.Tells otherPast)
    (hsame : sinceLiquidation past = sinceLiquidation otherPast) : record = other := by
  have hcounted : ∀ measure, counted measure past = counted measure otherPast := by
    intro measure
    unfold counted
    rw [hsame]
  have hdeposits := h.deposited
  have hdebts := h.debt
  rw [hcounted, hcounted, ← hother.deposited] at hdeposits
  rw [hcounted, hcounted, ← hother.debt] at hdebts
  exact Record.ext (Word.ext (by omega)) (Word.ext (by omega))

namespace LedgerVault

variable [Ord K] [Std.TransOrd K] [Std.LawfulEqOrd K] [DecidableEq K]
variable {vault : LedgerVault K} {account : K} {step : VaultStep K}

/-- The operation on this account that a step was, if it was one and went through. -/
def enters? (vault : LedgerVault K) (account : K) (step : VaultStep K) : Option (Operation K) :=
  match (vault.step step).result, step.operation? with
  | .ok (), some (target, operation) => if target = account then some operation else none
  | .ok (), none | .error _, _ => none

/-- The operations on this account that went through, oldest first. -/
def history (vault : LedgerVault K) (account : K) : List (VaultStep K) → List (Operation K)
  | [] => []
  | step :: steps => (vault.enters? account step).toList ++
      (vault.step step).vault.history account steps

theorem history_snoc (vault : LedgerVault K) (account : K) (steps : List (VaultStep K))
    (step : VaultStep K) :
    vault.history account (steps ++ [step]) =
      vault.history account steps ++ ((vault.after steps).enters? account step).toList := by
  induction steps generalizing vault with
  | nil => exact List.append_nil _
  | cons first steps ih =>
      rw [List.cons_append, after_cons]
      unfold history
      rw [ih, List.append_assoc]

/-! ## The record through a step -/

omit [Std.TransOrd K] [Std.LawfulEqOrd K] in
/-- Whose record is settled, the step is an operation on that account. -/
theorem Settles.operation? (h : vault.Settles step account next) :
    ∃ operation, step.operation? = some (account, operation) := by
  cases h with
  | deposit settles => exact ⟨_, rfl⟩
  | borrow settles => exact ⟨_, rfl⟩
  | payback settles => exact ⟨_, rfl⟩
  | withdraw settles => exact ⟨_, rfl⟩
  | liquidate settles => exact ⟨_, rfl⟩

/-- A step that is no operation on this account leaves its record alone. -/
theorem record_of_other_step (h : ∀ operation, step.operation? ≠ some (account, operation)) :
    (vault.step step).vault.record account = vault.record account := by
  rcases vault.step_records step with hsame | ⟨other, next, hsettles, hrecords⟩
  · exact hsame account
  · have hne : account ≠ other := by
      rintro rfl
      obtain ⟨operation, hsome⟩ := hsettles.operation?
      exact h operation hsome
    rw [hrecords, if_neg hne]

theorem enters?_of_other_step (h : ∀ operation, step.operation? ≠ some (account, operation)) :
    vault.enters? account step = none := by
  unfold enters?
  split
  · rename_i target operation _ hoperation
    have hne : target ≠ account := by
      rintro rfl
      exact h operation hoperation
    exact if_neg hne
  · rfl
  · rfl

/-- A step enters the history of an account and stores the record it settled, or it does neither. -/
theorem entered_or_kept (vault : LedgerVault K) (account : K) (step : VaultStep K) :
    (vault.enters? account step = none ∧
      (vault.step step).vault.record account = vault.record account) ∨
    ∃ operation next, vault.enters? account step = some operation ∧
      vault.Settles (operation.on account) account next ∧
      (vault.step step).vault.record account = next := by
  by_cases hmine : ∃ operation, step.operation? = some (account, operation)
  · -- An operation on this account enters when it goes through, with the record that it settled.
    obtain ⟨operation, hoperation⟩ := hmine
    obtain rfl := VaultStep.eq_on_of_operation? hoperation
    rcases vault.operation_cases operation account with
      ⟨error, hfail, hsame⟩ | ⟨next, announced, hsettles, -, hconcludes⟩
    · left
      refine ⟨?_, by rw [hsame]⟩
      unfold enters?
      rw [hfail]
    · right
      refine ⟨operation, next, ?_, hsettles, ?_⟩
      · unfold enters?
        rw [hconcludes.result, hoperation]
        exact if_pos rfl
      · unfold LedgerVault.record
        rw [hconcludes.ledger, Table.get_set, if_pos rfl]
  · have hother : ∀ operation, step.operation? ≠ some (account, operation) :=
      fun operation hoperation => hmine ⟨operation, hoperation⟩
    exact .inl ⟨enters?_of_other_step hother, record_of_other_step hother⟩

omit [Std.TransOrd K] [Std.LawfulEqOrd K] in
/-- A settled operation keeps the record telling. -/
theorem Settles.tells (hsettles : vault.Settles (operation.on account) account next)
    (h : (vault.record account).Tells past) : next.Tells (past ++ [operation]) := by
  -- Every operation but a liquidation adds to the count what it adds to the record.
  cases operation with
  | deposit amount =>
      cases hsettles with
      | deposit settles =>
          obtain ⟨-, hdeposit, hdebt, -⟩ := Record.deposit_eq_ok_iff.1 settles
          exact h.snoc rfl hdeposit (by rw [hdebt]; rfl)
  | borrow amount =>
      cases hsettles with
      | borrow settles =>
          obtain ⟨-, quote, -, -, hdebt, hdeposit, -⟩ := Record.borrow_eq_ok_iff.1 settles
          exact h.snoc rfl (by rw [hdeposit]; rfl) hdebt
  | payback amount =>
      cases hsettles with
      | payback settles =>
          obtain ⟨-, quote, -, -, hdebt, hdeposit⟩ := Record.payBack_eq_ok_iff.1 settles
          exact h.snoc rfl (by rw [hdeposit]; rfl) hdebt.symm
  | withdraw amount =>
      cases hsettles with
      | withdraw settles =>
          obtain ⟨-, -, hdeposit, hdebt, -⟩ := Record.withdraw_eq_ok_iff.1 settles
          exact h.snoc rfl hdeposit.symm (by rw [hdebt]; rfl)
  | liquidate caller =>
      cases hsettles with
      | liquidate settles => exact Record.tells_snoc_liquidation rfl

/-! ## The record after a run -/

/-- By induction on the steps, every record tells what happened to its account. -/
theorem tells_history (hempty : vault.ledger = .empty) (account : K) (steps : List (VaultStep K)) :
    ((vault.after steps).record account).Tells (vault.history account steps) := by
  induction steps using List.reverseRecOn with
  | nil =>
      have hzero : vault.record account = .zero := by
        unfold LedgerVault.record
        rw [hempty]
        rfl
      show (vault.record account).Tells []
      rw [hzero]
      exact ⟨rfl, rfl⟩
  | append_singleton steps step ih =>
      rw [after_snoc, history_snoc]
      rcases (vault.after steps).entered_or_kept account step with
        ⟨hentry, hrecord⟩ | ⟨operation, next, hentry, hsettles, hrecord⟩
      · rw [hentry, hrecord, Option.toList_none, List.append_nil]
        exact ih
      · rw [hentry, hrecord, Option.toList_some]
        exact hsettles.tells ih

/-- After any run from an empty ledger, what an account has on deposit is what it deposited less
what it withdrew, and its debt what it borrowed less what it paid back, counted over its operations
that went through since it was last liquidated. Any other run with the same such operations, however
many others took part and whatever failed, leaves the account with the same record. -/
theorem record_is_own_history (vault : LedgerVault K) (hempty : vault.ledger = .empty)
    (steps : List (VaultStep K)) (account : K) :
    (((vault.after steps).record account).deposited.toNat : Int) =
        counted Operation.deposits (vault.history account steps) -
          counted Operation.withdraws (vault.history account steps) ∧
      (((vault.after steps).record account).debt.toNat : Int) =
        counted Operation.borrows (vault.history account steps) -
          counted Operation.paysBack (vault.history account steps) ∧
      ∀ (other : LedgerVault K) (otherSteps : List (VaultStep K)), other.ledger = .empty →
        sinceLiquidation (vault.history account steps) =
            sinceLiquidation (other.history account otherSteps) →
          (vault.after steps).record account = (other.after otherSteps).record account := by
  have htells := tells_history hempty account steps
  have hdeposits := htells.deposited
  have hdebts := htells.debt
  refine ⟨by omega, by omega, ?_⟩
  intro other otherSteps hother hsame
  exact htells.ext (tells_history hother account otherSteps) hsame

/-! ### An account that comes back -/

/-- After its liquidation account 2 takes up a position again, while account 3 goes on with its own.
It asks for more than it may borrow on the way, and for more than it has. -/
def comebackRun : List (VaultStep Nat) :=
  liquidatedRun ++
    [.collateral (.mint 2 (.units 100)), .deposit 2 (.units 80), .deposit 2 (.units 21),
      .borrow 2 (.units 21), .deposit 3 (.units 10), .borrow 2 (.units 15),
      .debt (.approve 2 0 (.units 5)), .payback 2 (.units 5), .withdraw 2 (.units 20)]

theorem record_after_comeback :
    (new 0 1 .empty .empty doubled).ledger = (.empty : Ledger Nat) ∧
      (((new 0 1 .empty .empty doubled).after comebackRun).record 2).deposited.toNat =
        (80 - 20 : Int) ∧
      (((new 0 1 .empty .empty doubled).after comebackRun).record 2).debt.toNat =
        (15 - 5 : Int) := by
  have hhistory := record_is_own_history (new 0 1 .empty .empty doubled) rfl comebackRun 2
  have hdeposits : counted Operation.deposits
      ((new 0 1 .empty .empty doubled).history 2 comebackRun) = 80 := by decide +kernel
  have hwithdraws : counted Operation.withdraws
      ((new 0 1 .empty .empty doubled).history 2 comebackRun) = 20 := by decide +kernel
  have hborrows : counted Operation.borrows
      ((new 0 1 .empty .empty doubled).history 2 comebackRun) = 15 := by decide +kernel
  have hpays : counted Operation.paysBack
      ((new 0 1 .empty .empty doubled).history 2 comebackRun) = 5 := by decide +kernel
  rw [hdeposits, hwithdraws, hborrows, hpays] at hhistory
  exact ⟨rfl, hhistory.1, hhistory.2.1⟩

end LedgerVault

end CollateralLending
