/-
  CollateralLending.Proofs.Lending.Undoing

  Opposite operations of a lending vault over a ledger undo each other. A
  withdrawal right after a deposit, and a payback right after a borrow, leave
  the records and both tokens as they were, to the entry.

  What came in last is still there to go out, and what just went out has left
  room to come back, so nothing has to be known of the vault or of how it got
  to its state. Only two things can stand in the way, and both stood there
  before: debt that the price does not cover, and an allowance that is too small.

  The parts undo each other one by one: a move and the move back
  (`TokenLedger.moved_back`), a settlement and the opposite one
  (`Record.withdraw_after_deposit_iff`, `Record.payBack_after_borrow`), a store
  and storing what was read before (`Table.set_set_get`).

  Main statement: `opposite_operations_cancel`.
-/
import CollateralLending.Proofs.Lending.PoolAccounts
import CollateralLending.Proofs.Token.Flows

namespace CollateralLending

variable {K : Type} [Ord K] [Std.TransOrd K] [Std.LawfulEqOrd K] [DecidableEq K]

/-! ## Moves of a token -/

namespace TokenLedger

variable {token next back : TokenLedger K} {source target : K} {amount : Amount}

/-- The move back takes a move back. -/
theorem moved_back (h : token.moved source target amount = .ok next) :
    next.moved target source amount = .ok token := by
  rw [moved_eq_ok_iff] at h ⊢
  obtain ⟨rest, hrest, hnext⟩ := h
  by_cases hself : source = target
  · rw [if_pos hself] at hnext
    subst hnext hself
    refine ⟨rest, hrest, ?_⟩
    rw [if_pos rfl]
  · rw [if_neg hself] at hnext
    obtain ⟨sum, hsum, rfl⟩ := hnext
    have hkept : (token.balances.set source rest).get target = token.balanceOf target :=
      Table.get_set_of_ne (Ne.symm hself)
    -- Each of the two gets the balance that it had.
    refine ⟨token.balanceOf target, ?_, ?_⟩
    · unfold balanceOf at hsum ⊢
      rw [Table.get_set_self, hsum]
    · rw [if_neg (Ne.symm hself)]
      refine ⟨token.balanceOf source, ?_, ?_⟩
      · unfold balanceOf at hrest ⊢
        rw [Table.get_set_of_ne hself, Table.get_set_self, hrest]
      · refine TokenLedger.ext ?_ rfl rfl
        simp only
        rw [← hkept, Table.set_set_get]
        exact (Table.set_set_get _ _ _).symm

theorem transfer_eq_ok_iff :
    token.transfer source target amount = (next, .ok ()) ↔
      token.moved source target amount = .ok next := by
  unfold transfer commit
  cases token.moved source target amount <;> simp

/-- A transfer that succeeded can be made back, to the very same ledger. -/
theorem transfer_back (h : token.transfer source target amount = (next, .ok ())) :
    next.transfer target source amount = (token, .ok ()) :=
  transfer_eq_ok_iff.2 (moved_back (transfer_eq_ok_iff.1 h))

/-- Whoever made a transfer takes it back if it has an allowance for that. The allowance is all that
has changed then. -/
theorem transferFrom_back_iff (hne : source ≠ target)
    (h : token.transfer source target amount = (next, .ok ())) :
    next.transferFrom source target source amount = (back, .ok ()) ↔
      ∃ rest : Amount, (token.allowance target source).toNat = rest.toNat + amount.toNat ∧
        back = token.approve target source rest := by
  have hmoved := transfer_eq_ok_iff.1 h
  have hallowance : token.allowance target source = next.allowance target source :=
    Word.ext ((flows_of_moved hmoved).allowance target source)
  rw [transferFrom_eq_ok_iff hne, hallowance]
  simp only [moved_back hmoved, Except.ok.injEq, exists_eq_left']

end TokenLedger

/-! ## Settlements of a record -/

namespace Record

variable {record : Record} {oracle : Oracle} {amount : Amount} {settled back : Settlement}

/-- Nothing is owed, or what is owed is covered at the price that the oracle quotes. -/
def Secured (record : Record) (oracle : Oracle) : Prop :=
  record.debt = .zero ∨ ∃ quote, oracle.currentQuote.result = .ok quote ∧
    record.isUndercollateralized quote = false

/-- A record is secured when a debt, if there is one, is covered at the current price. -/
theorem secured_iff :
    record.Secured oracle ↔ (0 < record.debt.toNat →
      ∃ quote, oracle.currentQuote.result = .ok quote ∧
        (quote.wide record.debt).toNat ≤ record.deposited.toNat) := by
  have hdebtless : record.debt = .zero ↔ ¬ 0 < record.debt.toNat := by
    rw [Word.ext_iff, Word.toNat_zero]
    omega
  unfold Secured
  simp only [hdebtless, ← Bool.not_eq_true, isUndercollateralized_iff, Nat.not_lt,
    Decidable.imp_iff_not_or]

/-- What was just deposited can be withdrawn when the record was secured before, and not otherwise.
Then the record is what it was. -/
theorem withdraw_after_deposit_iff (h : record.deposit amount = .ok settled) :
    (settled.next.withdraw oracle amount).result = .ok back ↔
      record.Secured oracle ∧ back = ⟨record, .zero⟩ := by
  obtain ⟨hpos, hdeposited, hdebt, -⟩ := deposit_eq_ok_iff.1 h
  rw [withdraw_eq_ok_iff, secured_iff, hdebt]
  constructor
  · rintro ⟨-, hprice, hrest, hkept, hvalue⟩
    have hnext : back.next = record := Record.ext (Word.ext (by omega)) hkept
    obtain ⟨next, value⟩ := back
    cases hnext
    cases hvalue
    exact ⟨hprice, rfl⟩
  · rintro ⟨hprice, rfl⟩
    exact ⟨hpos, hprice, hdeposited, rfl, rfl⟩

/-- What was just borrowed can be paid back at the same price, and is worth as much. Then the record
is what it was. -/
theorem payBack_after_borrow (h : (record.borrow oracle amount).result = .ok settled) :
    (settled.next.payBack oracle amount).result = .ok ⟨record, settled.collateralEquivalent⟩ := by
  obtain ⟨hpos, quote, hquote, hvalue, hdebt, hdeposited, -⟩ := borrow_eq_ok_iff.1 h
  exact payBack_eq_ok_iff.2 ⟨hpos, quote, hquote, hvalue, hdebt, hdeposited.symm⟩

end Record

/-! ## Operations of a vault -/

namespace LedgerVault

variable {vault after : LedgerVault K} {caller account : K} {amount : Amount}
variable {settlement : Consultation Settlement} {event : Settlement → LendingEvent K}
variable {outcome : TokenLedger K × Except LendingError Unit}

omit [DecidableEq K] in
/-- An operation that moves collateral goes through when it settles and the collateral moves. -/
theorem perform_withCollateral_iff :
    ((vault.perform account settlement (vault.withCollateral outcome) event).result = .ok () ∧
        (vault.perform account settlement (vault.withCollateral outcome) event).vault = after) ↔
      ∃ settled next, settlement.result = .ok settled ∧ outcome = (next, .ok ()) ∧
        after = { vault with collateral := next }.conclude account settled.next
          (event settled) := by
  refine perform_iff.trans ⟨?_, ?_⟩
  · rintro ⟨settled, hsettled, hmove, rfl⟩
    exact ⟨settled, outcome.1, hsettled, Prod.ext rfl hmove, rfl⟩
  · rintro ⟨settled, next, hsettled, rfl, rfl⟩
    exact ⟨settled, hsettled, rfl, rfl⟩

omit [DecidableEq K] in
theorem perform_withDebt_iff :
    ((vault.perform account settlement (vault.withDebt outcome) event).result = .ok () ∧
        (vault.perform account settlement (vault.withDebt outcome) event).vault = after) ↔
      ∃ settled next, settlement.result = .ok settled ∧ outcome = (next, .ok ()) ∧
        after = { vault with debt := next }.conclude account settled.next (event settled) := by
  refine perform_iff.trans ⟨?_, ?_⟩
  · rintro ⟨settled, hsettled, hmove, rfl⟩
    exact ⟨settled, outcome.1, hsettled, Prod.ext rfl hmove, rfl⟩
  · rintro ⟨settled, next, hsettled, rfl, rfl⟩
    exact ⟨settled, hsettled, rfl, rfl⟩

/-- The record that is stored is the one that is read next. -/
theorem record_conclude (vault : LedgerVault K) (account : K) (next : Record)
    (event : LendingEvent K) : (vault.conclude account next event).record account = next :=
  Table.get_set_self _ _ _

/-- A record that is stored over by what it was before leaves two events and no other trace. -/
theorem conclude_conclude (vault : LedgerVault K) (account : K) (next : Record)
    (first second : LendingEvent K) :
    (vault.conclude account next first).conclude account (vault.record account) second =
      { vault with events := vault.events ++ [first, second] } := by
  unfold conclude record
  simp only [Table.set_set_get, List.append_assoc, List.singleton_append]

/-- A withdrawal takes a deposit back where the record was secured before, and fails elsewhere. -/
theorem withdraw_after_deposit_iff (h : (vault.deposit caller amount).result = .ok ()) :
    (((vault.deposit caller amount).vault.withdraw caller amount).result = .ok () ∧
        ((vault.deposit caller amount).vault.withdraw caller amount).vault = after) ↔
      (vault.record caller).Secured vault.oracle ∧
        after =
          { vault with events := vault.events ++ [.deposited amount, .withdrawn amount] } := by
  obtain ⟨settled, next, hsettled, hmove, hdeposited⟩ := perform_withCollateral_iff.1 ⟨h, rfl⟩
  change (vault.deposit caller amount).vault = _ at hdeposited
  -- The tokens come back to the very same ledger, and the old record is stored over the new one.
  have hback := TokenLedger.transfer_back hmove
  have hboth := conclude_conclude vault caller settled.next (.deposited amount) (.withdrawn amount)
  rw [hdeposited]
  refine perform_withCollateral_iff.trans ?_
  rw [record_conclude]
  constructor
  · rintro ⟨back, token, hwithdrawn, hmoved, rfl⟩
    obtain ⟨hsecured, rfl⟩ := (Record.withdraw_after_deposit_iff hsettled).1 hwithdrawn
    cases hback.symm.trans hmoved
    exact ⟨hsecured, hboth⟩
  · rintro ⟨hsecured, rfl⟩
    exact ⟨_, _, (Record.withdraw_after_deposit_iff hsettled).2 ⟨hsecured, rfl⟩, hback, hboth.symm⟩

/-- A payback takes a borrow back where the allowance covers it, and fails elsewhere. -/
theorem payback_after_borrow_iff (hcaller : caller ≠ vault.address)
    (h : (vault.borrow caller amount).result = .ok ()) :
    ∃ value, ∀ after, (((vault.borrow caller amount).vault.payback caller amount).result = .ok () ∧
        ((vault.borrow caller amount).vault.payback caller amount).vault = after) ↔
      ∃ rest : Amount,
        (vault.debt.allowance caller vault.address).toNat = rest.toNat + amount.toNat ∧
        after = { vault with
          debt := vault.debt.approve caller vault.address rest
          events := vault.events ++ [.borrowed amount value, .paidBack amount value] } := by
  obtain ⟨settled, next, hsettled, hmove, hborrowed⟩ := perform_withDebt_iff.1 ⟨h, rfl⟩
  change (vault.borrow caller amount).vault = _ at hborrowed
  have hrepaid := Record.payBack_after_borrow hsettled
  have hboth (debt : TokenLedger K) := conclude_conclude { vault with debt := debt } caller
    settled.next (.borrowed amount settled.collateralEquivalent)
    (.paidBack amount settled.collateralEquivalent)
  refine ⟨settled.collateralEquivalent, fun after => ?_⟩
  rw [hborrowed]
  refine perform_withDebt_iff.trans ?_
  rw [record_conclude]
  constructor
  · rintro ⟨back, token, hpaid, hmoved, rfl⟩
    -- The record always takes the payback; what may be missing is the allowance.
    obtain ⟨rest, hrest, rfl⟩ := (TokenLedger.transferFrom_back_iff hcaller.symm hmove).1 hmoved
    cases hrepaid.symm.trans hpaid
    exact ⟨rest, hrest, hboth _⟩
  · rintro ⟨rest, hrest, rfl⟩
    have hback := (TokenLedger.transferFrom_back_iff hcaller.symm hmove).2 ⟨rest, hrest, rfl⟩
    exact ⟨_, _, hrepaid, hback, (hboth (vault.debt.approve caller vault.address rest)).symm⟩

/-- Take a vault in any state, and anyone but the vault's own account. A deposit that went through
can be withdrawn at once exactly when the record was secured before: it owed nothing, or the price
covered it. Then the records, the tokens and all else are as they were, but for the two events. A
borrow that went through can be paid back at once exactly when the allowance for the vault covers
it. Then all is as it was but for the events and this allowance, which is lower by the amount. -/
theorem opposite_operations_cancel (vault : LedgerVault K) {caller : K}
    (hcaller : caller ≠ vault.address) (amount : Amount) :
    ((vault.deposit caller amount).result = .ok () →
      (((vault.deposit caller amount).vault.withdraw caller amount).result = .ok () ↔
        (vault.record caller).Secured vault.oracle) ∧
      ((vault.record caller).Secured vault.oracle →
        ((vault.deposit caller amount).vault.withdraw caller amount).vault =
          { vault with events := vault.events ++ [.deposited amount, .withdrawn amount] })) ∧
    ((vault.borrow caller amount).result = .ok () →
      (((vault.borrow caller amount).vault.payback caller amount).result = .ok () ↔
        amount.toNat ≤ (vault.debt.allowance caller vault.address).toNat) ∧
      ∀ rest : Amount,
        (vault.debt.allowance caller vault.address).toNat = rest.toNat + amount.toNat →
          ∃ value, ((vault.borrow caller amount).vault.payback caller amount).vault =
            { vault with
              debt := vault.debt.approve caller vault.address rest
              events := vault.events ++ [.borrowed amount value, .paidBack amount value] }) := by
  refine ⟨fun hdeposit => ⟨⟨?_, ?_⟩, ?_⟩, fun hborrow => ?_⟩
  · intro hwithdrawn
    exact ((withdraw_after_deposit_iff hdeposit).1 ⟨hwithdrawn, rfl⟩).1
  · intro hsecured
    exact ((withdraw_after_deposit_iff hdeposit).2 ⟨hsecured, rfl⟩).1
  · intro hsecured
    exact ((withdraw_after_deposit_iff hdeposit).2 ⟨hsecured, rfl⟩).2
  · obtain ⟨value, hrepaid⟩ := payback_after_borrow_iff hcaller hborrow
    refine ⟨⟨?_, ?_⟩, ?_⟩
    · intro hpaid
      obtain ⟨rest, hrest, -⟩ := (hrepaid _).1 ⟨hpaid, rfl⟩
      omega
    · intro hallowed
      obtain ⟨rest, hrest⟩ := Word.exists_rest hallowed
      exact ((hrepaid _).2 ⟨rest, hrest, rfl⟩).1
    · intro rest hrest
      exact ⟨value, ((hrepaid _).2 ⟨rest, hrest, rfl⟩).2⟩

/-! ### An account in debt -/

/-- After the run with a liquidation account 3 borrows, and lets the vault take more than that. -/
def approvingRun : List (VaultStep Nat) :=
  liquidatedRun ++ [.borrow 3 (.units 7), .debt (.approve 3 0 (.units 60))]

def approved : LedgerVault Nat := (new 0 1 .empty .empty doubled).after approvingRun

/-- It owes 7 units at a price of 4, and has 230 units of collateral. It deposits 70 more and takes
them out again; it borrows 50 more and pays them back, and 10 are left of its allowance. -/
theorem operations_cancel_for_debtor :
    3 ≠ approved.address ∧ (approved.deposit 3 (.units 70)).result = .ok () ∧
      ((approved.deposit 3 (.units 70)).vault.withdraw 3 (.units 70)).result = .ok () ∧
      ((approved.deposit 3 (.units 70)).vault.withdraw 3 (.units 70)).vault =
        { approved with
          events := approved.events ++ [.deposited (.units 70), .withdrawn (.units 70)] } ∧
      (approved.borrow 3 (.units 50)).result = .ok () ∧
      ((approved.borrow 3 (.units 50)).vault.payback 3 (.units 50)).result = .ok () ∧
      ∃ value, ((approved.borrow 3 (.units 50)).vault.payback 3 (.units 50)).vault =
        { approved with
          debt := approved.debt.approve 3 approved.address (.units 10)
          events :=
            approved.events ++ [.borrowed (.units 50) value, .paidBack (.units 50) value] } := by
  have hcaller : 3 ≠ approved.address := by decide +kernel
  have hdeposit : (approved.deposit 3 (.units 70)).result = .ok () := by rfl
  have hborrow : (approved.borrow 3 (.units 50)).result = .ok () := by rfl
  have hsecured : (approved.record 3).Secured approved.oracle :=
    .inr ⟨⟨⟨.units 4, 0⟩, by decide, by decide⟩,
      Oracle.currentQuote_eq_ok_iff.2 (by decide +kernel), by decide +kernel⟩
  obtain ⟨hwithdraws, hrestores⟩ :=
    (opposite_operations_cancel approved hcaller (.units 70)).1 hdeposit
  obtain ⟨hpays, hrepays⟩ := (opposite_operations_cancel approved hcaller (.units 50)).2 hborrow
  exact ⟨hcaller, hdeposit, hwithdraws.2 hsecured, hrestores hsecured, hborrow,
    hpays.2 (by decide +kernel), hrepays (.units 10) (by decide +kernel)⟩

end LedgerVault

end CollateralLending
