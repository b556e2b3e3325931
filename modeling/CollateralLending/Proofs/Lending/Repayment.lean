/-
  CollateralLending.Proofs.Lending.Repayment

  Debt can always be paid back. A payback is refused where it is worth more
  than an amount can say, although nothing is done with its worth but to report
  it, so at a high rate all of the debt may be too much for one payback. One
  unit never is, at any rate (`FixedRate.worth_one_lt`), and at the highest rate
  it is all that goes through at once. So the debt is paid back in units.

  Main statement: `debt_can_be_repaid`.
-/
import CollateralLending.Proofs.Lending.Instalments

namespace CollateralLending

namespace Record

variable {record : Record} {quote : Quote} {oracle : Oracle} {amount : Amount}
variable {settled : Settlement} {parts : List Amount}

/-- At a price a payback is accepted up to the whole debt, if it is worth an amount of
collateral. -/
theorem payBack_accepts_iff_at :
    (∃ settled, (record.payBack quote.oracle amount).result = .ok settled) ↔
      0 < amount.toNat ∧ amount.toNat ≤ record.debt.toNat ∧
        quote.rate.worth amount.toNat < 2 ^ (64 : Nat) := by
  simp only [payBack_accepts_iff, Quote.currentQuote_oracle, exists_eq_left]

theorem payBack_lowers_debt (h : (record.payBack oracle amount).result = .ok settled) :
    record.debt.toNat = settled.next.debt.toNat + amount.toNat ∧
      settled.next.deposited = record.deposited := by
  obtain ⟨-, -, -, -, hdebt, hdeposit⟩ := payBack_eq_ok_iff.1 h
  exact ⟨hdebt, hdeposit⟩

/-- A record that is covered at a price stays so whatever is paid back, at whichever price. -/
theorem covered_of_payBack {other : Quote} (h : (record.payBack oracle amount).result = .ok settled)
    (hcovered : record.isUndercollateralized other = false) :
    settled.next.isUndercollateralized other = false := by
  obtain ⟨hdebt, hdeposit⟩ := payBack_lowers_debt h
  have hless := other.rate.worth_mono (show settled.next.debt.toNat ≤ record.debt.toNat by omega)
  rw [← Bool.not_eq_true, isUndercollateralized_iff, Quote.toNat_wide_eq_worth] at hcovered ⊢
  rw [hdeposit]
  omega

/-- Paybacks go through one after another as long as each is worth an amount and there is debt for
all of them; what they add up to is what the debt falls by. -/
theorem payBack_inTurn
    (hparts : ∀ part ∈ parts, 0 < part.toNat ∧ quote.rate.worth part.toNat < 2 ^ (64 : Nat))
    (htotal : totalOf parts ≤ record.debt.toNat) :
    ∃ run, settleInTurn (fun record amount => (record.payBack quote.oracle amount).result) record
        parts = .ok run ∧
      record.debt.toNat = run.last.debt.toNat + totalOf parts ∧
      run.last.deposited = record.deposited := by
  induction parts generalizing record with
  | nil => exact ⟨⟨record, []⟩, rfl, rfl, rfl⟩
  | cons part rest ih =>
      rw [totalOf] at htotal
      obtain ⟨hpos, hworth⟩ := hparts part List.mem_cons_self
      obtain ⟨settled, hsettled⟩ :
          ∃ settled, (record.payBack quote.oracle part).result = .ok settled :=
        payBack_accepts_iff_at.2 ⟨hpos, by omega, hworth⟩
      obtain ⟨hdebt, hdeposit⟩ := payBack_lowers_debt hsettled
      obtain ⟨later, hlater, hrest, hkept⟩ := ih
        (fun later hmem => hparts later (List.mem_cons_of_mem _ hmem))
        (show totalOf rest ≤ settled.next.debt.toNat by omega)
      refine ⟨_, settleInTurn_cons_eq_ok_iff.2 ⟨settled, hsettled, later, hlater, rfl⟩, ?_,
        hkept.trans hdeposit⟩
      simp only [totalOf]
      omega

/-- As many paybacks of one unit as there are units of debt clear it. -/
theorem payBack_units (record : Record) (quote : Quote) :
    ∃ run, settleInTurn (fun record amount => (record.payBack quote.oracle amount).result) record
        (List.replicate record.debt.toNat (.units 1)) = .ok run ∧
      run.last.debt.toNat = 0 ∧ run.last.deposited = record.deposited := by
  have htotal : totalOf (List.replicate record.debt.toNat (.units 1)) = record.debt.toNat := by
    rw [totalOf_replicate]
    exact Nat.mul_one _
  obtain ⟨run, hrun, hdebt, hdeposit⟩ := payBack_inTurn (fun part hmem => by
    rw [List.eq_of_mem_replicate hmem]
    exact ⟨by decide, quote.rate.worth_one_lt⟩) (Nat.le_of_eq htotal)
  exact ⟨run, hrun, by omega, hdeposit⟩

/-- A payback goes through exactly when it is for something, the debt is at least as much, and its
worth is an amount. Then the debt falls by it, and the deposit is kept. Whatever is covered stays
covered, at every price. And at every price there are paybacks, one after another, that all go
through and end the debt. -/
theorem debt_can_be_repaid (record : Record) (quote : Quote) :
    (∀ amount, ((∃ settled, (record.payBack quote.oracle amount).result = .ok settled) ↔
        1 ≤ amount.toNat ∧ amount.toNat ≤ record.debt.toNat ∧
          quote.rate.worth amount.toNat ≤ 2 ^ (64 : Nat) - 1) ∧
      ∀ settled, (record.payBack quote.oracle amount).result = .ok settled →
        settled.next.debt.toNat + amount.toNat = record.debt.toNat ∧
          settled.next.deposited = record.deposited) ∧
    (∀ oracle amount settled, (record.payBack oracle amount).result = .ok settled →
      ∀ other, record.isUndercollateralized other = false →
        settled.next.isUndercollateralized other = false) ∧
    ∃ parts run, settleInTurn (fun record amount => (record.payBack quote.oracle amount).result)
        record parts = .ok run ∧
      run.last.debt = .zero ∧ run.last.deposited = record.deposited := by
  refine ⟨fun amount => ⟨?_, fun settled hsettled => ?_⟩,
    fun oracle amount settled hsettled other => covered_of_payBack hsettled, ?_⟩
  · rw [payBack_accepts_iff_at]
    omega
  · obtain ⟨hdebt, hdeposit⟩ := payBack_lowers_debt hsettled
    exact ⟨hdebt.symm, hdeposit⟩
  · obtain ⟨run, hrun, hdebt, hdeposit⟩ := payBack_units record quote
    exact ⟨_, run, hrun, Word.ext hdebt, hdeposit⟩

/-- The highest rate there is. -/
def steepQuote : Quote := ⟨⟨.units (2 ^ 64 - 1), 0⟩, by decide, by decide⟩

/-- The most debt there can be, at the highest rate, with no collateral. Two units are too much for
one payback, one is not, and the debt can be ended. -/
theorem steep_debt_is_repaid :
    (¬ ∃ settled, (payBack ⟨.zero, .units (2 ^ 64 - 1)⟩ steepQuote.oracle (.units 2)).result =
      .ok settled) ∧
    (∃ settled, (payBack ⟨.zero, .units (2 ^ 64 - 1)⟩ steepQuote.oracle (.units 1)).result =
      .ok settled) ∧
    ∃ parts run, settleInTurn
        (fun record amount => (record.payBack steepQuote.oracle amount).result)
        ⟨.zero, .units (2 ^ 64 - 1)⟩ parts = .ok run ∧
      run.last.debt = .zero := by
  obtain ⟨haccepts, -, parts, run, hrun, hdebt, -⟩ :=
    debt_can_be_repaid ⟨.zero, .units (2 ^ 64 - 1)⟩ steepQuote
  refine ⟨?_, (haccepts _).1.2 (by decide +kernel), parts, run, hrun, hdebt⟩
  rw [(haccepts _).1]
  decide +kernel

end Record

end CollateralLending
