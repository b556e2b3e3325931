/-
  CollateralLending.Proofs.Lending.Health

  At every usable price a record is one of two: its debt is worth more than its
  deposit, or it is not. The operations on it are told apart by the same
  boundary, although each compares the two numbers in its own way, before or
  after the change: either the admin can liquidate, and nothing can be borrowed
  or withdrawn, or nobody can liquidate, and exactly what the deposit exceeds
  the debt by can be withdrawn (`healthy_or_liquidatable`).
-/
import CollateralLending.Proofs.Lending.Acceptance

namespace CollateralLending

namespace Record

variable {K : Type} [DecidableEq K] {caller admin : K}
variable {record : Record} {quote : Quote} {oracle : Oracle} {amount : Amount}

/-! ## One operation at a time -/

theorem liquidate_of_bad (h : record.deposited.toNat < quote.rate.worth record.debt.toNat)
    (admin : K) :
    (record.liquidate admin admin quote.oracle).result = .ok ⟨record.deposited, record.debt⟩ :=
  liquidate_eq_ok_iff.2 ⟨rfl, rfl, quote, Quote.currentQuote_oracle.2 rfl, h⟩

theorem liquidate_of_good (h : quote.rate.worth record.debt.toNat ≤ record.deposited.toNat)
    (admin : K) :
    (record.liquidate admin admin quote.oracle).result = .error .noBadDebt := by
  have hgood : ¬ record.isUndercollateralized quote = true := by
    rw [isUndercollateralized_iff]
    exact Nat.not_lt.2 h
  simp only [liquidate, Consultation.result_bind_eq_error_iff, Consultation.result_lift,
    ensure_eq_error_iff, ensure_eq_ok_iff]
  exact .inr ⟨(), trivial, .inr ⟨quote, Quote.currentQuote_oracle.2 rfl, .inl ⟨hgood, trivial⟩⟩⟩

/-- No debt is no bad debt, whatever the price. -/
theorem not_liquidate_of_debtless (h : record.debt.toNat = 0) (liquidation : Liquidation) :
    (record.liquidate caller admin oracle).result ≠ .ok liquidation := by
  intro hok
  obtain ⟨-, -, quote, -, hbad⟩ := liquidate_eq_ok_iff.1 hok
  rw [Quote.toNat_wide_eq_worth, h, FixedRate.worth_zero] at hbad
  exact Nat.not_lt_zero _ hbad

/-- A borrow leaves more debt, which has to be covered, so the debt before it was. -/
theorem good_of_borrow {settled : Settlement}
    (h : (record.borrow quote.oracle amount).result = .ok settled) :
    quote.rate.worth record.debt.toNat ≤ record.deposited.toNat := by
  obtain ⟨-, other, hother, -, hcover⟩ := borrow_accepts_iff.1 ⟨settled, h⟩
  cases Quote.currentQuote_oracle.1 hother
  exact Nat.le_trans (quote.rate.worth_mono (Nat.le_add_right _ _)) hcover

/-- At a price, a withdrawal is bounded by what the debt is worth, also when there is none. -/
theorem withdraw_accepts_iff_at :
    (∃ settled, (record.withdraw quote.oracle amount).result = .ok settled) ↔
      0 < amount.toNat ∧
        quote.rate.worth record.debt.toNat + amount.toNat ≤ record.deposited.toNat := by
  simp only [withdraw_accepts_iff, Quote.currentQuote_oracle, exists_eq_left]
  constructor
  · rintro ⟨hpos, henough, hcover⟩
    refine ⟨hpos, ?_⟩
    by_cases hdebtor : 0 < record.debt.toNat
    · exact hcover hdebtor
    · rw [Nat.eq_zero_of_not_pos hdebtor, FixedRate.worth_zero, Nat.zero_add]
      exact henough
  · rintro ⟨hpos, hcover⟩
    exact ⟨hpos, by omega, fun _ => hcover⟩

/-- Whoever has just been let borrow or withdraw cannot be liquidated at the same price. -/
theorem not_liquidatable_after {settled : Settlement}
    (h : (record.borrow quote.oracle amount).result = .ok settled ∨
      (record.withdraw quote.oracle amount).result = .ok settled) (admin : K) :
    (settled.next.liquidate admin admin quote.oracle).result = .error .noBadDebt := by
  refine liquidate_of_good ?_ admin
  rcases h with h | h
  · obtain ⟨-, other, hother, -, -, hdeposit, hcover⟩ := borrow_eq_ok_iff.1 h
    cases Quote.currentQuote_oracle.1 hother
    rw [hdeposit]
    exact hcover
  · obtain ⟨-, hcover⟩ := withdraw_accepts_iff_at.1 ⟨settled, h⟩
    obtain ⟨-, -, hdeposit, hdebt, -⟩ := withdraw_eq_ok_iff.1 h
    rw [hdebt]
    omega

/-! ## The boundary -/

/-- A record whose debt is worth more than its deposit can be liquidated, and nothing can be
borrowed on it or withdrawn from it. One that is covered cannot be liquidated, and what can be
withdrawn is what is left to the boundary. Without debt there is no liquidation at any price. -/
theorem healthy_or_liquidatable (record : Record) (quote : Quote) (admin : K) :
    (record.deposited.toNat < quote.rate.worth record.debt.toNat →
      (record.liquidate admin admin quote.oracle).result = .ok ⟨record.deposited, record.debt⟩ ∧
      ∀ amount, (∃ error, (record.borrow quote.oracle amount).result = .error error) ∧
        ∃ error, (record.withdraw quote.oracle amount).result = .error error) ∧
    (quote.rate.worth record.debt.toNat ≤ record.deposited.toNat →
      (record.liquidate admin admin quote.oracle).result = .error .noBadDebt ∧
      ∀ amount, (∃ settled, (record.withdraw quote.oracle amount).result = .ok settled) ↔
        1 ≤ amount.toNat ∧
          amount.toNat ≤ record.deposited.toNat - quote.rate.worth record.debt.toNat) ∧
    (record.debt.toNat = 0 → ∀ caller oracle liquidation,
      (record.liquidate caller admin oracle).result ≠ .ok liquidation) := by
  refine ⟨fun hbad => ?_, fun hgood => ?_, fun hdebtless _ _ => not_liquidate_of_debtless hdebtless⟩
  · refine ⟨liquidate_of_bad hbad admin, fun amount => ⟨?_, ?_⟩⟩
    · rw [exists_error_iff]
      rintro ⟨settled, hsettled⟩
      exact Nat.not_le.2 hbad (good_of_borrow hsettled)
    · rw [exists_error_iff, withdraw_accepts_iff_at]
      rintro ⟨-, hcover⟩
      -- The deposit does not even cover the debt before anything is taken out of it.
      omega
  · refine ⟨liquidate_of_good hgood admin, fun amount => ?_⟩
    rw [withdraw_accepts_iff_at, Nat.le_sub_iff_add_le hgood, Nat.add_comm]
    exact Iff.rfl

/-- Half a unit of collateral for each unit of debt. -/
def halfQuote : Quote := ⟨⟨.units 5, 1⟩, by decide, by decide⟩

/-- The most debt there can be, against such a deposit. At half a unit each it is worth
`2 ^ 63 - 1`, since a half is lost. -/
def indebted (deposited : Nat) : Record := ⟨.units deposited, .units (2 ^ 64 - 1)⟩

/-- One unit of collateral decides: with it the admin cannot liquidate and nothing can be withdrawn,
and without it the position ends. An empty record has no such end. -/
theorem boundary_of_indebted :
    ((indebted (2 ^ 63 - 1)).liquidate 0 0 halfQuote.oracle).result = .error .noBadDebt ∧
    (¬ ∃ settled, ((indebted (2 ^ 63 - 1)).withdraw halfQuote.oracle (.units 1)).result =
      .ok settled) ∧
    ((indebted (2 ^ 63 - 2)).liquidate 0 0 halfQuote.oracle).result =
      .ok ⟨.units (2 ^ 63 - 2), .units (2 ^ 64 - 1)⟩ ∧
    ∀ liquidation, (Record.zero.liquidate 0 0 halfQuote.oracle).result ≠ .ok liquidation := by
  have hgood := (healthy_or_liquidatable (indebted (2 ^ 63 - 1)) halfQuote 0).2.1
    (by decide +kernel)
  have hbad := (healthy_or_liquidatable (indebted (2 ^ 63 - 2)) halfQuote 0).1 (by decide +kernel)
  have hdebtless := (healthy_or_liquidatable zero halfQuote 0).2.2 rfl
  refine ⟨hgood.1, ?_, hbad.1, hdebtless 0 halfQuote.oracle⟩
  rw [hgood.2]
  decide +kernel

end Record

end CollateralLending
