/-
  CollateralLending.Proofs.Price.Worth

  What units of debt are worth in collateral, over the exact integers and
  rounded down. Worth is defined for every rate and for any number of units;
  for a quote and an amount it is what the conversion computes
  (`Quote.toNat_wide_eq_worth`), so nothing is lost in 128 bits.

  Rounding down costs less than one unit of collateral. Cut an amount in two,
  and its parts are worth as much as the whole or one unit less
  (`FixedRate.worth_add_worth_le`, `FixedRate.worth_add_le_succ`).
-/
import CollateralLending.Proofs.Lending.Settlements
import Mathlib.Data.Nat.ModEq

namespace CollateralLending

namespace FixedRate

/-- What so many units of debt are worth, rounded down. -/
def worth (rate : FixedRate) (units : Nat) : Nat :=
  units * rate.raw.toNat / 10 ^ rate.decimals.toNat

variable (rate : FixedRate)

theorem worth_zero : rate.worth 0 = 0 := by
  unfold worth
  rw [Nat.zero_mul, Nat.zero_div]

/-- More debt is worth no less. -/
theorem worth_mono {fewer more : Nat} (h : fewer ≤ more) : rate.worth fewer ≤ rate.worth more :=
  Nat.div_le_div_right (Nat.mul_le_mul_right _ h)

/-- Parts are worth together no more than the whole. -/
theorem worth_add_worth_le (first second : Nat) :
    rate.worth first + rate.worth second ≤ rate.worth (first + second) := by
  unfold worth
  rw [Nat.add_mul]
  exact Nat.div_add_div_le_add_div

/-- A cut costs one unit of collateral at most. -/
theorem worth_add_le_succ (first second : Nat) :
    rate.worth (first + second) ≤ rate.worth first + rate.worth second + 1 := by
  unfold worth
  rw [Nat.add_mul]
  exact Nat.add_div_le_div_add_div_add_one _ _ _

/-- One unit of debt is never worth more than an amount can say. -/
theorem worth_one_lt : rate.worth 1 < 2 ^ (64 : Nat) := by
  unfold worth
  rw [Nat.one_mul]
  exact Nat.lt_of_le_of_lt (Nat.div_le_self _ _) rate.raw.lt

end FixedRate

namespace Quote

variable {quote other : Quote}

theorem toNat_wide_eq_worth (quote : Quote) (amount : Amount) :
    (quote.wide amount).toNat = quote.rate.worth amount.toNat := rfl

/-- An oracle that answers with this quote. -/
def oracle (quote : Quote) : Oracle := .answers ⟨quote.rate, false⟩

@[simp] theorem currentQuote_oracle :
    quote.oracle.currentQuote.result = .ok other ↔ other = quote := by
  rw [Oracle.currentQuote_eq_ok_iff, oracle, Quote.ext_iff]
  simp only [Oracle.answers.injEq, RawQuote.mk.injEq, and_true, eq_comm]

end Quote

end CollateralLending
