/-
  CollateralLending.Proofs.Price.Conversion

  The laws of the one conversion by which debt is valued. It is exact but for
  rounding down, it knows a rate only as a rational number, it rises with the
  rate and with the amount, and cutting an amount in two loses one unit of
  collateral at most.

  Rates of different scales are compared by cross-multiplication. Their values
  are rounded at different scales too, so that a higher rate gives no lower
  value is shown over the numbers before rounding (`Quote.wide_le_of_ratio_le`).

  Main statement: `conversion_follows_the_rate`.
-/
import CollateralLending.Proofs.Price.Worth
import Mathlib.Algebra.Order.Field.Rat
import Mathlib.Algebra.Order.Field.Basic
import Mathlib.Tactic.NormNum

namespace CollateralLending

namespace Quote

/-! ## Rates as rational numbers -/

/-- What one unit of debt is worth in collateral. -/
def ratio (quote : Quote) : ℚ :=
  (quote.rate.raw.toNat : ℚ) / ((10 ^ quote.rate.decimals.toNat : ℕ) : ℚ)

/-- Two rates compare as their numbers do at a common scale. -/
theorem ratio_le_iff {low high : Quote} :
    low.ratio ≤ high.ratio ↔
      low.rate.raw.toNat * 10 ^ high.rate.decimals.toNat ≤
        high.rate.raw.toNat * 10 ^ low.rate.decimals.toNat := by
  have hlow : (0 : ℚ) < ((10 ^ low.rate.decimals.toNat : ℕ) : ℚ) := by positivity
  have hhigh : (0 : ℚ) < ((10 ^ high.rate.decimals.toNat : ℕ) : ℚ) := by positivity
  unfold ratio
  rw [div_le_div_iff₀ hlow hhigh]
  exact_mod_cast Iff.rfl

/-- A lower rate gives no higher value, rounding and scales notwithstanding. -/
theorem wide_le_of_ratio_le {low high : Quote} (h : low.ratio ≤ high.ratio) (amount : Amount) :
    (low.wide amount).toNat ≤ (high.wide amount).toNat := by
  rw [toNat_wide, toNat_wide]
  have hscale : 0 < 10 ^ low.rate.decimals.toNat := Nat.pow_pos (by decide)
  rw [Nat.le_div_iff_mul_le (Nat.pow_pos (by decide))]
  refine Nat.le_of_mul_le_mul_right ?_ hscale
  calc amount.toNat * low.rate.raw.toNat / 10 ^ low.rate.decimals.toNat *
        10 ^ high.rate.decimals.toNat * 10 ^ low.rate.decimals.toNat
      = amount.toNat * low.rate.raw.toNat / 10 ^ low.rate.decimals.toNat *
        10 ^ low.rate.decimals.toNat * 10 ^ high.rate.decimals.toNat := Nat.mul_right_comm ..
    _ ≤ amount.toNat * low.rate.raw.toNat * 10 ^ high.rate.decimals.toNat :=
        Nat.mul_le_mul_right _ (Nat.div_mul_le_self _ _)
    _ = amount.toNat * (low.rate.raw.toNat * 10 ^ high.rate.decimals.toNat) := Nat.mul_assoc ..
    _ ≤ amount.toNat * (high.rate.raw.toNat * 10 ^ low.rate.decimals.toNat) :=
        Nat.mul_le_mul_left _ (ratio_le_iff.1 h)
    _ = amount.toNat * high.rate.raw.toNat * 10 ^ low.rate.decimals.toNat :=
        (Nat.mul_assoc ..).symm

/-- More is worth no less. -/
theorem wide_le_of_amount_le (quote : Quote) {less more : Amount} (h : less.toNat ≤ more.toNat) :
    (quote.wide less).toNat ≤ (quote.wide more).toNat :=
  quote.rate.worth_mono h

/-- How a rate is written does not matter. -/
theorem wide_eq_of_ratio_eq {quote other : Quote} (h : quote.ratio = other.ratio) :
    quote.wide = other.wide := by
  funext amount
  exact Word.ext (Nat.le_antisymm (wide_le_of_ratio_le h.le amount)
    (wide_le_of_ratio_le h.ge amount))

end Quote

/-! ## The laws -/

/-- The value is this number where it is an amount, and an overflow where it is none. -/
theorem Quote.value_eq_error_iff {quote : Quote} {amount : Amount} {error : LendingError} :
    quote.value amount = .error error ↔
      error = .mathOverflow ∧ 2 ^ (64 : Nat) ≤ (quote.wide amount).toNat := by
  unfold Quote.value narrow
  rw [someOr_eq_error_iff, Word.ofNat?_eq_none_iff, and_comm, eq_comm]

/-- Take any rate that validation accepts. The conversion never fails within 128 bits and is the
exact product over the scale, rounded down; as an amount it is that number where it fits and an
overflow where it does not. It is the same for rates that are the same number, no less for a higher
rate and a larger amount, and for two amounts together it is as much as for each, or one more. -/
theorem conversion_follows_the_rate {rate : FixedRate} {quote : Quote}
    (h : rate.quote? = .ok quote) :
    (∀ amount, amount.toNat * rate.raw.toNat < 2 ^ (128 : Nat) ∧
      rate.wide? amount = some (quote.wide amount) ∧
      (quote.wide amount).toNat =
        amount.toNat * rate.raw.toNat / 10 ^ rate.decimals.toNat) ∧
    (∀ amount value, quote.value amount = .ok value ↔
      value.toNat = (quote.wide amount).toNat) ∧
    (∀ amount error, quote.value amount = .error error ↔
      error = .mathOverflow ∧ 2 ^ (64 : Nat) ≤ (quote.wide amount).toNat) ∧
    (∀ other : Quote, quote.ratio = other.ratio →
      ∀ amount, quote.wide amount = other.wide amount ∧ quote.value amount = other.value amount) ∧
    (∀ other : Quote, rate.raw.toNat * 10 ^ other.rate.decimals.toNat ≤
        other.rate.raw.toNat * 10 ^ rate.decimals.toNat →
      ∀ less more : Amount, less.toNat ≤ more.toNat →
        (quote.wide less).toNat ≤ (other.wide more).toNat) ∧
    ∀ first second whole : Amount, first.add? second = some whole →
      (quote.wide first).toNat + (quote.wide second).toNat ≤ (quote.wide whole).toNat ∧
      (quote.wide whole).toNat ≤ (quote.wide first).toNat + (quote.wide second).toNat + 1 := by
  obtain rfl := FixedRate.quote?_eq_ok_iff.1 h
  refine ⟨fun amount => ⟨(amount.mulWide quote.rate.raw).lt, quote.rate_wide? amount, rfl⟩,
    fun _ _ => Quote.value_eq_ok_iff, fun _ _ => Quote.value_eq_error_iff, ?_, ?_, ?_⟩
  · intro other hratio amount
    have hwide := Quote.wide_eq_of_ratio_eq hratio
    unfold Quote.value
    rw [hwide]
    exact ⟨rfl, rfl⟩
  · intro other hcross less more hle
    have hrate := Quote.wide_le_of_ratio_le (Quote.ratio_le_iff.2 hcross) less
    exact Nat.le_trans hrate (other.wide_le_of_amount_le hle)
  · intro first second whole hwhole
    have hsum := Word.add?_eq_some_iff.1 hwhole
    simp only [Quote.toNat_wide_eq_worth, hsum]
    exact ⟨quote.rate.worth_add_worth_le _ _, quote.rate.worth_add_le_succ _ _⟩

/-- Seven tenths of a unit of collateral for a unit of debt. -/
def sevenTenths : Quote := ⟨⟨.units 7, 1⟩, by decide, by decide⟩

/-- The same in thousandths. -/
def sevenHundredThousandths : Quote := ⟨⟨.units 700, 3⟩, by decide, by decide⟩

/-- Both are worth the same for every amount. One unit is worth nothing and two are worth one, but
three are worth two. -/
theorem seven_tenths_at_two_scales :
    (⟨.units 7, 1⟩ : FixedRate).quote? = .ok sevenTenths ∧
      (∀ amount, sevenTenths.wide amount = sevenHundredThousandths.wide amount) ∧
      (sevenTenths.wide (.units 1)).toNat = 0 ∧ (sevenTenths.wide (.units 2)).toNat = 1 ∧
      (sevenTenths.wide (.units 3)).toNat = 2 ∧
      (sevenTenths.wide (.units 3)).toNat ≤
        (sevenTenths.wide (.units 1)).toNat + (sevenTenths.wide (.units 2)).toNat + 1 := by
  have haccepted : (⟨.units 7, 1⟩ : FixedRate).quote? = .ok sevenTenths := rfl
  have hratio : sevenTenths.ratio = sevenHundredThousandths.ratio :=
    le_antisymm (Quote.ratio_le_iff.2 (by decide)) (Quote.ratio_le_iff.2 (by decide))
  obtain ⟨-, -, -, hsame, -, hcut⟩ := conversion_follows_the_rate haccepted
  exact ⟨haccepted, fun amount => (hsame _ hratio amount).1, rfl, rfl, rfl,
    (hcut (.units 1) (.units 2) (.units 3) rfl).2⟩

end CollateralLending
