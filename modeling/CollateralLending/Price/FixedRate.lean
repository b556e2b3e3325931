/-
  CollateralLending.Price.FixedRate

  Decimal rates: an integer magnitude scaled by a power of ten. A rate says how
  much collateral one unit of debt is worth. Every conversion of debt into
  collateral goes through `wide`, so all of them round down the same way.

  A `FixedRate` may be any pair of magnitude and scale; its power of ten need
  not fit 128 bits, so its conversions are partial. A `Quote` is a rate that
  passed validation, and its conversions are total.

  Main statement: `Quote.rate_wide?` says that validation makes the partial
  conversion succeed and that both conversions then agree.
-/
import CollateralLending.Word
import CollateralLending.Error

namespace CollateralLending

/-- A decimal rate `raw / 10 ^ decimals`, not yet validated. -/
@[ext]
structure FixedRate where
  /-- The integer magnitude. -/
  raw : Amount
  /-- The exponent of the power of ten by which the magnitude is divided. -/
  decimals : UInt8
deriving DecidableEq, Inhabited

/-- The largest number of decimals an answer may have. -/
def maxDecimals : UInt8 := 18

/-- A rate that operations may rely on: positive, and with a supported scale. -/
@[ext]
structure Quote where
  /-- The rate itself. -/
  rate : FixedRate
  /-- It is not zero. -/
  raw_pos : 0 < rate.raw.toNat
  /-- Its scale is supported. -/
  decimals_le : rate.decimals ≤ maxDecimals
deriving DecidableEq

/-- An amount in 64 bits, or the overflow error. -/
def narrow (value : Wide) : Except LendingError Amount :=
  someOr (Word.ofNat? 64 value.toNat) .mathOverflow

namespace FixedRate

/-- The power of ten of the scale, when it fits 128 bits. -/
def scale? (rate : FixedRate) : Option Wide := Word.ofNat? 128 (10 ^ rate.decimals.toNat)

/-- `amount * raw / 10 ^ decimals`, rounded down, when the scale fits. -/
def wide? (rate : FixedRate) (amount : Amount) : Option Wide :=
  rate.scale?.map fun scale => (amount.mulWide rate.raw : Wide).floorDiv scale

/-- The validated rate. A zero rate and an unsupported scale are refused. -/
def quote? (rate : FixedRate) : Except LendingError Quote :=
  if raw_pos : 0 < rate.raw.toNat then
    if decimals_le : rate.decimals ≤ maxDecimals then .ok ⟨rate, raw_pos, decimals_le⟩
    else .error .invalidQuote
  else .error .invalidQuote

end FixedRate

namespace Quote

theorem decimals_toNat_le (quote : Quote) : quote.rate.decimals.toNat ≤ 18 :=
  UInt8.le_iff_toNat_le.1 quote.decimals_le

/-- The power of ten of the scale: a supported one fits. -/
def scale (quote : Quote) : Wide :=
  ⟨10 ^ quote.rate.decimals.toNat,
    Nat.lt_of_le_of_lt (Nat.pow_le_pow_right (by decide) quote.decimals_toNat_le) (by decide)⟩

/-- The collateral value of an amount of debt, rounded down, in 128 bits. -/
def wide (quote : Quote) (amount : Amount) : Wide :=
  (amount.mulWide quote.rate.raw : Wide).floorDiv quote.scale

/-- The collateral value of an amount of debt as an amount again. -/
def value (quote : Quote) (amount : Amount) : Except LendingError Amount :=
  narrow (quote.wide amount)

/-- The value of an amount is its product with the rate over the scale, rounded down. -/
@[simp] theorem toNat_wide (quote : Quote) (amount : Amount) :
    (quote.wide amount).toNat =
      amount.toNat * quote.rate.raw.toNat / 10 ^ quote.rate.decimals.toNat := rfl

theorem rate_scale? (quote : Quote) : quote.rate.scale? = some quote.scale :=
  Word.ofNat?_eq_some_iff.2 rfl

/-- On a validated rate the partial conversion succeeds and agrees with the total one. -/
theorem rate_wide? (quote : Quote) (amount : Amount) :
    quote.rate.wide? amount = some (quote.wide amount) := by
  rw [FixedRate.wide?, rate_scale?]
  rfl

end Quote

end CollateralLending
