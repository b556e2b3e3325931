/-
  CollateralLending.Proofs.Share.Prices

  What shares cost, to the share. A conversion makes two checks: the product of
  amount and rate has to fit 128 bits, and the shares have to fit 64. The first
  check decides nothing. A product that does not fit stands for more shares
  than 64 bits hold, however they are rounded, so a conversion fails exactly
  when its shares are no amount.

  Main statement: `share_prices_are_exact`.
-/
import CollateralLending.Proofs.Share.Conversions

namespace CollateralLending

variable {amount : Amount} {rate : Wide}

/-- The conversion yields this number of shares when it is an amount, and reports an overflow when
it is none. -/
structure Prices (result : Except ShareError Amount) (number : Nat) : Prop where
  ok_iff : ∀ shares, result = .ok shares ↔ shares.toNat = number
  error_iff : ∀ error, result = .error error ↔ error = .mathOverflow ∧ 2 ^ (64 : Nat) ≤ number

/-- Narrowing gives the number itself, or an overflow. -/
theorem prices_narrowShares (number : Nat) : Prices (narrowShares number) number where
  ok_iff _ := narrowShares_eq_ok_iff
  error_iff _ := by
    unfold narrowShares
    rw [someOr_eq_error_iff, Word.ofNat?_eq_none_iff, and_comm, eq_comm]

/-! ## The product -/

/-- What stands for an amount of shares fits 128 bits. -/
theorem product_lt_of_div_lt {value : Nat} (h : value / wad < 2 ^ (64 : Nat)) :
    value < 2 ^ (128 : Nat) := by
  unfold wad at h
  omega

/-- Where the shares are an amount, the product they are the quotient of fits 128 bits. -/
theorem exists_scaled (h : amount.toNat * rate.toNat / wad < 2 ^ (64 : Nat)) :
    ∃ value, scaled amount rate = .ok value :=
  ⟨⟨_, product_lt_of_div_lt h⟩, scaled_eq_ok_iff.2 rfl⟩

/-- However the shares are rounded, if not below the quotient, checking the product changes nothing.
-/
theorem scaled_bind_narrowShares {round : Nat → Nat} (hround : ∀ value, value / wad ≤ round value) :
    (do narrowShares (round (← scaled amount rate).toNat)) =
      narrowShares (round (amount.toNat * rate.toNat)) := by
  by_cases hfits : amount.toNat * rate.toNat / wad < 2 ^ (64 : Nat)
  · obtain ⟨value, hvalue⟩ := exists_scaled hfits
    rw [hvalue, ← scaled_eq_ok_iff.1 hvalue]
    rfl
  · have hshares : 2 ^ (64 : Nat) ≤ round (amount.toNat * rate.toNat) :=
      Nat.le_trans (Nat.not_lt.1 hfits) (hround _)
    rw [((prices_narrowShares _).error_iff _).2 ⟨rfl, hshares⟩]
    -- Where the product fits, it is the shares that do not.
    cases hscaled : scaled amount rate with
    | error error =>
      obtain ⟨-, rfl⟩ := someOr_eq_error_iff.1 hscaled
      rfl
    | ok value =>
      rw [← scaled_eq_ok_iff.1 hscaled] at hshares
      exact ((prices_narrowShares _).error_iff _).2 ⟨rfl, hshares⟩

/-! ## Both conversions -/

/-- Minting gives the floor of the exact number of shares. -/
theorem prices_mintedShares (amount : Amount) (rate : Wide) :
    Prices (mintedShares amount rate) (amount.toNat * rate.toNat / wad) := by
  have heq : mintedShares amount rate = _ :=
    scaled_bind_narrowShares fun value => Nat.le_refl (value / wad)
  rw [heq]
  exact prices_narrowShares _

/-- Burning takes the ceiling of the exact number of shares. -/
theorem prices_burnedShares (amount : Amount) (rate : Wide) :
    Prices (burnedShares amount rate) (sharesFor amount rate) := by
  have heq : burnedShares amount rate = _ :=
    scaled_bind_narrowShares fun value =>
      Nat.le_add_right (value / wad) (if value % wad = 0 then 0 else 1)
  rw [heq, sharesFor_eq]
  exact prices_narrowShares _

/-- A deposit mints the value of the amount at the rate, rounded down, and a withdrawal burns it,
rounded up; either fails exactly when the number is none of 64 bits, and for no other reason. What
mints an amount of shares has a product that fits 128 bits, and rounding up stays far within them.
A withdrawal costs what a deposit mints when the value is a whole number of shares, and one share
more when it is not. -/
theorem share_prices_are_exact (amount : Amount) (rate : Wide) :
    Prices (mintedShares amount rate) (amount.toNat * rate.toNat / wad) ∧
    Prices (burnedShares amount rate) (sharesFor amount rate) ∧
    (amount.toNat * rate.toNat / wad < 2 ^ (64 : Nat) → ∃ value, scaled amount rate = .ok value) ∧
    (∀ value, scaled amount rate = .ok value → value.toNat / wad + 1 < 2 ^ (128 : Nat)) ∧
    sharesFor amount rate = amount.toNat * rate.toNat / wad +
      if wad ∣ amount.toNat * rate.toNat then 0 else 1 := by
  refine ⟨prices_mintedShares amount rate, prices_burnedShares amount rate, exists_scaled, ?_, ?_⟩
  · intro value _
    have hlt := value.lt
    unfold wad
    omega
  · rw [sharesFor_eq]
    simp only [Nat.dvd_iff_mod_eq_zero]

/-- One unit at a rate just above the most shares there are: it mints them all, and costs one more
than there are. -/
example : mintedShares (.units 1) (.units ((2 ^ 64 - 1) * wad + 1)) = .ok (.units (2 ^ 64 - 1)) ∧
    burnedShares (.units 1) (.units ((2 ^ 64 - 1) * wad + 1)) = .error .mathOverflow :=
  ⟨rfl, rfl⟩

end CollateralLending
