/-
  CollateralLending.Proofs.Share.Conversions

  What shares cost, over the numbers: minted shares are worth no more than what
  was deposited for them, and burned shares no less than what is withdrawn.
-/
import CollateralLending.Proofs.Outcome
import CollateralLending.Share.ShareVault

namespace CollateralLending

/-- The shares that a withdrawal costs: its value at the rate, rounded up. -/
def sharesFor (amount : Amount) (rate : Wide) : Nat := (amount.toNat * rate.toNat + (wad - 1)) / wad

variable {amount shares : Amount} {rate value : Wide}

/-- The product of amount and rate is exact wherever it is computed. -/
theorem scaled_eq_ok_iff :
    scaled amount rate = .ok value ↔ value.toNat = amount.toNat * rate.toNat := by
  unfold scaled
  rw [someOr_eq_ok_iff, Word.ofNat?_eq_some_iff]

theorem narrowShares_eq_ok_iff {number : Nat} :
    narrowShares number = .ok shares ↔ shares.toNat = number := by
  unfold narrowShares
  rw [someOr_eq_ok_iff, Word.ofNat?_eq_some_iff]

/-- Rounding up adds one where something is left over. -/
theorem sharesFor_eq (amount : Amount) (rate : Wide) :
    sharesFor amount rate = amount.toNat * rate.toNat / wad +
      if amount.toNat * rate.toNat % wad = 0 then 0 else 1 := by
  unfold sharesFor wad
  split <;> omega

/-- Shares cover a value when they are as many as it costs. -/
theorem sharesFor_le_iff {number : Nat} :
    sharesFor amount rate ≤ number ↔ amount.toNat * rate.toNat ≤ number * wad := by
  unfold sharesFor wad
  omega

/-- Minted shares are the value of the amount, rounded down. -/
theorem toNat_of_mintedShares (h : mintedShares amount rate = .ok shares) :
    shares.toNat = amount.toNat * rate.toNat / wad := by
  simp only [mintedShares, bind_eq_ok_iff, scaled_eq_ok_iff, narrowShares_eq_ok_iff] at h
  obtain ⟨value, hvalue, hshares⟩ := h
  rw [hshares, hvalue]

/-- Minted shares are worth no more than what was paid for them. -/
theorem value_of_mintedShares (h : mintedShares amount rate = .ok shares) :
    shares.toNat * wad ≤ amount.toNat * rate.toNat := by
  rw [toNat_of_mintedShares h]
  exact Nat.div_mul_le_self _ _

/-- Only a positive amount mints shares. -/
theorem amount_pos_of_mintedShares (h : mintedShares amount rate = .ok shares)
    (hpositive : 0 < shares.toNat) : 0 < amount.toNat := by
  rw [toNat_of_mintedShares h] at hpositive
  refine Nat.pos_of_ne_zero fun hzero => ?_
  rw [hzero, Nat.zero_mul, Nat.zero_div] at hpositive
  exact Nat.lt_irrefl 0 hpositive

/-- At a positive rate a positive amount costs shares: rounding up never ends at none. -/
theorem sharesFor_pos (hamount : 0 < amount.toNat) (hrate : 0 < rate.toNat) :
    0 < sharesFor amount rate := by
  refine Nat.pos_of_ne_zero fun hzero => ?_
  have hvalue := sharesFor_le_iff.1 (Nat.le_of_eq hzero)
  rw [Nat.zero_mul] at hvalue
  exact Nat.not_lt.2 hvalue (Nat.mul_pos hamount hrate)

/-- Burned shares are the value of the amount, rounded up, where the product fits 128 bits. -/
theorem burnedShares_eq_ok_iff :
    burnedShares amount rate = .ok shares ↔
      amount.toNat * rate.toNat < 2 ^ (128 : Nat) ∧ shares.toNat = sharesFor amount rate := by
  simp only [burnedShares, bind_eq_ok_iff, scaled_eq_ok_iff, narrowShares_eq_ok_iff]
  rw [sharesFor_eq]
  constructor
  · rintro ⟨value, hvalue, hshares⟩
    rw [hvalue] at hshares
    exact ⟨hvalue ▸ value.lt, hshares⟩
  · rintro ⟨hlt, hshares⟩
    exact ⟨⟨_, hlt⟩, rfl, hshares⟩

/-- Burned shares are worth no less than what was paid out for them. -/
theorem value_of_burnedShares (h : burnedShares amount rate = .ok shares) :
    amount.toNat * rate.toNat ≤ shares.toNat * wad :=
  sharesFor_le_iff.1 (Nat.le_of_eq (burnedShares_eq_ok_iff.1 h).2.symm)

/-! ## Covered shares -/

variable {supply pool rate : Nat}

/-- Fewer shares against a fuller pool at a higher rate stay covered. -/
theorem covered_of_le {supply' pool' rate' : Nat} (h : supply * wad ≤ pool * rate)
    (hsupply : supply' ≤ supply) (hpool : pool ≤ pool') (hrate : rate ≤ rate') :
    supply' * wad ≤ pool' * rate' :=
  Nat.le_trans (Nat.mul_le_mul_right wad hsupply) (Nat.le_trans h (Nat.mul_le_mul hpool hrate))

/-- Minted shares are covered by what came in for them. -/
theorem covered_of_minted {minted received : Nat} (h : supply * wad ≤ pool * rate)
    (hvalue : minted * wad ≤ received * rate) :
    (supply + minted) * wad ≤ (pool + received) * rate := by
  rw [Nat.add_mul, Nat.add_mul]
  exact Nat.add_le_add h hvalue

/-- What goes out is covered by the shares that are burned for it. -/
theorem covered_of_burned {burned paid rest left : Nat} (h : supply * wad ≤ pool * rate)
    (hvalue : paid * rate ≤ burned * wad) (hsupply : supply = rest + burned)
    (hpool : pool ≤ left + paid) : rest * wad ≤ left * rate := by
  have hboth : rest * wad + burned * wad ≤ left * rate + burned * wad :=
    calc
      rest * wad + burned * wad = supply * wad := by rw [hsupply, Nat.add_mul]
      _ ≤ pool * rate := h
      _ ≤ (left + paid) * rate := Nat.mul_le_mul_right rate hpool
      _ = left * rate + paid * rate := Nat.add_mul ..
      _ ≤ left * rate + burned * wad := Nat.add_le_add_left hvalue _
  exact Nat.le_of_add_le_add_right hboth

end CollateralLending
