/-
  CollateralLending.Proofs.Share.RoundTrip

  What comes back of a deposit while the rate stands. Shares are minted rounded
  down and burned rounded up. Rounding a price up and rounding down what the
  shares are worth fit together: shares pay for exactly the withdrawals that are
  no more than they are worth (`paysFor_iff`). So nothing is gained on the way,
  and what is lost is what a fraction of one share would have paid for.

  Main statement: `round_trip_loses_a_share_at_most`.
-/
import CollateralLending.Proofs.Share.Splitting
import Mathlib.Algebra.Order.Floor.Div

namespace CollateralLending

variable {amount shares : Amount} {rate : Wide}

/-- The underlying units that so many shares are worth, rounded down. -/
def unitsFor (shares : Nat) (rate : Wide) : Nat := shares * wad / rate.toNat

/-- The shares are enough for a withdrawal. -/
def PaysFor (shares : Amount) (rate : Wide) (wanted : Amount) : Prop :=
  ∃ burned, burnedShares wanted rate = .ok burned ∧ burned.toNat ≤ shares.toNat

/-! ## What shares pay for -/

/-- So many shares buy an amount when it is at most what they are worth rounded down: the two
roundings are adjoint. -/
theorem sharesFor_le_iff_le_unitsFor (hrate : 0 < rate.toNat) {number : Nat} :
    sharesFor amount rate ≤ number ↔ amount.toNat ≤ unitsFor number rate := by
  rw [sharesFor_le_iff, unitsFor, Nat.le_div_iff_mul_le hrate]

/-- Shares pay for what they are worth and for nothing more. A withdrawal that costs more shares
than there can be costs more than these. -/
theorem paysFor_iff (hrate : 0 < rate.toNat) {wanted : Amount} :
    PaysFor shares rate wanted ↔ wanted.toNat ≤ unitsFor shares.toNat rate := by
  rw [← sharesFor_le_iff_le_unitsFor hrate]
  constructor
  · rintro ⟨burned, hburned, hle⟩
    rw [← ((prices_burnedShares wanted rate).ok_iff burned).1 hburned]
    exact hle
  · intro hle
    have hlt : sharesFor wanted rate < 2 ^ (64 : Nat) := Nat.lt_of_le_of_lt hle shares.lt
    exact ⟨⟨_, hlt⟩, ((prices_burnedShares wanted rate).ok_iff _).2 rfl, hle⟩

/-! ## There and back -/

/-- Minted shares are worth no more than the deposit. -/
theorem unitsFor_le_of_mintedShares (hrate : 0 < rate.toNat)
    (h : mintedShares amount rate = .ok shares) : unitsFor shares.toNat rate ≤ amount.toNat := by
  have hvalue := value_of_mintedShares h
  refine Nat.le_of_mul_le_mul_right ?_ hrate
  calc unitsFor shares.toNat rate * rate.toNat ≤ shares.toNat * wad := Nat.div_mul_le_self _ _
    _ ≤ amount.toNat * rate.toNat := hvalue

/-- They fall short of it by no more than one share is worth, rounded up. -/
theorem le_unitsFor_of_mintedShares (hrate : 0 < rate.toNat)
    (h : mintedShares amount rate = .ok shares) :
    amount.toNat ≤ unitsFor shares.toNat rate + wad ⌈/⌉ rate.toNat := by
  -- Minting drops less than one share, and telling the worth drops less than one unit.
  have hminted := (near_mintedShares h).value_le
  have hworth : shares.toNat * wad < (unitsFor shares.toNat rate + 1) * rate.toNat := by
    rw [Nat.mul_comm _ rate.toNat]
    exact Nat.lt_mul_div_succ _ hrate
  have hshare : wad ≤ wad ⌈/⌉ rate.toNat * rate.toNat := by
    rw [Nat.mul_comm]
    exact le_smul_ceilDiv hrate
  have hless : amount.toNat * rate.toNat <
      (unitsFor shares.toNat rate + 1 + wad ⌈/⌉ rate.toNat) * rate.toNat := by
    rw [Nat.add_mul]
    omega
  have hlt := Nat.lt_of_mul_lt_mul_right hless
  omega

/-- At one rate withdrawals that burn no more shares than deposits minted come to no more units. -/
theorem totalOf_withdrawn_le (hrate : 0 < rate.toNat) {paid minted wanted burned : List Amount}
    (hminted : paid.mapM (mintedShares · rate) = .ok minted)
    (hburned : wanted.mapM (burnedShares · rate) = .ok burned)
    (hshares : totalOf burned ≤ totalOf minted) : totalOf wanted ≤ totalOf paid := by
  have hin := (Near.mapM near_mintedShares hminted).le_value
  have hout := (Near.mapM near_burnedShares hburned).value_le
  rw [Nat.mul_zero, Nat.add_zero] at hin hout
  refine Nat.le_of_mul_le_mul_right ?_ hrate
  calc totalOf wanted * rate.toNat ≤ totalOf burned * wad := hout
    _ ≤ totalOf minted * wad := Nat.mul_le_mul_right wad hshares
    _ ≤ totalOf paid * rate.toNat := hin

/-- While the rate stands, the shares minted for an amount pay for every withdrawal up to their
worth and for none above it. That is no more than the amount, and falls short of it by no more than
one share is worth, rounded up. Nor is there anything to gain by depositing and withdrawing in
parts. -/
theorem round_trip_loses_a_share_at_most (hrate : 0 < rate.toNat)
    (h : mintedShares amount rate = .ok shares) :
    (∀ units, (∃ wanted : Amount, wanted.toNat = units ∧ PaysFor shares rate wanted) ↔
      units ≤ unitsFor shares.toNat rate) ∧
    unitsFor shares.toNat rate ≤ amount.toNat ∧
    amount.toNat ≤ unitsFor shares.toNat rate + wad ⌈/⌉ rate.toNat ∧
    ∀ paid minted wanted burned, paid.mapM (mintedShares · rate) = .ok minted →
      wanted.mapM (burnedShares · rate) = .ok burned → totalOf burned ≤ totalOf minted →
      totalOf wanted ≤ totalOf paid := by
  have hmost := unitsFor_le_of_mintedShares hrate h
  refine ⟨fun units => ⟨?_, fun hunits => ?_⟩, hmost, le_unitsFor_of_mintedShares hrate h,
    fun _ _ _ _ => totalOf_withdrawn_le hrate⟩
  · rintro ⟨wanted, rfl, hpays⟩
    exact (paysFor_iff hrate).1 hpays
  · have hlt : units < 2 ^ (64 : Nat) :=
      Nat.lt_of_le_of_lt (Nat.le_trans hunits hmost) amount.lt
    exact ⟨⟨units, hlt⟩, rfl, (paysFor_iff hrate).2 hunits⟩

/-- At 0.7 shares a unit seven units mint four shares, and these pay for five units and not for six.
One share is worth two units, rounded up, so no deposit at this rate loses more. -/
theorem seven_units_bring_back_five :
    mintedShares (.units 7) (.units (7 * wad / 10)) = .ok (.units 4) ∧
      PaysFor (.units 4) (.units (7 * wad / 10)) (.units 5) ∧
      ¬ PaysFor (.units 4) (.units (7 * wad / 10)) (.units 6) ∧
      7 ≤ 5 + wad ⌈/⌉ (7 * wad / 10) := by
  have hrate : 0 < (.units (7 * wad / 10) : Wide).toNat := by decide
  have hminted : mintedShares (.units 7) (.units (7 * wad / 10)) = .ok (.units 4) := rfl
  obtain ⟨hpays, -, hshort, -⟩ := round_trip_loses_a_share_at_most hrate hminted
  have hworth : unitsFor (.units 4 : Amount).toNat (.units (7 * wad / 10)) = 5 := rfl
  rw [hworth] at hpays hshort
  refine ⟨hminted, ?_, fun hsix => ?_, hshort⟩
  · obtain ⟨wanted, hwanted, hfive⟩ := (hpays 5).2 (Nat.le_refl 5)
    obtain rfl : wanted = .units 5 := Word.ext hwanted
    exact hfive
  · exact absurd ((hpays 6).1 ⟨_, rfl, hsix⟩) (by decide)

end CollateralLending
