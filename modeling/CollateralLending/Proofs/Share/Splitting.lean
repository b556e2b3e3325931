/-
  CollateralLending.Proofs.Share.Splitting

  Shares for an amount in parts. Each minted part falls short of its value by
  less than one share, and each burned part exceeds it by less than one, so a
  number of parts is off by less than that many shares (`Near.mapM`). Rounded
  for the whole, the same value is off by less than one. Neither way is there
  anything to gain, and what is lost is bounded by the number of cuts.

  More at a higher rate costs no fewer shares, so whatever is less can be
  converted as well (`Rises`); in particular the parts, where the whole can.

  Main statement: `splitting_shares_gains_nothing`.
-/
import CollateralLending.Proofs.Share.Prices
import CollateralLending.Proofs.Portions

namespace CollateralLending

/-- A way to turn amounts into shares at an exchange rate. -/
abbrev Conversion := Amount → Wide → Except ShareError Amount

variable {convert : Conversion} {amount shares whole : Amount} {rate : Wide}
variable {parts converted : List Amount}

/-! ## Monotony -/

/-- Wherever a conversion goes through, it goes through for less and at lower rates, and comes to no
more shares. -/
def Rises (convert : Conversion) : Prop :=
  ∀ ⦃amount rate shares⦄, convert amount rate = .ok shares →
    ∀ ⦃less lower⦄, less.toNat ≤ amount.toNat → lower.toNat ≤ rate.toNat →
      ∃ fewer, convert less lower = .ok fewer ∧ fewer.toNat ≤ shares.toNat

/-- A conversion that rounds the value, and fails for nothing but its size, rises with what it
rounds. -/
theorem rises_of_prices {round : Nat → Nat}
    (hprices : ∀ amount rate, Prices (convert amount rate) (round (amount.toNat * rate.toNat)))
    (hround : ∀ {low high}, low ≤ high → round low ≤ round high) : Rises convert := by
  intro amount rate shares h less lower hamount hrate
  have hshares := ((hprices amount rate).ok_iff shares).1 h
  have hfewer : round (less.toNat * lower.toNat) ≤ shares.toNat := by
    rw [hshares]
    exact hround (Nat.mul_le_mul hamount hrate)
  exact ⟨⟨_, Nat.lt_of_le_of_lt hfewer shares.lt⟩, ((hprices less lower).ok_iff _).2 rfl, hfewer⟩

/-- More buys no fewer shares. -/
theorem rises_mintedShares : Rises mintedShares :=
  rises_of_prices prices_mintedShares fun h => Nat.div_le_div_right h

/-- More costs no fewer shares. -/
theorem rises_burnedShares : Rises burnedShares :=
  rises_of_prices prices_burnedShares fun h =>
    Nat.div_le_div_right (Nat.add_le_add_right h (wad - 1))

/-- Where the whole can be converted, its parts can. -/
theorem Rises.exists_mapM (hrises : Rises convert) (h : convert whole rate = .ok shares)
    (htotal : totalOf parts = whole.toNat) :
    ∃ converted, parts.mapM (convert · rate) = .ok converted := by
  refine exists_mapM_eq_ok fun part hmem => ?_
  have hless : part.toNat ≤ whole.toNat := htotal ▸ le_totalOf hmem
  obtain ⟨fewer, hfewer, -⟩ := hrises h hless (Nat.le_refl rate.toNat)
  exact ⟨fewer, hfewer⟩

/-! ## What rounding takes and gives -/

/-- So many shares stand for this value, but for an excess and a shortfall of at most these. -/
structure Near (excess shortfall number value : Nat) : Prop where
  le_value : number * wad ≤ value + excess
  value_le : value ≤ number * wad + shortfall

/-- Both add up. -/
theorem Near.add {excess excess' shortfall shortfall' number number' value value' : Nat}
    (h : Near excess shortfall number value) (h' : Near excess' shortfall' number' value') :
    Near (excess + excess') (shortfall + shortfall') (number + number') (value + value') := by
  obtain ⟨hle, hge⟩ := h
  obtain ⟨hle', hge'⟩ := h'
  constructor <;> rw [Nat.add_mul] <;> omega

/-- Minting falls short of the value by less than a share. -/
theorem near_mintedShares (h : mintedShares amount rate = .ok shares) :
    Near 0 (wad - 1) shares.toNat (amount.toNat * rate.toNat) where
  le_value := value_of_mintedShares h
  value_le := by
    rw [toNat_of_mintedShares h]
    unfold wad
    omega

/-- Burning exceeds the value by less than a share. -/
theorem near_burnedShares (h : burnedShares amount rate = .ok shares) :
    Near (wad - 1) 0 shares.toNat (amount.toNat * rate.toNat) where
  le_value := by
    rw [(burnedShares_eq_ok_iff.1 h).2]
    unfold sharesFor wad
    omega
  value_le := by
    rw [Nat.add_zero]
    exact value_of_burnedShares h

/-- Part by part, by induction on the parts. -/
theorem Near.mapM {excess shortfall : Nat}
    (hnear : ∀ {amount shares}, convert amount rate = .ok shares →
      Near excess shortfall shares.toNat (amount.toNat * rate.toNat))
    (h : parts.mapM (convert · rate) = .ok converted) :
    Near (parts.length * excess) (parts.length * shortfall) (totalOf converted)
      (totalOf parts * rate.toNat) := by
  induction parts generalizing converted with
  | nil =>
      cases h
      constructor <;> simp [totalOf]
  | cons part rest ih =>
      obtain ⟨shares, hshares, later, hlater, rfl⟩ := mapM_cons_eq_ok_iff.1 h
      have hboth := (hnear hshares).add (ih hlater)
      simp only [totalOf, List.length_cons, Nat.add_comm rest.length, Nat.add_mul, Nat.one_mul]
      exact hboth

/-- What is minted part by part, against the value of them all rounded down once. -/
theorem minted_in_parts (hne : parts ≠ []) (h : parts.mapM (mintedShares · rate) = .ok converted) :
    totalOf converted ≤ totalOf parts * rate.toNat / wad ∧
      totalOf parts * rate.toNat / wad ≤ totalOf converted + (parts.length - 1) := by
  have hlength := List.length_pos_iff.2 hne
  have hwad : 0 < wad := by decide
  obtain ⟨hmost, hleast⟩ := Near.mapM near_mintedShares h
  rw [Nat.mul_zero, Nat.add_zero] at hmost
  -- Each part is short by less than a share, so all are by less than as many shares as parts.
  have hshort : totalOf parts * rate.toNat < (totalOf converted + parts.length) * wad := by
    rw [Nat.add_mul]
    unfold wad at *
    omega
  have hfewer : totalOf parts * rate.toNat / wad < totalOf converted + parts.length :=
    (Nat.div_lt_iff_lt_mul hwad).2 hshort
  exact ⟨(Nat.le_div_iff_mul_le hwad).2 hmost, by omega⟩

/-- What is burned part by part, against the value of them all rounded up once. -/
theorem burned_in_parts (hne : parts ≠ []) (htotal : totalOf parts = whole.toNat)
    (h : parts.mapM (burnedShares · rate) = .ok converted) :
    sharesFor whole rate ≤ totalOf converted ∧
      totalOf converted ≤ sharesFor whole rate + (parts.length - 1) := by
  have hlength := List.length_pos_iff.2 hne
  obtain ⟨hmost, hleast⟩ := Near.mapM near_burnedShares h
  rw [htotal] at hmost hleast
  rw [Nat.mul_zero, Nat.add_zero] at hleast
  have hcovered : whole.toNat * rate.toNat ≤ sharesFor whole rate * wad :=
    sharesFor_le_iff.1 (Nat.le_refl _)
  have hexcess : totalOf converted * wad < (sharesFor whole rate + parts.length) * wad := by
    rw [Nat.add_mul]
    unfold wad at *
    omega
  have hfewer : totalOf converted < sharesFor whole rate + parts.length :=
    Nat.lt_of_mul_lt_mul_right hexcess
  exact ⟨sharesFor_le_iff.2 hleast, by omega⟩

/-! ## In parts and at once -/

/-- Where an amount can be converted, so can its parts, one by one. They mint no more shares than it
does, and they burn no fewer; the difference is less than the number of parts. What the parts burn
is bounded so even where the whole costs more shares than there are. Both conversions go through for
less at a lower rate, and come to no more there. -/
theorem splitting_shares_gains_nothing (rate : Wide) {parts : List Amount} {whole : Amount}
    (hne : parts ≠ []) (htotal : totalOf parts = whole.toNat) :
    (∀ shares, mintedShares whole rate = .ok shares →
      ∃ minted, parts.mapM (mintedShares · rate) = .ok minted ∧
        totalOf minted ≤ shares.toNat ∧ shares.toNat ≤ totalOf minted + (parts.length - 1)) ∧
    (∀ shares, burnedShares whole rate = .ok shares →
      ∃ burned, parts.mapM (burnedShares · rate) = .ok burned ∧
        shares.toNat ≤ totalOf burned ∧ totalOf burned ≤ shares.toNat + (parts.length - 1)) ∧
    (∀ burned, parts.mapM (burnedShares · rate) = .ok burned →
      sharesFor whole rate ≤ totalOf burned ∧
        totalOf burned ≤ sharesFor whole rate + (parts.length - 1)) ∧
    Rises mintedShares ∧ Rises burnedShares := by
  refine ⟨fun shares h => ?_, fun shares h => ?_, fun burned hburned => ?_, rises_mintedShares,
    rises_burnedShares⟩
  · obtain ⟨minted, hminted⟩ := rises_mintedShares.exists_mapM h htotal
    rw [((prices_mintedShares whole rate).ok_iff shares).1 h, ← htotal]
    exact ⟨minted, hminted, minted_in_parts hne hminted⟩
  · obtain ⟨burned, hburned⟩ := rises_burnedShares.exists_mapM h htotal
    rw [((prices_burnedShares whole rate).ok_iff shares).1 h]
    exact ⟨burned, hburned, burned_in_parts hne htotal hburned⟩
  · exact burned_in_parts hne htotal hburned

/-- Three units, one by one. -/
def threeUnits : List Amount := [.units 1, .units 1, .units 1]

/-- Both bounds are reached. At 0.7 shares a unit three units mint two shares at once and none one
by one; at 1.3 they burn four at once and six one by one. -/
theorem two_cuts_cost_two_shares :
    threeUnits ≠ [] ∧ totalOf threeUnits = (.units 3 : Amount).toNat ∧
      mintedShares (.units 3) (.units (7 * wad / 10)) = .ok (.units 2) ∧
      (∃ minted, threeUnits.mapM (mintedShares · (.units (7 * wad / 10))) = .ok minted ∧
        totalOf minted = 0 ∧ 2 ≤ totalOf minted + (threeUnits.length - 1)) ∧
      burnedShares (.units 3) (.units (13 * wad / 10)) = .ok (.units 4) ∧
      ∃ burned, threeUnits.mapM (burnedShares · (.units (13 * wad / 10))) = .ok burned ∧
        totalOf burned = 6 ∧ totalOf burned ≤ 4 + (threeUnits.length - 1) := by
  have hne : threeUnits ≠ [] := by decide
  have htotal : totalOf threeUnits = (.units 3 : Amount).toNat := rfl
  have hmint : mintedShares (.units 3) (.units (7 * wad / 10)) = .ok (.units 2) := rfl
  have hburn : burnedShares (.units 3) (.units (13 * wad / 10)) = .ok (.units 4) := rfl
  obtain ⟨hminted, -⟩ := splitting_shares_gains_nothing (.units (7 * wad / 10)) hne htotal
  obtain ⟨-, hburned, -⟩ := splitting_shares_gains_nothing (.units (13 * wad / 10)) hne htotal
  obtain ⟨minted, heach, -, hshort⟩ := hminted _ hmint
  obtain ⟨burned, heach', -, hexcess⟩ := hburned _ hburn
  refine ⟨hne, htotal, hmint, ⟨minted, heach, ?_, hshort⟩, hburn, burned, heach', ?_, hexcess⟩
  · cases heach
    rfl
  · cases heach'
    rfl

end CollateralLending
