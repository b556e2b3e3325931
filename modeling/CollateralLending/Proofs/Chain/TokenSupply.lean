/-
  CollateralLending.Proofs.Chain.TokenSupply

  What changes the supply of a token. Minting and burning do, and with it they
  change one holding by as many units (`Bank.Issued`; burned units are units
  issued the other way round). Nothing else does: transfers of other tokens,
  steps in which nobody asks and writes keep supply and holdings of a token as
  they are (`Bank.SameToken`).
-/
import CollateralLending.Proofs.Chain.Holdings

namespace CollateralLending.Bank

variable {first before middle after last bank : Bank} {token holder : Address} {n : Nat}
variable {mint source target authority : Address} {amount : Amount}

/-! ## Tokens that stay as they are -/

/-- As much of the token exists, and every account holds as much of it. -/
structure SameToken (before after : Bank) (token : Address) : Prop where
  supply : after.supplyOf token = before.supplyOf token
  units : ∀ a, (after.get a).data.units token = (before.get a).data.units token

theorem SameToken.refl (bank : Bank) (token : Address) : SameToken bank bank token :=
  ⟨rfl, fun _ => rfl⟩

theorem SameToken.symm (h : SameToken before after token) : SameToken after before token :=
  ⟨h.supply.symm, fun a => (h.units a).symm⟩

theorem SameToken.trans (h₁ : SameToken before middle token) (h₂ : SameToken middle after token) :
    SameToken before after token where
  supply := h₂.supply.trans h₁.supply
  units a := (h₂.units a).trans (h₁.units a)

/-- Where every holding stays as it is and units are conserved, the supply stays too. -/
theorem SameUnits.sameToken (h : SameUnits before after) (hconserves : Conserves before after)
    (token : Address) : SameToken before after token where
  supply := by
    have hunits := hconserves token
    rw [held_congr fun a => h token a] at hunits
    omega
  units := h token

/-- Steps in which nobody asks keep every token as it is. -/
theorem Quiet.sameToken (h : Quiet before after) (token : Address) : SameToken before after token :=
  h.units.sameToken (Steps.conserves h) token

/-- So does writing a record. -/
theorem Houses.sameToken_write {α : Type} {kind : AccountKind α} {program address : Address}
    (h : bank.Houses program address) (hkind : kind.Lawful) (value : α) (token : Address) :
    SameToken bank (bank.write kind address value) token :=
  (h.units_write hkind value).sameToken (conserves_write value hkind h) token

/-- A transfer keeps all tokens but its own as they are. -/
theorem TransferRun.sameToken (run : TransferRun source target authority amount before after)
    (hne : token ≠ run.sender.mint) : SameToken before after token where
  supply := run.supplyOf token
  units a := by
    by_cases hself : source = target
    · rw [run.data, if_pos hself]
    · exact (run.moves hself).others a token (.inr hne)

/-! ## Tokens that are minted and burned -/

/-- `n` units of the token came to exist, and the holder holds them. -/
structure Issued (before after : Bank) (token holder : Address) (n : Nat) : Prop where
  supply : after.supplyOf token = before.supplyOf token + n
  gives : (after.get holder).data.units token = (before.get holder).data.units token + n
  others : ∀ a, a ≠ holder → (after.get a).data.units token = (before.get a).data.units token

/-- What is issued is not disturbed by steps around it that keep the token as it is. -/
theorem Issued.between (h₁ : SameToken first before token) (h : Issued before after token holder n)
    (h₂ : SameToken after last token) : Issued first last token holder n where
  supply := by rw [h₂.supply, h.supply, h₁.supply]
  gives := by rw [h₂.units, h.gives, h₁.units]
  others a ha := by rw [h₂.units, h.others a ha, h₁.units]

section Pair

variable {old next : TokenAccount} {oldMint nextMint : Mint}

/-- The holdings after one holding and its mint changed. -/
theorem units_of_pair (hmint : (before.get mint).data = .mint oldMint)
    (hdata : ∀ a, (after.get a).data =
      if a = mint then .mint nextMint else if a = source then .token next else (before.get a).data)
    (hne : source ≠ mint) (a : Address) : (after.get a).data.units token =
      if a = source then (Data.token next).units token else (before.get a).data.units token := by
  rw [hdata]
  by_cases ha : a = mint
  · rw [if_pos ha, if_neg (by rw [ha]; exact hne.symm), ha, hmint]
    rfl
  · rw [if_neg ha]
    split <;> rfl

/-- The supplies after one holding and its mint changed. -/
theorem supplyOf_of_pair (hsource : (before.get source).data = .token old)
    (hdata : ∀ a, (after.get a).data =
      if a = mint then .mint nextMint else if a = source then .token next else (before.get a).data)
    (token : Address) : after.supplyOf token =
      if token = mint then nextMint.supply.toNat else before.supplyOf token := by
  unfold supplyOf
  rw [hdata]
  by_cases htoken : token = mint
  · rw [if_pos htoken, if_pos htoken]
    rfl
  · rw [if_neg htoken, if_neg htoken]
    by_cases hheld : token = source
    · rw [if_pos hheld, hheld, hsource]
      rfl
    · rw [if_neg hheld]

/-- Of other tokens the two are no account. -/
theorem sameToken_of_pair (hsource : (before.get source).data = .token old) (hold : old.mint = mint)
    (hmint : (before.get mint).data = .mint oldMint)
    (hdata : ∀ a, (after.get a).data =
      if a = mint then .mint nextMint else if a = source then .token next else (before.get a).data)
    (hnext : next.mint = mint) (hne : token ≠ mint) : SameToken before after token where
  supply := by rw [supplyOf_of_pair hsource hdata, if_neg hne]
  units a := by
    have hself : source ≠ mint := by
      rintro rfl
      rw [hsource] at hmint
      cases hmint
    rw [units_of_pair hmint hdata hself]
    split
    · rename_i ha
      rw [ha, hsource, Data.units, Data.units, if_neg (by rw [hnext]; exact hne.symm),
        if_neg (by rw [hold]; exact hne.symm)]
    · rfl

end Pair

/-- The receiver of new tokens is not the mint. -/
theorem MintRun.target_ne (run : MintRun mint target authority amount before after) :
    target ≠ mint := by
  rintro rfl
  have hmint := run.mint_data
  rw [run.target_data] at hmint
  cases hmint

/-- Minting issues its amount to the receiver. -/
theorem MintRun.issued (run : MintRun mint target authority amount before after) :
    Issued before after mint target amount.toNat where
  supply := by
    rw [supplyOf_of_pair run.target_data run.data, if_pos rfl, run.makes, supplyOf, run.mint_data]
    rfl
  gives := by
    rw [units_of_pair run.mint_data run.data run.target_ne, if_pos rfl, run.target_data]
    simp only [Data.units, run.receiver_mint, if_pos]
    exact run.gives
  others a ha := by rw [units_of_pair run.mint_data run.data run.target_ne, if_neg ha]

/-- Other tokens stay as they are. -/
theorem MintRun.sameToken (run : MintRun mint target authority amount before after)
    (hne : token ≠ mint) : SameToken before after token :=
  sameToken_of_pair run.target_data run.receiver_mint run.mint_data run.data run.receiver_mint hne

theorem BurnRun.source_ne (run : BurnRun mint source authority amount before after) :
    source ≠ mint := by
  rintro rfl
  have hmint := run.mint_data
  rw [run.source_data] at hmint
  cases hmint

/-- Burning takes back what was issued. -/
theorem BurnRun.issued (run : BurnRun mint source authority amount before after) :
    Issued after before mint source amount.toNat where
  supply := by
    rw [supplyOf_of_pair run.source_data run.data, if_pos rfl, ← run.destroys, supplyOf,
      run.mint_data]
    rfl
  gives := by
    rw [units_of_pair run.mint_data run.data run.source_ne, if_pos rfl, run.source_data]
    simp only [Data.units, run.holder_mint, run.spent_mint, if_pos]
    exact run.takes
  others a ha := by rw [units_of_pair run.mint_data run.data run.source_ne, if_neg ha]

/-- Other tokens stay as they are when some are burned. -/
theorem BurnRun.sameToken (run : BurnRun mint source authority amount before after)
    (hne : token ≠ mint) : SameToken before after token :=
  sameToken_of_pair run.source_data run.holder_mint run.mint_data run.data run.spent_mint hne

end CollateralLending.Bank
