/-
  CollateralLending.Proofs.Share.Payments

  What the instructions of the share vault program do with tokens. Each ends
  with writing the share vault, which moves none. A deposit mints shares to the
  user's associated account and a withdrawal burns them there (`Bank.Issued`);
  what is paid for them is the underlying token and never shares, since the
  accounts in the roles of wallet and pool hold no other.

  A withdrawal that went through is told as a whole (`Redemption`).
-/
import CollateralLending.Proofs.Chain.TokenSupply
import CollateralLending.Proofs.Share.Conversions
import CollateralLending.Proofs.Share.Standing

namespace CollateralLending

open Bank

variable {call : Call} {amount : Amount} {s t : Session} {home : Address}
variable {vault : ShareVault Address Bump}

/-- What a withdrawal does. The shares that the amount costs are burned from the user's associated
account, and the amount goes from the pool to the wallet, unless the wallet is the pool. Nobody else
comes to hold more or less of either token, no underlying token is made or destroyed, and the share
vault is the same but for what it tracks. -/
structure Redemption (before after : Bank) (home : Address) (vault : ShareVault Address Bump)
    (user wallet : Address) (amount : Amount) : Prop where
  burns : Issued after before vault.shareMint (.associated user vault.shareMint)
    (sharesFor amount vault.exchangeRate)
  takes : wallet ≠ vault.pool → (before.get vault.pool).data.units vault.underlyingMint =
    (after.get vault.pool).data.units vault.underlyingMint + amount.toNat
  gives : wallet ≠ vault.pool → (after.get wallet).data.units vault.underlyingMint =
    (before.get wallet).data.units vault.underlyingMint + amount.toNat
  others : ∀ a, (a ≠ vault.pool ∧ a ≠ wallet) ∨ wallet = vault.pool →
    (after.get a).data.units vault.underlyingMint = (before.get a).data.units vault.underlyingMint
  supply : after.supplyOf vault.underlyingMint = before.supplyOf vault.underlyingMint
  found : after.find? .shareVault home =
    some { vault with totalUnderlying := vault.totalUnderlying.monus amount }

namespace ShareProgram

/-! ## The last write -/

/-- After the instruction the share vault it was called with is the one written back. -/
theorem Course.find?_place {before after : Bank} (course : Course call before after) :
    after.find? .shareVault course.place = some course.next := by
  obtain ⟨place, moved, next, steps, houses, rfl⟩ := course
  exact find?_write_of_owner AccountKind.shareVault_lawful next houses.owner

/-- Every other share vault is as it was. -/
theorem Course.find?_of_ne {before after : Bank} (course : Course call before after)
    (hne : home ≠ course.place) :
    after.find? .shareVault home = before.find? .shareVault home := by
  rw [course.ends, find?_write_of_ne _ _ hne, course.steps.find?_shareVault]

/-- The write that a course ends with makes and destroys no tokens. -/
theorem Course.sameToken_last {before after : Bank} (course : Course call before after)
    (token : Address) : SameToken course.moved after token := by
  obtain ⟨place, moved, next, steps, houses, rfl⟩ := course
  exact houses.sameToken_write AccountKind.shareVault_lawful next token

/-! ## Opening a share vault and setting its rate -/

/-- A share vault is not opened a second time. -/
theorem OpenShareVaultRun.place_ne {rate : Wide} (run : OpenShareVaultRun call rate s t)
    (hvault : s.bank.find? .shareVault home = some vault) : home ≠ run.course.place := by
  rintro rfl
  have howner := owner_of_find? AccountKind.shareVault_lawful hvault
  have hunowned : (s.bank.get run.course.place).owner = .systemProgram :=
    (made_of_establish run.makes).unowned
  rw [hunowned] at howner
  cases howner

/-- Opening a share vault neither mints nor burns nor moves tokens that exist. -/
theorem OpenShareVaultRun.sameToken {rate : Wide} (run : OpenShareVaultRun call rate s t)
    (token : Address) : SameToken s.bank t.bank token := by
  have hsteps : Quiet s.bank run.opened := run.steps
  exact (hsteps.sameToken token).trans (run.course.sameToken_last token)

theorem SetExchangeRateRun.sameToken {rate : Wide} (run : SetExchangeRateRun call rate s t)
    (token : Address) : SameToken s.bank t.bank token :=
  run.course.sameToken_last token

/-! ## Depositing -/

/-- The account that shares are credited to is opened apart from all token accounts. -/
theorem Opens.data_of_owner {user mint a : Address} {bank opened : Bank}
    (h : Opens call user mint bank opened) (howner : (bank.get a).owner = .tokenProgram) :
    (opened.get a).data = (bank.get a).data := by
  cases h with
  | known => rfl
  | fresh made =>
      simp only [Tokens.createAssociated, bind_eq_ok_iff, pure_eq_ok_iff] at made
      obtain ⟨_, -, middle, hmakes, rfl⟩ := made
      have hmade := made_of_establish hmakes
      have hne : a ≠ .associated user mint := by
        rintro rfl
        rw [hmade.unowned] at howner
        cases howner
      rw [Tokens.openAccount, data_put, if_neg hne, hmade.others a hne]

theorem Visit.wallet_owner (visit : Visit call s) :
    (s.bank.get visit.wallet).owner = .tokenProgram :=
  AccountKind.owner_of_load visit.wallet_loads

/-- The wallet holds what the share vault takes in. -/
theorem Visit.mint_of_wallet (visit : Visit call s) {found : TokenAccount}
    (h : (s.bank.get visit.wallet).data = .token found) :
    found.mint = visit.vault.underlyingMint := by
  rw [← AccountKind.eq_of_token_load h visit.wallet_loads]
  exact visit.wallet_mint

/-- What a deposit pays with is the underlying token. -/
theorem DepositRun.mint_of_payment (run : DepositRun call amount s t)
    (payment : TransferRun run.wallet (.sharePool run.home) run.user amount run.opened run.paid) :
    payment.sender.mint = run.vault.underlyingMint := by
  have hsender := payment.source_data
  rw [run.opens.data_of_owner run.wallet_owner] at hsender
  exact run.mint_of_wallet hsender

/-- A deposit mints its shares to the user's associated account. -/
theorem DepositRun.issued (run : DepositRun call amount s t) (hseated : run.vault.Seated run.home) :
    Issued s.bank t.bank run.vault.shareMint (.associated run.user run.vault.shareMint)
      run.shares.toNat := by
  obtain ⟨payment⟩ := transfer_run run.pays
  obtain ⟨minting⟩ := mint_run run.mints
  have hopens : Quiet s.bank run.opened := run.opens.steps
  have hpaid : SameToken run.opened run.paid run.vault.shareMint :=
    payment.sameToken (by rw [run.mint_of_payment payment]; exact hseated.shareMint_ne)
  exact .between ((hopens.sameToken _).trans hpaid) minting.issued (run.course.sameToken_last _)

/-- A deposit mints the shares of this vault and nothing else. -/
theorem DepositRun.supplyOf_of_ne (run : DepositRun call amount s t) {token : Address}
    (hne : token ≠ run.vault.shareMint) : t.bank.supplyOf token = s.bank.supplyOf token := by
  obtain ⟨payment⟩ := transfer_run run.pays
  obtain ⟨minting⟩ := mint_run run.mints
  have hopens : Quiet s.bank run.opened := run.opens.steps
  calc
    t.bank.supplyOf token = run.minted.supplyOf token := (run.course.sameToken_last token).supply
    _ = run.paid.supplyOf token := (minting.sameToken hne).supply
    _ = run.opened.supplyOf token := payment.supplyOf token
    _ = s.bank.supplyOf token := (hopens.sameToken token).supply

/-! ## Withdrawing -/

/-- What a withdrawal pays out is the underlying token: the wallet takes no other. -/
theorem WithdrawRun.mint_of_payment (run : WithdrawRun call amount s t)
    (hseated : run.vault.Seated run.home)
    (burning : BurnRun run.vault.shareMint (.associated run.user run.vault.shareMint) run.user
      run.shares s.bank run.burned)
    (payment : TransferRun (.sharePool run.home) run.wallet run.home amount run.burned run.paid) :
    payment.sender.mint = run.vault.underlyingMint := by
  rw [payment.same_mint]
  have hreceiver := payment.target_data
  rw [burning.data] at hreceiver
  split at hreceiver
  · cases hreceiver
  · split at hreceiver
    · -- The account that the shares were burned from is no wallet.
      rename_i hwallet
      have hholder : (s.bank.get run.wallet).data = .token burning.holder := by
        rw [hwallet]
        exact burning.source_data
      have hmint := run.mint_of_wallet hholder
      rw [burning.holder_mint] at hmint
      exact absurd hmint hseated.shareMint_ne
    · exact run.mint_of_wallet hreceiver

/-- A withdrawal burns its shares from the user's associated account. -/
theorem WithdrawRun.issued (run : WithdrawRun call amount s t)
    (hseated : run.vault.Seated run.home) :
    Issued t.bank s.bank run.vault.shareMint (.associated run.user run.vault.shareMint)
      run.shares.toNat := by
  obtain ⟨burning⟩ := burn_run run.burns
  obtain ⟨payment⟩ := transfer_run run.pays
  have hpaid : SameToken run.burned run.paid run.vault.shareMint :=
    payment.sameToken
      (by rw [run.mint_of_payment hseated burning payment]; exact hseated.shareMint_ne)
  exact .between (hpaid.trans (run.course.sameToken_last _)).symm burning.issued (.refl _ _)

/-- A withdrawal burns the shares of this vault and nothing else. -/
theorem WithdrawRun.supplyOf_of_ne (run : WithdrawRun call amount s t) {token : Address}
    (hne : token ≠ run.vault.shareMint) : t.bank.supplyOf token = s.bank.supplyOf token := by
  obtain ⟨burning⟩ := burn_run run.burns
  obtain ⟨payment⟩ := transfer_run run.pays
  calc
    t.bank.supplyOf token = run.paid.supplyOf token := (run.course.sameToken_last token).supply
    _ = run.burned.supplyOf token := payment.supplyOf token
    _ = s.bank.supplyOf token := (burning.sameToken hne).supply

/-- Burning shares leaves the underlying token alone, and paying leaves the shares alone. -/
theorem WithdrawRun.redemption (run : WithdrawRun call amount s t)
    (hseated : run.vault.Seated run.home) :
    Redemption s.bank t.bank run.home run.vault run.user run.wallet amount := by
  obtain ⟨burning⟩ := burn_run run.burns
  obtain ⟨payment⟩ := transfer_run run.pays
  have hburned : SameToken s.bank run.burned run.vault.underlyingMint :=
    burning.sameToken hseated.shareMint_ne.symm
  have hlast : SameToken run.paid t.bank run.vault.underlyingMint := run.course.sameToken_last _
  have hmoves : run.wallet ≠ run.vault.pool →
      Moves run.burned run.paid run.vault.underlyingMint run.vault.pool run.wallet
        amount.toNat := by
    intro hne
    rw [hseated.pool] at hne ⊢
    rw [← run.mint_of_payment hseated burning payment]
    exact payment.moves hne.symm
  refine {
    burns := ?_
    takes := fun hne => ?_
    gives := fun hne => ?_
    others := fun a ha => ?_
    supply := run.supplyOf_of_ne hseated.shareMint_ne.symm
    found := run.course.find?_place }
  · rw [← (burnedShares_eq_ok_iff.1 run.prices).2]
    exact run.issued hseated
  · rw [hlast.units, ← hburned.units, (hmoves hne).takes]
  · rw [hlast.units, ← hburned.units, (hmoves hne).gives]
  · rw [hlast.units, ← hburned.units]
    by_cases hself : run.wallet = run.vault.pool
    · -- A transfer from the pool to itself moves nothing.
      rw [payment.data, if_pos (hseated.pool.symm.trans hself.symm)]
    · exact (hmoves hself).others a _ (.inl (ha.resolve_right hself))

end ShareProgram

end CollateralLending
