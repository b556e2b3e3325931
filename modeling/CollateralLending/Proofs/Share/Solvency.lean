/-
  CollateralLending.Proofs.Share.Solvency

  Share vaults are solvent while their rates never fall: the pool covers all
  shares at the rate. A deposit rounds the minted shares down and a withdrawal
  rounds the burned ones up, so neither takes cover from the others; a higher
  rate only adds to it. Whatever else happens spares the share vault.
-/
import CollateralLending.Proofs.Share.Conversions
import CollateralLending.Proofs.Share.Standing

namespace CollateralLending

open Bank

/-! ## What a share vault has to cover -/

/-- The pool covers the shares at the rate, and the rate is positive. -/
def ShareVault.coverage : Condition := fun vault mint pool =>
  0 < vault.exchangeRate.toNat ∧
    mint.supply.toNat * wad ≤ pool.amount.toNat * vault.exchangeRate.toNat

/-- A deposit brings in what its shares are worth, and a withdrawal burns shares that are worth what
it takes out. -/
theorem ShareVault.coverage_lasts : coverage.Lasts where
  given h hmint hpool := ⟨h.1, covered_of_le h.2 hmint.supply hpool.amount (Nat.le_refl _)⟩
  opens hpositive hnone := ⟨hpositive, by rw [hnone, Nat.zero_mul]; exact Nat.zero_le _⟩
  deposits h hprice _ hsupply hpool := by
    refine ⟨h.1, ?_⟩
    rw [hsupply, hpool]
    exact covered_of_minted h.2 (value_of_mintedShares hprice)
  withdrawals h hprice hsupply hpool :=
    ⟨h.1, covered_of_burned h.2 (value_of_burnedShares hprice) hsupply hpool⟩

namespace Bank

variable {before after bank : Bank} {home : Address} {vault : ShareVault Address Bump}

/-- The pool covers the shares at the rate of the share vault. -/
structure Covers (bank : Bank) (home : Address) (vault : ShareVault Address Bump) : Prop where
  seated : vault.Seated home
  rate_pos : 0 < vault.exchangeRate.toNat
  covered : ∃ mint pool, bank.Issues home mint pool ∧
    mint.supply.toNat * wad ≤ pool.amount.toNat * vault.exchangeRate.toNat

/-- If there is a share vault at the address, its shares are covered. -/
def Solvent (bank : Bank) (home : Address) : Prop :=
  ∀ vault, bank.find? .shareVault home = some vault → bank.Covers home vault

/-- Covering the shares is one of the conditions that a share vault may meet. -/
theorem covers_iff_meets : bank.Covers home vault ↔ bank.Meets ShareVault.coverage home vault := by
  constructor
  · intro h
    obtain ⟨mint, pool, hissues, hcovered⟩ := h.covered
    exact ⟨h.seated, mint, pool, hissues, h.rate_pos, hcovered⟩
  · intro h
    obtain ⟨mint, pool, hissues, hpositive, hcovered⟩ := h.issues
    exact ⟨h.seated, hpositive, mint, pool, hissues, hcovered⟩

theorem solvent_iff_upholds : bank.Solvent home ↔ bank.Upholds ShareVault.coverage home :=
  forall₂_congr fun _ _ => covers_iff_meets

end Bank

variable {call : Call} {s t : Session} {home : Address}

/-! ## Any instruction -/

/-- Whatever an instruction does, as many units of a token come to be held as come to exist. -/
theorem conserves_of_run {instruction : Instruction}
    (h : Tx.Yields (instruction.run call) s () t) : Conserves s.bank t.bank := by
  by_cases hother : instruction.program ≠ .shareProgram
  · exact (steps_of_run hother h).conserves
  · cases instruction with
    | openShareVault rate =>
        obtain ⟨run⟩ := ShareProgram.openShareVault_run h
        exact run.course.conserves
    | depositUnderlying amount =>
        obtain ⟨run⟩ := ShareProgram.deposit_run h
        exact run.course.conserves
    | withdrawUnderlying amount =>
        obtain ⟨run⟩ := ShareProgram.withdraw_run h
        exact run.course.conserves
    | setExchangeRate rate =>
        obtain ⟨run⟩ := ShareProgram.setExchangeRate_run h
        exact run.course.conserves
    | openFeed _ | setAnswer _ | setStaleness _ | openVault | deposit _ | borrow _ | payback _
    | withdraw _ | liquidate => exact absurd nofun hother

/-- The instruction, if it sets the rate of this share vault, does not lower it. -/
def KeepsRate (call : Call) (bank : Bank) : Instruction → Prop
  | .setExchangeRate rate => ∀ home vault, call.address? .shareVault = some home →
    bank.find? .shareVault home = some vault → vault.exchangeRate.toNat ≤ rate.toNat
  | _ => True

/-- A rate that is not lowered still covers what the old one covered. -/
theorem KeepsRate.keepsCondition {instruction : Instruction} {bank : Bank}
    (h : KeepsRate call bank instruction) :
    KeepsCondition ShareVault.coverage call bank instruction := by
  cases instruction with
  | setExchangeRate rate =>
      intro hpositive place vault mint pool hplace hvault hcovered
      exact ⟨hpositive, covered_of_le hcovered.2 (Nat.le_refl _) (Nat.le_refl _)
        (h place vault hplace hvault)⟩
  | openFeed _ | setAnswer _ | setStaleness _ | openVault | deposit _ | borrow _ | payback _
  | withdraw _ | liquidate | openShareVault _ | depositUnderlying _ | withdrawUnderlying _ =>
      trivial

/-! ## Along a run -/

variable {chain start : Chain}

/-- No exchange rate falls, and other programs make no shares: whatever more of them is held, as
much more of them exists. -/
def Move.Steady (chain : Chain) : Move → Prop
  | .transact instruction passed => chain.Accepts instruction passed →
    KeepsRate (chain.callOf instruction passed) chain.bank instruction
  | .outside bank => ∀ home,
    bank.held (.shareMint home) + chain.bank.supplyOf (.shareMint home) ≤
      chain.bank.held (.shareMint home) + bank.supplyOf (.shareMint home)
  | .clock _ => True

/-- Runs of steady moves in which only keys sign. -/
inductive Chain.SteadyRun (start : Chain) : List Move → Chain → Prop where
  | nil : SteadyRun start [] start
  | snoc {moves : List Move} {chain : Chain} (run : SteadyRun start moves chain) (move : Move)
      (allowed : move.Allowed chain) (keys : move.KeysSign) (steady : move.Steady chain) :
      SteadyRun start (moves ++ [move]) (chain.after move)

/-- The invariant of steady runs: every share vault is solvent, and no more shares are held than
exist. -/
structure Bank.Redeemable (bank : Bank) : Prop where
  solvent : ∀ home, bank.Solvent home
  held : ∀ home, bank.held (.shareMint home) ≤ bank.supplyOf (.shareMint home)

theorem solvent_of_move {move : Move} (hallowed : move.Allowed chain) (hkeys : move.KeysSign)
    (hsteady : move.Steady chain) (h : chain.bank.Solvent home) :
    (chain.after move).bank.Solvent home := by
  refine solvent_iff_upholds.2 (upholds_of_move ShareVault.coverage_lasts hallowed hkeys ?_
    (solvent_iff_upholds.1 h))
  rintro instruction passed rfl haccepts
  exact (hsteady haccepts).keepsCondition

/-- One steady move keeps all share vaults redeemable. -/
theorem Bank.Redeemable.after_move (h : chain.bank.Redeemable) {move : Move}
    (hallowed : move.Allowed chain) (hkeys : move.KeysSign) (hsteady : move.Steady chain) :
    (chain.after move).bank.Redeemable := by
  refine ⟨fun home => solvent_of_move hallowed hkeys hsteady (h.solvent home), fun home => ?_⟩
  have hheld := h.held home
  cases move with
  | clock now => exact hheld
  | outside bank =>
      show bank.held _ ≤ bank.supplyOf _
      have hmade := hsteady home
      omega
  | transact instruction passed =>
      by_cases haccepts : chain.Accepts instruction passed
      · obtain ⟨t, hyields, hafter⟩ := Chain.yields_of_accepts haccepts
        have hunits := conserves_of_run hyields (.shareMint home)
        rw [hafter]
        simp only at hunits ⊢
        omega
      · rw [Chain.after_eq_of_refused haccepts]
        exact hheld

/-- Where no share vault exists and no shares are held, a steady run begins. -/
theorem redeemable_of_run {moves : List Move} (hfresh : start.bank.Fresh)
    (hnone : ∀ home, start.bank.held (.shareMint home) = 0) (run : start.SteadyRun moves chain) :
    chain.bank.Redeemable := by
  induction run with
  | nil =>
      exact ⟨fun home => solvent_iff_upholds.2 (hfresh.upholds _ home),
        fun home => (hnone home).trans_le (Nat.zero_le _)⟩
  | snoc run move allowed keys steady ih => exact ih.after_move allowed keys steady

end CollateralLending
