/-
  CollateralLending.Proofs.Lending.Backing

  The collateral pool of a vault backs what the vault owes. Its surplus is what
  the pool holds beyond the deposits and the seized collateral that the vault
  counts. Instructions leave the surplus of every vault as it is: lamports come
  and go with the deposits, and a liquidation only moves a deposit to the
  seized collateral. A vault starts out with the rent minimum for a surplus,
  and others can only add to it.

  All of this holds where only keys sign. A derived address that signed could
  take its own lamports away.
-/
import CollateralLending.Proofs.Lending.Reached

namespace CollateralLending

open Bank

variable {call : Call} {before after : Bank} {chain start : Chain}

/-- What the collateral pool of a vault holds beyond what the vault counts. -/
def Bank.surplus (bank : Bank) (vault : Vault Address Bump) : Int :=
  (bank.get vault.collateralVault).lamports.toNat - vault.totals.deposited.toNat -
    vault.seizedCollateral.toNat

theorem Vault.Seated.surplus_eq {vault : Vault Address Bump} {home : Address}
    (h : vault.Seated home) (bank : Bank) :
    bank.surplus vault =
      bank.pooled home - vault.totals.deposited.toNat - vault.seizedCollateral.toNat := by
  unfold Bank.surplus
  rw [h.collateralVault]
  rfl

/-- An instruction keeps every vault that was there, and its surplus. -/
theorem Effect.surplus_eq {instruction : Instruction} (h : Effect call before after instruction)
    (horderly : before.Orderly) (hkeys : call.KeysSign) (hidle : before.IdlePools)
    {home : Address} {vault : Vault Address Bump}
    (hvault : before.find? .vault home = some vault) :
    ∃ next, after.find? .vault home = some next ∧ after.surplus next = before.surplus vault := by
  have hseat := horderly.vaults home vault hvault
  -- Where neither the vault nor its pool changed there is nothing to count.
  have hsame : after.find? .vault home = before.find? .vault home →
      after.get (.collateral home) = before.get (.collateral home) →
      ∃ next, after.find? .vault home = some next ∧
        after.surplus next = before.surplus vault := by
    intro hbook hpool
    refine ⟨vault, hbook.trans hvault, ?_⟩
    rw [hseat.surplus_eq, hseat.surplus_eq, Bank.pooled, Bank.pooled, hpool]
  cases h with
  | aside other aside => exact hsame (aside.books.vaults home) (aside.pools hkeys hidle home)
  | opens role signs opening pool =>
      have hne : home ≠ _ := fun heq => by
        rw [heq, opening.free] at hvault
        cases hvault
      exact hsame (opening.vaults home hne) ((pool hkeys hidle).others home hne)
  | @operates _ place user found totals record operation role user_role signs tracks posting pool =>
      by_cases hhome : home = place
      · subst hhome
        cases hvault.symm.trans posting.vault_before
        refine ⟨_, posting.vault_after, ?_⟩
        -- The pool and the total move by the same difference, that of the two deposits.
        have hmove := (pool hkeys hidle).lamports
        obtain ⟨⟨hle, hdeposited⟩, -⟩ := Totals.move_eq_ok_iff.1 tracks
        rw [(hseat.of_same rfl).surplus_eq, hseat.surplus_eq]
        simp only
        omega
      · exact hsame (posting.vaults home hhome) ((pool hkeys hidle).others home hhome)
  | @liquidates place owner found feed quote totals seized role signs feed_loads quotes uncovered
      tracks seizes posting pools =>
      by_cases hhome : home = place
      · subst hhome
        cases hvault.symm.trans posting.vault_before
        refine ⟨_, posting.vault_after, ?_⟩
        -- The pool stays, and the deposit goes from one counter to the other.
        have hpool := (pools hkeys hidle).pooled home
        obtain ⟨⟨hle, hdeposited⟩, -⟩ := Totals.move_eq_ok_iff.1 tracks
        rw [Record.zero, Word.toNat_zero] at hdeposited
        rw [(hseat.of_same rfl).surplus_eq, hseat.surplus_eq]
        simp only
        omega
      · exact hsame (posting.vaults home hhome) (pools hkeys hidle home)

/-- A vault that was not there before starts out with the rent minimum for a surplus. -/
theorem Effect.reserve_le_surplus {instruction : Instruction}
    (h : Effect call before after instruction) (hkeys : call.KeysSign) (hidle : before.IdlePools)
    {home : Address} {vault : Vault Address Bump} (hnew : before.find? .vault home = none)
    (hvault : after.find? .vault home = some vault) :
    (Rent.minimum 0 : Int) ≤ after.surplus vault := by
  obtain ⟨rfl, hrole⟩ := h.opens_of_new hnew hvault
  cases h with
  | aside other aside => exact absurd rfl other
  | operates operation => cases operation
  | opens role signs opening pool =>
      cases role.symm.trans hrole
      cases hvault.symm.trans opening.opened
      -- The admin paid in what the pool lacked, and the vault counts nothing yet.
      have hmove := (pool hkeys hidle).lamports
      unfold Bank.pooled at hmove
      simp only [Bank.surplus, LendingProgram.openedVault, Word.toNat_zero]
      omega

theorem Effect.opened (h : Effect call before after .openVault) :
    ∃ home vault, call.address? .vault = some home ∧ before.find? .vault home = none ∧
      after.find? .vault home = some vault := by
  cases h with
  | aside other aside => exact absurd rfl other
  | operates operation => cases operation
  | opens role signs opening pool => exact ⟨_, _, role, opening.free, opening.opened⟩

/-- Where only keys sign, no instruction makes a collateral pool an account of anybody. -/
theorem Effect.idlePools {instruction : Instruction} (h : Effect call before after instruction)
    (hkeys : call.KeysSign) (hidle : before.IdlePools) : after.IdlePools := by
  cases h with
  | aside other aside => exact (aside.pools hkeys hidle).idlePools hidle
  | opens role signs opening pool => exact (pool hkeys hidle).idlePools hidle
  | operates operation role user_role signs tracks posting pool =>
      exact (pool hkeys hidle).idlePools hidle
  | liquidates role signs feed_loads quotes uncovered tracks seizes posting pools =>
      exact (pools hkeys hidle).idlePools hidle

/-- The invariant of runs in which only keys sign: every pool is a plain account, and every vault
has the rent minimum for a surplus. -/
structure Bank.Backed (bank : Bank) : Prop where
  idle : bank.IdlePools
  surplus : ∀ home vault, bank.find? .vault home = some vault →
    (Rent.minimum 0 : Int) ≤ bank.surplus vault

/-- One instruction keeps every vault backed: what its books gain, its pool gained. -/
theorem Effect.backed {instruction : Instruction} (h : Effect call before after instruction)
    (horderly : before.Orderly) (hkeys : call.KeysSign) (hbacked : before.Backed) :
    after.Backed where
  idle := h.idlePools hkeys hbacked.idle
  surplus home vault hvault := by
    cases hbefore : before.find? .vault home with
    | some old =>
        obtain ⟨next, hnext, hsurplus⟩ := h.surplus_eq horderly hkeys hbacked.idle hbefore
        cases hvault.symm.trans hnext
        rw [hsurplus]
        exact hbacked.surplus home old hbefore
    | none => exact h.reserve_le_surplus hkeys hbacked.idle hbefore hvault

theorem Bank.PaidIn.backed (h : PaidIn before after) (horderly : before.Orderly)
    (hbacked : before.Backed) : after.Backed where
  idle := h.idle hbacked.idle
  surplus home vault hvault := by
    rw [h.books.vaults] at hvault
    have hseat := horderly.vaults home vault hvault
    have hsurplus := hbacked.surplus home vault hvault
    have hpooled := h.pooled home
    rw [hseat.surplus_eq] at hsurplus ⊢
    omega

/-! ## Along a run -/

/-- By induction on the run, every vault is backed. -/
theorem backed_of_run {moves : List Move} (hfresh : start.bank.Fresh)
    (run : Chain.Run start moves chain) (hkeys : ∀ move ∈ moves, move.KeysSign) :
    chain.bank.Backed := by
  induction run with
  | nil =>
      refine ⟨hfresh.idlePools, ?_⟩
      intro home vault hvault
      have howner := hfresh.unowned home
      rw [owner_of_find? AccountKind.vault_lawful hvault] at howner
      cases howner
  | @snoc moves chain run move allowed ih =>
      have horderly := orderly_of_run hfresh run
      have hbacked := ih fun earlier hearlier => hkeys earlier (List.mem_append_left _ hearlier)
      have hmove := hkeys move (List.mem_append_right _ List.mem_cons_self)
      rcases effect_of_move horderly allowed with hpaid | ⟨instruction, passed, rfl, heffect⟩
      · exact hpaid.backed horderly hbacked
      · exact heffect.backed horderly (hmove chain) hbacked

/-- In every reached state the pool of every vault holds the rent minimum on top of all it owes. A
transaction that goes through leaves the surplus of every vault as it is, and the opening of a vault
makes one that starts with the rent minimum. -/
theorem pool_backs_vault {moves : List Move} (hfresh : start.bank.Fresh)
    (run : Chain.Run start moves chain) (hkeys : ∀ move ∈ moves, move.KeysSign) :
    (∀ home vault, chain.bank.find? .vault home = some vault →
      (Rent.minimum 0 : Int) ≤ chain.bank.surplus vault) ∧
    ∀ instruction passed, (Move.transact instruction passed).KeysSign →
      chain.Accepts instruction passed →
      (∀ home vault, chain.bank.find? .vault home = some vault →
        ∃ next, (chain.after (.transact instruction passed)).bank.find? .vault home = some next ∧
          (chain.after (.transact instruction passed)).bank.surplus next =
            chain.bank.surplus vault) ∧
      (instruction = .openVault →
        ∃ home vault, (chain.callOf instruction passed).address? .vault = some home ∧
          chain.bank.find? .vault home = none ∧
          (chain.after (.transact instruction passed)).bank.find? .vault home = some vault ∧
          (Rent.minimum 0 : Int) ≤
            (chain.after (.transact instruction passed)).bank.surplus vault) := by
  have horderly := orderly_of_run hfresh run
  have hbacked := backed_of_run hfresh run hkeys
  refine ⟨hbacked.surplus, ?_⟩
  intro instruction passed hsigns haccepts
  have heffect := effect_of_accepts horderly haccepts
  constructor
  · intro home vault hvault
    exact heffect.surplus_eq horderly (hsigns chain) hbacked.idle hvault
  · rintro rfl
    obtain ⟨home, vault, hrole, hnew, hvault⟩ := heffect.opened
    exact ⟨home, vault, hrole, hnew, hvault,
      heffect.reserve_le_surplus (hsigns chain) hbacked.idle hnew hvault⟩

theorem first_deposit_is_backed :
    FirstDeposit.vault.totals.deposited.toNat = 1000 ∧
      (Rent.minimum 0 : Int) ≤ FirstDeposit.reached.bank.surplus FirstDeposit.vault ∧
      FirstDeposit.reached.bank.surplus FirstDeposit.vault =
        FirstDeposit.opened.bank.surplus (LendingProgram.openedVault FirstDeposit.admin
          FirstDeposit.debtMint (.feed FirstDeposit.admin .zero)) := by
  have hreached := pool_backs_vault FirstDeposit.start_fresh FirstDeposit.reached_run
    FirstDeposit.keysSign
  have hopened := pool_backs_vault FirstDeposit.start_fresh FirstDeposit.opened_run
    fun move hmove =>
      FirstDeposit.keysSign move (List.mem_append_left [FirstDeposit.deposit] hmove)
  obtain ⟨instruction, passed, hmove, haccepts⟩ := FirstDeposit.deposit_accepted
  have hsigns : (Move.transact instruction passed).KeysSign := by
    rw [← hmove]
    exact FirstDeposit.keysSign _ (by simp)
  obtain ⟨next, hnext, hsurplus⟩ :=
    (hopened.2 instruction passed hsigns haccepts).1 _ _ FirstDeposit.find?_openedVault
  rw [← hmove] at hnext hsurplus
  cases FirstDeposit.find?_vault.symm.trans hnext
  exact ⟨rfl, hreached.1 _ _ FirstDeposit.find?_vault, hsurplus⟩

end CollateralLending
