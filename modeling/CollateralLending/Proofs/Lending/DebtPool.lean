/-
  CollateralLending.Proofs.Lending.DebtPool

  The debt pool of a vault, which is the token account that the vault lends
  from. It holds the token of the vault, and the vault alone moves it
  (`Bank.Lends`), so all that others can do is pay in.

  A borrow takes its amount out of the pool and a payback brings it back
  (`BorrowRun.moves`, `PaybackRun.moves`), and no other instruction of the
  lending program touches any holding. There is one exception. The wallet of a
  borrow may be any account of the right token, the pool itself among them, and
  then nothing moves at all (`BorrowRun.sameUnits_of_self`).
-/
import CollateralLending.Proofs.Chain.Holdings
import CollateralLending.Proofs.Lending.Authority

namespace CollateralLending

/-! ## The pool -/

namespace Bank

variable {before after : Bank} {asks : Address → Prop} {target authority debtMint : Address}
variable {amount : Amount}

/-- The debt pool of the vault of a token: a holding of that token which the vault alone moves. -/
structure Lends (bank : Bank) (debtMint : Address) (pool : TokenAccount) : Prop where
  data : (bank.get (.debtVault (.vault debtMint))).data = .token pool
  mint : pool.mint = debtMint
  keeper : pool.owner = .vault debtMint
  undelegated : pool.delegation? = none

variable {pool next : TokenAccount}

theorem Lends.isTokens (h : before.Lends debtMint pool) :
    (before.get (.debtVault (.vault debtMint))).data.isTokens = true := by
  rw [h.data]
  rfl

theorem Lends.units (h : before.Lends debtMint pool) :
    (before.get (.debtVault (.vault debtMint))).data.units debtMint = pool.amount.toNat := by
  rw [h.data, Data.units, if_pos h.mint]

/-- Only the vault may spend what the pool holds. -/
theorem Lends.spender (h : before.Lends debtMint pool) {spent : TokenAccount}
    (hspends : Spends pool authority spent) : authority = .vault debtMint :=
  (hspends.authority_eq h.undelegated).trans h.keeper

theorem Lends.of_data (h : before.Lends debtMint pool)
    (hdata : (after.get (.debtVault (.vault debtMint))).data =
      (before.get (.debtVault (.vault debtMint))).data) : after.Lends debtMint pool :=
  { h with data := hdata.trans h.data }

theorem Lends.of_given (h : before.Lends debtMint pool)
    (hnext : ∃ next, (after.get (.debtVault (.vault debtMint))).data = .token next ∧
      pool.Given next) : ∃ next, after.Lends debtMint next ∧ pool.Given next := by
  obtain ⟨next, hdata, hgiven⟩ := hnext
  exact ⟨next, ⟨hdata, hgiven.mint.trans h.mint, hgiven.owner.trans h.keeper,
    hgiven.delegation.trans h.undelegated⟩, hgiven⟩

theorem Lends.of_outside (h : before.Lends debtMint pool) (houtside : Outside before after) :
    ∃ next, after.Lends debtMint next ∧ pool.Given next := by
  have hdata := (houtside.given (.debtVault (.vault debtMint)) (.inl rfl)).data
  rw [h.data] at hdata
  exact h.of_given hdata.exists_token

/-- A pool that nobody moves in the name of its vault only gains. -/
theorem Lends.of_steps (h : before.Lends debtMint pool) (hsteps : Steps asks before after)
    (hquiet : ¬ asks (.vault debtMint)) :
    ∃ next, after.Lends debtMint next ∧ pool.Given next := by
  induction hsteps with
  | refl => exact ⟨pool, h, .refl pool⟩
  | tail steps step ih =>
      obtain ⟨next, hnext, hgiven⟩ := ih
      obtain ⟨last, hlast, hadded⟩ := hnext.of_given
        (step.exists_token hquiet hnext.data hnext.keeper hnext.undelegated rfl)
      exact ⟨last, hlast, hgiven.trans hadded⟩

/-- What the vault lends is all that the pool loses. -/
theorem Lends.of_transfer (h : before.Lends debtMint pool)
    (run : TransferRun (.debtVault (.vault debtMint)) target authority amount before after) :
    ∃ next, after.Lends debtMint next := by
  have hsender := run.source_data
  rw [h.data] at hsender
  cases hsender
  -- A transfer of the pool to itself changes nothing at all.
  by_cases hself : .debtVault (.vault debtMint) = target
  · exact ⟨run.sender, h.of_data (by rw [run.data, if_pos hself])⟩
  · have hspent := run.spends.undelegated h.undelegated
    refine ⟨{ run.sender with amount := run.rest }, ?_, h.mint, h.keeper, h.undelegated⟩
    rw [run.data, if_neg hself, if_neg hself, if_pos rfl, hspent]

end Bank

open Bank

variable {call : Call} {amount : Amount} {s t : Session} {debtMint : Address} {pool : TokenAccount}

theorem Call.KeysSign.not_signs_vault (h : call.KeysSign) (debtMint : Address) :
    ¬ call.signs (.vault debtMint) = true := by
  intro hsigns
  cases h _ hsigns

/-! ## Borrowing and paying back -/

namespace LendingProgram

/-- The account of a position holds no tokens when it was just made. -/
theorem Opens.data_of_token {user home a : Address} {bank opened : Bank}
    {position : UserPosition Address Bump} (h : Opens call user home bank opened position)
    (ha : (opened.get a).data = .token pool) : (bank.get a).data = .token pool := by
  cases h with
  | fresh made =>
      have hmade := made_of_establish made
      rw [hmade.others a] at ha
      · exact ha
      · rintro rfl
        rw [hmade.data] at ha
        cases ha
  | known => exact ha

theorem DebtVisit.mint_of_wallet (visit : DebtVisit call s t)
    (h : (visit.opened.get visit.wallet).data = .token pool) :
    pool.mint = visit.vault.debtMint := by
  rw [← AccountKind.eq_of_token_load (visit.opens.data_of_token h) visit.wallet_loads]
  exact visit.wallet_mint

theorem DebtVisit.quiet_before (visit : DebtVisit call s t) : Quiet s.bank visit.opened :=
  visit.opens.steps.1

theorem BorrowRun.quiet_after (run : BorrowRun call amount s t) : Quiet run.moved t.bank := by
  have hmoves : Step (fun _ => True) run.opened run.moved := .transfers trivial run.pays
  exact run.toVisit.closes hmoves

theorem PaybackRun.quiet_after (run : PaybackRun call amount s t) : Quiet run.moved t.bank := by
  have hmoves : Step (fun _ => True) run.opened run.moved := .transfers trivial run.pays
  exact run.toVisit.closes hmoves

/-- A borrow moves its amount out of the pool, unless the wallet is the pool. -/
theorem BorrowRun.moves (run : BorrowRun call amount s t)
    (hwallet : run.wallet ≠ .debtVault run.home) :
    Moves s.bank t.bank run.vault.debtMint (.debtVault run.home) run.wallet amount.toNat := by
  obtain ⟨payment⟩ := transfer_run run.pays
  have hmoves := payment.moves hwallet.symm
  rw [payment.same_mint, run.mint_of_wallet payment.target_data] at hmoves
  exact .between run.quiet_before hmoves run.quiet_after

/-- A borrow into the pool itself is recorded like any other, and moves nothing. -/
theorem BorrowRun.sameUnits_of_self (run : BorrowRun call amount s t)
    (hwallet : run.wallet = .debtVault run.home) : SameUnits s.bank t.bank := by
  obtain ⟨payment⟩ := transfer_run run.pays
  intro token a
  rw [run.quiet_after.units, payment.data, if_pos hwallet.symm, run.quiet_before.units]

/-- The pool stays the vault's, whatever was borrowed from it. -/
theorem BorrowRun.lends (run : BorrowRun call amount s t) (hhome : run.home = .vault debtMint)
    (h : s.bank.Lends debtMint pool) : ∃ next, t.bank.Lends debtMint next := by
  obtain ⟨payment⟩ := transfer_run run.pays
  rw [hhome] at payment
  obtain ⟨next, hnext⟩ := (h.of_data (run.quiet_before.data h.isTokens)).of_transfer payment
  exact ⟨next, hnext.of_data (run.quiet_after.data hnext.isTokens)⟩

/-- Nobody but the vault could pay out of the pool. -/
theorem PaybackRun.wallet_ne (run : PaybackRun call amount s t) (hkeys : call.KeysSign)
    (hhome : run.home = .vault debtMint) (h : s.bank.Lends debtMint pool) :
    run.wallet ≠ .debtVault run.home := by
  -- The wallet is spent from in the name of the user, who signed, but the pool is the vault's.
  intro hwallet
  obtain ⟨payment⟩ := transfer_run run.pays
  rw [hwallet, hhome] at payment
  have hopened := h.of_data (run.quiet_before.data h.isTokens)
  have hsender := payment.source_data
  rw [hopened.data] at hsender
  cases hsender
  have hsigns := run.signs
  rw [hopened.spender payment.spends] at hsigns
  exact hkeys.not_signs_vault debtMint hsigns

/-- A payback moves its amount into the pool. -/
theorem PaybackRun.moves (run : PaybackRun call amount s t)
    (hwallet : run.wallet ≠ .debtVault run.home) :
    Moves s.bank t.bank run.vault.debtMint run.wallet (.debtVault run.home) amount.toNat := by
  obtain ⟨payment⟩ := transfer_run run.pays
  have hmoves := payment.moves hwallet
  rw [run.mint_of_wallet payment.source_data] at hmoves
  exact .between run.quiet_before hmoves run.quiet_after

/-- A vault is opened with an empty pool. -/
theorem OpenVaultRun.lends (run : OpenVaultRun call s t) :
    t.bank.Lends run.debtMint
      { mint := run.debtMint, owner := .vault run.debtMint, amount := .zero } := by
  have hstocked : run.stocked.Lends run.debtMint
      { mint := run.debtMint, owner := .vault run.debtMint, amount := .zero } :=
    ⟨(data_put ..).trans (if_pos rfl), rfl, rfl, rfl⟩
  have hquiet : Quiet run.stocked t.bank := run.closes
  exact hstocked.of_data (hquiet.data hstocked.isTokens)

end LendingProgram

/-! ## Every instruction -/

/-- An instruction on a share vault can only pay in: the share vault is not the vault. -/
theorem ShareProgram.Course.lends {before after : Bank} (course : Course call before after)
    (hkeys : call.KeysSign) (howner : (before.get (.vault debtMint)).owner = .lendingProgram)
    (h : before.Lends debtMint pool) :
    ∃ next, after.Lends debtMint next ∧ pool.Given next := by
  have hquiet : ¬ Asks call course.place (.vault debtMint) := by
    rintro (hsigns | hplace)
    · exact hkeys.not_signs_vault debtMint hsigns
    · have hframe := course.steps.sameFrame (by rw [howner]; decide)
      have hshare := course.houses.owner
      rw [← hplace, hframe.owner, howner] at hshare
      cases hshare
  obtain ⟨next, hnext, hgiven⟩ := h.of_steps course.steps hquiet
  rw [course.ends]
  exact ⟨next, hnext.of_data (course.houses.data_write course.next hnext.isTokens), hgiven⟩

variable {instruction : Instruction}

/-- Instructions of other programs can only pay in. -/
theorem given_of_run (hother : instruction.program ≠ .lendingProgram)
    (h : Tx.Yields (instruction.run call) s () t) (hkeys : call.KeysSign)
    (howner : (s.bank.get (.vault debtMint)).owner = .lendingProgram)
    (hlends : s.bank.Lends debtMint pool) :
    ∃ next, t.bank.Lends debtMint next ∧ pool.Given next := by
  have hquiet : Quiet s.bank t.bank → ∃ next, t.bank.Lends debtMint next ∧ pool.Given next :=
    fun hsteps => hlends.of_steps hsteps id
  -- Feeds ask nobody, and share vaults ask in their own name and that of their callers.
  cases instruction with
  | openFeed terms =>
      obtain ⟨run⟩ := FeedProgram.openFeed_run h
      exact hquiet run.steps
  | setAnswer rate =>
      obtain ⟨visit⟩ := FeedProgram.setAnswer_run h
      exact hquiet visit.steps
  | setStaleness isStale =>
      obtain ⟨visit⟩ := FeedProgram.setStaleness_run h
      exact hquiet visit.steps
  | openShareVault rate =>
      obtain ⟨run⟩ := ShareProgram.openShareVault_run h
      exact run.course.lends hkeys howner hlends
  | depositUnderlying amount =>
      obtain ⟨run⟩ := ShareProgram.deposit_run h
      exact run.course.lends hkeys howner hlends
  | withdrawUnderlying amount =>
      obtain ⟨run⟩ := ShareProgram.withdraw_run h
      exact run.course.lends hkeys howner hlends
  | setExchangeRate rate =>
      obtain ⟨run⟩ := ShareProgram.setExchangeRate_run h
      exact run.course.lends hkeys howner hlends
  | openVault | deposit _ | borrow _ | payback _ | withdraw _ | liquidate =>
      exact absurd rfl hother

/-- The pool stays the vault's through every instruction. -/
theorem lends_of_run (h : Tx.Yields (instruction.run call) s () t) (hkeys : call.KeysSign)
    (howner : (s.bank.get (.vault debtMint)).owner = .lendingProgram)
    (hlends : s.bank.Lends debtMint pool) : ∃ next, t.bank.Lends debtMint next := by
  have hquiet : Quiet s.bank t.bank → ∃ next, t.bank.Lends debtMint next :=
    fun hsteps => ⟨pool, hlends.of_data (hsteps.data hlends.isTokens)⟩
  by_cases hother : instruction.program ≠ .lendingProgram
  · obtain ⟨next, hnext, -⟩ := given_of_run hother h hkeys howner hlends
    exact ⟨next, hnext⟩
  · -- Of the lending program's own only a borrow from this very vault asks with the vault's name.
    cases instruction with
    | openVault =>
        obtain ⟨run⟩ := LendingProgram.openVault_run h
        exact hquiet run.steps
    | deposit amount =>
        obtain ⟨run⟩ := LendingProgram.deposit_run h
        exact hquiet run.steps
    | withdraw amount =>
        obtain ⟨run⟩ := LendingProgram.withdraw_run h
        exact hquiet run.steps
    | liquidate =>
        obtain ⟨run⟩ := LendingProgram.liquidate_run h
        exact hquiet run.steps
    | borrow amount =>
        obtain ⟨run⟩ := LendingProgram.borrow_run h
        -- Only this very vault takes from its pool, which stays a holding of the token.
        by_cases hhome : run.home = .vault debtMint
        · exact run.lends hhome hlends
        · have hsteps : Steps (fun a => a = run.home) s.bank t.bank := run.steps rfl
          obtain ⟨next, hnext, -⟩ := hlends.of_steps hsteps (Ne.symm hhome)
          exact ⟨next, hnext⟩
    | payback amount =>
        obtain ⟨run⟩ := LendingProgram.payback_run h
        have hsteps : Steps (fun a => call.signs a = true) s.bank t.bank := run.steps run.signs
        obtain ⟨next, hnext, -⟩ := hlends.of_steps hsteps (hkeys.not_signs_vault debtMint)
        exact ⟨next, hnext⟩
    | openFeed _ | setAnswer _ | setStaleness _ | openShareVault _ | depositUnderlying _
    | withdrawUnderlying _ | setExchangeRate _ => exact absurd nofun hother

/-! ## Along a run -/

/-- Every vault has its debt pool. -/
def Bank.HasPools (bank : Bank) : Prop :=
  ∀ home vault, bank.find? .vault home = some vault → ∃ pool, bank.Lends vault.debtMint pool

variable {before after : Bank} {home : Address} {vault : Vault Address Bump}

theorem Bank.Orderly.vault_owner (h : before.Orderly)
    (hvault : before.find? .vault home = some vault) :
    (before.get (.vault vault.debtMint)).owner = .lendingProgram := by
  rw [← (h.vaults home vault hvault).home_eq]
  exact owner_of_find? AccountKind.vault_lawful hvault

/-- Every instruction leaves each vault its pool. -/
theorem hasPools_of_run (h : Tx.Yields (instruction.run call) s () t) (hkeys : call.KeysSign)
    (horderly : s.bank.Orderly) (hpools : s.bank.HasPools) : t.bank.HasPools := by
  intro home vault hvault
  have heffect := effect_of_run horderly h
  cases hbefore : s.bank.find? .vault home with
  | some old =>
      obtain ⟨totals, seized, -, hnext⟩ := heffect.keeps_terms hbefore
      cases hvault.symm.trans hnext
      have howner := horderly.vault_owner hbefore
      obtain ⟨pool, hpool⟩ := hpools home old hbefore
      exact lends_of_run h hkeys howner hpool
  | none =>
      obtain ⟨rfl, hrole⟩ := heffect.opens_of_new hbefore hvault
      obtain ⟨run⟩ := LendingProgram.openVault_run h
      cases run.vault_role.symm.trans hrole
      have hseat := (heffect.orderly horderly).vaults _ _ hvault
      have hmint : run.debtMint = vault.debtMint := Address.vault.inj hseat.home_eq
      rw [← hmint]
      exact ⟨_, run.lends⟩

theorem hasPools_of_move {chain : Chain} {move : Move} (hallowed : move.Allowed chain)
    (hkeys : move.KeysSign) (horderly : chain.bank.Orderly) (hpools : chain.bank.HasPools) :
    (chain.after move).bank.HasPools := by
  cases move with
  | clock now => exact hpools
  | outside bank =>
      intro home vault hvault
      have hsame := hallowed.sameRecords.find? AccountKind.vault_lawful home
      have hbefore : chain.bank.find? .vault home = some vault := hsame.symm.trans hvault
      show ∃ pool, bank.Lends vault.debtMint pool
      obtain ⟨pool, hpool⟩ := hpools home vault hbefore
      obtain ⟨next, hnext, -⟩ := hpool.of_outside hallowed
      exact ⟨next, hnext⟩
  | transact instruction passed =>
      rcases chain.execute_cases instruction passed with ⟨hsame, -⟩ | ⟨t, hyields, hafter, -⟩
      · rw [hsame]
        exact hpools
      · rw [hafter]
        exact hasPools_of_run hyields (hkeys chain) horderly hpools

/-- After any run from a fresh start each vault has its pool. -/
theorem hasPools_of_chain_run {start chain : Chain} {moves : List Move}
    (hfresh : start.bank.Fresh) (run : Chain.Run start moves chain)
    (hkeys : ∀ move ∈ moves, move.KeysSign) : chain.bank.HasPools := by
  induction run with
  | nil =>
      intro home vault hvault
      have howner := hfresh.unowned home
      rw [owner_of_find? AccountKind.vault_lawful hvault] at howner
      cases howner
  | @snoc moves chain run move allowed ih =>
      have hpools := ih fun earlier hearlier => hkeys earlier (List.mem_append_left _ hearlier)
      exact hasPools_of_move allowed (hkeys move (List.mem_append_right _ List.mem_cons_self))
        (orderly_of_run hfresh run) hpools

end CollateralLending
