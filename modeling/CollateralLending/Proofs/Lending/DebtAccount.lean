/-
  CollateralLending.Proofs.Lending.DebtAccount

  What the debt pool of a vault on chain holds, to the unit: what came in from
  elsewhere, less what is owed to the vault and less what liquidations wrote
  off. Instructions of the lending program keep the pool and the debt together
  (`Bank.debtHeldOrOwed`), with two exceptions. A liquidation writes debt off
  and moves nothing. A borrow whose wallet is the pool itself moves nothing
  either, but adds to the debt; so each of them leaves a gap as large as its
  amount, which nothing closes later.

  Main statement: `debt_pool_account`.
-/
import CollateralLending.Proofs.Lending.DebtPool

namespace CollateralLending

open Bank

section

variable {call : Call} {before after bank : Bank} {s t : Session} {amount : Amount}
variable {debtMint home owner : Address} {vault next : Vault Address Bump} {new : Record}

/-! ## What is owed -/

namespace Bank

/-- What the debt pool of the vault of a token holds of it. -/
def lendable (bank : Bank) (debtMint : Address) : Nat :=
  (bank.get (.debtVault (.vault debtMint))).data.units debtMint

/-- What is owed to the vault of a token, as the vault counts it. -/
def owed (bank : Bank) (debtMint : Address) : Nat :=
  ((bank.find? .vault (.vault debtMint)).map (·.totals.borrowed.toNat)).getD 0

/-- The debt tokens that the vault of a token holds or is owed. -/
def debtHeldOrOwed (bank : Bank) (debtMint : Address) : Nat :=
  bank.lendable debtMint + bank.owed debtMint

theorem owed_of_find? (h : bank.find? .vault (.vault debtMint) = some vault) :
    bank.owed debtMint = vault.totals.borrowed.toNat := by
  rw [owed, h]
  rfl

theorem SameBooks.owed (h : SameBooks before after) (debtMint : Address) :
    after.owed debtMint = before.owed debtMint := by
  unfold Bank.owed
  rw [h.vaults]

theorem Opening.owed (h : Opening before after home vault)
    (hnone : vault.totals.borrowed.toNat = 0) (debtMint : Address) :
    after.owed debtMint = before.owed debtMint := by
  by_cases hhome : .vault debtMint = home
  · subst hhome
    rw [owed_of_find? h.opened, hnone, Bank.owed, h.free]
    rfl
  · unfold Bank.owed
    rw [h.vaults _ hhome]

/-- The vault counts the debt of the record that is posted in place of the old one's. -/
theorem Posting.owed (h : Posting before after home owner vault next new) {old : Record}
    (htracks : vault.totals.move old new = (next.totals, .ok ())) (debtMint : Address) :
    after.owed debtMint + (if home = .vault debtMint then old.debt.toNat else 0) =
      before.owed debtMint + if home = .vault debtMint then new.debt.toNat else 0 := by
  obtain ⟨-, -, hborrowed⟩ := Totals.move_eq_ok_iff.1 htracks
  -- Other vaults are not written.
  by_cases hhome : home = .vault debtMint
  · subst hhome
    rw [owed_of_find? h.vault_after, owed_of_find? h.vault_before, if_pos rfl, if_pos rfl]
    exact hborrowed
  · rw [if_neg hhome, if_neg hhome]
    unfold Bank.owed
    rw [h.vaults _ (Ne.symm hhome)]

/-- Units that leave a pool leave that of their own vault. -/
theorem Moves.lendable_out {mint target : Address} {n : Nat}
    (h : Moves before after mint (.debtVault home) target n) (hhome : home = .vault mint)
    (debtMint : Address) :
    after.lendable debtMint + (if home = .vault debtMint then n else 0) =
      before.lendable debtMint := by
  by_cases hmint : mint = debtMint
  · subst hmint hhome
    rw [if_pos rfl]
    exact h.takes.symm
  · rw [if_neg fun heq => hmint (Address.vault.inj (hhome.symm.trans heq)), Nat.add_zero]
    exact h.others _ _ (.inr (Ne.symm hmint))

/-- Tokens that come into a pool can be lent by its vault, and by no other. -/
theorem Moves.lendable_in {mint source : Address} {n : Nat}
    (h : Moves before after mint source (.debtVault home) n) (hhome : home = .vault mint)
    (debtMint : Address) :
    after.lendable debtMint =
      before.lendable debtMint + if home = .vault debtMint then n else 0 := by
  by_cases hmint : mint = debtMint
  · subst hmint hhome
    rw [if_pos rfl]
    exact h.gives
  · rw [if_neg fun heq => hmint (Address.vault.inj (hhome.symm.trans heq)), Nat.add_zero]
    exact h.others _ _ (.inr (Ne.symm hmint))

end Bank

/-! ## Instructions of the lending program -/

namespace LendingProgram

/-- An operation changes what is owed to its vault by what it changes in the record of its
caller. -/
theorem Visit.owed (visit : Visit call s t) (horderly : s.bank.Orderly)
    (hbooks : SameBooks visit.opened visit.moved)
    (howner : ∀ a, (visit.moved.get a).owner = (visit.opened.get a).owner) (debtMint : Address) :
    t.bank.owed debtMint +
        (if visit.home = .vault debtMint then visit.position.record.debt.toNat else 0) =
      s.bank.owed debtMint +
        if visit.home = .vault debtMint then visit.settlement.next.debt.toNat else 0 :=
  (visit.posting horderly hbooks howner).2.owed visit.tracks debtMint

/-- An operation that moves lamports moves no debt. -/
theorem Visit.debtHeldOrOwed (visit : Visit call s t) (horderly : s.bank.Orderly)
    {source target : Address} {n : Nat} (hpaid : Paid visit.opened visit.moved source target n)
    (hdebt : visit.settlement.next.debt = visit.position.record.debt) (debtMint : Address) :
    t.bank.debtHeldOrOwed debtMint = s.bank.debtHeldOrOwed debtMint := by
  have hquiet : Quiet s.bank t.bank := visit.steps (.pays hpaid)
  have howed := visit.owed horderly hpaid.sameRecords.sameBooks hpaid.owner debtMint
  rw [hdebt] at howed
  unfold Bank.debtHeldOrOwed lendable
  rw [hquiet.units]
  omega

theorem DebtVisit.home_eq (visit : DebtVisit call s t) (horderly : s.bank.Orderly) :
    visit.home = .vault visit.vault.debtMint :=
  (horderly.vaults _ _ (find?_of_load visit.loads)).home_eq

/-- A borrow takes its amount out of the pool, unless the wallet is the pool itself. -/
theorem BorrowRun.lendable (run : BorrowRun call amount s t) (horderly : s.bank.Orderly)
    (debtMint : Address) :
    t.bank.lendable debtMint +
        (if run.home = .vault debtMint ∧ run.wallet ≠ .debtVault (.vault debtMint)
          then amount.toNat else 0) =
      s.bank.lendable debtMint := by
  by_cases hself : run.wallet = .debtVault run.home
  · rw [if_neg fun h => h.2 (h.1 ▸ hself)]
    exact run.sameUnits_of_self hself debtMint _
  · have hout := (run.moves hself).lendable_out (run.home_eq horderly) debtMint
    by_cases hhome : run.home = .vault debtMint
    · rw [if_pos hhome] at hout
      rw [if_pos ⟨hhome, fun h => hself (hhome ▸ h)⟩]
      exact hout
    · rw [if_neg hhome] at hout
      rw [if_neg fun h => hhome h.1]
      exact hout

/-- A borrow is recorded in full whatever the wallet is, so one whose wallet is the pool adds to the
sum of what is held and owed. -/
theorem BorrowRun.debtHeldOrOwed (run : BorrowRun call amount s t) (horderly : s.bank.Orderly)
    (debtMint : Address) :
    t.bank.debtHeldOrOwed debtMint = s.bank.debtHeldOrOwed debtMint +
      if run.home = .vault debtMint ∧ run.wallet = .debtVault (.vault debtMint) then amount.toNat
      else 0 := by
  obtain ⟨-, quote, -, -, hdebt, -⟩ := Record.borrow_eq_ok_iff.1 run.settles
  -- The debt that is counted does not depend on the wallet; what the pool holds does.
  have hretokened := retokened_of_transfer run.pays
  have howed := run.owed horderly hretokened.sameRecords.sameBooks hretokened.owner debtMint
  have hpool := run.lendable horderly debtMint
  unfold Bank.debtHeldOrOwed
  by_cases hhome : run.home = .vault debtMint
  · simp only [hhome, true_and, if_true] at howed hpool ⊢
    by_cases hself : run.wallet = .debtVault (.vault debtMint)
    · rw [if_neg (not_not_intro hself)] at hpool
      rw [if_pos hself]
      omega
    · rw [if_pos hself] at hpool
      rw [if_neg hself]
      omega
  · simp only [hhome, false_and, if_false] at howed hpool ⊢
    omega

/-- A payback moves from what is owed to what is held. -/
theorem PaybackRun.debtHeldOrOwed (run : PaybackRun call amount s t) (horderly : s.bank.Orderly)
    (hwallet : run.wallet ≠ .debtVault run.home) (debtMint : Address) :
    t.bank.debtHeldOrOwed debtMint = s.bank.debtHeldOrOwed debtMint := by
  obtain ⟨-, quote, -, -, hdebt, -⟩ := Record.payBack_eq_ok_iff.1 run.settles
  have hretokened := retokened_of_transfer run.pays
  have howed := run.owed horderly hretokened.sameRecords.sameBooks hretokened.owner debtMint
  have hin := (run.moves hwallet).lendable_in (run.home_eq horderly) debtMint
  unfold Bank.debtHeldOrOwed
  split at howed
  · rename_i hhome
    rw [if_pos hhome] at hin
    omega
  · rename_i hhome
    rw [if_neg hhome] at hin
    omega

theorem LiquidateRun.debtHeldOrOwed (run : LiquidateRun call s t) (horderly : s.bank.Orderly)
    (debtMint : Address) :
    t.bank.debtHeldOrOwed debtMint +
        (if run.home = .vault debtMint then (s.bank.record (.vault debtMint) run.owner).debt.toNat
          else 0) =
      s.bank.debtHeldOrOwed debtMint := by
  have hquiet : Quiet s.bank t.bank := run.steps
  have howed := (run.posting horderly).2.owed run.tracks debtMint
  unfold Bank.debtHeldOrOwed lendable
  rw [hquiet.units]
  by_cases hhome : run.home = .vault debtMint
  · rw [if_pos hhome, if_pos hhome, Record.zero, Word.toNat_zero] at howed
    rw [if_pos hhome, ← hhome, run.record_eq]
    omega
  · rw [if_neg hhome, if_neg hhome] at howed
    rw [if_neg hhome]
    omega

theorem OpenVaultRun.debtHeldOrOwed (run : OpenVaultRun call s t) (debtMint : Address) :
    t.bank.debtHeldOrOwed debtMint = s.bank.debtHeldOrOwed debtMint := by
  have hquiet : Quiet s.bank t.bank := run.steps
  have howed : t.bank.owed debtMint = s.bank.owed debtMint := by
    cases run.effect with
    | aside other aside => exact absurd rfl other
    | operates operation => cases operation
    | opens role signs opening pool => exact opening.owed rfl debtMint
  unfold Bank.debtHeldOrOwed lendable
  rw [hquiet.units, howed]

end LendingProgram

/-! ## What an instruction counts for -/

/-- The debt that an instruction writes off in a vault when it goes through. -/
def Call.clears (call : Call) (bank : Bank) (home : Address) : Instruction → Nat
  | .liquidate =>
    if call.address? .vault = some home then
      ((call.address? .account).map fun owner => (bank.record home owner).debt.toNat).getD 0
    else 0
  | .openFeed _ | .setAnswer _ | .setStaleness _ | .openVault | .deposit _ | .borrow _ | .payback _
  | .withdraw _ | .openShareVault _ | .depositUnderlying _ | .withdrawUnderlying _
  | .setExchangeRate _ => 0

/-- What an instruction lends to the debt pool of a vault out of the pool itself when it goes
through. -/
def Call.lendsToPool (call : Call) (home : Address) : Instruction → Nat
  | .borrow amount =>
    if call.address? .vault = some home ∧
        call.address? .userDebtAccount = some (.debtVault home) then amount.toNat
    else 0
  | .openFeed _ | .setAnswer _ | .setStaleness _ | .openVault | .deposit _ | .payback _
  | .withdraw _ | .liquidate | .openShareVault _ | .depositUnderlying _ | .withdrawUnderlying _
  | .setExchangeRate _ => 0

/-- Any lending instruction: the account changes by debt that is cleared, and by loans that never
left the pool. -/
theorem debtHeldOrOwed_of_run {instruction : Instruction}
    (hlending : instruction.program = .lendingProgram)
    (h : Tx.Yields (instruction.run call) s () t) (hkeys : call.KeysSign)
    (horderly : s.bank.Orderly) (hpools : s.bank.HasPools) (debtMint : Address) :
    t.bank.debtHeldOrOwed debtMint + call.clears s.bank (.vault debtMint) instruction =
      s.bank.debtHeldOrOwed debtMint + call.lendsToPool (.vault debtMint) instruction := by
  cases instruction with
  | openVault =>
      obtain ⟨run⟩ := LendingProgram.openVault_run h
      exact run.debtHeldOrOwed debtMint
  | deposit amount =>
      obtain ⟨run⟩ := LendingProgram.deposit_run h
      obtain ⟨-, -, hdebt, -⟩ := Record.deposit_eq_ok_iff.1 run.settles
      exact run.toVisit.debtHeldOrOwed horderly (paid_of_transfer run.pays).2.2 hdebt debtMint
  | withdraw amount =>
      obtain ⟨run⟩ := LendingProgram.withdraw_run h
      obtain ⟨-, -, -, hdebt, -⟩ := Record.withdraw_eq_ok_iff.1 run.settles
      exact run.toVisit.debtHeldOrOwed horderly (paid_of_transfer run.pays).2.2 hdebt debtMint
  | borrow amount =>
      obtain ⟨run⟩ := LendingProgram.borrow_run h
      have hborrow := run.debtHeldOrOwed horderly debtMint
      simp only [Call.clears, Call.lendsToPool, run.vault_role, run.wallet_role, Option.some.injEq]
      exact hborrow
  | payback amount =>
      obtain ⟨run⟩ := LendingProgram.payback_run h
      -- The pool cannot pay: it is the vault's, and no vault signs where only keys do.
      obtain ⟨pool, hpool⟩ := hpools _ _ (find?_of_load run.loads)
      have hwallet := run.wallet_ne hkeys (run.home_eq horderly) hpool
      exact run.debtHeldOrOwed horderly hwallet debtMint
  | liquidate =>
      obtain ⟨run⟩ := LendingProgram.liquidate_run h
      have hliquidate := run.debtHeldOrOwed horderly debtMint
      simp only [Call.clears, Call.lendsToPool, run.vault_role, run.account_role, Option.some.injEq,
        Option.map_some, Option.getD_some]
      exact hliquidate
  | openFeed _ | setAnswer _ | setStaleness _ | openShareVault _ | depositUnderlying _
  | withdrawUnderlying _ | setExchangeRate _ => cases hlending

/-- Instructions of other programs leave the books alone. -/
theorem Effect.sameBooks {instruction : Instruction} (h : Effect call before after instruction)
    (hother : instruction.program ≠ .lendingProgram) : SameBooks before after := by
  cases h with
  | aside other aside => exact aside.books
  | operates operation =>
      refine absurd ?_ hother
      cases instruction <;> first | rfl | cases operation
  | opens | liquidates => exact absurd rfl hother

theorem Call.counts_nothing {instruction : Instruction} (call : Call)
    (hother : instruction.program ≠ .lendingProgram) (bank : Bank) (home : Address) :
    call.clears bank home instruction = 0 ∧ call.lendsToPool home instruction = 0 := by
  cases instruction <;> first | exact ⟨rfl, rfl⟩ | exact absurd rfl hother

/-! ## What a move counts for -/

namespace Chain

variable {chain start : Chain} {instruction : Instruction} {passed : Passed} {move : Move}

/-- The debt that a move writes off in the vault of a token. -/
def clears (debtMint : Address) (chain : Chain) (move : Move) : Int :=
  chain.whenAccepted (fun call bank instruction => call.clears bank (.vault debtMint) instruction)
    move

/-- What a move lends to the debt pool of the vault of a token out of the pool itself. -/
def lendsToPool (debtMint : Address) (chain : Chain) (move : Move) : Int :=
  chain.whenAccepted (fun call _ instruction => call.lendsToPool (.vault debtMint) instruction) move

/-- What a move other than an instruction of the lending program brings into the debt pool of the
vault of a token. -/
def receives (debtMint : Address) (chain : Chain) : Move → Int
  | .transact instruction passed =>
    if instruction.program = .lendingProgram then 0
    else ((chain.after (.transact instruction passed)).bank.lendable debtMint : Int) -
      chain.bank.lendable debtMint
  | .outside bank => (bank.lendable debtMint : Int) - chain.bank.lendable debtMint
  | .clock _ => 0

/-- What a move does to the debt tokens that a vault holds or is owed. -/
theorem debtHeldOrOwed_after (hallowed : move.Allowed chain) (hkeys : move.KeysSign)
    (horderly : chain.bank.Orderly) (hpools : chain.bank.HasPools) (debtMint : Address) :
    ((chain.after move).bank.debtHeldOrOwed debtMint : Int) =
      chain.bank.debtHeldOrOwed debtMint + chain.receives debtMint move -
        chain.clears debtMint move + chain.lendsToPool debtMint move := by
  unfold clears lendsToPool
  cases move with
  | clock now =>
      simp only [receives, whenAccepted, after]
      omega
  | outside bank =>
      have howed := hallowed.sameRecords.sameBooks.owed debtMint
      simp only [receives, whenAccepted, after, Bank.debtHeldOrOwed]
      omega
  | transact instruction passed =>
      by_cases haccepts : chain.Accepts instruction passed
      · obtain ⟨t, hyields, hafter⟩ := yields_of_accepts haccepts
        rw [whenAccepted_of_accepts haccepts, whenAccepted_of_accepts haccepts]
        -- What lending instructions do is counted by kind, and what the others pay in as it comes.
        by_cases hlending : instruction.program = .lendingProgram
        · have hrun := debtHeldOrOwed_of_run hlending hyields (hkeys chain) horderly hpools debtMint
          rw [receives, if_pos hlending, hafter]
          simp only at hrun ⊢
          omega
        · have howed := ((effect_of_run horderly hyields).sameBooks hlending).owed debtMint
          obtain ⟨hclears, hlends⟩ :=
            (chain.callOf instruction passed).counts_nothing hlending chain.bank (.vault debtMint)
          rw [receives, if_neg hlending, hafter, hclears, hlends]
          simp only [Bank.debtHeldOrOwed] at howed ⊢
          omega
      · rw [whenAccepted_of_refused haccepts, whenAccepted_of_refused haccepts, receives,
          after_eq_of_refused haccepts]
        split <;> omega

/-- What others bring into the pool of a vault is never less than nothing. -/
theorem receives_nonneg (hallowed : move.Allowed chain) (hkeys : move.KeysSign)
    (horderly : chain.bank.Orderly) (hpools : chain.bank.HasPools)
    (hvault : chain.bank.find? .vault home = some vault) :
    0 ≤ chain.receives vault.debtMint move := by
  obtain ⟨pool, hpool⟩ := hpools home vault hvault
  -- The pool is still there afterwards, and holds at least as much.
  have hgrows : ∀ after : Bank, (∃ next, after.Lends vault.debtMint next ∧ pool.Given next) →
      0 ≤ (after.lendable vault.debtMint : Int) - chain.bank.lendable vault.debtMint := by
    rintro after ⟨next, hnext, hgiven⟩
    have hamount := hgiven.amount
    unfold lendable
    rw [hpool.units, hnext.units]
    omega
  cases move with
  | clock now => exact Int.le_refl 0
  | outside bank => exact hgrows bank (hpool.of_outside hallowed)
  | transact instruction passed =>
      rw [receives]
      split
      · exact Int.le_refl 0
      · rename_i hother
        rcases chain.execute_cases instruction passed with ⟨hsame, -⟩ | ⟨t, hyields, hafter, -⟩
        · rw [hsame, Int.sub_self]
        · rw [hafter]
          exact hgrows t.bank
            (given_of_run hother hyields (hkeys chain) (horderly.vault_owner hvault) hpool)

/-! ## Along a run -/

/-- By induction on the run, the account of a debt token in whole numbers. -/
theorem debtHeldOrOwed_of_chain_run {moves : List Move} (hfresh : start.bank.Fresh)
    (run : Run start moves chain) (hkeys : ∀ move ∈ moves, move.KeysSign) (debtMint : Address) :
    (chain.bank.debtHeldOrOwed debtMint : Int) =
      start.sumMoves (receives debtMint) moves - start.sumMoves (clears debtMint) moves +
        start.sumMoves (lendsToPool debtMint) moves := by
  induction run with
  | nil =>
      -- Nothing is held or owed where no account of this library exists.
      have hnone : start.bank.find? .vault (.vault debtMint) = none := by
        refine find?_eq_none_of_owner AccountKind.vault_lawful ?_
        rw [(hfresh.unused _ rfl).1]
        decide
      rw [Bank.debtHeldOrOwed, lendable, owed, (hfresh.unused _ rfl).2, hnone]
      rfl
  | @snoc moves chain run move allowed ih =>
      have hearlier : ∀ earlier ∈ moves, earlier.KeysSign :=
        fun earlier hmem => hkeys earlier (List.mem_append_left _ hmem)
      have hmove := debtHeldOrOwed_after allowed
        (hkeys move (List.mem_append_right _ List.mem_cons_self)) (orderly_of_run hfresh run)
        (hasPools_of_chain_run hfresh run hearlier) debtMint
      have hbefore := ih hearlier
      rw [run.sumMoves_snoc, run.sumMoves_snoc, run.sumMoves_snoc]
      omega

end Chain

/-- Tokens that are paid into an account of this library are within what others may do. -/
theorem Bank.outside_put {a : Address} {account more : TokenAccount}
    (hdata : (bank.get a).data = .token account) (hgiven : account.Given more)
    (hguarded : bank.Guarded a) : bank.Outside (Tokens.put bank a (.token more)) where
  given b _ := by
    rw [get_put]
    split
    · rename_i hb
      subst hb
      exact ⟨rfl, rfl, Nat.le_refl _, by rw [hdata]; exact .token hgiven⟩
    · exact ⟨rfl, rfl, Nat.le_refl _, .same _⟩
  handed b hb hown := by
    rw [get_put, if_neg (by rintro rfl; exact hb hguarded)] at hown
    exact absurd (.inr hown) hb

/-- The vault that a call is about, and the wallet it names. -/
structure Call.DealsWith (call : Call) (bank : Bank) (vault : Vault Address Bump)
    (wallet : Address) : Prop where
  wallet_role : call.address? .userDebtAccount = some wallet
  vault_loads : ∃ home, call.address? .vault = some home ∧ bank.find? .vault home = some vault

theorem LendingProgram.DebtVisit.dealsWith (visit : DebtVisit call s t) :
    call.DealsWith s.bank visit.vault visit.wallet :=
  ⟨visit.wallet_role, visit.home, visit.vault_role, find?_of_load visit.loads⟩

variable {chain start : Chain}

/-- The account of the pool of one vault. -/
theorem Chain.pool_sum {moves : List Move} (hfresh : start.bank.Fresh)
    (run : Chain.Run start moves chain) (hkeys : ∀ move ∈ moves, move.KeysSign)
    (hvault : chain.bank.find? .vault home = some vault) :
    ∃ pool, (chain.bank.get vault.debtVault).data = .token pool ∧ pool.mint = vault.debtMint ∧
      (pool.amount.toNat : Int) + vault.totals.borrowed.toNat +
          start.sumMoves (Chain.clears vault.debtMint) moves -
          start.sumMoves (Chain.receives vault.debtMint) moves =
        start.sumMoves (Chain.lendsToPool vault.debtMint) moves := by
  obtain ⟨pool, hpool⟩ := hasPools_of_chain_run hfresh run hkeys home vault hvault
  have hseat := (orderly_of_run hfresh run).vaults home vault hvault
  have hsum := Chain.debtHeldOrOwed_of_chain_run hfresh run hkeys vault.debtMint
  -- The vault is where the pool of its token belongs.
  rw [hseat.home_eq] at hvault
  rw [Bank.debtHeldOrOwed, lendable, hpool.units, owed_of_find? hvault] at hsum
  refine ⟨pool, ?_, hpool.mint, by omega⟩
  rw [hseat.debtVault, hseat.home_eq]
  exact hpool.data

/-- In every reached state, for every vault: its pool is a holding of its debt token; and what the
pool holds, what is owed, and what liquidations wrote off come to what others brought in, and to
what borrows lent to the pool itself on top of that. Others never take anything out. A borrow moves
exactly its amount out of the pool into the wallet, unless the wallet is the pool and nothing moves;
and a payback moves exactly its amount from the wallet, which is never the pool, into the pool. -/
theorem debt_pool_account {moves : List Move} (hfresh : start.bank.Fresh)
    (run : Chain.Run start moves chain) (hkeys : ∀ move ∈ moves, move.KeysSign) :
    (∀ home vault, chain.bank.find? .vault home = some vault →
      (∃ pool, (chain.bank.get vault.debtVault).data = .token pool ∧ pool.mint = vault.debtMint ∧
        (pool.amount.toNat : Int) + vault.totals.borrowed.toNat +
            start.sumMoves (Chain.clears vault.debtMint) moves -
            start.sumMoves (Chain.receives vault.debtMint) moves =
          start.sumMoves (Chain.lendsToPool vault.debtMint) moves) ∧
      ∀ move : Move, move.Allowed chain → move.KeysSign →
        0 ≤ chain.receives vault.debtMint move) ∧
    ∀ passed amount,
      (chain.Accepts (.borrow amount) passed →
        ∃ vault wallet, (chain.callOf (.borrow amount) passed).DealsWith chain.bank vault wallet ∧
          if wallet = vault.debtVault then
            SameUnits chain.bank (chain.after (.transact (.borrow amount) passed)).bank
          else Moves chain.bank (chain.after (.transact (.borrow amount) passed)).bank
            vault.debtMint vault.debtVault wallet amount.toNat) ∧
      (chain.Accepts (.payback amount) passed →
        (Move.transact (.payback amount) passed).KeysSign →
        ∃ vault wallet, (chain.callOf (.payback amount) passed).DealsWith chain.bank vault wallet ∧
          wallet ≠ vault.debtVault ∧
          Moves chain.bank (chain.after (.transact (.payback amount) passed)).bank
            vault.debtMint wallet vault.debtVault amount.toNat) := by
  have horderly := orderly_of_run hfresh run
  have hpools := hasPools_of_chain_run hfresh run hkeys
  refine ⟨?_, ?_⟩
  · intro home vault hvault
    exact ⟨Chain.pool_sum hfresh run hkeys hvault, fun move hallowed hsigns =>
      Chain.receives_nonneg hallowed hsigns horderly hpools hvault⟩
  · intro passed amount
    constructor
    · intro haccepts
      obtain ⟨t, hyields, hafter⟩ := Chain.yields_of_accepts haccepts
      obtain ⟨run⟩ := LendingProgram.borrow_run hyields
      refine ⟨run.vault, run.wallet, run.dealsWith, ?_⟩
      rw [run.pool_eq, hafter]
      split
      · rename_i hself
        exact run.sameUnits_of_self hself
      · rename_i hother
        exact run.moves hother
    · intro haccepts hsigns
      obtain ⟨t, hyields, hafter⟩ := Chain.yields_of_accepts haccepts
      obtain ⟨run⟩ := LendingProgram.payback_run hyields
      obtain ⟨pool, hpool⟩ := hpools _ _ (find?_of_load run.loads)
      have hwallet := run.wallet_ne (hsigns chain) (run.home_eq horderly) hpool
      refine ⟨run.vault, run.wallet, run.dealsWith, ?_⟩
      rw [run.pool_eq, hafter]
      exact ⟨hwallet, run.moves hwallet⟩

end

/-! ## Loans out of a pool

Somebody pays 300 debt tokens into the pool of the vault of the first deposit. The user borrows 200
of them, pays 50 back, and is liquidated when the price rises. -/

namespace FirstLoan

open FirstDeposit

/-- The user's account of debt tokens. -/
def wallet : Address := key 4

def start : Chain :=
  FirstDeposit.start.forge wallet
    (.holding (.token { mint := debtMint, owner := user, amount := .zero }) none none)

def deposited : Chain := ((start.after openFeed).after openVault).after deposit

def emptyPool : TokenAccount := { mint := debtMint, owner := home, amount := .zero }

def fund : Move :=
  .outside (Tokens.put deposited.bank (.debtVault home)
    (.token { emptyPool with amount := .units 300 }))

def funded : Chain := deposited.after fund

/-- The accounts of a borrow or a payback. -/
def debtAccounts (wallet : Address) : Passed :=
  ⟨[(.user, user), (.vault, home), (.position, .position home user),
    (.priceFeed, .feed admin .zero), (.debtVault, .debtVault home), (.userDebtAccount, wallet),
    (.tokenProgram, .tokenProgram), (.systemProgram, .systemProgram)], [], []⟩

def borrow (amount : Amount) (wallet : Address) : Move :=
  .transact (.borrow amount) (debtAccounts wallet)

def payback (amount : Amount) : Move := .transact (.payback amount) (debtAccounts wallet)

/-- A unit of debt comes to be worth ten lamports. -/
def raise : Move :=
  .transact (.setAnswer ⟨.units 10, 0⟩) ⟨[(.feed, .feed admin .zero), (.authority, admin)], [], []⟩

def liquidate : Move :=
  .transact .liquidate
    ⟨[(.admin, admin), (.vault, home), (.account, user), (.position, .position home user),
      (.priceFeed, .feed admin .zero)], [], []⟩

def filling : List Move := [openFeed, openVault, deposit, fund]

def lending : List Move := [borrow (.units 200) wallet, payback (.units 50), raise, liquidate]

def reached : Chain := lending.foldl Chain.after funded

/-- The vault after the deposit, with something owed. -/
def owing (borrowed : Amount) : Vault Address Bump :=
  { FirstDeposit.vault with totals := ⟨.units 1000, borrowed⟩ }

theorem start_fresh : start.bank.Fresh := .forge FirstDeposit.start_fresh rfl rfl

theorem emptyPool_data : (deposited.bank.get (.debtVault home)).data = .token emptyPool := by
  decide +kernel

theorem funded_run : start.Run filling funded := by
  have hdeposited : start.Run [openFeed, openVault, deposit] deposited :=
    Chain.Run.nil.extend _ (by simp [openFeed, openVault, deposit, Move.Allowed])
  refine hdeposited.snoc fund (outside_put emptyPool_data ⟨rfl, rfl, rfl, rfl, ?_⟩ (.inl rfl))
  exact Nat.zero_le _

theorem filling_keysSign : ∀ move ∈ filling, move.KeysSign := by
  simp only [filling, List.mem_cons, List.not_mem_nil, or_false, forall_eq_or_imp, forall_eq]
  exact ⟨Move.keysSign_of_passed (by decide), Move.keysSign_of_passed (by decide),
    Move.keysSign_of_passed (by decide), trivial⟩

theorem borrow_keysSign (amount : Amount) {wallet : Address} :
    (borrow amount wallet).KeysSign := by
  apply Move.keysSign_of_passed
  simp [debtAccounts, user, key, Address.isDerived, Field.signs]

theorem payback_keysSign (amount : Amount) : (payback amount).KeysSign :=
  Move.keysSign_of_passed (by decide)

/-- The user has the loan in the wallet. -/
def lent : Chain := funded.after (borrow (.units 200) wallet)

theorem borrow_accepted : funded.Accepts (.borrow (.units 200)) (debtAccounts wallet) :=
  Chain.accepts_of_isOk (by decide +kernel)

theorem payback_accepted : lent.Accepts (.payback (.units 50)) (debtAccounts wallet) :=
  Chain.accepts_of_isOk (by decide +kernel)

theorem filled_keysSign {move : Move} (h : move.KeysSign) :
    ∀ earlier ∈ filling ++ [move], earlier.KeysSign := by
  intro earlier hmem
  rcases List.mem_append.1 hmem with hfilling | hlast
  · exact filling_keysSign earlier hfilling
  · exact List.mem_singleton.1 hlast ▸ h

theorem lending_keysSign : ∀ move ∈ lending, move.KeysSign := by
  simp only [lending, List.mem_cons, List.not_mem_nil, or_false, forall_eq_or_imp, forall_eq]
  exact ⟨borrow_keysSign _, payback_keysSign _, Move.keysSign_of_passed (by decide),
    Move.keysSign_of_passed (by decide)⟩

theorem reached_run : start.Run (filling ++ lending) reached :=
  funded_run.extend lending
    (by simp [lending, borrow, payback, raise, liquidate, Move.Allowed])

theorem funded_vault : funded.bank.find? .vault home = some (owing .zero) := by decide +kernel

theorem lent_vault : lent.bank.find? .vault home = some (owing (.units 200)) := by decide +kernel

theorem reached_vault : reached.bank.find? .vault home =
    some { owing .zero with totals := ⟨.zero, .zero⟩, seizedCollateral := .units 1000 } := by
  decide +kernel

theorem pool_accounted :
    (∃ pool, (reached.bank.get (.debtVault home)).data = .token pool ∧
      (pool.amount.toNat : Int) + 0 + 150 - 300 = 0) ∧
    Moves funded.bank lent.bank debtMint (.debtVault home) wallet 200 ∧
    Moves lent.bank (lent.after (payback (.units 50))).bank debtMint wallet (.debtVault home)
      50 := by
  refine ⟨?_, ?_, ?_⟩
  · have hkeys : ∀ move ∈ filling ++ lending, move.KeysSign := fun move hmove =>
      (List.mem_append.1 hmove).elim (filling_keysSign move) (lending_keysSign move)
    have hcleared : start.sumMoves (Chain.clears debtMint) (filling ++ lending) = 150 := by
      decide +kernel
    have hreceived : start.sumMoves (Chain.receives debtMint) (filling ++ lending) = 300 := by
      decide +kernel
    have hlent : start.sumMoves (Chain.lendsToPool debtMint) (filling ++ lending) = 0 := by
      decide +kernel
    obtain ⟨⟨pool, hdata, -, hsum⟩, -⟩ :=
      (debt_pool_account start_fresh reached_run hkeys).1 home _ reached_vault
    have hsame : (owing .zero).debtMint = debtMint := rfl
    simp only [hsame, hcleared, hreceived, hlent] at hsum
    exact ⟨pool, hdata, hsum⟩
  · obtain ⟨vault, account, ⟨hwallet, place, hplace, hvault⟩, hmoves⟩ :=
      ((debt_pool_account start_fresh funded_run filling_keysSign).2 (debtAccounts wallet)
        (.units 200)).1 borrow_accepted
    cases hplace.symm.trans (show _ = some home by decide)
    cases hvault.symm.trans funded_vault
    cases hwallet.symm.trans (show _ = some wallet by decide)
    rw [if_neg (by decide)] at hmoves
    exact hmoves
  · obtain ⟨vault, account, ⟨hwallet, place, hplace, hvault⟩, -, hmoves⟩ :=
      ((debt_pool_account start_fresh (funded_run.snoc (borrow (.units 200) wallet) trivial)
        (filled_keysSign (borrow_keysSign _))).2 (debtAccounts wallet) (.units 50)).2
          payback_accepted (payback_keysSign _)
    cases hplace.symm.trans (show _ = some home by decide)
    cases hvault.symm.trans lent_vault
    cases hwallet.symm.trans (show _ = some wallet by decide)
    exact hmoves

/-- The user borrows all that is in the pool, with the pool for a wallet. -/
def selfLoan : Move := borrow (.units 300) (.debtVault home)

theorem selfLoan_accepted :
    funded.Accepts (.borrow (.units 300)) (debtAccounts (.debtVault home)) :=
  Chain.accepts_of_isOk (by decide +kernel)

/-- Borrowed from the pool into the pool, 300 units are owed that never left. -/
theorem loan_to_pool_unaccounted :
    (start.bank.Fresh ∧ start.Run (filling ++ [selfLoan]) (funded.after selfLoan) ∧
      ∀ move ∈ filling ++ [selfLoan], move.KeysSign) ∧
    funded.Accepts (.borrow (.units 300)) (debtAccounts (.debtVault home)) ∧
    (funded.bank.get (.debtVault home)).data = .token { emptyPool with amount := .units 300 } ∧
    ((funded.after selfLoan).bank.get (.debtVault home)).data =
      .token { emptyPool with amount := .units 300 } ∧
    (funded.after selfLoan).bank.find? .vault home = some (owing (.units 300)) ∧
    (300 : Int) + 300 + start.sumMoves (Chain.clears debtMint) (filling ++ [selfLoan]) -
      start.sumMoves (Chain.receives debtMint) (filling ++ [selfLoan]) ≠ 0 := by
  exact ⟨⟨start_fresh, funded_run.snoc selfLoan trivial, filled_keysSign (borrow_keysSign _)⟩,
    selfLoan_accepted, by decide +kernel, by decide +kernel, by decide +kernel, by decide +kernel⟩

end FirstLoan

end CollateralLending
