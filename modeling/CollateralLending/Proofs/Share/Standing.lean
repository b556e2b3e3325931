/-
  CollateralLending.Proofs.Share.Standing

  Conditions that share vaults meet and go on meeting. Such a condition is about
  a share vault, the mint of its shares and its pool, and holds together with
  the addresses of the three (`Bank.Meets`). It lasts when nothing that others
  may do breaks it, and neither opening the share vault nor a deposit nor a
  withdrawal does (`Condition.Lasts`). Whether a change of the rate keeps it is
  asked for each change (`KeepsCondition`).

  Then every instruction keeps the condition, for every share vault
  (`upholds_of_run`).
-/
import CollateralLending.Proofs.Share.Issuance

namespace CollateralLending

open Bank

/-- The share vault is at the address derived for it, with the share token and the pool derived from
that. -/
structure ShareVault.Seated (vault : ShareVault Address Bump) (home : Address) : Prop where
  home_eq : home = .shareVault vault.underlyingMint
  shareMint : vault.shareMint = .shareMint home
  pool : vault.pool = .sharePool home
  bump : vault.bump = .canonical
  poolBump : vault.poolBump = .canonical

/-- Another rate and another tracked amount leave the share vault in its seat. -/
theorem ShareVault.Seated.of_same {vault next : ShareVault Address Bump} {home : Address}
    (h : vault.Seated home) (hnext : next =
      { vault with exchangeRate := next.exchangeRate, totalUnderlying := next.totalUnderlying }) :
    next.Seated home := by
  rw [hnext]
  exact ⟨h.home_eq, h.shareMint, h.pool, h.bump, h.poolBump⟩

/-- No derived address signs. -/
theorem ShareVault.Seated.not_signs {vault : ShareVault Address Bump} {home : Address} {call : Call}
    (h : vault.Seated home) (hkeys : call.KeysSign) : ¬ call.signs home = true := by
  intro hsigns
  have hkey := hkeys home hsigns
  rw [h.home_eq] at hkey
  cases hkey

/-- No share vault is one for its own shares. -/
theorem ne_shareVault_shareMint (home : Address) : home ≠ .shareVault (.shareMint home) := by
  intro heq
  have hsize := congrArg sizeOf heq
  simp only [Address.shareMint.sizeOf_spec, Address.shareVault.sizeOf_spec] at hsize
  omega

/-- The shares are not the underlying token. -/
theorem ShareVault.Seated.shareMint_ne {vault : ShareVault Address Bump} {home : Address}
    (h : vault.Seated home) : vault.shareMint ≠ vault.underlyingMint := by
  intro heq
  refine ne_shareVault_shareMint home ?_
  rw [← h.shareMint, heq]
  exact h.home_eq

/-! ## Conditions -/

/-- A condition on a share vault, the mint of its shares and its pool. -/
abbrev Condition := ShareVault Address Bump → Mint → TokenAccount → Prop

/-- The condition lasts whatever others do, from opening through deposits and withdrawals. -/
structure Condition.Lasts (condition : Condition) : Prop where
  given : ∀ {vault mint nextMint pool nextPool}, condition vault mint pool → mint.Given nextMint →
    pool.Given nextPool → condition vault nextMint nextPool
  opens : ∀ {admin underlyingMint rate mint pool}, 0 < rate.toNat → mint.supply.toNat = 0 →
    condition (ShareProgram.openedVault admin underlyingMint rate) mint pool
  deposits : ∀ {vault mint nextMint pool nextPool amount shares total}, condition vault mint pool →
    vault.mintedShares amount = .ok shares →
    total.toNat = vault.totalUnderlying.toNat + amount.toNat →
    nextMint.supply.toNat = mint.supply.toNat + shares.toNat →
    nextPool.amount.toNat = pool.amount.toNat + amount.toNat →
    condition { vault with totalUnderlying := total } nextMint nextPool
  withdrawals : ∀ {vault mint nextMint pool nextPool amount shares}, condition vault mint pool →
    vault.burnedShares amount = .ok shares →
    mint.supply.toNat = nextMint.supply.toNat + shares.toNat →
    pool.amount.toNat ≤ nextPool.amount.toNat + amount.toNat →
    condition { vault with totalUnderlying := vault.totalUnderlying.monus amount } nextMint nextPool

/-- The instruction, if it sets a rate, keeps the condition of that share vault. -/
def KeepsCondition (condition : Condition) (call : Call) (bank : Bank) : Instruction → Prop
  | .setExchangeRate rate => 0 < rate.toNat → ∀ home vault mint pool,
    call.address? .shareVault = some home → bank.find? .shareVault home = some vault →
    condition vault mint pool → condition { vault with exchangeRate := rate } mint pool
  | _ => True

namespace Bank

variable {before after bank : Bank} {asks : Address → Prop} {home : Address}
variable {vault next : ShareVault Address Bump} {condition : Condition}

/-- The share vault sits where it should, issues shares, and meets the condition. -/
structure Meets (bank : Bank) (condition : Condition) (home : Address)
    (vault : ShareVault Address Bump) : Prop where
  seated : vault.Seated home
  issues : ∃ mint pool, bank.Issues home mint pool ∧ condition vault mint pool

/-- If there is a share vault at the address, it meets the condition. -/
def Upholds (bank : Bank) (condition : Condition) (home : Address) : Prop :=
  ∀ vault, bank.find? .shareVault home = some vault → bank.Meets condition home vault

theorem Meets.owner (h : bank.Meets condition home vault) :
    (bank.get home).owner = .shareProgram := by
  obtain ⟨mint, pool, hissues, -⟩ := h.issues
  exact hissues.home_owner

theorem Meets.of_spares (h : before.Meets condition home vault) (hlasts : condition.Lasts)
    (hspares : Spares home before after) : after.Meets condition home vault := by
  obtain ⟨mint, pool, hissues, hmeets⟩ := h.issues
  obtain ⟨nextMint, nextPool, hnext, hmint, hpool⟩ := hspares mint pool hissues
  exact ⟨h.seated, nextMint, nextPool, hnext, hlasts.given hmeets hmint hpool⟩

/-- Writing another share vault leaves the condition of this one met. -/
theorem Meets.of_write (h : bank.Meets condition home vault) {place : Address}
    (hplace : bank.Houses .shareProgram place) (value : ShareVault Address Bump) :
    (bank.write .shareVault place value).Meets condition home vault := by
  obtain ⟨mint, pool, hissues, hmeets⟩ := h.issues
  exact ⟨h.seated, mint, pool, hissues.of_write hplace value, hmeets⟩

/-- Steps in which the share vault asks for nothing. -/
theorem Upholds.of_steps (h : before.Upholds condition home) (hlasts : condition.Lasts)
    (hsteps : Steps asks before after)
    (hquiet : ∀ vault, before.Meets condition home vault → ¬ asks home) :
    after.Upholds condition home := by
  intro vault hvault
  rw [hsteps.find?_shareVault] at hvault
  have hmeets := h vault hvault
  exact hmeets.of_spares hlasts (hsteps.spares (hquiet vault hmeets))

/-- Writing another share vault upholds the condition of this one. -/
theorem Upholds.of_write (h : bank.Upholds condition home) {place : Address} (hne : home ≠ place)
    (hplace : bank.Houses .shareProgram place) (value : ShareVault Address Bump) :
    (bank.write .shareVault place value).Upholds condition home := by
  intro vault hvault
  rw [find?_write_of_ne _ _ hne] at hvault
  exact (h vault hvault).of_write hplace value

/-- A share vault that was just written. -/
theorem upholds_write (hhome : bank.Houses .shareProgram home)
    (h : bank.Meets condition home next) :
    (bank.write .shareVault home next).Upholds condition home := by
  intro vault hvault
  cases hvault.symm.trans
    (find?_write_of_owner AccountKind.shareVault_lawful next hhome.owner)
  exact h.of_write hhome next

/-- What others do outside the programs upholds a lasting condition. -/
theorem Outside.upholds (h : Outside before after) (hlasts : condition.Lasts)
    (hupholds : before.Upholds condition home) : after.Upholds condition home := by
  intro vault hvault
  rw [h.sameRecords.find? AccountKind.shareVault_lawful] at hvault
  exact (hupholds vault hvault).of_spares hlasts (h.spares home)

end Bank

variable {call : Call} {amount : Amount} {s t : Session} {home : Address} {condition : Condition}

/-! ## Instructions of the share vault program -/

namespace ShareProgram

/-- All other share vaults are spared. -/
theorem Course.upholds_of_ne {before after : Bank} (course : Course call before after)
    (hlasts : condition.Lasts) (hkeys : call.KeysSign) (hne : home ≠ course.place)
    (h : before.Upholds condition home) : after.Upholds condition home := by
  rw [course.ends]
  refine (h.of_steps hlasts course.steps ?_).of_write hne course.houses course.next
  rintro vault hmeets (hsigns | hplace)
  · exact hmeets.seated.not_signs hkeys hsigns
  · exact hne hplace

/-- So it is enough to look at the one that the instruction was called with. -/
theorem Course.upholds {before after : Bank} (course : Course call before after)
    (hlasts : condition.Lasts) (hkeys : call.KeysSign) (h : before.Upholds condition home)
    (hself : home = course.place → after.Upholds condition home) :
    after.Upholds condition home := by
  by_cases hhome : home = course.place
  · exact hself hhome
  · exact course.upholds_of_ne hlasts hkeys hhome h

/-! ### The share vault itself -/

/-- A share vault opens with no shares issued, and meets every lasting condition. -/
theorem OpenShareVaultRun.upholds {rate : Wide} (run : OpenShareVaultRun call rate s t)
    (hlasts : condition.Lasts) : t.bank.Upholds condition (.shareVault run.underlyingMint) := by
  obtain ⟨mint, pool, hissues, hnone⟩ := run.issues
  have hmeets : t.bank.Meets condition (.shareVault run.underlyingMint)
      (openedVault run.admin run.underlyingMint rate) :=
    ⟨⟨rfl, rfl, rfl, rfl, rfl⟩, mint, pool, hissues,
      hlasts.opens (ensure_eq_ok_iff.1 run.accepts) hnone⟩
  intro vault hvault
  rw [run.course.ends] at hvault
  cases hvault.symm.trans (find?_write_of_owner AccountKind.shareVault_lawful run.course.next
    run.course.houses.owner)
  exact hmeets

/-- A deposit adds as much to the pool as it counts. -/
theorem DepositRun.upholds (run : DepositRun call amount s t) (hlasts : condition.Lasts)
    (hkeys : call.KeysSign) (h : s.bank.Upholds condition run.home) :
    t.bank.Upholds condition run.home := by
  have hmeets := h run.vault (find?_of_load run.loads)
  have hopens : Steps (fun _ => False) s.bank run.opened := run.opens.steps
  obtain ⟨mint, pool, hissues, hopened⟩ := (hmeets.of_spares hlasts (hopens.spares id)).issues
  have huser : run.user ≠ run.home := by
    intro heq
    exact hmeets.seated.not_signs hkeys (heq ▸ run.signs)
  obtain ⟨payment⟩ := transfer_run run.pays
  obtain ⟨nextPool, hpaid, hreceived⟩ := hissues.of_receipt huser payment
  have hmints := run.mints
  rw [hmeets.seated.shareMint] at hmints
  obtain ⟨minting⟩ := mint_run hmints
  obtain ⟨nextMint, hminted, hsupply⟩ := hpaid.of_mint (by simp) minting
  rw [run.course.ends]
  exact upholds_write run.course.houses ⟨hmeets.seated.of_same rfl, nextMint, nextPool, hminted,
    hlasts.deposits hopened run.prices (Word.add?_eq_some_iff.1 run.counts) hsupply hreceived⟩

/-- A withdrawal takes no more from the pool than its amount: nothing when it pays the pool. -/
theorem WithdrawRun.upholds (run : WithdrawRun call amount s t) (hlasts : condition.Lasts)
    (h : s.bank.Upholds condition run.home) : t.bank.Upholds condition run.home := by
  have hmeets := h run.vault (find?_of_load run.loads)
  obtain ⟨mint, pool, hissues, hbefore⟩ := hmeets.issues
  have hburns := run.burns
  rw [hmeets.seated.shareMint] at hburns
  obtain ⟨burning⟩ := burn_run hburns
  obtain ⟨nextMint, hburned, hsupply⟩ := hissues.of_burn (by simp) burning
  obtain ⟨payment⟩ := transfer_run run.pays
  obtain ⟨nextPool, hpaid, hpool⟩ := hburned.of_payment payment
  rw [run.course.ends]
  exact upholds_write run.course.houses ⟨hmeets.seated.of_same rfl, nextMint, nextPool, hpaid,
    hlasts.withdrawals hbefore run.prices hsupply hpool⟩

/-- Setting a rate upholds a condition that this rate keeps. -/
theorem SetExchangeRateRun.upholds {rate : Wide} (run : SetExchangeRateRun call rate s t)
    (hkeeps : KeepsCondition condition call s.bank (.setExchangeRate rate))
    (h : s.bank.Upholds condition run.home) : t.bank.Upholds condition run.home := by
  have hfound := find?_of_load run.loads
  have hmeets := h run.vault hfound
  obtain ⟨mint, pool, hissues, hbefore⟩ := hmeets.issues
  rw [run.course.ends]
  exact upholds_write run.course.houses ⟨hmeets.seated.of_same rfl, mint, pool, hissues,
    hkeeps run.positive _ _ mint pool run.vault_role hfound hbefore⟩

end ShareProgram

/-! ## Any instruction -/

/-- Every instruction that goes through upholds a lasting condition, if it sets no rate that breaks
it. -/
theorem upholds_of_run {instruction : Instruction} (hlasts : condition.Lasts)
    (h : Tx.Yields (instruction.run call) s () t) (hkeys : call.KeysSign)
    (hkeeps : KeepsCondition condition call s.bank instruction)
    (hupholds : s.bank.Upholds condition home) : t.bank.Upholds condition home := by
  by_cases hother : instruction.program ≠ .shareProgram
  · -- Another program asks signers and accounts of its own only, and the share vault is neither.
    refine hupholds.of_steps hlasts (steps_of_run hother h) ?_
    rintro vault hmeets (hsigns | howner)
    · exact hmeets.seated.not_signs hkeys hsigns
    · rw [hmeets.owner] at howner
      cases howner
  · cases instruction with
    | openShareVault rate =>
        obtain ⟨run⟩ := ShareProgram.openShareVault_run h
        refine run.course.upholds hlasts hkeys hupholds ?_
        rintro rfl
        exact run.upholds hlasts
    | depositUnderlying amount =>
        obtain ⟨run⟩ := ShareProgram.deposit_run h
        refine run.course.upholds hlasts hkeys hupholds ?_
        rintro rfl
        exact run.upholds hlasts hkeys hupholds
    | withdrawUnderlying amount =>
        obtain ⟨run⟩ := ShareProgram.withdraw_run h
        refine run.course.upholds hlasts hkeys hupholds ?_
        rintro rfl
        exact run.upholds hlasts hupholds
    | setExchangeRate rate =>
        obtain ⟨run⟩ := ShareProgram.setExchangeRate_run h
        refine run.course.upholds hlasts hkeys hupholds ?_
        rintro rfl
        exact run.upholds hkeeps hupholds
    | openFeed _ | setAnswer _ | setStaleness _ | openVault | deposit _ | borrow _ | payback _
    | withdraw _ | liquidate => exact absurd nofun hother

/-! ## Along a run -/

variable {chain start : Chain}

/-- Before any share vault exists every condition is met. -/
theorem Bank.Fresh.upholds {bank : Bank} (h : bank.Fresh) (condition : Condition) (home : Address) :
    bank.Upholds condition home := by
  intro vault hvault
  have howner := h.unowned home
  rw [owner_of_find? AccountKind.shareVault_lawful hvault] at howner
  cases howner

theorem upholds_of_move (hlasts : condition.Lasts) {move : Move} (hallowed : move.Allowed chain)
    (hkeys : move.KeysSign)
    (hkeeps : ∀ instruction passed, move = .transact instruction passed →
      chain.Accepts instruction passed →
      KeepsCondition condition (chain.callOf instruction passed) chain.bank instruction)
    (h : chain.bank.Upholds condition home) : (chain.after move).bank.Upholds condition home := by
  cases move with
  | clock now => exact h
  | outside bank => exact hallowed.upholds hlasts h
  | transact instruction passed =>
      by_cases haccepts : chain.Accepts instruction passed
      · obtain ⟨t, hyields, hafter⟩ := Chain.yields_of_accepts haccepts
        rw [hafter]
        exact upholds_of_run hlasts hyields (hkeys chain) (hkeeps instruction passed rfl haccepts) h
      · rw [Chain.after_eq_of_refused haccepts]
        exact h

/-- A condition that every rate keeps is met by every share vault, whatever happened before. -/
theorem upholds_of_chain_run {moves : List Move} (hlasts : condition.Lasts)
    (hrate : ∀ {vault mint pool} {rate : Wide}, 0 < rate.toNat → condition vault mint pool →
      condition { vault with exchangeRate := rate } mint pool)
    (hfresh : start.bank.Fresh) (run : start.Run moves chain)
    (hkeys : ∀ move ∈ moves, move.KeysSign) (home : Address) :
    chain.bank.Upholds condition home := by
  induction run with
  | nil => exact hfresh.upholds condition home
  | snoc run move allowed ih =>
      refine upholds_of_move hlasts allowed (hkeys move (by simp)) ?_
        (ih fun earlier hearlier => hkeys earlier (by simp [hearlier]))
      rintro instruction passed - -
      cases instruction with
      | setExchangeRate rate => exact fun hpositive _ _ _ _ _ _ => hrate hpositive
      | openFeed _ | setAnswer _ | setStaleness _ | openVault | deposit _ | borrow _ | payback _
      | withdraw _ | liquidate | openShareVault _ | depositUnderlying _ | withdrawUnderlying _ =>
          trivial

end CollateralLending
