/-
  CollateralLending.Proofs.Lending.Authority

  Who can change what the books say. A record changes in two ways only: its
  owner signs an operation on the vault, or the vault's admin signs a
  liquidation while the feed of the vault quotes a price at which the deposit
  does not cover the debt. No move changes on what terms a vault was opened,
  and seized collateral is never given back.

  Whose addresses were passed and who else signed does not matter; in
  particular nothing here asks that only keys sign.
-/
import CollateralLending.Proofs.Lending.Reached

namespace CollateralLending

open Bank

variable {call : Call} {before after : Bank} {chain start : Chain}

/-- A call that a user makes on its own position in a vault. -/
structure Call.ByOwner (call : Call) (instruction : Instruction) (home owner : Address) : Prop where
  operation : instruction.isOperation = true
  vault_role : call.address? .vault = some home
  user_role : call.address? .user = some owner
  signs : call.signs owner = true

/-- A call that the admin of a vault makes on a record which its deposit does not cover at the fresh
answer of the vault's feed. -/
structure Call.ByAdmin (call : Call) (bank : Bank) (instruction : Instruction) (home : Address)
    (record : Record) (vault : Vault Address Bump) (feed : PriceFeed Address Bump) : Prop where
  liquidation : instruction = .liquidate
  vault_role : call.address? .vault = some home
  vault_loads : bank.find? .vault home = some vault
  signs : call.signs vault.admin = true
  feed_loads : bank.find? .feed vault.priceFeed = some feed
  fresh : feed.answer.isStaleAt call.now = false
  uncovered : record.deposited.toNat <
    record.debt.toNat * feed.answer.rate.raw.toNat / 10 ^ feed.answer.rate.decimals.toNat

/-- A price that is quoted is the one published, and it is not stale. -/
theorem FeedAnswer.fresh_of_quote {answer : FeedAnswer} {now : Seconds} {quote : Quote}
    (h : (answer.snapshot now).currentQuote.result = .ok quote) :
    answer.isStaleAt now = false ∧ answer.rate = quote.rate := by
  have hanswer := Oracle.currentQuote_eq_ok_iff.1 h
  unfold FeedAnswer.snapshot at hanswer
  simp only [Oracle.answers.injEq, RawQuote.mk.injEq] at hanswer
  exact ⟨hanswer.2, hanswer.1⟩

/-- From what an instruction did to the books, who asked for it. -/
theorem Effect.byOwner_or_byAdmin {instruction : Instruction}
    (h : Effect call before after instruction) {home owner : Address}
    (hchange : after.record home owner ≠ before.record home owner) :
    call.ByOwner instruction home owner ∨
      ∃ vault feed, call.ByAdmin before instruction home (before.record home owner) vault feed := by
  cases h with
  | aside other aside => exact absurd (aside.books.record home owner) hchange
  | opens role signs opening pool =>
      refine absurd ?_ hchange
      unfold Bank.record
      rw [opening.positions]
  | @operates _ place user found totals record operation role user_role signs tracks posting pool =>
      by_cases hsame : home = place ∧ owner = user
      · -- The record that an operation posts is the one of its own caller.
        obtain ⟨rfl, rfl⟩ := hsame
        exact .inl ⟨operation, role, user_role, signs⟩
      · rw [posting.record, if_neg hsame] at hchange
        exact absurd rfl hchange
  | @liquidates place holder found feed quote totals seized role signs feed_loads quotes uncovered
      tracks seizes posting pools =>
      by_cases hsame : home = place ∧ owner = holder
      · obtain ⟨rfl, rfl⟩ := hsame
        obtain ⟨hfresh, hrate⟩ := FeedAnswer.fresh_of_quote quotes
        rw [Quote.toNat_wide, ← hrate] at uncovered
        exact .inr ⟨found, feed, rfl, role, posting.vault_before, signs, feed_loads, hfresh,
          uncovered⟩
      · rw [posting.record, if_neg hsame] at hchange
        exact absurd rfl hchange

/-- A vault that is there stays there, on the terms on which it was opened. -/
theorem Effect.keeps_terms {instruction : Instruction} (h : Effect call before after instruction)
    {home : Address} {vault : Vault Address Bump} (hvault : before.find? .vault home = some vault) :
    ∃ totals seized, vault.seizedCollateral.toNat ≤ seized.toNat ∧
      after.find? .vault home =
        some { vault with totals := totals, seizedCollateral := seized } := by
  have hsame : after.find? .vault home = before.find? .vault home →
      ∃ totals seized, vault.seizedCollateral.toNat ≤ seized.toNat ∧
        after.find? .vault home =
          some { vault with totals := totals, seizedCollateral := seized } := by
    intro hbook
    exact ⟨vault.totals, vault.seizedCollateral, Nat.le_refl _, hbook.trans hvault⟩
  cases h with
  | aside other aside => exact hsame (aside.books.vaults home)
  | opens role signs opening pool =>
      apply hsame
      apply opening.vaults home
      intro heq
      rw [heq, opening.free] at hvault
      cases hvault
  | @operates _ place user found totals record operation role user_role signs tracks posting pool =>
      by_cases hhome : home = place
      · subst hhome
        cases hvault.symm.trans posting.vault_before
        exact ⟨totals, vault.seizedCollateral, Nat.le_refl _, posting.vault_after⟩
      · exact hsame (posting.vaults home hhome)
  | @liquidates place holder found feed quote totals seized role signs feed_loads quotes uncovered
      tracks seizes posting pools =>
      by_cases hhome : home = place
      · subst hhome
        cases hvault.symm.trans posting.vault_before
        exact ⟨totals, seized, by omega, posting.vault_after⟩
      · exact hsame (posting.vaults home hhome)

/-- In every reached state, whatever the next move is: a record, which is the one that the
position of its owner holds, changes only by a transaction that its owner signs, or by a
liquidation that the admin of the vault signs while the feed bound to the vault is fresh and
quotes the debt above the deposit. Vaults keep everything but their totals and their seized
collateral, which never shrinks. -/
theorem record_change_has_authority {moves : List Move} (hfresh : start.bank.Fresh)
    (run : Chain.Run start moves chain) {move : Move} (hallowed : move.Allowed chain) :
    (∀ a position, chain.bank.find? .position a = some position →
      chain.bank.record position.vault position.owner = position.record) ∧
    (∀ home owner, (chain.after move).bank.record home owner ≠ chain.bank.record home owner →
      ∃ instruction passed, move = .transact instruction passed ∧
        chain.Accepts instruction passed ∧
        ((chain.callOf instruction passed).ByOwner instruction home owner ∨
          ∃ vault feed, (chain.callOf instruction passed).ByAdmin chain.bank instruction home
            (chain.bank.record home owner) vault feed)) ∧
    ∀ home vault, chain.bank.find? .vault home = some vault →
      ∃ totals seized, vault.seizedCollateral.toNat ≤ seized.toNat ∧
        (chain.after move).bank.find? .vault home =
          some { vault with totals := totals, seizedCollateral := seized } := by
  have horderly := orderly_of_run hfresh run
  refine ⟨fun a position hposition => horderly.record_eq hposition, ?_⟩
  rcases effect_of_move horderly hallowed with hpaid | ⟨instruction, passed, rfl, heffect⟩
  · constructor
    · intro home owner hchange
      exact absurd (hpaid.books.record home owner) hchange
    · intro home vault hvault
      exact ⟨vault.totals, vault.seizedCollateral, Nat.le_refl _,
        (hpaid.books.vaults home).trans hvault⟩
  · constructor
    · intro home owner hchange
      -- A transaction that is refused changes nothing.
      have haccepts : chain.Accepts instruction passed := by
        apply Classical.byContradiction
        intro hrefused
        rw [Chain.after_eq_of_refused hrefused] at hchange
        exact hchange rfl
      exact ⟨instruction, passed, rfl, haccepts, heffect.byOwner_or_byAdmin hchange⟩
    · intro home vault hvault
      exact heffect.keeps_terms hvault

theorem first_deposit_has_authority :
    FirstDeposit.reached.bank.record FirstDeposit.home FirstDeposit.user ≠
        FirstDeposit.opened.bank.record FirstDeposit.home FirstDeposit.user ∧
      ∃ instruction passed, FirstDeposit.deposit = .transact instruction passed ∧
        (FirstDeposit.opened.callOf instruction passed).ByOwner instruction FirstDeposit.home
          FirstDeposit.user := by
  have hallowed : FirstDeposit.deposit.Allowed FirstDeposit.opened := trivial
  have hauthority := record_change_has_authority FirstDeposit.start_fresh FirstDeposit.opened_run
    hallowed
  obtain ⟨instruction, passed, hmove, -, hsigned⟩ := hauthority.2.1 _ _ FirstDeposit.record_ne
  refine ⟨FirstDeposit.record_ne, instruction, passed, hmove, ?_⟩
  rcases hsigned with howner | ⟨vault, feed, hadmin⟩
  · exact howner
  · cases hmove
    cases hadmin.liquidation

end CollateralLending
