/-
  CollateralLending.Proofs.Feed.Frame

  Only the feed program writes price feeds. What the other programs do leaves
  every feed as it was, whichever accounts they are called with: they write
  records of their own, and what they ask of others moves lamports and tokens.

  Main statement: `sameFeeds_of_run`.
-/
import CollateralLending.Proofs.Chain.Steps
import CollateralLending.Proofs.Lending.Effect

namespace CollateralLending

open Bank

/-! ## What leaves the feeds alone -/

namespace Bank

variable {before middle after bank : Bank} {address : Address}

/-- Every account holds the same price feed, or none. -/
def SameFeeds (before after : Bank) : Prop :=
  ∀ a, after.find? .feed a = before.find? .feed a

theorem SameFeeds.trans (h₁ : SameFeeds before middle) (h₂ : SameFeeds middle after) :
    SameFeeds before after := fun a => (h₂ a).trans (h₁ a)

/-- Feeds are records, so where no record changes, no feed does. -/
theorem SameRecords.sameFeeds (h : SameRecords before after) : SameFeeds before after :=
  fun a => h.find? AccountKind.feed_lawful a

/-- A program writes no feeds but its own. -/
theorem sameFeeds_write {α : Type} (kind : AccountKind α) (value : α)
    (howner : (bank.get address).owner = kind.program) (hother : kind.program ≠ .feedProgram) :
    SameFeeds bank (bank.write kind address value) := fun a =>
  find?_write_of_program AccountKind.feed_lawful value howner hother a

/-- A vault and a position that are written back are no feeds. -/
theorem sameFeeds_writes {home owner : Address} {vault : Vault Address Bump}
    {position : UserPosition Address Bump} (hvault : (bank.get home).owner = .lendingProgram)
    (hposition : (bank.get (.position home owner)).owner = .lendingProgram) :
    SameFeeds bank ((bank.write .vault home vault).write .position (.position home owner)
      position) := by
  refine (sameFeeds_write .vault vault hvault (by decide)).trans ?_
  refine sameFeeds_write .position position ?_ (by decide)
  exact (sameFrame_write bank .vault home vault _).owner.trans hposition

end Bank

/-! ## Instructions -/

variable {call : Call} {amount : Amount} {s t : Session}

namespace LendingProgram

/-- Making the account of a position writes no record into it yet. -/
theorem Opens.sameRecords {user home : Address} {bank opened : Bank}
    {position : UserPosition Address Bump} (h : Opens call user home bank opened position) :
    SameRecords bank opened := by
  cases h with
  | fresh made => exact (made_of_establish made).sameRecords
  | known loads => exact .refl bank

/-- An operation writes a vault and a position. -/
theorem Visit.sameFeeds (visit : Visit call s t) (hmoved : SameRecords visit.opened visit.moved)
    (howner : ∀ a, (visit.moved.get a).owner = (visit.opened.get a).owner) :
    SameFeeds s.bank t.bank := by
  obtain ⟨hsteps, hposition⟩ :
      Steps (fun _ => False) s.bank visit.opened ∧ _ := visit.opens.steps
  have hvault := hsteps.houses rfl (houses_of_load AccountKind.vault_lawful visit.loads)
  rw [visit.ends]
  exact (visit.opens.sameRecords.trans hmoved).sameFeeds.trans
    (sameFeeds_writes ((howner _).trans hvault.owner) ((howner _).trans hposition.owner))

theorem LiquidateRun.sameFeeds (run : LiquidateRun call s t) : SameFeeds s.bank t.bank := by
  rw [run.ends]
  exact sameFeeds_writes (houses_of_load AccountKind.vault_lawful run.loads).owner
    (houses_of_load AccountKind.position_lawful run.position_loads).owner

/-- Opening a vault makes its pools and writes the vault. -/
theorem OpenVaultRun.sameFeeds (run : OpenVaultRun call s t) : SameFeeds s.bank t.bank := by
  have hmade := made_of_establish run.makes
  have hpooled := made_of_establish run.makes_pool
  have hpaid := paid_of_reserves run.reserves
  have hsame : SameRecords s.bank run.reserved :=
    hmade.sameRecords.trans (hpooled.sameRecords.trans
      ((sameRecords_put hpooled.owner).trans hpaid.sameRecords))
  rw [run.ends]
  refine hsame.sameFeeds.trans (sameFeeds_write .vault _ ?_ (by decide))
  rw [hpaid.owner, Tokens.openAccount, owner_put, hpooled.owner_of_ne (by simp)]
  exact hmade.owner

end LendingProgram

namespace ShareProgram

/-- Opening a share vault makes its mint and its pool and writes the share vault. -/
theorem OpenShareVaultRun.sameFeeds {rate : Wide} (run : OpenShareVaultRun call rate s t) :
    SameFeeds s.bank t.bank := by
  have hmade := made_of_establish run.makes
  have hminted := made_of_establish run.makes_mint
  have hpooled := made_of_establish run.makes_pool
  have hsame : SameRecords s.bank run.opened :=
    hmade.sameRecords.trans (hminted.sameRecords.trans ((sameRecords_put hminted.owner).trans
      (hpooled.sameRecords.trans (sameRecords_put hpooled.owner))))
  rw [run.bank_eq]
  exact hsame.sameFeeds.trans
    (sameFeeds_write .shareVault _ run.houses_opened.owner (by decide))

/-- Tokens move, and then the share vault is written. -/
theorem Visit.sameFeeds (visit : Visit call s) {bank : Bank} (hsame : SameRecords s.bank bank)
    (next : ShareVault Address Bump) :
    SameFeeds s.bank (bank.write .shareVault visit.home next) := by
  have hvault : bank.find? .shareVault visit.home = some visit.vault := by
    rw [hsame.find? AccountKind.shareVault_lawful]
    exact find?_of_load visit.loads
  exact hsame.sameFeeds.trans (sameFeeds_write .shareVault next
    (owner_of_find? AccountKind.shareVault_lawful hvault) (by decide))

theorem DepositRun.sameFeeds (run : DepositRun call amount s t) : SameFeeds s.bank t.bank := by
  have hmoved := (retokened_of_transfer run.pays).trans (retokened_of_mintTo run.mints)
  rw [run.ends]
  exact run.toVisit.sameFeeds (run.opens.sameRecords.trans hmoved.sameRecords) _

theorem WithdrawRun.sameFeeds (run : WithdrawRun call amount s t) : SameFeeds s.bank t.bank := by
  have hmoved := (retokened_of_burn run.burns).trans (retokened_of_transfer run.pays)
  rw [run.ends]
  exact run.toVisit.sameFeeds hmoved.sameRecords _

theorem SetExchangeRateRun.sameFeeds {rate : Wide} (run : SetExchangeRateRun call rate s t) :
    SameFeeds s.bank t.bank := by
  rw [run.ends]
  exact sameFeeds_write .shareVault _
    (owner_of_find? AccountKind.shareVault_lawful (find?_of_load run.loads)) (by decide)

end ShareProgram

/-- An instruction of another program leaves the feeds alone. -/
theorem sameFeeds_of_run {instruction : Instruction} (hprogram : instruction.program ≠ .feedProgram)
    (hyields : Tx.Yields (instruction.run call) s () t) : SameFeeds s.bank t.bank := by
  -- Each of the other instructions writes records of its own kind only.
  cases instruction with
  | openFeed terms => exact absurd rfl hprogram
  | setAnswer rate => exact absurd rfl hprogram
  | setStaleness isStale => exact absurd rfl hprogram
  | openVault =>
      obtain ⟨run⟩ := LendingProgram.openVault_run hyields
      exact run.sameFeeds
  | deposit amount =>
      obtain ⟨run⟩ := LendingProgram.deposit_run hyields
      have hpaid := (paid_of_transfer run.pays).2.2
      exact run.toVisit.sameFeeds hpaid.sameRecords hpaid.owner
  | borrow amount =>
      obtain ⟨run⟩ := LendingProgram.borrow_run hyields
      have hmoved := retokened_of_transfer run.pays
      exact run.toVisit.sameFeeds hmoved.sameRecords hmoved.owner
  | payback amount =>
      obtain ⟨run⟩ := LendingProgram.payback_run hyields
      have hmoved := retokened_of_transfer run.pays
      exact run.toVisit.sameFeeds hmoved.sameRecords hmoved.owner
  | withdraw amount =>
      obtain ⟨run⟩ := LendingProgram.withdraw_run hyields
      have hpaid := (paid_of_transfer run.pays).2.2
      exact run.toVisit.sameFeeds hpaid.sameRecords hpaid.owner
  | liquidate =>
      obtain ⟨run⟩ := LendingProgram.liquidate_run hyields
      exact run.sameFeeds
  | openShareVault rate =>
      obtain ⟨run⟩ := ShareProgram.openShareVault_run hyields
      exact run.sameFeeds
  | depositUnderlying amount =>
      obtain ⟨run⟩ := ShareProgram.deposit_run hyields
      exact run.sameFeeds
  | withdrawUnderlying amount =>
      obtain ⟨run⟩ := ShareProgram.withdraw_run hyields
      exact run.sameFeeds
  | setExchangeRate rate =>
      obtain ⟨run⟩ := ShareProgram.setExchangeRate_run hyields
      exact run.sameFeeds

end CollateralLending
