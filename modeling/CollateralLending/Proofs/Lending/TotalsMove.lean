/-
  CollateralLending.Proofs.Lending.TotalsMove

  How the totals of a vault follow a record, and what is left of them where they
  cannot. The deposits are moved before the debt is looked at. So a move that
  fails at the debt has moved the deposits already, and it is all or nothing
  only where the deposits fail or stay as they are.

  An instruction that fails at the totals stores nothing of what they became:
  it writes the vault back after the whole move went through, and fails with
  the error of the move otherwise.

  Main statement: `totals_move_deposits_first`.
-/
import CollateralLending.Proofs.Lending.Stops
import CollateralLending.Proofs.Lending.Settlements

namespace CollateralLending

/-! ## One total -/

/-- The total has the old part in it, and without that it has room for the new one. -/
structure Amount.Replaceable (total before after : Amount) : Prop where
  enough : before.toNat ≤ total.toNat
  room : total.toNat - before.toNat + after.toNat < 2 ^ (64 : Nat)

theorem Amount.exists_replace_iff {total before after : Amount} :
    (∃ replaced, Amount.replace total before after = .ok replaced) ↔
      Amount.Replaceable total before after := by
  simp only [Amount.replace_eq_ok_iff]
  constructor
  · rintro ⟨replaced, henough, hsum⟩
    have hlt := replaced.lt
    exact ⟨henough, by omega⟩
  · rintro ⟨henough, hroom⟩
    refine ⟨⟨_, hroom⟩, henough, ?_⟩
    simp only
    omega

/-- Replacing fails with an overflow when the part is not in the total, or the result is no
amount. -/
theorem Amount.replace_eq_error_iff {total before after : Amount} {error : LendingError} :
    Amount.replace total before after = .error error ↔
      ¬ Amount.Replaceable total before after ∧ error = .mathOverflow := by
  rw [← Amount.exists_replace_iff]
  constructor
  · intro h
    have hrefused := someOr_eq_error_iff.1 h
    refine ⟨?_, hrefused.2.symm⟩
    rintro ⟨replaced, hreplaced⟩
    rw [hreplaced] at h
    cases h
  · rintro ⟨hrefused, rfl⟩
    obtain ⟨error, herror⟩ := exists_error_iff.2 hrefused
    rw [herror, (someOr_eq_error_iff.1 herror).2]

/-! ## Both totals -/

namespace Totals

variable {totals : Totals} {before after : Record} {error : LendingError}

/-- The deposits have changed by what the record's deposit has. -/
def DepositsFollow (totals moved : Totals) (before after : Record) : Prop :=
  (moved.deposited.toNat : Int) - totals.deposited.toNat =
    after.deposited.toNat - before.deposited.toNat

/-- The debts have changed by what the record's debt has. -/
def DebtsFollow (totals moved : Totals) (before after : Record) : Prop :=
  (moved.borrowed.toNat : Int) - totals.borrowed.toNat = after.debt.toNat - before.debt.toNat

/-- A move ends at the deposits, or at the debts with the deposits moved, or when it is done. -/
theorem move_cases (totals : Totals) (before after : Record) :
    (¬ Amount.Replaceable totals.deposited before.deposited after.deposited ∧
      totals.move before after = (totals, .error .mathOverflow)) ∨
    (Amount.Replaceable totals.deposited before.deposited after.deposited ∧
      ((¬ Amount.Replaceable totals.borrowed before.debt after.debt ∧
          ∃ moved, totals.DepositsFollow moved before after ∧ moved.borrowed = totals.borrowed ∧
            totals.move before after = (moved, .error .mathOverflow)) ∨
        (Amount.Replaceable totals.borrowed before.debt after.debt ∧
          (totals.move before after).2 = .ok ()))) := by
  unfold move
  cases hdeposited : Amount.replace totals.deposited before.deposited after.deposited with
  | error error =>
      obtain ⟨hrefused, rfl⟩ := Amount.replace_eq_error_iff.1 hdeposited
      exact .inl ⟨hrefused, rfl⟩
  | ok deposited =>
      obtain ⟨-, hsum⟩ := Amount.replace_eq_ok_iff.1 hdeposited
      refine .inr ⟨Amount.exists_replace_iff.1 ⟨_, hdeposited⟩, ?_⟩
      cases hborrowed : Amount.replace totals.borrowed before.debt after.debt with
      | error error =>
          obtain ⟨hrefused, rfl⟩ := Amount.replace_eq_error_iff.1 hborrowed
          refine .inl ⟨hrefused, { totals with deposited }, ?_, rfl, rfl⟩
          unfold DepositsFollow
          simp only
          omega
      | ok borrowed => exact .inr ⟨Amount.exists_replace_iff.1 ⟨_, hborrowed⟩, rfl⟩

theorem move_goes_through_iff :
    (totals.move before after).2 = .ok () ↔
      Amount.Replaceable totals.deposited before.deposited after.deposited ∧
        Amount.Replaceable totals.borrowed before.debt after.debt := by
  rcases totals.move_cases before after with
    ⟨hrefused, heq⟩ | ⟨hdeposits, ⟨hrefused, moved, -, -, heq⟩ | ⟨hdebts, heq⟩⟩
  · simp [heq, hrefused]
  · simp [heq, hrefused]
  · simp [heq, hdeposits, hdebts]

theorem follows_of_move (h : (totals.move before after).2 = .ok ()) :
    totals.DepositsFollow (totals.move before after).1 before after ∧
      totals.DebtsFollow (totals.move before after).1 before after := by
  have hmoved : totals.move before after = ((totals.move before after).1, .ok ()) := Prod.ext rfl h
  obtain ⟨⟨-, hdeposits⟩, -, hdebts⟩ := move_eq_ok_iff.1 hmoved
  constructor
  · unfold DepositsFollow
    omega
  · unfold DebtsFollow
    omega

/-- Totals whose deposits follow a record that keeps its deposit have kept theirs. -/
theorem DepositsFollow.eq_iff {moved : Totals} (h : totals.DepositsFollow moved before after)
    (hborrowed : moved.borrowed = totals.borrowed) :
    moved = totals ↔ before.deposited = after.deposited := by
  unfold DepositsFollow at h
  simp only [Totals.ext_iff, Word.ext_iff, hborrowed, and_true]
  omega

/-- What a move that failed leaves behind. -/
theorem move_of_error (h : (totals.move before after).2 = .error error) :
    error = .mathOverflow ∧ (totals.move before after).1.borrowed = totals.borrowed ∧
      (Amount.Replaceable totals.deposited before.deposited after.deposited →
        totals.DepositsFollow (totals.move before after).1 before after) ∧
      ((totals.move before after).1 = totals ↔
        (Amount.Replaceable totals.deposited before.deposited after.deposited →
          before.deposited = after.deposited)) := by
  rcases totals.move_cases before after with
    ⟨hrefused, heq⟩ | ⟨hroom, ⟨-, moved, hdeposits, hborrowed, heq⟩ | ⟨-, heq⟩⟩
  · rw [heq] at h ⊢
    cases h
    exact ⟨rfl, rfl, fun hroom => absurd hroom hrefused,
      fun _ hroom => absurd hroom hrefused, fun _ => rfl⟩
  · rw [heq] at h ⊢
    cases h
    refine ⟨rfl, hborrowed, fun _ => hdeposits, ?_⟩
    rw [hdeposits.eq_iff hborrowed]
    exact ⟨fun hsame _ => hsame, fun hsame => hsame hroom⟩
  · rw [heq] at h
    cases h

end Totals

/-! ## In a vault -/

/-- The vault with its totals moved as far as they go. -/
def Vault.tracked {K B : Type} (vault : Vault K B) (before after : Record) : Vault K B :=
  { vault with totals := (vault.totals.move before after).1 }

/-- An instruction writes the vault and the position back when all of the move went through. -/
theorem LendingProgram.yields_conclude {site : Site} {next : Record} {s t : Session} {u : Unit} :
    Tx.Yields (conclude site next) s u t ↔
      (site.vault.value.totals.move site.position.value.record next).2 = .ok () ∧
      t = { s with
        bank := (s.bank.write .vault site.vault.address
          (site.vault.value.tracked site.position.value.record next)).write .position
            site.position.address { site.position.value with record := next } } := by
  unfold conclude Vault.tracked
  cases site.vault.value.totals.move site.position.value.record next with
  | mk totals tracked =>
      simp only [Tx.yields_bind, Tx.yields_liftCause, Tx.yields_save, mapError_eq_ok_iff]
      constructor
      · rintro ⟨_, _, ⟨rfl, rfl⟩, _, _, rfl, rfl⟩
        exact ⟨rfl, rfl⟩
      · rintro ⟨rfl, rfl⟩
        exact ⟨(), s, ⟨rfl, rfl⟩, (), _, rfl, rfl⟩

/-- The totals of a vault follow a record exactly where each of them has the old part in it and room
for the new one, and no more of the vault changes. Where they cannot follow, the error is an
overflow and the debts stay; but the deposits, where they can, have been moved already, so the
totals are as they were only if the deposits cannot follow either or need not. An operation of a
user stores the vault after the whole move and not otherwise. -/
theorem totals_move_deposits_first (vault : Vault Address Bump) (before after : Record) :
    ((vault.totals.move before after).2 = .ok () ↔
      Amount.Replaceable vault.totals.deposited before.deposited after.deposited ∧
        Amount.Replaceable vault.totals.borrowed before.debt after.debt) ∧
    ((vault.totals.move before after).2 = .ok () →
      vault.totals.DepositsFollow (vault.tracked before after).totals before after ∧
        vault.totals.DebtsFollow (vault.tracked before after).totals before after) ∧
    { vault.tracked before after with totals := vault.totals } = vault ∧
    (∀ error, (vault.totals.move before after).2 = .error error →
      error = .mathOverflow ∧ (vault.tracked before after).totals.borrowed = vault.totals.borrowed ∧
      (Amount.Replaceable vault.totals.deposited before.deposited after.deposited →
        vault.totals.DepositsFollow (vault.tracked before after).totals before after) ∧
      (vault.tracked before after = vault ↔
        (Amount.Replaceable vault.totals.deposited before.deposited after.deposited →
          before.deposited = after.deposited))) ∧
    ∀ (site : LendingProgram.Site) (s : Session),
      site.vault.value = vault → site.position.value.record = before →
      (∀ u t, Tx.Yields (LendingProgram.conclude site after) s u t ↔
        (vault.totals.move before after).2 = .ok () ∧
        t = { s with
          bank := (s.bank.write .vault site.vault.address (vault.tracked before after)).write
            .position site.position.address { site.position.value with record := after } }) ∧
      ∀ error, Tx.Refuses (LendingProgram.conclude site after) s error ↔
        (vault.totals.move before after).2 = .error error := by
  refine ⟨Totals.move_goes_through_iff, Totals.follows_of_move, rfl, fun error h => ?_, ?_⟩
  · obtain ⟨hcause, hborrowed, hdeposits, hsame⟩ := Totals.move_of_error h
    refine ⟨hcause, hborrowed, hdeposits, ?_⟩
    rw [← hsame, Vault.tracked, Vault.ext_iff]
    simp only [true_and, and_true]
  · rintro site s rfl rfl
    exact ⟨fun _ _ => LendingProgram.yields_conclude, fun _ => LendingProgram.refuses_conclude⟩

/-- A vault whose only position has ten units on deposit. It owes five, but three are in the total.
-/
def shortOfDebt : Vault Address Bump :=
  { LendingProgram.openedVault (.named "admin") (.named "gld") (.feed (.named "oracle") .zero) with
    totals := ⟨.units 10, .units 3⟩ }

/-- Clearing the position fails at the debt and takes its deposit out of the total all the same. -/
theorem failed_move_takes_deposit :
    shortOfDebt.totals.move ⟨.units 10, .units 5⟩ .zero =
        (⟨.zero, .units 3⟩, .error .mathOverflow) ∧
      (shortOfDebt.tracked ⟨.units 10, .units 5⟩ .zero).totals ≠ shortOfDebt.totals := by
  have hmove : shortOfDebt.totals.move ⟨.units 10, .units 5⟩ .zero =
      (⟨.zero, .units 3⟩, .error .mathOverflow) := rfl
  refine ⟨hmove, ?_⟩
  unfold Vault.tracked
  rw [hmove]
  decide

end CollateralLending
