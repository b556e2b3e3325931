/-
  CollateralLending.Lending.Record

  What one account has deposited and owes, and the four ways to change it.
  Every change is checked: it either yields the changed record or an error.
-/
import CollateralLending.Word
import CollateralLending.Error

namespace CollateralLending

/-- The collateral deposited and the debt owed by one account. -/
@[ext]
structure Record where
  /-- Collateral deposited. -/
  deposited : Amount
  /-- Debt owed. -/
  debt : Amount
deriving DecidableEq

namespace Record

/-- The record of an account that never did anything. -/
def zero : Record := ⟨.zero, .zero⟩

instance : Inhabited Record := ⟨zero⟩

/-- Nothing is deposited and nothing is owed. -/
def isEmpty (record : Record) : Bool := record.deposited.toNat == 0 && record.debt.toNat == 0

/-- Adds to the deposit. -/
def raiseDeposit (record : Record) (delta : Amount) : Except LendingError Record :=
  (someOr (record.deposited.add? delta) .mathOverflow).map fun sum =>
    { record with deposited := sum }

/-- Takes from the deposit. -/
def lowerDeposit (record : Record) (delta : Amount) : Except LendingError Record :=
  (someOr (record.deposited.sub? delta) .underflow).map fun rest =>
    { record with deposited := rest }

/-- Adds to the debt. -/
def raiseDebt (record : Record) (delta : Amount) : Except LendingError Record :=
  (someOr (record.debt.add? delta) .mathOverflow).map fun sum => { record with debt := sum }

/-- Takes from the debt. -/
def lowerDebt (record : Record) (delta : Amount) : Except LendingError Record :=
  (someOr (record.debt.sub? delta) .underflow).map fun rest => { record with debt := rest }

@[simp] theorem default_eq_zero : (default : Record) = zero := rfl

/-- An empty record is the one that a ledger drops. -/
theorem isEmpty_iff {record : Record} : record.isEmpty = true ↔ record = zero := by
  simp [isEmpty, Record.ext_iff, Word.ext_iff, zero]

end Record

end CollateralLending
