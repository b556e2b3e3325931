/-
  CollateralLending.Lending.Ledger

  The records of all accounts. A ledger is a table: accounts without an entry
  have the zero record, and an account whose record falls back to zero drops
  out, so the ledger lists exactly the open positions in the order of their
  keys.
-/
import CollateralLending.Table
import CollateralLending.Lending.Record

namespace CollateralLending

/-- The records of all accounts, by key. -/
abbrev Ledger (K : Type) [Ord K] := Table K Record

namespace Ledger

variable {K : Type} [Ord K]

/-- The accounts whose record is not zero, by ascending key. -/
def positions (ledger : Ledger K) : List (K × Record) := ledger.entries

/-- All collateral on deposit. -/
def totalDeposited (ledger : Ledger K) : Nat := ledger.sum fun _ record => record.deposited.toNat

/-- All debt outstanding. -/
def totalBorrowed (ledger : Ledger K) : Nat := ledger.sum fun _ record => record.debt.toNat

variable [Std.TransOrd K] [Std.LawfulEqOrd K]

/-- Changes the record of one account; when the change is refused the ledger stays as it was. -/
def update (ledger : Ledger K) (account : K) (change : Record → Except LendingError Record) :
    Except LendingError (Ledger K) :=
  (change (ledger.get account)).map (ledger.set account)

/-- Adds to the deposit of one account. -/
def raiseDeposit (ledger : Ledger K) (account : K) (delta : Amount) :
    Except LendingError (Ledger K) :=
  ledger.update account (·.raiseDeposit delta)

/-- Takes from the deposit of one account. -/
def lowerDeposit (ledger : Ledger K) (account : K) (delta : Amount) :
    Except LendingError (Ledger K) :=
  ledger.update account (·.lowerDeposit delta)

/-- Adds to the debt of one account. -/
def raiseDebt (ledger : Ledger K) (account : K) (delta : Amount) :
    Except LendingError (Ledger K) :=
  ledger.update account (·.raiseDebt delta)

/-- Takes from the debt of one account. -/
def lowerDebt (ledger : Ledger K) (account : K) (delta : Amount) :
    Except LendingError (Ledger K) :=
  ledger.update account (·.lowerDebt delta)

end Ledger

end CollateralLending
