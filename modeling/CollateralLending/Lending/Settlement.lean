/-
  CollateralLending.Lending.Settlement

  The rules of lending, as functions of one account's record. Each settles one
  operation: it makes every check the operation needs and yields the record as
  it has to look afterwards, without moving anything. Whoever calls it moves
  the assets first and stores the record after that.

  Operations that depend on a price take one quote at their start. Deposits
  need none, and a withdrawal needs one only when the account owes something.
-/
import CollateralLending.Lending.Record
import CollateralLending.Price.Oracle

namespace CollateralLending

/-- The outcome of a deposit, borrow, payback or withdrawal. -/
structure Settlement where
  /-- The record after the operation. -/
  next : Record
  /-- The collateral value of the debt that the operation moves; zero when it needs no price. -/
  collateralEquivalent : Amount
deriving DecidableEq

/-- The outcome of a liquidation. -/
structure Liquidation where
  /-- The deposit that is taken over. -/
  seizedCollateral : Amount
  /-- The debt that is wiped. -/
  clearedDebt : Amount
deriving DecidableEq

namespace Record

/-- Whether the collateral value of the debt exceeds the deposit. -/
def isUndercollateralized (record : Record) (quote : Quote) : Bool :=
  decide (record.deposited.toNat < (quote.wide record.debt).toNat)

/-- `isUndercollateralized` for a rate that was not validated, when its scale fits. -/
def isUndercollateralizedAt? (record : Record) (rate : FixedRate) : Option Bool :=
  (rate.wide? record.debt).map fun value => decide (record.deposited.toNat < value.toNat)

/-! ## Operations -/

/-- Amounts of zero are refused. -/
def ensurePositive (amount : Amount) : Except LendingError Unit :=
  ensure (0 < amount.toNat) LendingError.invalidAmount

/-- Settles a deposit: the deposit grows. -/
def deposit (record : Record) (amount : Amount) : Except LendingError Settlement := do
  ensurePositive amount
  let next ← record.raiseDeposit amount
  return ⟨next, .zero⟩

/-- Settles a borrow: the debt grows, and the collateral has to cover all of it. The combined debt
is valued in one conversion, because the rounded values of its parts could add up to less. -/
def borrow (record : Record) (oracle : Oracle) (amount : Amount) :
    Consultation Settlement := do
  ensurePositive amount
  let quote ← oracle.currentQuote
  let requested ← quote.value amount
  let next ← record.raiseDebt amount
  ensure ((quote.wide next.debt).toNat ≤ record.deposited.toNat)
    LendingError.insufficientCollateral
  return ⟨next, requested⟩

/-- Settles a payback: the debt shrinks, and no more than the debt is accepted. -/
def payBack (record : Record) (oracle : Oracle) (amount : Amount) :
    Consultation Settlement := do
  ensurePositive amount
  let quote ← oracle.currentQuote
  ensure (amount.toNat ≤ record.debt.toNat) LendingError.insufficientDebt
  let repaid ← quote.value amount
  let next ← record.lowerDebt amount
  return ⟨next, repaid⟩

/-- Takes an amount out of the deposit, or says that the deposit is too small. -/
def takeOut (record : Record) (amount : Amount) : Except LendingError Record := do
  ensure (amount.toNat ≤ record.deposited.toNat) LendingError.insufficientCollateral
  record.lowerDeposit amount

/-- Settles a withdrawal: the deposit shrinks, and what is left has to cover the debt. The oracle
is only read when there is debt. -/
def withdraw (record : Record) (oracle : Oracle) (amount : Amount) :
    Consultation Settlement := do
  ensurePositive amount
  if 0 < record.debt.toNat then
    let quote ← oracle.currentQuote
    let next ← record.takeOut amount
    ensure ((quote.wide record.debt).toNat ≤ next.deposited.toNat)
      LendingError.insufficientCollateral
    return ⟨next, .zero⟩
  else
    let next ← record.takeOut amount
    return ⟨next, .zero⟩

/-- Settles a liquidation, which the admin alone may ask for and only where the debt is worth more
than the deposit. The whole deposit is seized and the whole debt cleared. -/
def liquidate {K : Type} [DecidableEq K] (record : Record) (caller admin : K)
    (oracle : Oracle) : Consultation Liquidation := do
  ensure (caller = admin) LendingError.unauthorized
  let quote ← oracle.currentQuote
  ensure (record.isUndercollateralized quote = true) LendingError.noBadDebt
  return ⟨record.deposited, record.debt⟩

end Record

end CollateralLending
