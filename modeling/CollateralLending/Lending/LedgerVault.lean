/-
  CollateralLending.Lending.LedgerVault

  A lending vault whose positions are kept in a ledger and whose assets are two
  ledger tokens: the rules of lending without accounts and transactions. It
  previews what a sequence of operations does.

  An operation settles first, moves the asset next, and only then stores the
  record and announces the event. What the vault looks like after an operation
  is part of the outcome, for failed operations too.
-/
import CollateralLending.Event
import CollateralLending.Lending.Ledger
import CollateralLending.Lending.Settlement
import CollateralLending.Token.TokenLedger

namespace CollateralLending

/-- A lending vault over a ledger. -/
@[ext]
structure LedgerVault (K : Type) [Ord K] where
  /-- The account under which the vault holds its assets. -/
  address : K
  /-- Who may liquidate. -/
  admin : K
  /-- The token deposited as collateral. -/
  collateral : TokenLedger K
  /-- The token lent out. -/
  debt : TokenLedger K
  /-- Where prices come from. -/
  oracle : Oracle
  /-- The record of each account. -/
  ledger : Ledger K
  /-- What was announced so far, oldest first. -/
  events : List (LendingEvent K)
  /-- The program log so far, oldest first. -/
  log : List (LogLine K)

/-- What an operation on a vault leaves behind. -/
structure VaultOutcome (K : Type) [Ord K] where
  /-- The vault afterwards. -/
  vault : LedgerVault K
  /-- Whether the operation succeeded. -/
  result : Except LendingError Unit
  /-- How often the oracle was read. -/
  reads : Nat

namespace LedgerVault

variable {K : Type} [Ord K]

/-- A vault without positions. -/
def new (address admin : K) (collateral debt : TokenLedger K) (oracle : Oracle) : LedgerVault K :=
  ⟨address, admin, collateral, debt, oracle, .empty, [], []⟩

/-- The record of an account. -/
def record (vault : LedgerVault K) (account : K) : Record := vault.ledger.get account

variable [Std.TransOrd K] [Std.LawfulEqOrd K] [DecidableEq K]

/-- Stores the record of an account and announces the event. -/
def conclude (vault : LedgerVault K) (account : K) (next : Record) (event : LendingEvent K) :
    LedgerVault K :=
  { vault with ledger := vault.ledger.set account next, events := vault.events ++ [event] }

/-- Carries out a settled operation: `move` moves the asset, and any failure to do so is a failed
transfer. Refused settlements and failed transfers store and announce nothing. -/
def perform (vault : LedgerVault K) (account : K) (settlement : Consultation Settlement)
    (move : LedgerVault K × Except LendingError Unit) (event : Settlement → LendingEvent K) :
    VaultOutcome K :=
  match settlement.result with
  | .error error => ⟨vault, .error error, settlement.reads⟩
  | .ok settled =>
    match move with
    | (after, .error _) => ⟨after, .error .transferFailed, settlement.reads⟩
    | (after, .ok ()) =>
      ⟨after.conclude account settled.next (event settled), .ok (), settlement.reads⟩

/-- The vault after an operation on its collateral token. -/
def withCollateral (vault : LedgerVault K)
    (outcome : TokenLedger K × Except LendingError Unit) :
    LedgerVault K × Except LendingError Unit :=
  ({ vault with collateral := outcome.1 }, outcome.2)

/-- The vault after an operation on its debt token. -/
def withDebt (vault : LedgerVault K) (outcome : TokenLedger K × Except LendingError Unit) :
    LedgerVault K × Except LendingError Unit :=
  ({ vault with debt := outcome.1 }, outcome.2)

/-- The caller deposits collateral. -/
def deposit (vault : LedgerVault K) (caller : K) (amount : Amount) : VaultOutcome K :=
  vault.perform caller (.ofResult ((vault.record caller).deposit amount))
    (vault.withCollateral (vault.collateral.transfer caller vault.address amount))
    fun _ => .deposited amount

/-- The caller borrows against the deposit. -/
def borrow (vault : LedgerVault K) (caller : K) (amount : Amount) : VaultOutcome K :=
  vault.perform caller ((vault.record caller).borrow vault.oracle amount)
    (vault.withDebt (vault.debt.transfer vault.address caller amount))
    fun settled => .borrowed amount settled.collateralEquivalent

/-- The caller pays debt back. The vault pulls the repayment, so the caller must have approved
it. -/
def payback (vault : LedgerVault K) (caller : K) (amount : Amount) : VaultOutcome K :=
  vault.perform caller ((vault.record caller).payBack vault.oracle amount)
    (vault.withDebt (vault.debt.transferFrom vault.address caller vault.address amount))
    fun settled => .paidBack amount settled.collateralEquivalent

/-- The caller takes collateral out. -/
def withdraw (vault : LedgerVault K) (caller : K) (amount : Amount) : VaultOutcome K :=
  vault.perform caller ((vault.record caller).withdraw vault.oracle amount)
    (vault.withCollateral (vault.collateral.transfer vault.address caller amount))
    fun _ => .withdrawn amount

/-- The caller, who has to be the admin, liquidates an account. The seized collateral stays in the
vault's pool. -/
def liquidate (vault : LedgerVault K) (caller account : K) : VaultOutcome K :=
  let liquidation := (vault.record account).liquidate caller vault.admin vault.oracle
  match liquidation.result with
  | .error error => ⟨vault, .error error, liquidation.reads⟩
  | .ok settled =>
    let line := .liquidated account settled.seizedCollateral .collateral settled.clearedDebt
    ⟨{ vault.conclude account .zero (.liquidated account) with log := vault.log ++ [line] },
      .ok (), liquidation.reads⟩

end LedgerVault

end CollateralLending
