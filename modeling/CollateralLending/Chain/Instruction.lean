/-
  CollateralLending.Chain.Instruction

  The instructions of the three programs, and chains: all accounts together
  with the time. A transaction runs one instruction; when it fails the chain
  stays as it was.
-/
import CollateralLending.Chain.FeedProgram
import CollateralLending.Chain.LendingProgram
import CollateralLending.Chain.ShareProgram

namespace CollateralLending

/-- An instruction and its arguments. -/
inductive Instruction where
  /-- Opens a price feed. -/
  | openFeed (terms : FeedTerms)
  /-- Publishes a rate. -/
  | setAnswer (rate : FixedRate)
  /-- Sets or clears a feed's stale flag. -/
  | setStaleness (isStale : Bool)
  /-- Opens a lending vault. -/
  | openVault
  /-- Deposits collateral. -/
  | deposit (amount : Amount)
  /-- Borrows against collateral. -/
  | borrow (amount : Amount)
  /-- Pays debt back. -/
  | payback (amount : Amount)
  /-- Takes collateral out. -/
  | withdraw (amount : Amount)
  /-- Wipes a position. -/
  | liquidate
  /-- Opens a share vault. -/
  | openShareVault (rate : Wide)
  /-- Deposits underlying tokens for shares. -/
  | depositUnderlying (amount : Amount)
  /-- Gives shares back for underlying tokens. -/
  | withdrawUnderlying (amount : Amount)
  /-- Sets the exchange rate of a share vault. -/
  | setExchangeRate (rate : Wide)
deriving DecidableEq

namespace Instruction

/-- The roles of the accounts that an instruction takes, in order. -/
def fields : Instruction → List Field
  | openFeed _ => [.feed, .authority, .systemProgram]
  | setAnswer _ | setStaleness _ => [.feed, .authority]
  | openVault =>
    [.admin, .vault, .debtMint, .debtVault, .collateralVault, .priceFeed, .tokenProgram,
      .systemProgram, .rent]
  | deposit _ => [.user, .vault, .position, .collateralVault, .systemProgram]
  | borrow _ | payback _ =>
    [.user, .vault, .position, .priceFeed, .debtVault, .userDebtAccount, .tokenProgram,
      .systemProgram]
  | withdraw _ => [.user, .vault, .position, .priceFeed, .collateralVault, .systemProgram]
  | liquidate => [.admin, .vault, .account, .position, .priceFeed]
  | openShareVault _ =>
    [.admin, .shareVault, .underlyingMint, .shareMint, .vault, .tokenProgram, .systemProgram,
      .rent]
  | depositUnderlying _ =>
    [.user, .shareVault, .userTokenAccount, .vault, .shareMint, .userShareAccount, .tokenProgram,
      .associatedTokenProgram, .systemProgram]
  | withdrawUnderlying _ =>
    [.user, .shareVault, .userTokenAccount, .vault, .shareMint, .userShareAccount, .tokenProgram]
  | setExchangeRate _ => [.shareVault, .admin]

/-- Runs an instruction. -/
def run (call : Call) : Instruction → Tx Unit
  | openFeed terms => FeedProgram.openFeed call terms
  | setAnswer rate => FeedProgram.setAnswer call rate
  | setStaleness isStale => FeedProgram.setStaleness call isStale
  | openVault => LendingProgram.openVault call
  | deposit amount => LendingProgram.deposit call amount
  | borrow amount => LendingProgram.borrow call amount
  | payback amount => LendingProgram.payback call amount
  | withdraw amount => LendingProgram.withdraw call amount
  | liquidate => LendingProgram.liquidate call
  | openShareVault rate => ShareProgram.openShareVault call rate
  | depositUnderlying amount => ShareProgram.deposit call amount
  | withdrawUnderlying amount => ShareProgram.withdraw call amount
  | setExchangeRate rate => ShareProgram.setExchangeRate call rate

end Instruction

/-- All accounts and the time. -/
@[ext]
structure Chain where
  /-- The accounts. -/
  bank : Bank
  /-- The time. -/
  now : Seconds

/-- The accounts passed with an instruction, by role. -/
structure Passed where
  /-- The address in each role. -/
  accounts : List (Field × Address)
  /-- The roles that do not sign although they are asked to. -/
  unsigned : List Field
  /-- The roles that are passed as read-only. -/
  readonly : List Field

/-- What a successful transaction leaves behind beside the chain. -/
structure Receipt where
  /-- The events, oldest first. -/
  events : List (Event Address)
  /-- The log, oldest first. -/
  log : List (LogLine Address)
  /-- The accounts that differ from before, as they are now. -/
  changed : List (Address × Account)

namespace Chain

/-- The account of a program. -/
def programAccount : Account where
  lamports := ⟨1, by decide⟩
  owner := .unnamed Deployment.loader
  data := .empty
  isExecutable := true

/-- The account of the rent rates. -/
def rentAccount : Account where
  lamports := ⟨1, by decide⟩
  owner := .unnamed Deployment.sysvars
  data := .raw Rent.rates

/-- The chain at the epoch, on which nobody has an account. -/
def genesis : Chain where
  bank :=
    Address.programs.foldl (fun bank program => bank.set program programAccount)
      (Table.set Table.empty .rentSysvar rentAccount)
  now := .zero

/-- The chain with another account at an address. -/
def forge (chain : Chain) (address : Address) (account : Account) : Chain :=
  { chain with bank := chain.bank.set address account }

/-- How an instruction is called now. -/
def callOf (chain : Chain) (instruction : Instruction) (passed : Passed) : Call :=
  .ofGiven instruction.fields passed.accounts passed.unsigned passed.readonly chain.now

/-- Runs an instruction in a transaction of its own. -/
def execute (chain : Chain) (instruction : Instruction) (passed : Passed) :
    Chain × Except Failure Receipt :=
  match (instruction.run (chain.callOf instruction passed)).run ⟨chain.bank, [], []⟩ with
  | .error failure => (chain, .error failure)
  | .ok ((), session) =>
    let changed := (chain.bank.differences session.bank).map fun address =>
      (address, session.bank.get address)
    ({ chain with bank := session.bank }, .ok ⟨session.events, session.log, changed⟩)

end Chain

end CollateralLending
