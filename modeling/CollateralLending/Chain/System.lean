/-
  CollateralLending.Chain.System

  The system program: it moves lamports between accounts and makes new
  accounts for other programs. Each call works on the bank as it is and either
  yields the bank afterwards or an error.
-/
import CollateralLending.Chain.Account

namespace CollateralLending.System

/-- Adds lamports to an account. -/
def credit (bank : Bank) (address : Address) (lamports : Nat) : Except ProgramError Bank := do
  let account := bank.get address
  let sum ← someOr (Word.ofNat? 64 (account.lamports.toNat + lamports)) .arithmeticOverflow
  return bank.set address { account with lamports := sum }

/-- Takes lamports from an account. -/
def debit (bank : Bank) (address : Address) (lamports : Nat) : Except ProgramError Bank := do
  let account := bank.get address
  let rest ← someOr (if lamports ≤ account.lamports.toNat then
    Word.ofNat? 64 (account.lamports.toNat - lamports) else none) (.custom 1)
  return bank.set address { account with lamports := rest }

/-- Moves lamports. The source has to sign, have no data and hold enough; a move of an account to
itself changes nothing. -/
def transfer (signs : Address → Bool) (source target : Address) (lamports : Nat) (bank : Bank) :
    Except ProgramError Bank := do
  ensure (signs source = true) ProgramError.missingRequiredSignature
  ensure ((bank.get source).data.size = 0) ProgramError.invalidArgument
  ensure (lamports ≤ (bank.get source).lamports.toNat) (ProgramError.custom 1)
  if source = target then return bank
  else
    let debited ← debit bank source lamports
    credit debited target lamports

/-- Gives an account of the system program without data `size` zero bytes. -/
def allocate (signs : Address → Bool) (target : Address) (size : Nat) (bank : Bank) :
    Except ProgramError Bank := do
  ensure (signs target = true) ProgramError.missingRequiredSignature
  let account := bank.get target
  ensure (account.data.size = 0 ∧ account.owner = .systemProgram) (ProgramError.custom 0)
  return bank.set target { account with data := .zeros size }

/-- Hands an account over to a program. -/
def assign (target program : Address) (bank : Bank) : Bank :=
  bank.set target { bank.get target with owner := program }

/-- Makes an account at an address without lamports, and pays its lamports. -/
def createAccount (signs : Address → Bool) (payer target : Address) (lamports size : Nat)
    (program : Address) (bank : Bank) : Except ProgramError Bank := do
  ensure ((bank.get target).lamports.toNat = 0) (ProgramError.custom 0)
  let allocated ← allocate signs target size bank
  transfer signs payer target lamports (assign target program allocated)

/-- Makes an account at an address that may already hold lamports: the payer adds what is missing to
the rent minimum. -/
def establish (signs : Address → Bool) (payer target : Address) (size : Nat) (program : Address)
    (bank : Bank) : Except ProgramError Bank := do
  let held := (bank.get target).lamports.toNat
  if held = 0 then createAccount signs payer target (Rent.minimum size) size program bank
  else
    let missing := Rent.minimum size - held
    let funded ← if missing = 0 then pure bank else transfer signs payer target missing bank
    let allocated ← allocate signs target size funded
    return assign target program allocated

end CollateralLending.System
