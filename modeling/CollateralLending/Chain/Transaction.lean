/-
  CollateralLending.Chain.Transaction

  Transactions. An instruction is called with accounts in fixed roles and runs
  on a session: the bank as it changes, and what was announced so far. A step
  that fails yields no session, so nothing of a failed transaction remains.

  The second half of the module holds the checks that instructions make on
  their accounts before they run. Each one names the field it blames.
-/
import CollateralLending.Chain.Tokens

namespace CollateralLending

/-! ## Sessions -/

/-- The state in which an instruction runs. -/
structure Session where
  /-- The accounts. -/
  bank : Bank
  /-- The events announced so far, oldest first. -/
  events : List (Event Address)
  /-- The log lines so far, oldest first. -/
  log : List (LogLine Address)

/-- A part of a transaction. -/
abbrev Tx (α : Type) := StateT Session (Except Failure) α

namespace Tx

variable {α : Type}

/-- Fails. -/
def fail (failure : Failure) : Tx α := fun _ => .error failure

/-- Goes on when `p` holds. -/
def check (p : Prop) [Decidable p] (failure : Failure) : Tx Unit := fun session =>
  if p then .ok ((), session) else .error failure

/-- Goes on with a result, or fails with its cause, for which `field?` is blamed. -/
def liftCause (result : Except Cause α) (field? : Option Field) : Tx α := fun session =>
  match result with
  | .ok a => .ok (a, session)
  | .error cause => .error ⟨cause, field?⟩

/-- The account at an address. -/
def account (address : Address) : Tx Account := fun session =>
  .ok (session.bank.get address, session)

/-- Calls another program. -/
def invoke (call : Bank → Except ProgramError Bank) : Tx Unit := fun session =>
  match call session.bank with
  | .ok bank => .ok ((), { session with bank := bank })
  | .error error => .error (.unblamed (.program error))

/-- Calls another program, whose errors all count as `cause`. -/
def invokeOr (cause : Cause) (call : Bank → Except ProgramError Bank) : Tx Unit := fun session =>
  match call session.bank with
  | .ok bank => .ok ((), { session with bank := bank })
  | .error _ => .error (.unblamed cause)

/-- Writes a value over the data of an account. -/
def save (kind : AccountKind α) (address : Address) (value : α) : Tx Unit := fun session =>
  .ok ((), { session with
    bank := session.bank.set address (kind.save (session.bank.get address) value) })

/-- Announces an event. -/
def emit (event : Event Address) : Tx Unit := fun session =>
  .ok ((), { session with events := session.events ++ [event] })

/-- Writes a line of the log. -/
def log (line : LogLine Address) : Tx Unit := fun session =>
  .ok ((), { session with log := session.log ++ [line] })

end Tx

/-! ## Calls -/

/-- How an instruction is called. -/
structure Call where
  /-- The accounts by their role, in the order of the instruction. -/
  accounts : List (Field × Address)
  /-- The roles whose account does not sign although it is asked to. -/
  unsigned : List Field
  /-- The roles whose account is passed as read-only. -/
  readonly : List Field
  /-- The time. -/
  now : Seconds

/-- An account of a known type: its address and the value it held when it was loaded. -/
structure Loaded (α : Type) where
  /-- Where the account is. -/
  address : Address
  /-- What was in it. -/
  value : α

namespace Call

variable {α : Type}

/-- The call that passes the accounts in these roles: the first role without an account ends the
list. -/
def ofGiven (fields : List Field) (given : List (Field × Address)) (unsigned readonly : List Field)
    (now : Seconds) : Call where
  accounts := (fields.map fun field => (field, given.lookup field)).takeWhile (·.2.isSome)
    |>.filterMap fun entry => entry.2.map fun address => (entry.1, address)
  unsigned := unsigned
  readonly := readonly
  now := now

/-- The address passed in a role. -/
def address? (call : Call) (field : Field) : Option Address := call.accounts.lookup field

/-- Whether an address signs: it is passed in some role that is asked to sign and does. -/
def signs (call : Call) (address : Address) : Bool :=
  call.accounts.any fun entry =>
    entry.2 = address && entry.1.signs && !call.unsigned.contains entry.1

/-- Whether an address is passed as one that may be written to: no role passes it as read-only. -/
def writable (call : Call) (address : Address) : Bool :=
  !call.accounts.any fun entry => entry.2 = address && call.readonly.contains entry.1

/-- Who signs a call to another program that is signed with seeds as well: the seeds sign for the
address derived from them when the bump seed is the canonical one. -/
def signsWith (call : Call) (derived : Address) (bump : Bump) (address : Address) : Bool :=
  call.signs address || (bump = .canonical && address = derived)

/-! ### Taking the accounts in order -/

/-- The account in a role that has to be there. -/
def required (call : Call) (field : Field) : Tx Address :=
  match call.address? field with
  | some address => pure address
  | none => Tx.fail (.account .notEnoughKeys field)

/-- The account in a role that the instruction may create. -/
def pending (call : Call) (field : Field) : Tx Address :=
  match call.address? field with
  | some address => pure address
  | none => Tx.fail (.unblamed (.account .notEnoughKeys))

/-- An account that signs. -/
def signer (call : Call) (field : Field) : Tx Address := do
  let address ← call.required field
  Tx.check (call.signs address = true) (.account .notSigner field)
  return address

/-- The account of a known program, which can be run. -/
def program (call : Call) (field : Field) (expected : Address) : Tx Unit := do
  let address ← call.required field
  Tx.check (address = expected) (.account .invalidProgramId field)
  let account ← Tx.account address
  Tx.check (account.isExecutable = true) (.account .invalidProgramExecutable field)

/-- The account of the rent rates, with enough bytes to hold them. -/
def rent (call : Call) : Tx Unit := do
  let address ← call.required .rent
  let account ← Tx.account address
  Tx.check (address = .rentSysvar ∧ Rent.rates.length ≤ account.data.size)
    (.account .sysvarMismatch .rent)

/-- An account of the system program. -/
def systemAccount (call : Call) (field : Field) : Tx Address := do
  let address ← call.required field
  let account ← Tx.account address
  Tx.check (account.owner = .systemProgram) (.account .notSystemOwned field)
  return address

/-- An account of a known type. -/
def load (call : Call) (kind : AccountKind α) (field : Field) : Tx (Loaded α) := do
  let address ← call.required field
  let account ← Tx.account address
  let value ← Tx.liftCause (kind.load account) (some field)
  return ⟨address, value⟩

/-! ### Constraints -/

/-- The account may be written to: it is no program, and passed as writable. -/
def mutable (call : Call) (field : Field) (address : Address) : Tx Unit := do
  let account ← Tx.account address
  Tx.check (account.isExecutable = false ∧ call.writable address = true)
    (.account .constraintMut field)

/-- The account is the derived one. -/
def derived (field : Field) (address expected : Address) : Tx Unit :=
  Tx.check (address = expected) (.account .constraintSeeds field)

/-- The account is the derived one, and the stored bump seed derives it. -/
def derivedWith (field : Field) (address expected : Address) (bump : Bump) : Tx Unit :=
  Tx.check (address = expected ∧ bump = .canonical) (.account .constraintSeeds field)

/-- A key stored in the account is the one passed. -/
def hasOne (field : Field) (stored passed : Address) : Tx Unit :=
  Tx.check (stored = passed) (.account .constraintHasOne field)

/-! ### Creating accounts -/

/-- Makes the account at an address that the instruction derived and therefore signs for. An account
that holds lamports cannot pay for itself. -/
def create (call : Call) (payer target : Address) (size : Nat) (program : Address) : Tx Unit := do
  let account ← Tx.account target
  Tx.check (account.lamports.toNat = 0 ∨ payer ≠ target) (.unblamed (.account .payerIsTarget))
  Tx.invoke
    (System.establish (fun address => call.signs address || address = target) payer target size
      program)

/-- What is checked of an account that was created, or could have been. -/
def created (call : Call) (field : Field) (address : Address) : Tx Unit := do
  call.mutable field address
  let account ← Tx.account address
  Tx.check (account.isRentExempt = true) (.account .constraintRentExempt field)

/-- Makes a derived account of a type of the calling program. -/
def createRecord (call : Call) (kind : AccountKind α) (field : Field)
    (payer address expected : Address) : Tx Unit := do
  derived field address expected
  call.create payer address kind.size kind.program
  call.created field address

/-- Makes a derived token account. -/
def createToken (call : Call) (field : Field) (payer address expected mint owner : Address) :
    Tx Unit := do
  derived field address expected
  call.create payer address TokenAccount.size .tokenProgram
  Tx.invoke fun bank => .ok (Tokens.openAccount address mint owner bank)
  call.created field address

/-- Makes a derived mint. -/
def createMint (call : Call) (field : Field) (payer address expected authority : Address)
    (decimals : UInt8) : Tx Unit := do
  derived field address expected
  call.create payer address Mint.size .tokenProgram
  Tx.invoke fun bank => .ok (Tokens.openMint address authority decimals bank)
  call.created field address

end Call

end CollateralLending
