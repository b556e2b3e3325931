/-
  CollateralLending.Chain.Tokens

  The token program and the program of associated token accounts. Transfers,
  minting and burning check, in this order, whether the accounts are frozen,
  what is held or where it goes, which token it is, who may ask for it, and
  whether that one signed.

  Setting up a token account leaves out the case of the native coin, in which
  the token program counts the lamports beyond the rent as the amount that is
  held: an account set up here holds nothing and is not native, whatever its
  mint. Native accounts that exist already are moved with their lamports.
-/
import CollateralLending.Chain.System

namespace CollateralLending.Tokens

/-- The token account at an address. -/
def tokenAt (bank : Bank) (address : Address) : Except ProgramError TokenAccount :=
  match (bank.get address).data with
  | .token account => .ok account
  | _ => .error .invalidAccountData

/-- The mint at an address. -/
def mintAt (bank : Bank) (address : Address) : Except ProgramError Mint :=
  match (bank.get address).data with
  | .mint mint => .ok mint
  | _ => .error .invalidAccountData

/-- The bank with other content in an account. -/
def put (bank : Bank) (address : Address) (data : Data) : Bank :=
  bank.set address { bank.get address with data := data }

/-- Sets up a new token account for an owner, as for a mint that is not the native one. -/
def openAccount (target mint owner : Address) (bank : Bank) : Bank :=
  put bank target (.token { mint := mint, owner := owner, amount := .zero })

/-- Sets up a new mint. -/
def openMint (target authority : Address) (decimals : UInt8) (bank : Bank) : Bank :=
  put bank target (.mint ⟨some authority, .zero, decimals⟩)

/-! ## Permission -/

/-- How many members have to sign when the account is a group of signers. -/
def requiredSigners? (account : Account) : Option (Except ProgramError Nat) :=
  if account.owner = .tokenProgram ∧ account.data.size = SignerGroup.size then
    match account.data with
    | .raw bytes => some (SignerGroup.required bytes)
    | _ => some (.error .invalidAccountData)
  else none

/-- The key that has to agree is the one that was passed, and it signs. Members of a group are not
passed, so a group agrees only when it needs none of them. -/
def agree (signs : Address → Bool) (bank : Bank) (expected authority : Address) :
    Except ProgramError Unit := do
  ensure (expected = authority) (ProgramError.custom 4)
  match requiredSigners? (bank.get authority) with
  | some members =>
    let required ← members
    ensure (required = 0) ProgramError.missingRequiredSignature
  | none => ensure (signs authority = true) ProgramError.missingRequiredSignature

/-- The account after `authority` spent an amount by its permission: the delegate gives up that much
of what it may spend, the owner nothing. Someone who is both counts as the delegate. -/
def spend (signs : Address → Bool) (bank : Bank) (account : TokenAccount) (authority : Address)
    (amount : Amount) : Except ProgramError TokenAccount :=
  match account.delegation?.filter fun delegation => delegation.delegate = authority with
  | some delegation => do
    agree signs bank delegation.delegate authority
    let rest ← someOr (delegation.amount.sub? amount) (.custom 1)
    return { account with
      delegation? := if rest.toNat = 0 then none else some ⟨delegation.delegate, rest⟩ }
  | none => do
    agree signs bank account.owner authority
    return account

/-! ## Calls -/

/-- Moves the lamports that a native account stands for. -/
def moveLamports (source target : Address) (amount : Amount) (bank : Bank) :
    Except ProgramError Bank := do
  let sender := bank.get source
  let rest ← someOr (sender.lamports.sub? amount) (.custom 14)
  let debited := bank.set source { sender with lamports := rest }
  let receiver := debited.get target
  let sum ← someOr (receiver.lamports.add? amount) (.custom 14)
  return debited.set target { receiver with lamports := sum }

/-- Moves tokens between accounts of one mint at the request of the source's owner or delegate. A
move of an account to itself changes nothing. -/
def transfer (signs : Address → Bool) (source target authority : Address) (amount : Amount)
    (bank : Bank) : Except ProgramError Bank := do
  let sender ← tokenAt bank source
  let receiver ← tokenAt bank target
  ensure (sender.isFrozen = false ∧ receiver.isFrozen = false) (ProgramError.custom 17)
  let rest ← someOr (sender.amount.sub? amount) (.custom 1)
  ensure (sender.mint = receiver.mint) (ProgramError.custom 3)
  let spent ← spend signs bank sender authority amount
  if source = target then return bank
  else
    let sum ← someOr (receiver.amount.add? amount) (.custom 14)
    let moved ← if sender.isNative then moveLamports source target amount bank else pure bank
    let debited := put moved source (.token { spent with amount := rest })
    return put debited target (.token { receiver with amount := sum })

/-- Creates tokens at the request of the mint's authority. Tokens that stand for lamports cannot be
created. -/
def mintTo (signs : Address → Bool) (mint target authority : Address) (amount : Amount)
    (bank : Bank) : Except ProgramError Bank := do
  let receiver ← tokenAt bank target
  ensure (receiver.isFrozen = false) (ProgramError.custom 17)
  ensure (receiver.isNative = false) (ProgramError.custom 10)
  ensure (receiver.mint = mint) (ProgramError.custom 3)
  let token ← mintAt bank mint
  let minter ← someOr token.authority? (.custom 5)
  agree signs bank minter authority
  let sum ← someOr (receiver.amount.add? amount) (.custom 14)
  let supply ← someOr (token.supply.add? amount) (.custom 14)
  let credited := put bank target (.token { receiver with amount := sum })
  return put credited mint (.mint { token with supply := supply })

/-- Whether nobody can sign for the owner of tokens: anyone may destroy what it holds. -/
def isLost (owner : Address) : Bool :=
  owner = .systemProgram || owner = .unnamed Deployment.incinerator

/-- Destroys tokens at the request of the account's owner or delegate. -/
def burn (signs : Address → Bool) (mint source authority : Address) (amount : Amount)
    (bank : Bank) : Except ProgramError Bank := do
  let holder ← tokenAt bank source
  let token ← mintAt bank mint
  ensure (holder.isFrozen = false) (ProgramError.custom 17)
  ensure (holder.isNative = false) (ProgramError.custom 10)
  let rest ← someOr (holder.amount.sub? amount) (.custom 1)
  ensure (holder.mint = mint) (ProgramError.custom 3)
  let spent ← if isLost holder.owner then pure holder else spend signs bank holder authority amount
  let supply ← someOr (token.supply.sub? amount) (.custom 14)
  let debited := put bank source (.token { spent with amount := rest })
  return put debited mint (.mint { token with supply := supply })

/-- Makes the associated token account of an owner for a mint. Nothing can be made at any other
address. -/
def createAssociated (signs : Address → Bool) (payer target owner mint : Address) (bank : Bank) :
    Except ProgramError Bank := do
  ensure (target = .associated owner mint) ProgramError.notEnoughAccountKeys
  let made ← System.establish signs payer target TokenAccount.size .tokenProgram bank
  return openAccount target mint owner made

end CollateralLending.Tokens
