/-
  CollateralLending.Chain.Failure

  Why a transaction fails: the cause, and the account field that is blamed when
  the cause was found while checking the accounts.
-/
import CollateralLending.AccountError
import CollateralLending.Error

namespace CollateralLending

/-- The accounts that instructions take, by their role. -/
inductive Field where
  /-- The price feed that an instruction opens or updates. -/
  | feed
  /-- The authority of a price feed. -/
  | authority
  /-- The system program. -/
  | systemProgram
  /-- The admin of a vault. -/
  | admin
  /-- A lending vault, or the pool of a share vault. -/
  | vault
  /-- The token lent out. -/
  | debtMint
  /-- The debt pool. -/
  | debtVault
  /-- The collateral pool. -/
  | collateralVault
  /-- The price feed that prices the debt. -/
  | priceFeed
  /-- The token program. -/
  | tokenProgram
  /-- The system variable of rent rates. -/
  | rent
  /-- The user of a vault. -/
  | user
  /-- The user's position. -/
  | position
  /-- The user's account of the token lent out. -/
  | userDebtAccount
  /-- The owner of the position to liquidate. -/
  | account
  /-- A share vault. -/
  | shareVault
  /-- The token deposited into a share vault. -/
  | underlyingMint
  /-- The token of the shares. -/
  | shareMint
  /-- The user's account of the underlying token. -/
  | userTokenAccount
  /-- The user's account of shares. -/
  | userShareAccount
  /-- The program of associated token accounts. -/
  | associatedTokenProgram
deriving DecidableEq

namespace Field

/-- Every field. -/
def all : List Field :=
  [feed, authority, systemProgram, admin, vault, debtMint, debtVault, collateralVault, priceFeed,
    tokenProgram, rent, user, position, userDebtAccount, account, shareVault, underlyingMint,
    shareMint, userTokenAccount, userShareAccount, associatedTokenProgram]

/-- The name of a field. -/
def name : Field → String
  | feed => "feed"
  | authority => "authority"
  | systemProgram => "system_program"
  | admin => "admin"
  | vault => "vault"
  | debtMint => "debt_mint"
  | debtVault => "debt_vault"
  | collateralVault => "collateral_vault"
  | priceFeed => "price_feed"
  | tokenProgram => "token_program"
  | rent => "rent"
  | user => "user"
  | position => "position"
  | userDebtAccount => "user_debt_account"
  | account => "account"
  | shareVault => "share_vault"
  | underlyingMint => "underlying_mint"
  | shareMint => "share_mint"
  | userTokenAccount => "user_token_account"
  | userShareAccount => "user_share_account"
  | associatedTokenProgram => "associated_token_program"

/-- The field with this name. -/
def ofName? (text : String) : Option Field := all.find? fun field => field.name == text

/-- Whether the account in this role is asked to sign. -/
def signs : Field → Bool
  | user | admin | authority => true
  | _ => false

end Field

/-- Why the system program, the token program or the program of associated token accounts refuses
a call. -/
inductive ProgramError where
  /-- A numbered error of the called program. -/
  | custom (number : Nat)
  /-- An argument does not fit the call. -/
  | invalidArgument
  /-- The data of an account is not what the call needs. -/
  | invalidAccountData
  /-- The account was never set up. -/
  | uninitializedAccount
  /-- An account that has to sign did not. -/
  | missingRequiredSignature
  /-- An account that the call needs was not passed. -/
  | notEnoughAccountKeys
  /-- A number leaves its width. -/
  | arithmeticOverflow
deriving DecidableEq

/-- Lower-case hexadecimal digits of a number. -/
def hexadecimal (number : Nat) : String := String.ofList (Nat.toDigits 16 number)

/-- How the error is reported. -/
def ProgramError.report : ProgramError → Report
  | custom number =>
    ⟨"Custom(" ++ toString number ++ ")", "Custom program error: 0x" ++ hexadecimal number, none⟩
  | invalidArgument =>
    ⟨"InvalidArgument", "The arguments provided to a program instruction were invalid", none⟩
  | invalidAccountData =>
    ⟨"InvalidAccountData", "An account's data contents was invalid", none⟩
  | uninitializedAccount =>
    ⟨"UninitializedAccount",
      "An attempt to operate on an account that hasn't been initialized", none⟩
  | missingRequiredSignature =>
    ⟨"MissingRequiredSignature", "A signature was required but not found", none⟩
  | notEnoughAccountKeys =>
    ⟨"NotEnoughAccountKeys", "The instruction expected additional account keys", none⟩
  | arithmeticOverflow =>
    ⟨"ArithmeticOverflow", "Program arithmetic overflowed", none⟩

/-- What went wrong in a transaction. -/
inductive Cause where
  /-- A lending vault refused. -/
  | lending (error : LendingError)
  /-- A price feed refused. -/
  | feed (error : FeedError)
  /-- A share vault refused. -/
  | share (error : ShareError)
  /-- An account was refused. -/
  | account (error : AccountError)
  /-- A called program refused. -/
  | program (error : ProgramError)
deriving DecidableEq

/-- How the cause is reported. -/
def Cause.report : Cause → Report
  | lending error => error.report
  | feed error => error.report
  | share error => error.report
  | account error => error.report
  | program error => error.report

/-- Why a transaction fails. -/
structure Failure where
  /-- What went wrong. -/
  cause : Cause
  /-- The field whose check found it; none when no field is to blame. -/
  field? : Option Field
deriving DecidableEq

namespace Failure

/-- A failure for which no field is to blame. -/
def unblamed (cause : Cause) : Failure := ⟨cause, none⟩

/-- A refused account, found while checking a field. -/
def account (error : AccountError) (field : Field) : Failure := ⟨.account error, some field⟩

end Failure

end CollateralLending
