/-
  CollateralLending.AccountError

  The reasons for which an account given to an instruction is refused before
  the instruction runs.
-/
import CollateralLending.Error

namespace CollateralLending

/-- Why an account is refused. -/
inductive AccountError where
  /-- It has to be writable. -/
  | constraintMut
  /-- A key stored in it is not the one given. -/
  | constraintHasOne
  /-- It holds less than the rent-exempt minimum. -/
  | constraintRentExempt
  /-- Its address is not the derived one. -/
  | constraintSeeds
  /-- It is not the associated token account. -/
  | constraintAssociated
  /-- It holds another token. -/
  | constraintTokenMint
  /-- It belongs to someone else. -/
  | constraintTokenOwner
  /-- Its data has another length. -/
  | constraintSpace
  /-- Its data is too short for a discriminator. -/
  | discriminatorNotFound
  /-- Its data carries the discriminator of another type. -/
  | discriminatorMismatch
  /-- Its data does not decode. -/
  | didNotDeserialize
  /-- Fewer accounts were given. -/
  | notEnoughKeys
  /-- It belongs to another program. -/
  | ownedByWrongProgram
  /-- It is another program. -/
  | invalidProgramId
  /-- It is the right program, but cannot be run. -/
  | invalidProgramExecutable
  /-- It did not sign. -/
  | notSigner
  /-- It does not belong to the system program. -/
  | notSystemOwned
  /-- Nothing was ever stored in it. -/
  | notInitialized
  /-- It is not at the associated token address. -/
  | notAssociatedTokenAccount
  /-- It is another system variable, or does not hold what the variable holds. -/
  | sysvarMismatch
  /-- It pays for its own creation. -/
  | payerIsTarget
deriving DecidableEq

namespace AccountError

/-- How the error is reported. -/
def report : AccountError → Report
  | constraintMut => ⟨"ConstraintMut", "A mut constraint was violated", some 2000⟩
  | constraintHasOne => ⟨"ConstraintHasOne", "A has one constraint was violated", some 2001⟩
  | constraintRentExempt =>
    ⟨"ConstraintRentExempt", "A rent exemption constraint was violated", some 2005⟩
  | constraintSeeds => ⟨"ConstraintSeeds", "A seeds constraint was violated", some 2006⟩
  | constraintAssociated =>
    ⟨"ConstraintAssociated", "An associated constraint was violated", some 2009⟩
  | constraintTokenMint =>
    ⟨"ConstraintTokenMint", "A token mint constraint was violated", some 2014⟩
  | constraintTokenOwner =>
    ⟨"ConstraintTokenOwner", "A token owner constraint was violated", some 2015⟩
  | constraintSpace => ⟨"ConstraintSpace", "A space constraint was violated", some 2019⟩
  | discriminatorNotFound =>
    ⟨"AccountDiscriminatorNotFound", "No 8 byte discriminator was found on the account", some 3001⟩
  | discriminatorMismatch =>
    ⟨"AccountDiscriminatorMismatch", "8 byte discriminator did not match what was expected",
      some 3002⟩
  | didNotDeserialize =>
    ⟨"AccountDidNotDeserialize", "Failed to deserialize the account", some 3003⟩
  | notEnoughKeys =>
    ⟨"AccountNotEnoughKeys", "Not enough account keys given to the instruction", some 3005⟩
  | ownedByWrongProgram =>
    ⟨"AccountOwnedByWrongProgram",
      "The given account is owned by a different program than expected", some 3007⟩
  | invalidProgramId => ⟨"InvalidProgramId", "Program ID was not as expected", some 3008⟩
  | invalidProgramExecutable =>
    ⟨"InvalidProgramExecutable", "Program account is not executable", some 3009⟩
  | notSigner => ⟨"AccountNotSigner", "The given account did not sign", some 3010⟩
  | notSystemOwned =>
    ⟨"AccountNotSystemOwned", "The given account is not owned by the system program", some 3011⟩
  | notInitialized =>
    ⟨"AccountNotInitialized", "The program expected this account to be already initialized",
      some 3012⟩
  | notAssociatedTokenAccount =>
    ⟨"AccountNotAssociatedTokenAccount",
      "The given account is not the associated token account", some 3014⟩
  | sysvarMismatch =>
    ⟨"AccountSysvarMismatch", "The given public key does not match the required sysvar", some 3015⟩
  | payerIsTarget =>
    ⟨"TryingToInitPayerAsProgramAccount",
      "You cannot/should not initialize the payer account as a program account", some 4101⟩

end AccountError

end CollateralLending
