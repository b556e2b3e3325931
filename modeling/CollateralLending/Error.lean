/-
  CollateralLending.Error

  How a failure is told to a caller: a kind, a text, and a number for the
  failures that have one. Each error type of the library says its own report.

  The reasons for which lending operations, price feeds and share vaults refuse
  are listed here; why an account is refused before any of them is asked is in
  `CollateralLending.AccountError`.
-/

namespace CollateralLending

/-- The name, the text and the number under which a failure is reported. -/
structure Report where
  /-- The kind of the failure. -/
  name : String
  /-- The text shown with it. -/
  message : String
  /-- Its number; failures of the machinery below the programs have none. -/
  code? : Option Nat
deriving DecidableEq

/-! ## Lending -/

/-- Why a lending operation is refused. -/
inductive LendingError where
  /-- The oracle's answer is marked or aged out as stale. -/
  | staleFeed
  /-- The collateral does not cover the debt, or the withdrawal. -/
  | insufficientCollateral
  /-- More is paid back than is owed. -/
  | insufficientDebt
  /-- An asset could not be moved. -/
  | transferFailed
  /-- The caller is not the admin. -/
  | unauthorized
  /-- The position is covered, so it may not be liquidated. -/
  | noBadDebt
  /-- A record would fall below zero. -/
  | underflow
  /-- The amount is zero. -/
  | invalidAmount
  /-- A number leaves its width. -/
  | mathOverflow
  /-- The oracle's answer is not a usable rate. -/
  | invalidQuote
  /-- The price feed is not the one the vault is bound to. -/
  | invalidOracle
deriving DecidableEq

namespace LendingError

/-- Every error, in the order of their numbers. -/
def all : List LendingError :=
  [staleFeed, insufficientCollateral, insufficientDebt, transferFailed, unauthorized, noBadDebt,
    underflow, invalidAmount, mathOverflow, invalidQuote, invalidOracle]

/-- How the error is reported. -/
def report : LendingError → Report
  | staleFeed => ⟨"StaleFeed", "Stale feed", some 6000⟩
  | insufficientCollateral => ⟨"InsufficientCollateral", "Not enough collateral", some 6001⟩
  | insufficientDebt => ⟨"InsufficientDebt", "Not enough debt", some 6002⟩
  | transferFailed => ⟨"TransferFailed", "Asset transfer failed", some 6003⟩
  | unauthorized => ⟨"Unauthorized", "Unauthorized", some 6004⟩
  | noBadDebt => ⟨"NoBadDebt", "Good debt", some 6005⟩
  | underflow => ⟨"Underflow", "Ledger underflow", some 6006⟩
  | invalidAmount => ⟨"InvalidAmount", "Invalid amount - must be greater than zero", some 6007⟩
  | mathOverflow => ⟨"MathOverflow", "Arithmetic overflow", some 6008⟩
  | invalidQuote => ⟨"InvalidQuote", "Invalid oracle quote", some 6009⟩
  | invalidOracle => ⟨"InvalidOracle", "Price feed does not belong to this vault", some 6010⟩

/-- The error with this name. -/
def ofName? (name : String) : Option LendingError :=
  all.find? fun error => error.report.name == name

end LendingError

/-! ## Price feeds -/

/-- Why an operation on a price feed is refused. -/
inductive FeedError where
  /-- The signer is not the feed's authority. -/
  | unauthorized
  /-- The answer has more decimals than a conversion supports. -/
  | invalidDecimals
  /-- The age limit is negative. -/
  | invalidMaxAge
  /-- The rate is zero. -/
  | invalidRate
deriving DecidableEq

namespace FeedError

/-- Every error, in the order of their numbers. -/
def all : List FeedError := [unauthorized, invalidDecimals, invalidMaxAge, invalidRate]

/-- How the error is reported. -/
def report : FeedError → Report
  | unauthorized => ⟨"Unauthorized", "Unauthorized", some 6000⟩
  | invalidDecimals => ⟨"InvalidDecimals", "Decimals exceed the supported scale", some 6001⟩
  | invalidMaxAge => ⟨"InvalidMaxAge", "Max age must not be negative", some 6002⟩
  | invalidRate => ⟨"InvalidRate", "Rate must be greater than zero", some 6003⟩

/-- The error with this name. -/
def ofName? (name : String) : Option FeedError := all.find? fun error => error.report.name == name

end FeedError

/-! ## Share vaults -/

/-- Why an operation on a share vault is refused. -/
inductive ShareError where
  /-- The caller is not the admin. -/
  | unauthorized
  /-- The deposit would mint no share, or nothing is withdrawn. -/
  | invalidAmount
  /-- The exchange rate is zero. -/
  | invalidRate
  /-- The user holds fewer shares than the withdrawal burns. -/
  | insufficientShares
  /-- A number leaves its width. -/
  | mathOverflow
  /-- The underlying tokens could not be moved. -/
  | transferFailed
deriving DecidableEq

namespace ShareError

/-- Every error, in the order of their numbers. -/
def all : List ShareError :=
  [unauthorized, invalidAmount, invalidRate, insufficientShares, mathOverflow, transferFailed]

/-- How the error is reported. -/
def report : ShareError → Report
  | unauthorized => ⟨"Unauthorized", "Unauthorized", some 6000⟩
  | invalidAmount =>
    ⟨"InvalidAmount", "Invalid amount - must produce at least one share", some 6001⟩
  | invalidRate => ⟨"InvalidRate", "Exchange rate must be greater than zero", some 6002⟩
  | insufficientShares => ⟨"InsufficientShares", "Insufficient share balance", some 6003⟩
  | mathOverflow => ⟨"MathOverflow", "Arithmetic overflow", some 6004⟩
  | transferFailed => ⟨"TransferFailed", "Asset transfer failed", some 6005⟩

/-- The error with this name. -/
def ofName? (name : String) : Option ShareError := all.find? fun error => error.report.name == name

end ShareError

end CollateralLending
