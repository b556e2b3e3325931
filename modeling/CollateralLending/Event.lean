/-
  CollateralLending.Event

  What operations announce: events, which name accounts by keys of type `K`,
  and log lines, which are meant to be read.
-/
import CollateralLending.Word
import CollateralLending.Price.FixedRate

namespace CollateralLending

/-- What a lending operation announces. -/
inductive LendingEvent (K : Type) where
  /-- Collateral came in. -/
  | deposited (amount : Amount)
  /-- Debt was handed out; with its collateral value. -/
  | borrowed (requested collateralEquivalent : Amount)
  /-- Debt came back; with its collateral value. -/
  | paidBack (repaid collateralEquivalent : Amount)
  /-- Collateral went out. -/
  | withdrawn (amount : Amount)
  /-- The position of an account was wiped. -/
  | liquidated (account : K)
deriving DecidableEq

/-- What an operation on a price feed announces. -/
inductive FeedEvent (K : Type) where
  /-- A feed published a rate. -/
  | answerUpdated (feed : K) (rate : FixedRate)
  /-- A feed's stale flag was set or cleared. -/
  | stalenessSet (feed : K) (isStale : Bool)
deriving DecidableEq

/-- What an operation on a share vault announces. -/
inductive ShareEvent (K : Type) where
  /-- A user got shares for underlying tokens. -/
  | minted (user token : K) (shares : Amount)
  /-- A user gave shares back for underlying tokens. -/
  | burned (user token : K) (shares : Amount)
  /-- The exchange rate was set. -/
  | exchangeRateSet (rate : Wide)
deriving DecidableEq

/-- What any operation announces. -/
inductive Event (K : Type) where
  /-- An event of a lending vault. -/
  | lending (event : LendingEvent K)
  /-- An event of a price feed. -/
  | feed (event : FeedEvent K)
  /-- An event of a share vault. -/
  | share (event : ShareEvent K)
deriving DecidableEq

/-- What seized collateral is counted in. -/
inductive CollateralUnit where
  /-- Units of a collateral token. -/
  | collateral
  /-- The native coin. -/
  | lamports
deriving DecidableEq

/-- A line of the program log. -/
inductive LogLine (K : Type) where
  /-- A feed was opened with this rate. -/
  | feedOpened (feedId : Amount) (rate : FixedRate)
  /-- A feed's stale flag was set or cleared. -/
  | stalenessSet (feedId : Amount) (isStale : Bool)
  /-- A lending vault was opened. -/
  | vaultOpened (debtMint priceFeed : K)
  /-- The position of an account was wiped. -/
  | liquidated (account : K) (seized : Amount) (unit : CollateralUnit) (cleared : Amount)
  /-- A share vault was opened at this exchange rate. -/
  | shareVaultOpened (underlyingMint : K) (rate : Wide)
  /-- The exchange rate was set. -/
  | exchangeRateSet (rate : Wide)
deriving DecidableEq

namespace LogLine

/-- The words for a unit of collateral. -/
def unitText : CollateralUnit → String
  | .collateral => "collateral"
  | .lamports => "lamports"

/-- The words for a flag. -/
def flagText (flag : Bool) : String := if flag then "true" else "false"

/-- The line as text, given the text of a key. -/
def text {K : Type} (keyText : K → String) : LogLine K → String
  | feedOpened feedId rate =>
    "Price feed " ++ feedId.text ++ " initialized: rate=" ++ rate.raw.text ++ " decimals=" ++
      toString rate.decimals.toNat
  | stalenessSet feedId isStale =>
    "Price feed " ++ feedId.text ++ " stale flag set to " ++ flagText isStale
  | vaultOpened debtMint priceFeed =>
    "Vault initialized for debt mint " ++ keyText debtMint ++ " with feed " ++ keyText priceFeed
  | liquidated account seized unit cleared =>
    "Liquidated " ++ keyText account ++ ": seized " ++ seized.text ++ " " ++ unitText unit ++
      ", cleared " ++ cleared.text ++ " debt"
  | shareVaultOpened underlyingMint rate =>
    "Share vault initialized for " ++ keyText underlyingMint ++ " at rate " ++ rate.text
  | exchangeRateSet rate => "Exchange rate set to " ++ rate.text

end LogLine

end CollateralLending
