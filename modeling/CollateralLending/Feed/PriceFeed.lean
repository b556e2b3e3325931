/-
  CollateralLending.Feed.PriceFeed

  Price feeds: the account of one authority that publishes a rate, and when its
  answer counts as stale. An answer is stale when its authority flagged it, or
  when it is older than the feed's age limit; a limit of zero is no limit.
-/
import CollateralLending.Word
import CollateralLending.Error
import CollateralLending.Price.Oracle

namespace CollateralLending

/-- What a feed publishes. -/
structure FeedAnswer where
  /-- The published rate: collateral per unit of debt. -/
  rate : FixedRate
  /-- Set by the authority when the source is unreliable. -/
  isStale : Bool
  /-- For how many seconds an answer stays fresh; zero means without limit. -/
  maxAge : Seconds
  /-- When the rate was published. -/
  updatedAt : Seconds
deriving DecidableEq, Inhabited

/-- A price feed, with keys in `K` and bump seeds in `B`. -/
structure PriceFeed (K B : Type) where
  /-- Who may publish. -/
  authority : K
  /-- Tells the feeds of one authority apart. -/
  feedId : Amount
  /-- The published answer. -/
  answer : FeedAnswer
  /-- The bump seed of the feed's own address. -/
  bump : B
deriving DecidableEq, Inhabited

/-- What is chosen when a feed is opened. -/
structure FeedTerms where
  /-- Tells the feeds of one authority apart. -/
  feedId : Amount
  /-- The first rate. -/
  rate : FixedRate
  /-- Whether the feed starts out flagged as stale. -/
  isStale : Bool
  /-- The age limit. -/
  maxAge : Seconds
deriving DecidableEq

/-- Accepts the rates a feed may publish: positive, and with a supported scale. -/
def FixedRate.checkAnswer (rate : FixedRate) : Except FeedError Unit := do
  ensure (0 < rate.raw.toNat) FeedError.invalidRate
  ensure (rate.decimals ≤ maxDecimals) FeedError.invalidDecimals

namespace FeedAnswer

/-- Whether the answer is stale at a time. -/
def isStaleAt (answer : FeedAnswer) (now : Seconds) : Bool :=
  answer.isStale ||
    (decide (0 < answer.maxAge.toInt) &&
      decide (answer.maxAge.toInt < (now.clampedSub answer.updatedAt).toInt))

/-- The feed as an oracle at a time. -/
def snapshot (answer : FeedAnswer) (now : Seconds) : Oracle :=
  .answers ⟨answer.rate, answer.isStaleAt now⟩

end FeedAnswer

/-- Accepts the terms a feed may be opened with; the first fault in the order rate, scale, age
limit is reported. -/
def FeedTerms.check (terms : FeedTerms) : Except FeedError Unit := do
  terms.rate.checkAnswer
  ensure (0 ≤ terms.maxAge.toInt) FeedError.invalidMaxAge

end CollateralLending
