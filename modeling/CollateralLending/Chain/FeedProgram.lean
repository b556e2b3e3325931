/-
  CollateralLending.Chain.FeedProgram

  The instructions of the price feed program. Anyone may open feeds; a feed is
  derived from its authority and its number. Only the authority publishes.
-/
import CollateralLending.Chain.Transaction

namespace CollateralLending.FeedProgram

/-- Opens a feed with its first answer. -/
def openFeed (call : Call) (terms : FeedTerms) : Tx Unit := do
  let feed ← call.pending .feed
  let authority ← call.signer .authority
  call.program .systemProgram .systemProgram
  call.createRecord .feed .feed authority feed (.feed authority terms.feedId)
  call.mutable .authority authority
  -- The terms are checked last: refused terms undo the account.
  Tx.liftCause (terms.check.mapError .feed) none
  Tx.log (.feedOpened terms.feedId terms.rate)
  Tx.save .feed feed
    { authority := authority
      feedId := terms.feedId
      answer :=
        { rate := terms.rate
          isStale := terms.isStale
          maxAge := terms.maxAge
          updatedAt := call.now }
      bump := .canonical }

/-- The feed that its authority updates. -/
def updatable (call : Call) : Tx (Loaded (PriceFeed Address Bump)) := do
  let feed ← call.load .feed .feed
  let authority ← call.signer .authority
  call.mutable .feed feed.address
  Tx.check (feed.value.authority = authority) ⟨.feed .unauthorized, some .feed⟩
  return feed

/-- Publishes a rate. -/
def setAnswer (call : Call) (rate : FixedRate) : Tx Unit := do
  let feed ← updatable call
  Tx.liftCause (rate.checkAnswer.mapError .feed) none
  Tx.emit (.feed (.answerUpdated feed.address rate))
  -- The stale flag stays as it was.
  let answer := { feed.value.answer with rate := rate, updatedAt := call.now }
  Tx.save .feed feed.address { feed.value with answer := answer }

/-- Sets or clears the stale flag. -/
def setStaleness (call : Call) (isStale : Bool) : Tx Unit := do
  let feed ← updatable call
  Tx.log (.stalenessSet feed.value.feedId isStale)
  Tx.emit (.feed (.stalenessSet feed.address isStale))
  let answer := { feed.value.answer with isStale := isStale }
  Tx.save .feed feed.address { feed.value with answer := answer }

end CollateralLending.FeedProgram
