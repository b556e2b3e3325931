/-
  CollateralLending.Price.Oracle

  Oracles and the operations that consult them. An operation that needs a price
  reads the oracle once, at its start, and keeps the quote it got. The reads an
  operation made are part of its outcome: a `Consultation` carries their number
  beside the result.
-/
import CollateralLending.Price.FixedRate

namespace CollateralLending

/-- An answer as an oracle reports it; not yet trusted. -/
structure RawQuote where
  /-- The reported rate. -/
  rate : FixedRate
  /-- Whether the oracle holds the answer for stale. -/
  isStale : Bool
deriving DecidableEq

/-- What reading an oracle yields for as long as nothing changes it. -/
inductive Oracle where
  /-- Every read reports this answer. -/
  | answers (quote : RawQuote)
  /-- Every read fails with this error. -/
  | fails (error : LendingError)
deriving DecidableEq

/-- The outcome of an operation together with the number of oracle reads it made. -/
structure Consultation (α : Type) where
  /-- How often the oracle was read. -/
  reads : Nat
  /-- What the operation yields. -/
  result : Except LendingError α

namespace Consultation

/-- An outcome that needed no price. -/
def ofResult {α : Type} (result : Except LendingError α) : Consultation α := ⟨0, result⟩

/-- Continues a successful operation; the reads of both parts add up. -/
def andThen {α β : Type} (first : Consultation α) (next : α → Consultation β) : Consultation β :=
  match first.result with
  | .ok a => ⟨first.reads + (next a).reads, (next a).result⟩
  | .error e => ⟨first.reads, .error e⟩

instance : Monad Consultation where
  pure a := ofResult (.ok a)
  bind := andThen

instance : MonadLift (Except LendingError) Consultation where
  monadLift := ofResult

end Consultation

namespace Oracle

/-- One read of the oracle. -/
def latest : Oracle → Except LendingError RawQuote
  | answers quote => .ok quote
  | fails error => .error error

/-- The validated quote of one answer: a stale answer is refused before its rate is looked at. -/
def usable (answer : RawQuote) : Except LendingError Quote :=
  if answer.isStale then .error .staleFeed else answer.rate.quote?

/-- Reads the oracle once and validates the answer. -/
def currentQuote (oracle : Oracle) : Consultation Quote := ⟨1, oracle.latest.bind usable⟩

end Oracle

end CollateralLending
