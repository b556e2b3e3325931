/-
  CollateralLending.Proofs.Feed.Age

  When a published answer is too old. Its age is computed in 64 bits, clamped,
  while two times of 64 bits can be almost 2 ^ 64 seconds apart. At the lower
  end this makes no difference, since a limit that is in force is positive. At
  the upper end a clamped age still exceeds every limit that the exact one
  exceeds, but for one: nothing exceeds the longest limit there is.

  Main statement: `feed_is_stale_when_flagged_or_expired`.
-/
import CollateralLending.Proofs.Feed.Staleness

namespace CollateralLending

/-! ## Clamped differences -/

namespace Seconds

/-- The longest age limit there is. -/
def longest : Seconds := ⟨2 ^ (63 : Nat) - 1, by decide, by decide⟩

@[simp] theorem toInt_longest : longest.toInt = 2 ^ (63 : Nat) - 1 := rfl

/-- A clamped difference exceeds what the exact one exceeds, except the longest limit. -/
theorem lt_clampedSub_iff {limit time since : Seconds} :
    limit.toInt < (time.clampedSub since).toInt ↔
      limit.toInt < time.toInt - since.toInt ∧ limit ≠ longest := by
  have hlongest : limit ≠ longest ↔ limit.toInt < 2 ^ (63 : Nat) - 1 := by
    have hlt := limit.lt
    rw [ne_eq, Seconds.ext_iff, toInt_longest]
    omega
  have hge := limit.ge
  rw [toInt_clampedSub, hlongest]
  omega

end Seconds

/-! ## Answers that expired -/

namespace FeedAnswer

variable {answer : FeedAnswer} {now : Seconds}

/-- The answer was published longer ago than its age limit, in exact numbers. A limit of zero is no
limit. -/
def Expired (answer : FeedAnswer) (now : Seconds) : Prop :=
  0 < answer.maxAge.toInt ∧ answer.maxAge.toInt < now.toInt - answer.updatedAt.toInt

instance (answer : FeedAnswer) (now : Seconds) : Decidable (answer.Expired now) :=
  inferInstanceAs (Decidable (_ ∧ _))

/-- The clamped age tells every expired answer, except where the age limit is the longest there
is. -/
theorem isStaleAt_iff_expired :
    answer.isStaleAt now = true ↔
      answer.isStale = true ∨ answer.Expired now ∧ answer.maxAge ≠ .longest := by
  rw [isStaleAt_iff, Seconds.lt_clampedSub_iff, Expired, and_assoc]

/-- Whoever asks for a price is refused for a stale feed exactly when the answer is stale. -/
theorem refused_as_stale_iff :
    (answer.snapshot now).currentQuote.result = .error .staleFeed ↔
      answer.isStaleAt now = true := by
  constructor
  · intro hrefused
    rcases Oracle.currentQuote_refuses hrefused with ⟨hstale, -⟩ | ⟨-, -, hinvalid⟩
    · exact hstale
    · cases hinvalid
  · intro hstale
    show Oracle.usable ⟨answer.rate, answer.isStaleAt now⟩ = _
    unfold Oracle.usable
    rw [if_pos hstale]

end FeedAnswer

variable {K B : Type}

/-- A feed is stale exactly when its flag is set or its answer has expired and its age limit is not
the longest there is. So it is told stale rightly unless it has the longest limit, is not flagged
and has expired, and whoever asks for its price is refused for a stale feed exactly when it is. -/
theorem feed_is_stale_when_flagged_or_expired (feed : PriceFeed K B) (now : Seconds) :
    (feed.answer.isStaleAt now = true ↔
      feed.answer.isStale = true ∨ feed.answer.Expired now ∧ feed.answer.maxAge ≠ .longest) ∧
    ((feed.answer.isStaleAt now = true ↔
        feed.answer.isStale = true ∨ feed.answer.Expired now) ↔
      ¬ (feed.answer.isStale = false ∧ feed.answer.maxAge = .longest ∧ feed.answer.Expired now)) ∧
    ((feed.answer.snapshot now).currentQuote.result = .error .staleFeed ↔
      feed.answer.isStaleAt now = true) := by
  refine ⟨FeedAnswer.isStaleAt_iff_expired, ?_, FeedAnswer.refused_as_stale_iff⟩
  rw [FeedAnswer.isStaleAt_iff_expired, ← Bool.not_eq_true]
  tauto

/-- An answer of the second before the epoch, with the longest limit. -/
def earlyAnswer : FeedAnswer :=
  ⟨⟨.units 5, 1⟩, false, .longest, ⟨-1, by decide, by decide⟩⟩

/-- At the end of time it is 2 ^ 63 seconds old, a second more than its limit, and not stale. -/
theorem expired_answer_is_fresh :
    earlyAnswer.isStale = false ∧ earlyAnswer.Expired .longest ∧
      earlyAnswer.isStaleAt .longest = false ∧
      ¬ (earlyAnswer.isStaleAt .longest = true ↔
        earlyAnswer.isStale = true ∨ earlyAnswer.Expired .longest) := by
  have hexpired : earlyAnswer.Expired .longest := by decide
  have hfresh : earlyAnswer.isStaleAt .longest = false := by decide
  refine ⟨rfl, hexpired, hfresh, fun h => ?_⟩
  rw [hfresh] at h
  cases h.2 (.inr hexpired)

end CollateralLending
