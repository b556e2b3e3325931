/-
  CollateralLending.Proofs.Feed.Usable

  Price feeds are always usable or stale. Only the feed program writes feeds,
  and it publishes only rates that the lending program relies on; so whatever
  feed there is, at any time it either counts as stale or quotes its price, and
  nothing that is computed with its rate leaves 128 bits.

  Main statement: `feeds_are_usable_or_stale`.
-/
import CollateralLending.Proofs.Feed.Frame
import CollateralLending.Proofs.Lending.Exits
import CollateralLending.Proofs.Lending.Quotes

namespace CollateralLending

open Bank

/-! ## Answers -/

/-- The program accepts a price that is positive and has few enough decimals. -/
theorem FixedRate.checkAnswer_eq_ok_iff {rate : FixedRate} {u : Unit} :
    rate.checkAnswer = .ok u ↔ 0 < rate.raw.toNat ∧ rate.decimals ≤ maxDecimals := by
  simp only [checkAnswer, bind_eq_ok_iff, ensure_eq_ok_iff, exists_const]

/-- The program opens a feed with an acceptable price and an age limit that is not negative. -/
theorem FeedTerms.check_eq_ok_iff {terms : FeedTerms} {u : Unit} :
    terms.check = .ok u ↔
      (0 < terms.rate.raw.toNat ∧ terms.rate.decimals ≤ maxDecimals) ∧ 0 ≤ terms.maxAge.toInt := by
  simp only [check, bind_eq_ok_iff, FixedRate.checkAnswer_eq_ok_iff, ensure_eq_ok_iff,
    exists_const]

namespace FeedAnswer

variable {answer : FeedAnswer}

/-- What holds of every published answer. -/
structure Usable (answer : FeedAnswer) : Prop where
  raw_pos : 0 < answer.rate.raw.toNat
  decimals_le : answer.rate.decimals ≤ maxDecimals
  maxAge_nonneg : 0 ≤ answer.maxAge.toInt

/-- The price that a usable answer quotes. -/
def Usable.quote (h : answer.Usable) : Quote := ⟨answer.rate, h.raw_pos, h.decimals_le⟩

/-- A usable answer quotes its price unless it is stale. -/
theorem Usable.currentQuote_eq (h : answer.Usable) (now : Seconds) :
    (answer.snapshot now).currentQuote.result =
      if answer.isStaleAt now then .error .staleFeed else .ok h.quote := by
  show Oracle.usable ⟨answer.rate, answer.isStaleAt now⟩ = _
  unfold Oracle.usable
  split
  · rfl
  · exact FixedRate.quote?_eq_ok_iff.2 rfl

end FeedAnswer

/-! ## Usable feeds -/

namespace Bank

variable {before after bank : Bank}

/-- All price feeds are usable. -/
def UsableFeeds (bank : Bank) : Prop :=
  ∀ a feed, bank.find? .feed a = some feed → feed.answer.Usable

theorem UsableFeeds.of_same (h : before.UsableFeeds) (hsame : SameFeeds before after) :
    after.UsableFeeds := by
  intro a feed hfeed
  rw [hsame a] at hfeed
  exact h a feed hfeed

/-- Writing a usable answer keeps the feeds usable. -/
theorem UsableFeeds.write (h : bank.UsableFeeds) {home : Address} {feed : PriceFeed Address Bump}
    (howner : (bank.get home).owner = .feedProgram) (husable : feed.answer.Usable) :
    (bank.write .feed home feed).UsableFeeds := by
  intro a found hfound
  by_cases ha : a = home
  · subst ha
    rw [find?_write_of_owner AccountKind.feed_lawful feed howner] at hfound
    cases hfound
    exact husable
  · rw [find?_write_of_ne .feed feed ha] at hfound
    exact h a found hfound

end Bank

/-! ## Instructions -/

variable {call : Call} {amount : Amount} {s t : Session}

namespace FeedProgram

/-- A feed is opened with a price that was checked. -/
theorem OpenFeedRun.usableFeeds {terms : FeedTerms} (run : OpenFeedRun call terms s t)
    (h : s.bank.UsableFeeds) : t.bank.UsableFeeds := by
  have hmade := made_of_establish run.makes
  obtain ⟨⟨hraw, hdecimals⟩, hage⟩ := FeedTerms.check_eq_ok_iff.1 run.accepts
  rw [run.ends]
  exact (h.of_same hmade.sameRecords.sameFeeds).write hmade.owner ⟨hraw, hdecimals, hage⟩

/-- Writing an acceptable answer into one feed leaves all of them usable. -/
theorem FeedVisit.usableFeeds (visit : FeedVisit call s t) (h : s.bank.UsableFeeds)
    (husable : visit.answer.Usable) : t.bank.UsableFeeds := by
  rw [visit.writes]
  exact h.write (owner_of_find? AccountKind.feed_lawful (find?_of_load visit.loads)) husable

end FeedProgram

/-- Every instruction that goes through keeps the feeds usable. -/
theorem usableFeeds_of_run (h : s.bank.UsableFeeds) {instruction : Instruction}
    (hyields : Tx.Yields (instruction.run call) s () t) : t.bank.UsableFeeds := by
  cases instruction with
  | openFeed terms =>
      obtain ⟨run⟩ := FeedProgram.openFeed_run hyields
      exact run.usableFeeds h
  | setAnswer rate =>
      -- The new rate was checked; the age limit is the old one.
      obtain ⟨visit, hcheck, hanswer⟩ := FeedProgram.setAnswer_run hyields
      obtain ⟨hraw, hdecimals⟩ := FixedRate.checkAnswer_eq_ok_iff.1 hcheck
      have hold := h _ _ (find?_of_load visit.loads)
      exact visit.usableFeeds h (by rw [hanswer]; exact ⟨hraw, hdecimals, hold.maxAge_nonneg⟩)
  | setStaleness isStale =>
      obtain ⟨visit, hanswer⟩ := FeedProgram.setStaleness_run hyields
      have hold := h _ _ (find?_of_load visit.loads)
      exact visit.usableFeeds h (by
        rw [hanswer]
        exact ⟨hold.raw_pos, hold.decimals_le, hold.maxAge_nonneg⟩)
  | _ => exact h.of_same (sameFeeds_of_run (by intro hprogram; cases hprogram) hyields)

/-! ## Runs -/

theorem Bank.Fresh.usableFeeds {bank : Bank} (h : bank.Fresh) : bank.UsableFeeds := by
  intro a feed hfeed
  have hown := h.unowned a
  rw [owner_of_find? AccountKind.feed_lawful hfeed] at hown
  cases hown

theorem usableFeeds_of_move {chain : Chain} (h : chain.bank.UsableFeeds) {move : Move}
    (hallowed : move.Allowed chain) : (chain.after move).bank.UsableFeeds := by
  cases move with
  | outside bank => exact h.of_same hallowed.sameRecords.sameFeeds
  | clock now => exact h
  | transact instruction passed =>
      rcases chain.execute_cases instruction passed with ⟨hsame, -⟩ | ⟨t, hyields, hafter, -⟩
      · rw [hsame]
        exact h
      · rw [hafter]
        exact usableFeeds_of_run (s := ⟨chain.bank, [], []⟩) h hyields

/-- From a fresh start, all feeds are usable after any run. -/
theorem usableFeeds_of_chain {start chain : Chain} {moves : List Move} (hfresh : start.bank.Fresh)
    (run : Chain.Run start moves chain) : chain.bank.UsableFeeds := by
  induction run with
  | nil => exact hfresh.usableFeeds
  | snoc run move allowed ih => exact usableFeeds_of_move ih allowed

/-- What consumers can rely on of a published answer: its numbers are in range; at any time it
either counts as stale, and is refused for that reason, or quotes its price; and neither the power
of ten of its scale nor the product of its rate with any amount leaves 128 bits. -/
structure FeedAnswer.UsableOrStale (answer : FeedAnswer) : Prop where
  raw_pos : 0 < answer.rate.raw.toNat
  decimals_le : answer.rate.decimals.toNat ≤ 18
  maxAge_nonneg : 0 ≤ answer.maxAge.toInt
  stale_iff : ∀ now,
    (∃ error, (answer.snapshot now).currentQuote.result = .error error) ↔
      answer.isStaleAt now = true
  refused : ∀ now error, (answer.snapshot now).currentQuote.result = .error error →
    error = .staleFeed
  quoted : ∀ now quote, (answer.snapshot now).currentQuote.result = .ok quote →
    quote.rate = answer.rate
  scale_lt : 10 ^ answer.rate.decimals.toNat < 2 ^ 128
  product_lt : ∀ amount : Amount, amount.toNat * answer.rate.raw.toNat < 2 ^ 128
  converts : ∀ amount : Amount, ∃ value, answer.rate.wide? amount = some value ∧
    value.toNat = amount.toNat * answer.rate.raw.toNat / 10 ^ answer.rate.decimals.toNat

theorem FeedAnswer.Usable.usableOrStale {answer : FeedAnswer} (h : answer.Usable) :
    answer.UsableOrStale where
  raw_pos := h.raw_pos
  decimals_le := h.quote.decimals_toNat_le
  maxAge_nonneg := h.maxAge_nonneg
  stale_iff now := by
    rw [h.currentQuote_eq]
    by_cases hstale : answer.isStaleAt now = true
    · simp [hstale]
    · simp [hstale]
  refused now error herror := by
    rw [h.currentQuote_eq] at herror
    split at herror
    · cases herror
      rfl
    · cases herror
  quoted now quote hquote := by
    rw [h.currentQuote_eq] at hquote
    split at hquote
    · cases hquote
    · cases hquote
      rfl
  scale_lt := h.quote.scale.lt
  product_lt amount := (amount.mulWide answer.rate.raw).lt
  converts amount := ⟨_, h.quote.rate_wide? amount, h.quote.toNat_wide amount⟩

/-- In every reached state all price feeds are usable or stale, at whatever time they are looked at,
and no instruction of the lending program is refused because of an unusable rate. -/
theorem feeds_are_usable_or_stale {start chain : Chain} {moves : List Move}
    (hfresh : start.bank.Fresh) (run : Chain.Run start moves chain) :
    (∀ a feed, chain.bank.find? .feed a = some feed → feed.answer.UsableOrStale) ∧
    ∀ instruction passed, instruction.program = .lendingProgram →
      ¬ chain.Refuses instruction passed .invalidQuote := by
  have husable := usableFeeds_of_chain hfresh run
  refine ⟨fun a feed hfeed => (husable a feed hfeed).usableOrStale, ?_⟩
  -- A refusal for the rate leads back to a feed, which by the first part is refused as stale only.
  intro instruction passed hprogram hrefused
  obtain ⟨a, feed, hfeed, hquote⟩ :=
    LendingProgram.unquoted_of_refused hprogram (fails_of_chain hrefused)
  have hstale := (husable a feed hfeed).usableOrStale.refused _ _ hquote
  cases hstale

open FirstDeposit in
/-- The feed of the first deposit quotes two lamports for a unit of debt, and a user may leave at
that price. -/
theorem first_feed_is_usable :
    (∃ feed, reached.bank.find? .feed (.feed admin .zero) = some feed ∧
      feed.answer.UsableOrStale ∧
      (feed.answer.snapshot reached.now).currentQuote.result.toOption.map
        (·.rate.raw.toNat) = some 2) ∧
      ¬ reached.Refuses (.withdraw (.units 1000)) leaving .invalidQuote := by
  obtain ⟨hfeeds, hrefuses⟩ := feeds_are_usable_or_stale start_fresh reached_run
  refine ⟨?_, hrefuses (.withdraw (.units 1000)) leaving rfl⟩
  have hfound : (reached.bank.find? .feed (.feed admin .zero)).isSome = true := by decide +kernel
  obtain ⟨feed, hfeed⟩ := Option.isSome_iff_exists.1 hfound
  have hquote : (reached.bank.find? .feed (.feed admin .zero)).map (fun feed =>
      (feed.answer.snapshot reached.now).currentQuote.result.toOption.map (·.rate.raw.toNat)) =
        some (some 2) := by decide +kernel
  rw [hfeed] at hquote
  exact ⟨feed, hfeed, hfeeds _ _ hfeed, Option.some.inj hquote⟩

end CollateralLending
