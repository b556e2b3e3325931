/-
  CollateralLending.Proofs.Feed.Staleness

  A stale feed stays stale until its authority acts. Once a feed is open, its
  authority, number, age limit and bump seed are fixed. A move of the chain
  publishes a rate in it, at the time of the clock, or sets its flag, and
  either is an update that the feed's authority signs; every other move leaves
  it as it is (`Chain.FeedStep`).

  Staleness has two sources, the flag and the age. Publishing a rate leaves the
  flag alone, and an answer that nobody touches only grows older.

  Main statement: `stale_until_authority_acts`.
-/
import CollateralLending.Proofs.Feed.Frame
import CollateralLending.Proofs.Lending.Reached

namespace CollateralLending

open Bank

/-! ## Staleness in time -/

namespace FeedAnswer

variable {answer : FeedAnswer} {since time : Seconds}

/-- An answer is stale when it is flagged, or when it has a positive age limit and is older than
that. -/
theorem isStaleAt_iff : answer.isStaleAt time = true ↔
    answer.isStale = true ∨ (0 < answer.maxAge.toInt ∧
      answer.maxAge.toInt < (time.clampedSub answer.updatedAt).toInt) := by
  simp only [isStaleAt, Bool.or_eq_true, Bool.and_eq_true, decide_eq_true_eq]

theorem isStaleAt_of_flag (h : answer.isStale = true) (time : Seconds) :
    answer.isStaleAt time = true := isStaleAt_iff.2 (.inl h)

/-- An answer does not become fresh by waiting. The clamped age grows with time as the exact one. -/
theorem isStaleAt_mono (hlater : since.toInt ≤ time.toInt) (h : answer.isStaleAt since = true) :
    answer.isStaleAt time = true := by
  rcases isStaleAt_iff.1 h with hflag | ⟨hlimit, hage⟩
  · exact isStaleAt_of_flag hflag time
  · refine isStaleAt_iff.2 (.inr ⟨hlimit, ?_⟩)
    rw [Seconds.toInt_clampedSub] at hage ⊢
    omega

end FeedAnswer

/-! ## Updates -/

/-- What is fixed when a feed is opened. -/
structure PriceFeed.KeepsTerms (before after : PriceFeed Address Bump) : Prop where
  authority : after.authority = before.authority
  feedId : after.feedId = before.feedId
  maxAge : after.answer.maxAge = before.answer.maxAge
  bump : after.bump = before.bump

theorem PriceFeed.KeepsTerms.trans {before middle after : PriceFeed Address Bump}
    (h₁ : before.KeepsTerms middle) (h₂ : middle.KeepsTerms after) : before.KeepsTerms after where
  authority := h₂.authority.trans h₁.authority
  feedId := h₂.feedId.trans h₁.feedId
  maxAge := h₂.maxAge.trans h₁.maxAge
  bump := h₂.bump.trans h₁.bump

namespace Chain

/-- The transaction goes through with this feed, and this authority signs it. -/
structure UpdatesFeed (chain : Chain) (authority address : Address) (instruction : Instruction)
    (passed : Passed) : Prop where
  accepted : chain.Accepts instruction passed
  feed : (chain.callOf instruction passed).address? .feed = some address
  signs : (chain.callOf instruction passed).signs authority = true

/-- The authority updates the feed. -/
inductive FeedUpdated (chain : Chain) (authority address : Address) : Move → Prop where
  | answer {rate : FixedRate} {passed : Passed}
      (updates : chain.UpdatesFeed authority address (.setAnswer rate) passed) :
      FeedUpdated chain authority address (.transact (.setAnswer rate) passed)
  | staleness {isStale : Bool} {passed : Passed}
      (updates : chain.UpdatesFeed authority address (.setStaleness isStale) passed) :
      FeedUpdated chain authority address (.transact (.setStaleness isStale) passed)

/-- The authority clears the stale flag of the feed. -/
inductive FeedCleared (chain : Chain) (authority address : Address) : Move → Prop where
  | staleness {passed : Passed}
      (updates : chain.UpdatesFeed authority address (.setStaleness false) passed) :
      FeedCleared chain authority address (.transact (.setStaleness false) passed)

/-- What a move makes of a feed. -/
inductive FeedStep (chain : Chain) (address : Address) (feed : PriceFeed Address Bump) :
    Move → PriceFeed Address Bump → Prop where
  | answered {rate : FixedRate} {passed : Passed}
      (updates : chain.UpdatesFeed feed.authority address (.setAnswer rate) passed) :
      FeedStep chain address feed (.transact (.setAnswer rate) passed)
        { feed with answer := { feed.answer with rate := rate, updatedAt := chain.now } }
  | flagged {isStale : Bool} {passed : Passed}
      (updates : chain.UpdatesFeed feed.authority address (.setStaleness isStale) passed) :
      FeedStep chain address feed (.transact (.setStaleness isStale) passed)
        { feed with answer := { feed.answer with isStale := isStale } }
  | kept {move : Move} (untouched : ¬ chain.FeedUpdated feed.authority address move) :
      FeedStep chain address feed move feed

variable {chain : Chain} {address : Address} {feed next : PriceFeed Address Bump} {move : Move}

/-- No move changes who may update a feed, what it is about, or how old its answer may get. -/
theorem FeedStep.keepsTerms (h : chain.FeedStep address feed move next) : feed.KeepsTerms next := by
  cases h with
  | answered updates => exact ⟨rfl, rfl, rfl, rfl⟩
  | flagged updates => exact ⟨rfl, rfl, rfl, rfl⟩
  | kept untouched => exact ⟨rfl, rfl, rfl, rfl⟩

/-- Only clearing the flag takes it off a feed. -/
theorem FeedStep.isStale (h : chain.FeedStep address feed move next)
    (hkept : ¬ chain.FeedCleared feed.authority address move) (hflag : feed.answer.isStale = true) :
    next.answer.isStale = true := by
  cases h with
  | answered updates => exact hflag
  | @flagged isStale passed updates =>
      cases isStale with
      | true => rfl
      | false => exact absurd (.staleness updates) hkept
  | kept untouched => exact hflag

/-- Without an update by its authority the feed is the same. -/
theorem FeedStep.eq_of_untouched (h : chain.FeedStep address feed move next)
    (hkept : ¬ chain.FeedUpdated feed.authority address move) : next = feed := by
  cases h with
  | answered updates => exact absurd (.answer updates) hkept
  | flagged updates => exact absurd (.staleness updates) hkept
  | kept untouched => rfl

end Chain

/-! ## What a move makes of a feed -/

variable {chain : Chain} {address : Address} {feed next : PriceFeed Address Bump}

namespace FeedProgram

variable {call : Call} {s t : Session}

/-- A feed is opened where none was. -/
theorem OpenFeedRun.find?_feed {terms : FeedTerms} (run : OpenFeedRun call terms s t)
    (hfeed : s.bank.find? .feed address = some feed) :
    t.bank.find? .feed address = some feed := by
  have hmade := made_of_establish run.makes
  have howner := owner_of_find? AccountKind.feed_lawful hfeed
  have hne : address ≠ .feed run.authority terms.feedId := by
    rintro rfl
    rw [hmade.unowned] at howner
    cases howner
  rw [run.ends, find?_write_of_ne .feed _ hne, hmade.sameRecords.sameFeeds address, hfeed]

/-- An update writes the feed it was called with, and no other. -/
theorem FeedVisit.find?_feed (visit : FeedVisit call s t)
    (hfeed : s.bank.find? .feed address = some feed) :
    (visit.home = address ∧ visit.feed = feed ∧
        t.bank.find? .feed address = some { feed with answer := visit.answer }) ∨
      visit.home ≠ address ∧ t.bank.find? .feed address = some feed := by
  by_cases hhome : visit.home = address
  · left
    have hloaded := find?_of_load visit.loads
    rw [hhome, hfeed] at hloaded
    obtain rfl := Option.some.inj hloaded
    refine ⟨hhome, rfl, ?_⟩
    rw [visit.writes, hhome]
    exact find?_write AccountKind.feed_lawful _ hfeed
  · right
    refine ⟨hhome, ?_⟩
    rw [visit.writes, find?_write_of_ne .feed _ (Ne.symm hhome), hfeed]

/-- The call updates the feed of this visit, if any. -/
theorem FeedVisit.home_eq (visit : FeedVisit call s t) (h : call.address? .feed = some address) :
    visit.home = address := Option.some.inj (visit.feed_role.symm.trans h)

end FeedProgram

/-- An instruction that went through is a step of every feed there was before it. -/
theorem feedStep_of_accepted {instruction : Instruction} {passed : Passed} {t : Session}
    (hfeed : chain.bank.find? .feed address = some feed)
    (hyields : Tx.Yields (instruction.run (chain.callOf instruction passed)) ⟨chain.bank, [], []⟩ ()
      t) :
    ∃ next, t.bank.find? .feed address = some next ∧
      chain.FeedStep address feed (.transact instruction passed) next := by
  have haccepted := Chain.accepts_of_yields hyields
  cases instruction with
  | openFeed terms =>
      obtain ⟨run⟩ := FeedProgram.openFeed_run hyields
      exact ⟨feed, run.find?_feed hfeed, .kept (by rintro ⟨⟩)⟩
  | setAnswer rate =>
      obtain ⟨visit, -, hanswer⟩ := FeedProgram.setAnswer_run hyields
      rcases visit.find?_feed hfeed with ⟨rfl, rfl, hfound⟩ | ⟨hother, hfound⟩
      · rw [hanswer] at hfound
        exact ⟨_, hfound, .answered ⟨haccepted, visit.feed_role, visit.signs⟩⟩
      · refine ⟨feed, hfound, .kept fun hupdated => ?_⟩
        cases hupdated with
        | answer updates => exact hother (visit.home_eq updates.feed)
  | setStaleness isStale =>
      obtain ⟨visit, hanswer⟩ := FeedProgram.setStaleness_run hyields
      rcases visit.find?_feed hfeed with ⟨rfl, rfl, hfound⟩ | ⟨hother, hfound⟩
      · rw [hanswer] at hfound
        exact ⟨_, hfound, .flagged ⟨haccepted, visit.feed_role, visit.signs⟩⟩
      · refine ⟨feed, hfound, .kept fun hupdated => ?_⟩
        cases hupdated with
        | staleness updates => exact hother (visit.home_eq updates.feed)
  | _ =>
      have hsame := sameFeeds_of_run (by intro hprogram; cases hprogram) hyields
      exact ⟨feed, (hsame address).trans hfeed, .kept (by rintro ⟨⟩)⟩

/-- After any move the feed is there, as the move leaves it. -/
theorem feedStep_of_move (hfeed : chain.bank.find? .feed address = some feed) {move : Move}
    (hallowed : move.Allowed chain) :
    ∃ next, (chain.after move).bank.find? .feed address = some next ∧
      chain.FeedStep address feed move next := by
  cases move with
  | outside bank =>
      have hsame := hallowed.sameRecords.sameFeeds address
      exact ⟨feed, hsame.trans hfeed, .kept (by rintro ⟨⟩)⟩
  | clock now => exact ⟨feed, hfeed, .kept (by rintro ⟨⟩)⟩
  | transact instruction passed =>
      rcases chain.execute_cases instruction passed with ⟨hsame, hrefused⟩ | ⟨t, hyields, hafter, -⟩
      · rw [hsame]
        refine ⟨feed, hfeed, .kept fun hupdated => ?_⟩
        cases hupdated with
        | answer updates => exact hrefused updates.accepted
        | staleness updates => exact hrefused updates.accepted
      · rw [hafter]
        exact feedStep_of_accepted hfeed hyields

/-! ## What a run makes of a feed -/

namespace Chain

variable {start later : Chain} {moves : List Move} {changed : PriceFeed Address Bump}

/-- What became of a feed since it was seen in a chain, after the moves. -/
structure FeedSince (start : Chain) (moves : List Move) (address : Address)
    (feed next : PriceFeed Address Bump) : Prop where
  terms : feed.KeepsTerms next
  flagged : Never (·.FeedCleared feed.authority address) start moves →
    feed.answer.isStale = true → next.answer.isStale = true
  untouched : Never (·.FeedUpdated feed.authority address) start moves → next = feed

theorem FeedSince.nil (start : Chain) (address : Address) (feed : PriceFeed Address Bump) :
    start.FeedSince [] address feed feed where
  terms := ⟨rfl, rfl, rfl, rfl⟩
  flagged _ hflag := hflag
  untouched _ := rfl

theorem FeedSince.snoc (h : start.FeedSince moves address feed next)
    (run : Run start moves chain) {move : Move} (hstep : chain.FeedStep address next move changed) :
    start.FeedSince (moves ++ [move]) address feed changed := by
  -- The authority that the feed has now is the one it had at the start.
  have hauthority := h.terms.authority
  refine ⟨h.terms.trans hstep.keepsTerms, ?_, ?_⟩
  · intro hnever hflag
    obtain ⟨hbefore, hlast⟩ := (run.never_snoc _ move).1 hnever
    rw [← hauthority] at hlast
    exact hstep.isStale hlast (h.flagged hbefore hflag)
  · intro hnever
    obtain ⟨hbefore, hlast⟩ := (run.never_snoc _ move).1 hnever
    rw [← hauthority] at hlast
    rw [hstep.eq_of_untouched hlast]
    exact h.untouched hbefore

/-- By induction on the run, what happened to the feed since its start. -/
theorem feedSince_of_run (hfeed : start.bank.find? .feed address = some feed)
    (run : Run start moves chain) :
    ∃ next, chain.bank.find? .feed address = some next ∧
      start.FeedSince moves address feed next := by
  induction run with
  | nil => exact ⟨feed, hfeed, .nil start address feed⟩
  | snoc run move allowed ih =>
      obtain ⟨next, hnext, hsince⟩ := ih
      obtain ⟨changed, hchanged, hstep⟩ := feedStep_of_move hnext allowed
      exact ⟨changed, hchanged, hsince.snoc run hstep⟩

end Chain

/-- Take a feed as it is in some chain, and any run from there. The feed keeps its authority,
number, age limit and bump seed. If it is flagged as stale and its authority never clears the flag,
then it is stale at every time, whatever else was done with it. If its authority never updates it,
then it stays as it is, and if it is stale at some time, it is stale at every time after that. In
the chain that is reached each further move leaves the feed as it is, or is an update that its
authority signs and that sets either the rate and the time of publication or the flag. -/
theorem stale_until_authority_acts {start later : Chain} {moves : List Move} {address : Address}
    {feed : PriceFeed Address Bump} (hfeed : start.bank.find? .feed address = some feed)
    (run : Chain.Run start moves later) :
    ∃ next, later.bank.find? .feed address = some next ∧
      feed.KeepsTerms next ∧
      (Chain.Never (·.FeedCleared feed.authority address) start moves →
        feed.answer.isStale = true → ∀ time, next.answer.isStaleAt time = true) ∧
      (Chain.Never (·.FeedUpdated feed.authority address) start moves →
        next = feed ∧ ∀ since time : Seconds, since.toInt ≤ time.toInt →
          feed.answer.isStaleAt since = true → next.answer.isStaleAt time = true) ∧
      ∀ move : Move, move.Allowed later →
        ∃ changed, (later.after move).bank.find? .feed address = some changed ∧
          later.FeedStep address next move changed := by
  obtain ⟨next, hnext, hsince⟩ := Chain.feedSince_of_run hfeed run
  refine ⟨next, hnext, hsince.terms, ?_, ?_, fun move => feedStep_of_move hnext⟩
  · intro hnever hflag
    exact FeedAnswer.isStaleAt_of_flag (hsince.flagged hnever hflag)
  · intro hnever
    obtain rfl := hsince.untouched hnever
    exact ⟨rfl, fun since time => FeedAnswer.isStaleAt_mono⟩

/-! ### A flagged feed -/

namespace FlaggedFeed

open FirstDeposit

/-- The admin opens a feed that is flagged from the start and whose answers last for a minute. -/
def flagged : Chain :=
  start.after (.transact (.openFeed ⟨.zero, ⟨.units 2, 0⟩, true, ⟨60, by decide, by decide⟩⟩)
    ⟨[(.feed, .feed admin .zero), (.authority, admin), (.systemProgram, .systemProgram)], [], []⟩)

def published : PriceFeed Address Bump :=
  ⟨admin, .zero, ⟨⟨.units 2, 0⟩, true, ⟨60, by decide, by decide⟩, .zero⟩, .canonical⟩

def update (authority : Address) (instruction : Instruction) : Move :=
  .transact instruction ⟨[(.feed, .feed admin .zero), (.authority, authority)], [], []⟩

/-- The admin publishes rates but does not clear the flag. Someone else tries to. -/
def moves : List Move :=
  [update admin (.setAnswer ⟨.units 3, 0⟩), update user (.setStaleness false),
    .clock ⟨1000, by decide, by decide⟩, update admin (.setAnswer ⟨.units 5, 0⟩)]

def later : Chain := moves.foldl Chain.after flagged

theorem later_run : flagged.Run moves later := by
  refine Chain.Run.nil.extend moves ?_
  simp only [moves, List.mem_cons, List.not_mem_nil, or_false, forall_eq_or_imp, forall_eq]
  exact ⟨fun _ => trivial, fun _ => trivial, fun _ => trivial, fun _ => trivial⟩

theorem never_cleared : Chain.Never (·.FeedCleared admin (.feed admin .zero)) flagged moves := by
  refine ⟨?_, ?_, ?_, ?_, trivial⟩
  · intro hcleared
    cases hcleared
  · intro hcleared
    cases hcleared with
    | staleness updates => exact absurd updates.signs (by decide +kernel)
  · intro hcleared
    cases hcleared
  · intro hcleared
    cases hcleared

theorem flagged_feed_stays_stale :
    flagged.bank.find? .feed (.feed admin .zero) = some published ∧ flagged.Run moves later ∧
      (∀ time, published.answer.isStaleAt time = true) ∧
      ∃ next, later.bank.find? .feed (.feed admin .zero) = some next ∧
        next.answer.rate.raw.toNat = 5 ∧ next.answer.updatedAt.toInt = 1000 ∧
        ∀ time, next.answer.isStaleAt time = true := by
  have hfeed : flagged.bank.find? .feed (.feed admin .zero) = some published := by decide +kernel
  have hrate : (later.bank.find? .feed (.feed admin .zero)).map (fun feed =>
      (feed.answer.rate.raw.toNat, feed.answer.updatedAt.toInt)) = some (5, 1000) := by
    decide +kernel
  obtain ⟨next, hnext, -, hstale, -⟩ := stale_until_authority_acts hfeed later_run
  rw [hnext] at hrate
  have hpair := Prod.mk.inj (Option.some.inj hrate)
  exact ⟨hfeed, later_run, FeedAnswer.isStaleAt_of_flag rfl, next, hnext, hpair.1, hpair.2,
    hstale never_cleared rfl⟩

end FlaggedFeed

end CollateralLending
