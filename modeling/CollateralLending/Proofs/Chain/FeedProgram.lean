/-
  CollateralLending.Proofs.Chain.FeedProgram

  What an instruction of the price feed program did when it went through. The
  two updates share `FeedVisit`: they load a feed whose authority signs, and
  write another answer over it.
-/
import CollateralLending.Proofs.Outcome
import CollateralLending.Proofs.Chain.Yields

namespace CollateralLending.FeedProgram

open Tx (Yields)

/-- The opening of a feed. -/
structure OpenFeedRun (call : Call) (terms : FeedTerms) (s t : Session) where
  authority : Address
  made : Bank
  signs : call.signs authority = true
  feed_role : call.address? .feed = some (.feed authority terms.feedId)
  makes : call.Makes authority (.feed authority terms.feedId) PriceFeed.layout.size .feedProgram
    s.bank made
  accepts : terms.check = .ok ()
  ends : t =
    { bank := made.write .feed (.feed authority terms.feedId)
        { authority := authority
          feedId := terms.feedId
          answer := ⟨terms.rate, terms.isStale, terms.maxAge, call.now⟩
          bump := .canonical }
      events := s.events
      log := s.log ++ [.feedOpened terms.feedId terms.rate] }

/-- An update of a feed by its authority. -/
structure FeedVisit (call : Call) (s t : Session) where
  /-- The address of the feed. -/
  home : Address
  feed : PriceFeed Address Bump
  /-- The answer after the update. -/
  answer : FeedAnswer
  feed_role : call.address? .feed = some home
  signs : call.signs feed.authority = true
  loads : AccountKind.feed.load (s.bank.get home) = .ok feed
  writes : t.bank = s.bank.write .feed home { feed with answer := answer }
  announces : ∃ event, t.events = s.events ++ [.feed event]

variable {call : Call} {s t : Session}

/-- What opening a price feed did, step by step. -/
theorem openFeed_run {terms : FeedTerms} (h : Yields (openFeed call terms) s () t) :
    Nonempty (OpenFeedRun call terms s t) := by
  simp only [openFeed, Tx.yields_bind, Tx.yields_liftCause, Tx.yields_log, Tx.yields_save,
    Call.yields_signer, Call.yields_pending, Call.yields_program, Call.yields_mutable,
    mapError_eq_ok_iff, and_assoc, exists_and_left, exists_eq_left, exists_const] at h
  obtain ⟨feed, hfeed, authority, -, hsigns, -, -, _, u, hrecord, -, -, _, hcheck, rfl⟩ := h
  obtain ⟨rfl, made, hmade, rfl⟩ := Call.makes_of_createRecord hrecord
  exact ⟨{
    authority := authority
    made := made
    signs := hsigns
    feed_role := hfeed
    makes := hmade
    accepts := hcheck
    ends := rfl }⟩

/-- A feed is updatable by the authority it names, which has signed. -/
theorem loads_of_updatable {found : Loaded (PriceFeed Address Bump)}
    (h : Yields (updatable call) s found t) :
    (call.address? .feed = some found.address ∧ call.signs found.value.authority = true ∧
      AccountKind.feed.load (s.bank.get found.address) = .ok found.value) ∧ t = s := by
  simp only [updatable, Tx.yields_bind, Tx.yields_pure, Tx.yields_check, Call.yields_signer,
    Call.yields_load, Call.yields_mutable, and_assoc, exists_and_left, exists_eq_left,
    exists_const] at h
  obtain ⟨feed, hfeed, hload, authority, -, hsigns, -, -, rfl, rfl, rfl⟩ := h
  exact ⟨⟨hfeed, hsigns, hload⟩, rfl⟩

/-- A new answer is checked, and is dated by the clock and not by the caller. -/
theorem setAnswer_run {rate : FixedRate} (h : Yields (setAnswer call rate) s () t) :
    ∃ visit : FeedVisit call s t, rate.checkAnswer = .ok () ∧
      visit.answer = { visit.feed.answer with rate := rate, updatedAt := call.now } := by
  simp only [setAnswer, Tx.yields_bind, Tx.yields_liftCause, Tx.yields_emit, Tx.yields_save,
    mapError_eq_ok_iff] at h
  obtain ⟨found, _, hfound, _, _, ⟨hcheck, rfl⟩, _, _, rfl, rfl⟩ := h
  obtain ⟨⟨hfeed, hsigns, hload⟩, rfl⟩ := loads_of_updatable hfound
  exact ⟨{
    home := found.address
    feed := found.value
    answer := _
    feed_role := hfeed
    signs := hsigns
    loads := hload
    writes := rfl
    announces := ⟨_, rfl⟩ }, hcheck, rfl⟩

/-- Flagging a feed changes the flag and nothing else of its answer. -/
theorem setStaleness_run {isStale : Bool} (h : Yields (setStaleness call isStale) s () t) :
    ∃ visit : FeedVisit call s t,
      visit.answer = { visit.feed.answer with isStale := isStale } := by
  simp only [setStaleness, Tx.yields_bind, Tx.yields_emit, Tx.yields_log, Tx.yields_save] at h
  obtain ⟨found, _, hfound, _, _, rfl, _, _, rfl, rfl⟩ := h
  obtain ⟨⟨hfeed, hsigns, hload⟩, rfl⟩ := loads_of_updatable hfound
  exact ⟨{
    home := found.address
    feed := found.value
    answer := _
    feed_role := hfeed
    signs := hsigns
    loads := hload
    writes := rfl
    announces := ⟨_, rfl⟩ }, rfl⟩

end CollateralLending.FeedProgram
