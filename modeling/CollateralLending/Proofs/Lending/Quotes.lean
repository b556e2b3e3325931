/-
  CollateralLending.Proofs.Lending.Quotes

  Where an unusable rate stops an instruction of the lending program. Of all
  that an instruction checks and settles, only reading the oracle is refused for
  the rate; so whenever an instruction is, the price feed that it loaded quotes
  no price (`unquoted_of_refused`).
-/
import CollateralLending.Proofs.Lending.Effect
import CollateralLending.Proofs.Lending.Stops

namespace CollateralLending

/-! ## Records -/

theorem Quote.value_ne_invalidQuote {quote : Quote} {amount : Amount} :
    quote.value amount ≠ .error .invalidQuote := by
  intro h
  cases (Quote.value_refuses h).1

namespace Record

variable {record : Record} {oracle : Oracle} {amount : Amount}

theorem deposit_ne_invalidQuote : record.deposit amount ≠ .error .invalidQuote := by
  intro h
  rcases deposit_refuses h with h | ⟨h, -⟩ <;> cases h

theorem takeOut_ne_invalidQuote : record.takeOut amount ≠ .error .invalidQuote := by
  intro h
  cases takeOut_refuses h

theorem borrow_unquoted (h : (record.borrow oracle amount).result = .error .invalidQuote) :
    oracle.currentQuote.result = .error .invalidQuote := by
  simp only [borrow, ensurePositive, Consultation.result_bind_eq_error_iff,
    Consultation.result_lift, ensure_eq_error_iff, raiseDebt, map_eq_error_iff,
    someOr_eq_error_iff, Quote.value_ne_invalidQuote, Consultation.result_pure_ne_error,
    reduceCtorEq, and_false, exists_false, false_or, or_false] at h
  obtain ⟨_, -, hquote⟩ := h
  exact hquote

theorem payBack_unquoted (h : (record.payBack oracle amount).result = .error .invalidQuote) :
    oracle.currentQuote.result = .error .invalidQuote := by
  simp only [payBack, ensurePositive, Consultation.result_bind_eq_error_iff,
    Consultation.result_lift, ensure_eq_error_iff, lowerDebt, map_eq_error_iff,
    someOr_eq_error_iff, Quote.value_ne_invalidQuote, Consultation.result_pure_ne_error,
    reduceCtorEq, and_false, exists_false, false_or, or_false] at h
  obtain ⟨_, -, hquote⟩ := h
  exact hquote

/-- A withdrawal without debt asks for no price, and so is never refused for it. -/
theorem withdraw_unquoted (h : (record.withdraw oracle amount).result = .error .invalidQuote) :
    oracle.currentQuote.result = .error .invalidQuote := by
  simp only [withdraw, ensurePositive, Consultation.result_bind_eq_error_iff,
    Consultation.result_lift, ensure_eq_error_iff, reduceCtorEq, and_false, false_or] at h
  obtain ⟨_, -, h⟩ := h
  -- Only with debt is there a price to ask for.
  split at h
  · simp only [Consultation.result_bind_eq_error_iff, Consultation.result_lift,
      ensure_eq_error_iff, takeOut_ne_invalidQuote, Consultation.result_pure_ne_error, reduceCtorEq,
      and_false, exists_false, or_false] at h
    exact h
  · simp only [Consultation.result_bind_eq_error_iff, Consultation.result_lift,
      takeOut_ne_invalidQuote, Consultation.result_pure_ne_error, and_false, exists_false,
      or_false] at h

theorem liquidate_unquoted {K : Type} [DecidableEq K] {caller admin : K}
    (h : (record.liquidate caller admin oracle).result = .error .invalidQuote) :
    oracle.currentQuote.result = .error .invalidQuote := by
  simp only [liquidate, Consultation.result_bind_eq_error_iff, Consultation.result_lift,
    ensure_eq_error_iff, Consultation.result_pure_ne_error, reduceCtorEq, and_false, exists_false,
    false_or, or_false] at h
  obtain ⟨_, -, hquote⟩ := h
  exact hquote

end Record

theorem Totals.move_ne_invalidQuote {totals : Totals} {before after : Record} :
    (totals.move before after).2 ≠ .error .invalidQuote := by
  have hreplace : ∀ total old new : Amount,
      Amount.replace total old new ≠ .error .invalidQuote := by
    intro total old new h
    cases (someOr_eq_error_iff.1 h).2
  unfold move
  cases hdeposited : Amount.replace totals.deposited before.deposited after.deposited with
  | error error =>
      rintro ⟨rfl⟩
      exact hreplace _ _ _ hdeposited
  | ok deposited =>
      cases hborrowed : Amount.replace totals.borrowed before.debt after.debt with
      | error error =>
          rintro ⟨rfl⟩
          exact hreplace _ _ _ hborrowed
      | ok borrowed => simp

/-! ## Instructions -/

namespace LendingProgram

open Tx (Yields Refuses)

variable {call : Call} {amount : Amount} {s t : Session} {error : LendingError}

/-- There is a price feed that has an answer but quotes no price. -/
def Unquoted (call : Call) (bank : Bank) : Prop :=
  ∃ address feed, bank.find? .feed address = some feed ∧
    (feed.answer.snapshot call.now).currentQuote.result = .error .invalidQuote

/-- Opening a vault is refused for no reason of the lending program. -/
theorem refuses_openVault : Refuses (openVault call) s error ↔ False := by
  have hown : (Cause.lending error).isOwn = true := rfl
  simp only [openVault, Tx.fails_bind, Call.fails_signer hown, Call.fails_pending hown,
    Call.fails_load hown AccountKind.mint_neutral, Call.fails_load hown AccountKind.feed_neutral,
    Call.fails_systemAccount hown, Call.fails_program hown, Call.fails_rent hown,
    Call.fails_createRecord hown, Call.fails_createToken hown, Call.fails_mutable hown,
    Call.fails_derived hown, Tx.fails_account, false_or, iff_false, not_exists, not_and]
  intros
  split
  · simp only [Tx.fails_bind, Tx.fails_invoke, Tx.fails_log, Tx.fails_save, reduceCtorEq, and_false,
      exists_false, or_false, not_false_eq_true]
  · simp only [Tx.fails_bind, Tx.fails_log, Tx.fails_save, and_false, exists_false, or_false,
      not_false_eq_true]

theorem deposit_quoted : ¬ Refuses (deposit call amount) s .invalidQuote := by
  intro h
  obtain ⟨approach, hstops⟩ := deposit_refused h
  cases hstops with
  | settlement refused => exact Record.deposit_ne_invalidQuote refused
  | totals settles pays refused => exact Totals.move_ne_invalidQuote refused

/-- A borrow of the program refused for the rate was called with a feed that quotes none. -/
theorem borrow_unquoted (h : Refuses (borrow call amount) s .invalidQuote) :
    Unquoted call s.bank := by
  simp only [borrow, Tx.fails_bind, refuses_settled, Tx.fails_invokeOr, refuses_conclude,
    Totals.move_ne_invalidQuote, Tx.fails_emit, transferFailed, Cause.lending.injEq,
    reduceCtorEq, and_false, exists_false, or_false] at h
  rcases h with h | ⟨found, u, hfound, h⟩
  · -- The accounts are checked for other reasons.
    rcases refuses_debtSite h with h | h <;> cases h
  · obtain ⟨approach, feed, pool, wallet, hfeed, rfl, rfl⟩ := approach_of_debtSite hfound
    exact ⟨_, feed, Bank.find?_of_load hfeed, Record.borrow_unquoted h⟩

theorem payback_unquoted (h : Refuses (payback call amount) s .invalidQuote) :
    Unquoted call s.bank := by
  rcases payback_refused h with h | h | ⟨approach, feed, paid, hfeed, hstops⟩
  · cases h
  · cases h
  · cases hstops with
    | settlement refused =>
        exact ⟨_, feed, Bank.find?_of_load hfeed, Record.payBack_unquoted refused⟩
    | totals settles pays refused => exact absurd refused Totals.move_ne_invalidQuote

theorem withdraw_unquoted (h : Refuses (withdraw call amount) s .invalidQuote) :
    Unquoted call s.bank := by
  rcases withdraw_refused h with h | ⟨approach, feed, hfeed, hstops⟩
  · cases h
  · cases hstops with
    | settlement refused =>
        exact ⟨_, feed, Bank.find?_of_load hfeed, Record.withdraw_unquoted refused⟩
    | totals settles pays refused => exact absurd refused Totals.move_ne_invalidQuote

theorem liquidate_unquoted (h : Refuses (liquidate call) s .invalidQuote) :
    Unquoted call s.bank := by
  rcases liquidate_refused h with h | ⟨approach, hstops⟩
  · cases h
  · cases hstops with
    | settlement refused =>
        exact ⟨_, approach.feed, Bank.find?_of_load approach.feed_loads,
          Record.liquidate_unquoted refused⟩
    | totals refused => exact absurd refused Totals.move_ne_invalidQuote

/-- An instruction of the lending program that is refused for the rate has found it on a feed. -/
theorem unquoted_of_refused {instruction : Instruction}
    (hprogram : instruction.program = .lendingProgram)
    (h : Refuses (instruction.run call) s .invalidQuote) : Unquoted call s.bank := by
  cases instruction with
  | openVault => exact absurd h (by rw [Instruction.run, refuses_openVault]; exact id)
  | deposit amount => exact absurd h deposit_quoted
  | borrow amount => exact borrow_unquoted h
  | payback amount => exact payback_unquoted h
  | withdraw amount => exact withdraw_unquoted h
  | liquidate => exact liquidate_unquoted h
  | openFeed _ | setAnswer _ | setStaleness _ => cases hprogram
  | openShareVault _ | depositUnderlying _ | withdrawUnderlying _ | setExchangeRate _ =>
      cases hprogram

end LendingProgram

end CollateralLending
