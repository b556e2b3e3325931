/-
  CollateralLending.Proofs.Lending.Settlements

  When each operation on a record settles, and with which outcome: one
  equivalence for each operation, over the numbers of the record. A quote
  stands for the price that the oracle gave.

  The last sections tell why an operation on a record is refused, and when the
  totals of a vault can be moved.
-/
import CollateralLending.Lending.Settlement
import CollateralLending.Lending.Vault
import CollateralLending.Proofs.Outcome

namespace CollateralLending

/-! ## Consultations -/

namespace Consultation

variable {α β : Type}

theorem result_bind_eq_ok_iff {first : Consultation α} {next : α → Consultation β} {b : β} :
    (first >>= next).result = .ok b ↔ ∃ a, first.result = .ok a ∧ (next a).result = .ok b := by
  show (first.andThen next).result = .ok b ↔ _
  unfold andThen
  cases hfirst : first.result with
  | error e => simp
  | ok a => simp

theorem result_bind_eq_error_iff {first : Consultation α} {next : α → Consultation β}
    {error : LendingError} :
    (first >>= next).result = .error error ↔
      first.result = .error error ∨ ∃ a, first.result = .ok a ∧ (next a).result = .error error := by
  show (first.andThen next).result = .error error ↔ _
  unfold andThen
  cases hfirst : first.result with
  | error e => simp
  | ok a => simp

theorem result_pure_ne_error {a : α} {error : LendingError} :
    (pure a : Consultation α).result ≠ .error error := by
  show (Except.ok a : Except LendingError α) ≠ .error error
  simp

theorem result_pure_eq_ok_iff {a b : α} : (pure a : Consultation α).result = .ok b ↔ a = b := by
  show (Except.ok a : Except LendingError α) = .ok b ↔ a = b
  simp

theorem result_lift (result : Except LendingError α) :
    (liftM result : Consultation α).result = result := rfl

end Consultation

/-! ## Quotes -/

theorem FixedRate.quote?_eq_ok_iff {rate : FixedRate} {quote : Quote} :
    rate.quote? = .ok quote ↔ rate = quote.rate := by
  unfold quote?
  constructor
  · intro h
    split at h
    · split at h
      · cases h
        rfl
      · cases h
    · cases h
  · rintro rfl
    rw [dif_pos quote.raw_pos, dif_pos quote.decimals_le]

/-- An oracle quotes a price when its answer is fresh and the rate is one to rely on. -/
theorem Oracle.currentQuote_eq_ok_iff {oracle : Oracle} {quote : Quote} :
    oracle.currentQuote.result = .ok quote ↔ oracle = .answers ⟨quote.rate, false⟩ := by
  unfold currentQuote latest usable
  cases oracle with
  | fails error => simp [Except.bind]
  | answers answer =>
      obtain ⟨rate, isStale⟩ := answer
      cases isStale with
      | false => simp [Except.bind, FixedRate.quote?_eq_ok_iff]
      | true => simp [Except.bind]

theorem Quote.value_eq_ok_iff {quote : Quote} {amount worth : Amount} :
    quote.value amount = .ok worth ↔ worth.toNat = (quote.wide amount).toNat := by
  unfold value narrow
  rw [someOr_eq_ok_iff, Word.ofNat?_eq_some_iff]

/-! ## Records -/

namespace Record

variable {record next : Record} {amount : Amount}

theorem raiseDeposit_eq_ok_iff :
    record.raiseDeposit amount = .ok next ↔
      next.deposited.toNat = record.deposited.toNat + amount.toNat ∧ next.debt = record.debt := by
  unfold raiseDeposit
  rw [map_eq_ok_iff]
  simp only [someOr_eq_ok_iff, Word.add?_eq_some_iff]
  constructor
  · rintro ⟨sum, hsum, rfl⟩
    exact ⟨hsum, rfl⟩
  · rintro ⟨hsum, hdebt⟩
    exact ⟨next.deposited, hsum, by rw [← hdebt]⟩

theorem lowerDeposit_eq_ok_iff :
    record.lowerDeposit amount = .ok next ↔
      record.deposited.toNat = next.deposited.toNat + amount.toNat ∧ next.debt = record.debt := by
  unfold lowerDeposit
  rw [map_eq_ok_iff]
  simp only [someOr_eq_ok_iff, Word.sub?_eq_some_iff]
  constructor
  · rintro ⟨rest, hrest, rfl⟩
    exact ⟨hrest, rfl⟩
  · rintro ⟨hrest, hdebt⟩
    exact ⟨next.deposited, hrest, by rw [← hdebt]⟩

theorem raiseDebt_eq_ok_iff :
    record.raiseDebt amount = .ok next ↔
      next.debt.toNat = record.debt.toNat + amount.toNat ∧ next.deposited = record.deposited := by
  unfold raiseDebt
  rw [map_eq_ok_iff]
  simp only [someOr_eq_ok_iff, Word.add?_eq_some_iff]
  constructor
  · rintro ⟨sum, hsum, rfl⟩
    exact ⟨hsum, rfl⟩
  · rintro ⟨hsum, hdeposit⟩
    exact ⟨next.debt, hsum, by rw [← hdeposit]⟩

theorem lowerDebt_eq_ok_iff :
    record.lowerDebt amount = .ok next ↔
      record.debt.toNat = next.debt.toNat + amount.toNat ∧ next.deposited = record.deposited := by
  unfold lowerDebt
  rw [map_eq_ok_iff]
  simp only [someOr_eq_ok_iff, Word.sub?_eq_some_iff]
  constructor
  · rintro ⟨rest, hrest, rfl⟩
    exact ⟨hrest, rfl⟩
  · rintro ⟨hrest, hdeposit⟩
    exact ⟨next.debt, hrest, by rw [← hdeposit]⟩

theorem takeOut_eq_ok_iff :
    record.takeOut amount = .ok next ↔
      record.deposited.toNat = next.deposited.toNat + amount.toNat ∧ next.debt = record.debt := by
  unfold takeOut
  rw [bind_eq_ok_iff]
  simp only [ensure_eq_ok_iff, lowerDeposit_eq_ok_iff]
  constructor
  · rintro ⟨_, -, h⟩
    exact h
  · intro h
    exact ⟨(), by omega, h⟩

/-- A record lacks collateral when the value of its debt is more than its deposit. -/
theorem isUndercollateralized_iff {quote : Quote} :
    record.isUndercollateralized quote = true ↔
      record.deposited.toNat < (quote.wide record.debt).toNat := by
  unfold isUndercollateralized
  rw [decide_eq_true_iff]

/-! ## Operations -/

variable {oracle : Oracle} {settlement : Settlement}

/-- A deposit is accepted when its amount is positive and the sum is an amount. -/
theorem deposit_eq_ok_iff :
    record.deposit amount = .ok settlement ↔
      0 < amount.toNat ∧
      settlement.next.deposited.toNat = record.deposited.toNat + amount.toNat ∧
      settlement.next.debt = record.debt ∧ settlement.collateralEquivalent = .zero := by
  unfold deposit ensurePositive
  simp only [bind_eq_ok_iff, ensure_eq_ok_iff, raiseDeposit_eq_ok_iff, pure_eq_ok_iff]
  constructor
  · rintro ⟨_, hpos, next, ⟨hdeposit, hdebt⟩, rfl⟩
    exact ⟨hpos, hdeposit, hdebt, rfl⟩
  · rintro ⟨hpos, hdeposit, hdebt, hvalue⟩
    exact ⟨(), hpos, settlement.next, ⟨hdeposit, hdebt⟩, by rw [← hvalue]⟩

theorem borrow_eq_ok_iff :
    (record.borrow oracle amount).result = .ok settlement ↔
      0 < amount.toNat ∧ ∃ quote, oracle.currentQuote.result = .ok quote ∧
        settlement.collateralEquivalent.toNat = (quote.wide amount).toNat ∧
        settlement.next.debt.toNat = record.debt.toNat + amount.toNat ∧
        settlement.next.deposited = record.deposited ∧
        (quote.wide settlement.next.debt).toNat ≤ record.deposited.toNat := by
  unfold borrow ensurePositive
  simp only [Consultation.result_bind_eq_ok_iff, Consultation.result_lift,
    Consultation.result_pure_eq_ok_iff, ensure_eq_ok_iff, raiseDebt_eq_ok_iff,
    Quote.value_eq_ok_iff]
  constructor
  · rintro ⟨_, hpos, quote, hquote, requested, hvalue, next, ⟨hdebt, hdeposit⟩, _, hcover, rfl⟩
    exact ⟨hpos, quote, hquote, hvalue, hdebt, hdeposit, hcover⟩
  · rintro ⟨hpos, quote, hquote, hvalue, hdebt, hdeposit, hcover⟩
    exact ⟨(), hpos, quote, hquote, _, hvalue, settlement.next, ⟨hdebt, hdeposit⟩, (), hcover, rfl⟩

theorem payBack_eq_ok_iff :
    (record.payBack oracle amount).result = .ok settlement ↔
      0 < amount.toNat ∧ ∃ quote, oracle.currentQuote.result = .ok quote ∧
        settlement.collateralEquivalent.toNat = (quote.wide amount).toNat ∧
        record.debt.toNat = settlement.next.debt.toNat + amount.toNat ∧
        settlement.next.deposited = record.deposited := by
  unfold payBack ensurePositive
  simp only [Consultation.result_bind_eq_ok_iff, Consultation.result_lift,
    Consultation.result_pure_eq_ok_iff, ensure_eq_ok_iff, lowerDebt_eq_ok_iff,
    Quote.value_eq_ok_iff]
  constructor
  · rintro ⟨_, hpos, quote, hquote, _, -, repaid, hvalue, next, ⟨hdebt, hdeposit⟩, rfl⟩
    exact ⟨hpos, quote, hquote, hvalue, hdebt, hdeposit⟩
  · rintro ⟨hpos, quote, hquote, hvalue, hdebt, hdeposit⟩
    -- The debt was checked before it was lowered.
    have henough : amount.toNat ≤ record.debt.toNat := by omega
    exact ⟨(), hpos, quote, hquote, (), henough, _, hvalue, settlement.next, ⟨hdebt, hdeposit⟩, rfl⟩

/-- A withdrawal without debt asks for no price. -/
theorem withdraw_eq_ok_iff :
    (record.withdraw oracle amount).result = .ok settlement ↔
      0 < amount.toNat ∧
      (0 < record.debt.toNat → ∃ quote, oracle.currentQuote.result = .ok quote ∧
        (quote.wide record.debt).toNat ≤ settlement.next.deposited.toNat) ∧
      record.deposited.toNat = settlement.next.deposited.toNat + amount.toNat ∧
      settlement.next.debt = record.debt ∧ settlement.collateralEquivalent = .zero := by
  unfold withdraw ensurePositive
  simp only [Consultation.result_bind_eq_ok_iff, Consultation.result_lift, ensure_eq_ok_iff]
  by_cases hdebtor : 0 < record.debt.toNat
  · simp only [if_pos hdebtor, Consultation.result_bind_eq_ok_iff, Consultation.result_lift,
      Consultation.result_pure_eq_ok_iff, ensure_eq_ok_iff, takeOut_eq_ok_iff]
    constructor
    · rintro ⟨_, hpos, quote, hquote, next, ⟨hdeposit, hdebt⟩, _, hcover, rfl⟩
      exact ⟨hpos, fun _ => ⟨quote, hquote, hcover⟩, hdeposit, hdebt, rfl⟩
    · rintro ⟨hpos, hprice, hdeposit, hdebt, hvalue⟩
      obtain ⟨quote, hquote, hcover⟩ := hprice hdebtor
      exact ⟨(), hpos, quote, hquote, settlement.next, ⟨hdeposit, hdebt⟩, (), hcover,
        by rw [← hvalue]⟩
  · simp only [if_neg hdebtor, Consultation.result_bind_eq_ok_iff, Consultation.result_lift,
      Consultation.result_pure_eq_ok_iff, takeOut_eq_ok_iff]
    constructor
    · rintro ⟨_, hpos, next, ⟨hdeposit, hdebt⟩, rfl⟩
      exact ⟨hpos, fun h => absurd h hdebtor, hdeposit, hdebt, rfl⟩
    · rintro ⟨hpos, -, hdeposit, hdebt, hvalue⟩
      exact ⟨(), hpos, settlement.next, ⟨hdeposit, hdebt⟩, by rw [← hvalue]⟩

/-- A liquidation is accepted from the admin when there is a price at which the deposit is less than
the debt. -/
theorem liquidate_eq_ok_iff {K : Type} [DecidableEq K] {caller admin : K}
    {liquidation : Liquidation} :
    (record.liquidate caller admin oracle).result = .ok liquidation ↔
      caller = admin ∧ liquidation = ⟨record.deposited, record.debt⟩ ∧
      ∃ quote, oracle.currentQuote.result = .ok quote ∧
        record.deposited.toNat < (quote.wide record.debt).toNat := by
  unfold liquidate
  simp only [Consultation.result_bind_eq_ok_iff, Consultation.result_lift,
    Consultation.result_pure_eq_ok_iff, ensure_eq_ok_iff, isUndercollateralized_iff]
  constructor
  · rintro ⟨_, hcaller, quote, hquote, _, hunder, rfl⟩
    exact ⟨hcaller, rfl, quote, hquote, hunder⟩
  · rintro ⟨hcaller, rfl, quote, hquote, hunder⟩
    exact ⟨(), hcaller, quote, hquote, (), hunder, rfl⟩

end Record

/-! ## Refusals -/

theorem FixedRate.quote?_refuses {rate : FixedRate} {error : LendingError}
    (h : rate.quote? = .error error) :
    (rate.raw.toNat = 0 ∨ 18 < rate.decimals.toNat) ∧ error = .invalidQuote := by
  unfold quote? at h
  split at h
  · rename_i hraw
    split at h
    · cases h
    · rename_i hdecimals
      cases h
      rw [UInt8.le_iff_toNat_le, Nat.not_le] at hdecimals
      exact ⟨.inr hdecimals, rfl⟩
  · rename_i hraw
    cases h
    exact ⟨.inl (Nat.eq_zero_of_not_pos hraw), rfl⟩

/-- An oracle that answers quotes no price when the answer is stale or no rate to rely on. -/
theorem Oracle.currentQuote_refuses {answer : RawQuote} {error : LendingError}
    (h : (Oracle.answers answer).currentQuote.result = .error error) :
    answer.isStale = true ∧ error = .staleFeed ∨
      answer.isStale = false ∧ (answer.rate.raw.toNat = 0 ∨ 18 < answer.rate.decimals.toNat) ∧
        error = .invalidQuote := by
  unfold currentQuote latest usable at h
  simp only [Except.bind] at h
  split at h
  · rename_i hstale
    cases h
    exact .inl ⟨hstale, rfl⟩
  · rename_i hfresh
    obtain ⟨hunusable, rfl⟩ := FixedRate.quote?_refuses h
    exact .inr ⟨Bool.eq_false_iff.2 hfresh, hunusable, rfl⟩

theorem Quote.value_refuses {quote : Quote} {amount : Amount} {error : LendingError}
    (h : quote.value amount = .error error) :
    error = .mathOverflow ∧ 2 ^ (64 : Nat) ≤ (quote.wide amount).toNat := by
  unfold value narrow at h
  obtain ⟨hnone, rfl⟩ := someOr_eq_error_iff.1 h
  exact ⟨rfl, Word.ofNat?_eq_none_iff.1 hnone⟩

namespace Record

variable {record : Record} {amount : Amount} {answer : RawQuote} {error : LendingError}

theorem raiseDebt_refuses (h : record.raiseDebt amount = .error error) :
    error = .mathOverflow ∧ 2 ^ (64 : Nat) ≤ record.debt.toNat + amount.toNat := by
  unfold raiseDebt at h
  rw [map_eq_error_iff, someOr_eq_error_iff, Word.add?_eq_none_iff] at h
  exact ⟨h.2.symm, h.1⟩

/-- A deposit is refused when it is nothing, or more than the record has room for. -/
theorem deposit_refuses (h : record.deposit amount = .error error) :
    error = .invalidAmount ∨
      error = .mathOverflow ∧ 2 ^ (64 : Nat) ≤ record.deposited.toNat + amount.toNat := by
  simp only [deposit, ensurePositive, bind_eq_error_iff, ensure_eq_error_iff, raiseDeposit,
    map_eq_error_iff, someOr_eq_error_iff, Word.add?_eq_none_iff] at h
  rcases h with ⟨-, rfl⟩ | ⟨_, -, ⟨hroom, rfl⟩ | ⟨next, -, h⟩⟩
  · exact .inl rfl
  · exact .inr ⟨rfl, hroom⟩
  · cases h

/-- What is in the deposit can be taken out of it. -/
theorem takeOut_refuses (h : record.takeOut amount = .error error) :
    error = .insufficientCollateral := by
  simp only [takeOut, bind_eq_error_iff, ensure_eq_error_iff, ensure_eq_ok_iff, lowerDeposit,
    map_eq_error_iff, someOr_eq_error_iff, Word.sub?_eq_none_iff] at h
  rcases h with ⟨-, rfl⟩ | ⟨_, henough, hless, -⟩
  · rfl
  · omega

/-- A withdrawal is never refused for its arithmetic. -/
theorem withdraw_refuses (h : (record.withdraw (.answers answer) amount).result = .error error) :
    error = .invalidAmount ∨ error = .staleFeed ∨ error = .invalidQuote ∨
      error = .insufficientCollateral := by
  simp only [withdraw, ensurePositive, Consultation.result_bind_eq_error_iff,
    Consultation.result_lift, ensure_eq_error_iff] at h
  rcases h with ⟨-, rfl⟩ | ⟨_, -, h⟩
  · exact .inl rfl
  split at h
  · simp only [Consultation.result_bind_eq_error_iff, Consultation.result_lift, ensure_eq_error_iff]
      at h
    rcases h with hquote | ⟨quote, -, htake | ⟨next, -, ⟨-, rfl⟩ | ⟨_, -, h⟩⟩⟩
    · rcases Oracle.currentQuote_refuses hquote with ⟨-, rfl⟩ | ⟨-, -, rfl⟩
      · exact .inr (.inl rfl)
      · exact .inr (.inr (.inl rfl))
    · exact .inr (.inr (.inr (takeOut_refuses htake)))
    · exact .inr (.inr (.inr rfl))
    · exact absurd h Consultation.result_pure_ne_error
  · simp only [Consultation.result_bind_eq_error_iff, Consultation.result_lift] at h
    rcases h with htake | ⟨next, -, h⟩
    · exact .inr (.inr (.inr (takeOut_refuses htake)))
    · exact absurd h Consultation.result_pure_ne_error

/-- A payback is refused for its arithmetic only when its value is no amount. -/
theorem payBack_refuses (h : (record.payBack (.answers answer) amount).result = .error error) :
    error = .invalidAmount ∨ error = .staleFeed ∨ error = .invalidQuote ∨
      error = .insufficientDebt ∨ error = .mathOverflow ∧
        2 ^ (64 : Nat) ≤
          amount.toNat * answer.rate.raw.toNat / 10 ^ answer.rate.decimals.toNat := by
  simp only [payBack, ensurePositive, Consultation.result_bind_eq_error_iff,
    Consultation.result_lift, ensure_eq_error_iff, ensure_eq_ok_iff, lowerDebt, map_eq_error_iff,
    someOr_eq_error_iff, Word.sub?_eq_none_iff] at h
  rcases h with ⟨-, rfl⟩ | ⟨_, -, hquote | ⟨quote, hquote, ⟨-, rfl⟩ | ⟨_, henough, hvalue |
    ⟨value, -, ⟨hless, -⟩ | ⟨next, -, h⟩⟩⟩⟩⟩
  · exact .inl rfl
  · rcases Oracle.currentQuote_refuses hquote with ⟨-, rfl⟩ | ⟨-, -, rfl⟩
    · exact .inr (.inl rfl)
    · exact .inr (.inr (.inl rfl))
  · exact .inr (.inr (.inr (.inl rfl)))
  · obtain ⟨rfl, hoverflow⟩ := Quote.value_refuses hvalue
    have hrate := Oracle.currentQuote_eq_ok_iff.1 hquote
    cases hrate
    exact .inr (.inr (.inr (.inr ⟨rfl, hoverflow⟩)))
  · omega
  · exact absurd h Consultation.result_pure_ne_error

/-- A liquidation is never refused for its arithmetic. -/
theorem liquidate_refuses {K : Type} [DecidableEq K] {caller admin : K}
    (h : (record.liquidate caller admin (.answers answer)).result = .error error) :
    error = .unauthorized ∨ error = .staleFeed ∨ error = .invalidQuote ∨ error = .noBadDebt := by
  simp only [liquidate, Consultation.result_bind_eq_error_iff, Consultation.result_lift,
    ensure_eq_error_iff] at h
  rcases h with ⟨-, rfl⟩ | ⟨_, -, hquote | ⟨quote, -, ⟨-, rfl⟩ | ⟨_, -, h⟩⟩⟩
  · exact .inl rfl
  · rcases Oracle.currentQuote_refuses hquote with ⟨-, rfl⟩ | ⟨-, -, rfl⟩
    · exact .inr (.inl rfl)
    · exact .inr (.inr (.inl rfl))
  · exact .inr (.inr (.inr rfl))
  · exact absurd h Consultation.result_pure_ne_error

end Record

/-! ## Totals -/

/-- Replacing a part of a total is exact where it succeeds. -/
theorem Amount.replace_eq_ok_iff {total before after replaced : Amount} :
    Amount.replace total before after = .ok replaced ↔
      before.toNat ≤ total.toNat ∧
        replaced.toNat + before.toNat = total.toNat + after.toNat := by
  unfold Amount.replace
  rw [someOr_eq_ok_iff, Option.bind_eq_some_iff]
  simp only [Word.sub?_eq_some_iff, Word.add?_eq_some_iff]
  constructor
  · rintro ⟨rest, hrest, hsum⟩
    omega
  · rintro ⟨hle, hsum⟩
    -- The old amount is taken out before the new one is put in, so the step between is a word too.
    have hlt : total.toNat - before.toNat < 2 ^ (64 : Nat) := by
      have htotal := total.lt
      omega
    refine ⟨⟨total.toNat - before.toNat, hlt⟩, ?_, ?_⟩ <;> simp only <;> omega

/-- The totals move by what the record moves by. -/
theorem Totals.move_eq_ok_iff {totals moved : Totals} {before after : Record} :
    totals.move before after = (moved, .ok ()) ↔
      (before.deposited.toNat ≤ totals.deposited.toNat ∧
        moved.deposited.toNat + before.deposited.toNat =
          totals.deposited.toNat + after.deposited.toNat) ∧
      before.debt.toNat ≤ totals.borrowed.toNat ∧
        moved.borrowed.toNat + before.debt.toNat = totals.borrowed.toNat + after.debt.toNat := by
  rw [← Amount.replace_eq_ok_iff, ← Amount.replace_eq_ok_iff]
  unfold Totals.move
  cases hdeposited : Amount.replace totals.deposited before.deposited after.deposited with
  | error error => simp
  | ok deposited =>
      cases hborrowed : Amount.replace totals.borrowed before.debt after.debt with
      | error error => simp
      | ok borrowed => simp [Totals.ext_iff]

/-- Totals that have the old record in them can be moved when they have room for the new one. -/
theorem Totals.move_succeeds {totals : Totals} {before after : Record}
    (hdeposited : before.deposited.toNat ≤ totals.deposited.toNat)
    (hborrowed : before.debt.toNat ≤ totals.borrowed.toNat)
    (hroom : totals.deposited.toNat + after.deposited.toNat <
      2 ^ (64 : Nat) + before.deposited.toNat)
    (hdebtRoom : totals.borrowed.toNat + after.debt.toNat < 2 ^ (64 : Nat) + before.debt.toNat) :
    (totals.move before after).2 = .ok () := by
  have hdeposits : totals.deposited.toNat - before.deposited.toNat + after.deposited.toNat <
      2 ^ (64 : Nat) := by
    omega
  have hdebts : totals.borrowed.toNat - before.debt.toNat + after.debt.toNat <
      2 ^ (64 : Nat) := by
    omega
  have hmove : totals.move before after = (⟨⟨_, hdeposits⟩, ⟨_, hdebts⟩⟩, .ok ()) := by
    refine Totals.move_eq_ok_iff.2 ⟨⟨hdeposited, ?_⟩, hborrowed, ?_⟩
    · simp only
      omega
    · simp only
      omega
  rw [hmove]

end CollateralLending
