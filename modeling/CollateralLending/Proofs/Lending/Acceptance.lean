/-
  CollateralLending.Proofs.Lending.Acceptance

  Exactly when an operation on a record is settled, over the exact integers:
  one equivalence for each operation that depends on a price. They differ from
  the equations of `Settlements` in that they name no settlement; whatever it
  takes for one to exist is on the right-hand side.

  A borrow reports what it is worth as an amount, and is refused when that is
  none. The collateral rule makes this check idle: what is borrowed is worth no
  more than all the debt after it, which the deposit covers (`borrow_accepts_iff`).

  The last section has all the reasons for which a borrow is refused, in the
  order in which they are looked at. Main statement: `borrow_is_exact`.
-/
import CollateralLending.Proofs.Price.Worth

namespace CollateralLending

variable {oracle : Oracle} {record : Record} {amount : Amount}

/-! ## Quotes -/

/-- A price is quoted when the oracle answers, with a fresh answer whose rate is positive and has a
supported scale. -/
theorem Oracle.exists_quote_iff (condition : FixedRate → Prop) :
    (∃ quote, oracle.currentQuote.result = .ok quote ∧ condition quote.rate) ↔
      ∃ answer, oracle = .answers answer ∧ answer.isStale = false ∧ 0 < answer.rate.raw.toNat ∧
        answer.rate.decimals.toNat ≤ 18 ∧ condition answer.rate := by
  constructor
  · rintro ⟨quote, hquote, hcondition⟩
    exact ⟨⟨quote.rate, false⟩, Oracle.currentQuote_eq_ok_iff.1 hquote, rfl, quote.raw_pos,
      quote.decimals_toNat_le, hcondition⟩
  · rintro ⟨⟨rate, isStale⟩, rfl, rfl, hraw, hdecimals, hcondition⟩
    exact ⟨⟨rate, hraw, UInt8.le_iff_toNat_le.2 hdecimals⟩, Oracle.currentQuote_eq_ok_iff.2 rfl,
      hcondition⟩

/-! ## Operations -/

namespace Record

/-- A borrow that the deposit covers, together with the debt before it, is worth an amount. -/
theorem value_lt_of_covered {rate : FixedRate}
    (h : rate.worth (record.debt.toNat + amount.toNat) ≤ record.deposited.toNat) :
    rate.worth amount.toNat < 2 ^ (64 : Nat) :=
  calc rate.worth amount.toNat
      ≤ rate.worth (record.debt.toNat + amount.toNat) := rate.worth_mono (Nat.le_add_left _ _)
    _ ≤ record.deposited.toNat := h
    _ < 2 ^ (64 : Nat) := record.deposited.lt

/-- A borrow is accepted when there is a price, the new debt is an amount, and it is worth no more
than the deposit. -/
theorem borrow_accepts_iff :
    (∃ settled, (record.borrow oracle amount).result = .ok settled) ↔
      0 < amount.toNat ∧ ∃ quote, oracle.currentQuote.result = .ok quote ∧
        record.debt.toNat + amount.toNat < 2 ^ (64 : Nat) ∧
        quote.rate.worth (record.debt.toNat + amount.toNat) ≤ record.deposited.toNat := by
  simp only [borrow_eq_ok_iff, Quote.toNat_wide_eq_worth]
  constructor
  · rintro ⟨settled, hpos, quote, hquote, -, hdebt, -, hcover⟩
    rw [hdebt] at hcover
    exact ⟨hpos, quote, hquote, hdebt ▸ settled.next.debt.lt, hcover⟩
  · rintro ⟨hpos, quote, hquote, hroom, hcover⟩
    exact ⟨⟨⟨record.deposited, ⟨_, hroom⟩⟩, ⟨_, value_lt_of_covered hcover⟩⟩, hpos, quote, hquote,
      rfl, rfl, rfl, hcover⟩

/-- A payback needs its value to be an amount; no rule on collateral makes it one. -/
theorem payBack_accepts_iff :
    (∃ settled, (record.payBack oracle amount).result = .ok settled) ↔
      0 < amount.toNat ∧ ∃ quote, oracle.currentQuote.result = .ok quote ∧
        amount.toNat ≤ record.debt.toNat ∧ quote.rate.worth amount.toNat < 2 ^ (64 : Nat) := by
  simp only [payBack_eq_ok_iff, Quote.toNat_wide_eq_worth]
  constructor
  · rintro ⟨settled, hpos, quote, hquote, hvalue, hdebt, -⟩
    exact ⟨hpos, quote, hquote, by omega, hvalue ▸ settled.collateralEquivalent.lt⟩
  · rintro ⟨hpos, quote, hquote, henough, hvalue⟩
    obtain ⟨rest, hrest⟩ := Word.exists_rest henough
    exact ⟨⟨⟨record.deposited, rest⟩, ⟨_, hvalue⟩⟩, hpos, quote, hquote, rfl, hrest, rfl⟩

/-- A withdrawal leaves at least what the debt is worth, if there is debt. -/
theorem withdraw_accepts_iff :
    (∃ settled, (record.withdraw oracle amount).result = .ok settled) ↔
      0 < amount.toNat ∧ amount.toNat ≤ record.deposited.toNat ∧
        (0 < record.debt.toNat → ∃ quote, oracle.currentQuote.result = .ok quote ∧
          quote.rate.worth record.debt.toNat + amount.toNat ≤ record.deposited.toNat) := by
  simp only [withdraw_eq_ok_iff, Quote.toNat_wide_eq_worth]
  constructor
  · rintro ⟨settled, hpos, hprice, hdeposit, -, -⟩
    refine ⟨hpos, by omega, fun hdebtor => ?_⟩
    obtain ⟨quote, hquote, hcover⟩ := hprice hdebtor
    exact ⟨quote, hquote, by omega⟩
  · rintro ⟨hpos, henough, hprice⟩
    obtain ⟨rest, hrest⟩ := Word.exists_rest henough
    refine ⟨⟨⟨rest, record.debt⟩, .zero⟩, hpos, fun hdebtor => ?_, hrest, rfl, rfl⟩
    obtain ⟨quote, hquote, hcover⟩ := hprice hdebtor
    exact ⟨quote, hquote, by simp only; omega⟩

end Record

/-! ## Reasons -/

/-- Of the reasons for an error, each told whether it applies, the first that does is for this
error. -/
def FirstDue {ε : Type} (error : ε) : List (Prop × ε) → Prop
  | [] => False
  | (applies, due) :: rest => applies ∧ due = error ∨ ¬ applies ∧ FirstDue error rest

section FirstDue

variable {ε : Type} {error other due : ε} {applies : Prop} {rest reasons : List (Prop × ε)}

theorem firstDue_of_applies (h : applies) : FirstDue due ((applies, due) :: rest) :=
  .inl ⟨h, rfl⟩

theorem firstDue_cons_iff (h : ¬ applies) :
    FirstDue error ((applies, due) :: rest) ↔ FirstDue error rest := by
  simp only [FirstDue, h, false_and, not_false_eq_true, true_and, false_or]

/-- At most one error is the first due. -/
theorem FirstDue.unique (h : FirstDue error reasons) (hother : FirstDue other reasons) :
    error = other := by
  induction reasons with
  | nil => exact h.elim
  | cons reason rest ih =>
      rcases h with ⟨happlies, rfl⟩ | ⟨hnot, h⟩
      · rcases hother with ⟨-, rfl⟩ | ⟨hnot, -⟩
        · rfl
        · exact absurd happlies hnot
      · exact ih h ((firstDue_cons_iff hnot).1 hother)

end FirstDue

/-! ## Reasons against a borrow -/

variable {error : LendingError}

/-- What speaks against a borrow, in the order in which it is looked at. -/
def Record.reasonsAgainstBorrow (record : Record) (oracle : Oracle) (amount : Amount) :
    List (Prop × LendingError) :=
  (amount.toNat = 0, .invalidAmount) ::
    match oracle with
    | .fails error => [(True, error)]
    | .answers answer =>
      [(answer.isStale = true, .staleFeed),
        (answer.rate.raw.toNat = 0 ∨ 18 < answer.rate.decimals.toNat, .invalidQuote),
        (2 ^ (64 : Nat) ≤ answer.rate.worth amount.toNat ∨
          2 ^ (64 : Nat) ≤ record.debt.toNat + amount.toNat, .mathOverflow),
        (record.deposited.toNat < answer.rate.worth (record.debt.toNat + amount.toNat),
          .insufficientCollateral)]

namespace Record

/-- Where no price is quoted, the oracle is the reason. -/
theorem firstDue_of_unquoted (hpos : 0 < amount.toNat)
    (h : oracle.currentQuote.result = .error error) :
    FirstDue error (record.reasonsAgainstBorrow oracle amount) := by
  refine (firstDue_cons_iff (Nat.pos_iff_ne_zero.1 hpos)).2 ?_
  cases oracle with
  | fails own =>
      cases h
      exact firstDue_of_applies trivial
  | answers answer =>
      rcases Oracle.currentQuote_refuses h with ⟨hstale, rfl⟩ | ⟨hfresh, hunusable, rfl⟩
      · exact firstDue_of_applies hstale
      · exact (firstDue_cons_iff (Bool.eq_false_iff.1 hfresh)).2 (firstDue_of_applies hunusable)

/-- Where a price is quoted, what is left are the reasons that depend on it. -/
theorem reasonsAgainstBorrow_of_quote {quote : Quote} (hpos : 0 < amount.toNat)
    (hquote : oracle.currentQuote.result = .ok quote) :
    FirstDue error (record.reasonsAgainstBorrow oracle amount) ↔
      FirstDue error [
        (2 ^ (64 : Nat) ≤ quote.rate.worth amount.toNat ∨
          2 ^ (64 : Nat) ≤ record.debt.toNat + amount.toNat, .mathOverflow),
        (record.deposited.toNat < quote.rate.worth (record.debt.toNat + amount.toNat),
          .insufficientCollateral)] := by
  cases Oracle.currentQuote_eq_ok_iff.1 hquote
  have hraw := quote.raw_pos
  have hdecimals := quote.decimals_toNat_le
  rw [reasonsAgainstBorrow, firstDue_cons_iff (Nat.pos_iff_ne_zero.1 hpos),
    firstDue_cons_iff Bool.false_ne_true, firstDue_cons_iff (by simp only; omega)]

/-- The error a borrow fails with is the first due. -/
theorem firstDue_of_borrow (h : (record.borrow oracle amount).result = .error error) :
    FirstDue error (record.reasonsAgainstBorrow oracle amount) := by
  simp only [borrow, ensurePositive, Consultation.result_bind_eq_error_iff,
    Consultation.result_lift, ensure_eq_error_iff, ensure_eq_ok_iff, raiseDebt_eq_ok_iff,
    Consultation.result_pure_ne_error, and_false, exists_false, or_false] at h
  rcases h with ⟨hzero, rfl⟩ | ⟨_, hpos, hunquoted | ⟨quote, hquote, h⟩⟩
  · exact firstDue_of_applies (Nat.eq_zero_of_not_pos hzero)
  · exact firstDue_of_unquoted hpos hunquoted
  rw [reasonsAgainstBorrow_of_quote hpos hquote]
  rcases h with hvalue | ⟨worth, hworth, hroom | ⟨next, ⟨hdebt, -⟩, hcover, rfl⟩⟩
  · obtain ⟨rfl, hoverflow⟩ := Quote.value_refuses hvalue
    exact firstDue_of_applies (.inl hoverflow)
  · obtain ⟨rfl, hoverflow⟩ := raiseDebt_refuses hroom
    exact firstDue_of_applies (.inr hoverflow)
  · -- Both numbers are words by now, so neither is a reason against the borrow.
    have hvalue := Quote.value_eq_ok_iff.1 hworth
    rw [Quote.toNat_wide_eq_worth] at hvalue
    have hworthLt := worth.lt
    have hdebtLt := next.debt.lt
    rw [Quote.toNat_wide_eq_worth, hdebt, Nat.not_le] at hcover
    exact (firstDue_cons_iff (by omega)).2 (firstDue_of_applies hcover)

/-- Nothing speaks against a borrow that is settled. -/
theorem not_firstDue_of_accepts
    (h : ∃ settled, (record.borrow oracle amount).result = .ok settled) :
    ¬ FirstDue error (record.reasonsAgainstBorrow oracle amount) := by
  obtain ⟨hpos, quote, hquote, hroom, hcover⟩ := borrow_accepts_iff.1 h
  have hvalue := value_lt_of_covered hcover
  rw [reasonsAgainstBorrow_of_quote hpos hquote, firstDue_cons_iff (by omega),
    firstDue_cons_iff (by omega)]
  exact id

/-- A borrow goes through exactly when it is for something, the price is usable, and the deposit
covers the debt that it leads to, which has to be an amount. Then it adds to the debt and reports
what it is worth. Otherwise the first reason against it is the error. -/
theorem borrow_is_exact (record : Record) (oracle : Oracle) (amount : Amount) :
    ((∃ settled, (record.borrow oracle amount).result = .ok settled) ↔
      0 < amount.toNat ∧ ∃ answer, oracle = .answers answer ∧ answer.isStale = false ∧
        0 < answer.rate.raw.toNat ∧ answer.rate.decimals.toNat ≤ 18 ∧
        record.debt.toNat + amount.toNat < 2 ^ (64 : Nat) ∧
        answer.rate.worth (record.debt.toNat + amount.toNat) ≤ record.deposited.toNat) ∧
    (∀ settled, (record.borrow oracle amount).result = .ok settled →
      settled.next.deposited = record.deposited ∧
        settled.next.debt.toNat = record.debt.toNat + amount.toNat ∧
        ∃ answer, oracle = .answers answer ∧
          settled.collateralEquivalent.toNat = answer.rate.worth amount.toNat) ∧
    ∀ error, (record.borrow oracle amount).result = .error error ↔
      FirstDue error (record.reasonsAgainstBorrow oracle amount) := by
  refine ⟨?_, ?_, ?_⟩
  · rw [borrow_accepts_iff]
    exact and_congr_right fun _ => Oracle.exists_quote_iff fun rate =>
      record.debt.toNat + amount.toNat < 2 ^ (64 : Nat) ∧
        rate.worth (record.debt.toNat + amount.toNat) ≤ record.deposited.toNat
  · intro settled hsettled
    obtain ⟨-, quote, hquote, hvalue, hdebt, hdeposit, -⟩ := borrow_eq_ok_iff.1 hsettled
    exact ⟨hdeposit, hdebt, ⟨quote.rate, false⟩, Oracle.currentQuote_eq_ok_iff.1 hquote, hvalue⟩
  · intro error
    refine ⟨firstDue_of_borrow, fun hdue => ?_⟩
    cases hresult : (record.borrow oracle amount).result with
    | ok settled => exact absurd hdue (not_firstDue_of_accepts ⟨settled, hresult⟩)
    | error other => rw [hdue.unique (firstDue_of_borrow hresult)]

/-- The largest deposit there can be. At the rate `(2 ^ 64 - 1) / 10 ^ 18` it covers `10 ^ 18` units
of debt exactly, and all but one of them are owed. -/
def nearlyDrawn : Record := ⟨.units (2 ^ 64 - 1), .units (10 ^ 18 - 1)⟩

/-- The one unit that is left can be borrowed, and two cannot. -/
theorem nearlyDrawn_borrows_one :
    (∃ settled, (nearlyDrawn.borrow (.answers ⟨⟨.units (2 ^ 64 - 1), 18⟩, false⟩)
      (.units 1)).result = .ok settled) ∧
    (nearlyDrawn.borrow (.answers ⟨⟨.units (2 ^ 64 - 1), 18⟩, false⟩) (.units 2)).result =
      .error .insufficientCollateral := by
  constructor
  · exact (borrow_is_exact _ _ _).1.2 ⟨by decide, _, rfl, rfl, by decide, by decide, by decide,
      by decide +kernel⟩
  · refine ((borrow_is_exact _ _ _).2.2 _).2 ?_
    refine (firstDue_cons_iff (by decide)).2 ?_
    refine (firstDue_cons_iff (by decide)).2 ?_
    refine (firstDue_cons_iff (by decide)).2 ?_
    refine (firstDue_cons_iff (by decide +kernel)).2 ?_
    exact firstDue_of_applies (by decide +kernel)

end Record

end CollateralLending
