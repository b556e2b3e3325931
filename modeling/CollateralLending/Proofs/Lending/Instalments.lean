/-
  CollateralLending.Proofs.Lending.Instalments

  Operations on a record in instalments: several amounts are settled one after
  another, each on the record that the one before left.

  Cut an amount in two. An operation divides when its halves are settled
  wherever the whole is, and merges when the whole is settled wherever its
  halves are (`Divides`, `Merges`). Any number of instalments follows by
  induction, since all but the first are the second half. Borrows and
  withdrawals do both. Paybacks only divide: what the whole is worth may be no
  amount although what each part is worth is one.

  Main statement: `splitting_gains_nothing`.
-/
import CollateralLending.Proofs.Lending.Acceptance
import CollateralLending.Proofs.Portions

namespace CollateralLending

/-! ## Settling in turn -/

/-- What settling in instalments comes to. -/
structure Instalments where
  /-- The record after the last of them. -/
  last : Record
  /-- What they reported to be worth, in order. -/
  values : List Amount
deriving DecidableEq

/-- A rule that settles an amount on a record. -/
abbrev Settling := Record → Amount → Except LendingError Settlement

/-- Settles the amounts in turn; the first that is refused ends it. -/
def settleInTurn (settle : Settling) : Record → List Amount → Except LendingError Instalments
  | record, [] => .ok ⟨record, []⟩
  | record, amount :: rest => do
    let settled ← settle record amount
    let later ← settleInTurn settle settled.next rest
    return ⟨later.last, settled.collateralEquivalent :: later.values⟩

variable {settle : Settling}
variable {record : Record} {amount first second whole : Amount} {parts rest : List Amount}
variable {run : Instalments} {start finish settled : Settlement}

theorem settleInTurn_cons_eq_ok_iff :
    settleInTurn settle record (amount :: rest) = .ok run ↔
      ∃ settled, settle record amount = .ok settled ∧
        ∃ later, settleInTurn settle settled.next rest = .ok later ∧
          ⟨later.last, settled.collateralEquivalent :: later.values⟩ = run := by
  rw [settleInTurn]
  simp only [bind_eq_ok_iff, pure_eq_ok_iff]

/-- The instalments end in the same record as the whole, and are worth as much, less one unit of
collateral at most for each cut. -/
structure Instalments.MakeUp (run : Instalments) (parts : List Amount) (settled : Settlement) :
    Prop where
  last_eq : run.last = settled.next
  worth_le : totalOf run.values ≤ settled.collateralEquivalent.toNat
  le_worth : settled.collateralEquivalent.toNat ≤ totalOf run.values + (parts.length - 1)

/-! ## Two halves -/

/-- Two settlements, one after the other, come to the same as one. -/
structure Joins (start finish settled : Settlement) : Prop where
  next_eq : finish.next = settled.next
  worth_le : start.collateralEquivalent.toNat + finish.collateralEquivalent.toNat ≤
    settled.collateralEquivalent.toNat
  le_worth : settled.collateralEquivalent.toNat ≤
    start.collateralEquivalent.toNat + finish.collateralEquivalent.toNat + 1

/-- Wherever the whole is settled, its halves are, and come to the same. -/
def Divides (settle : Settling) : Prop :=
  ∀ ⦃record whole first second settled⦄, settle record whole = .ok settled →
    whole.toNat = first.toNat + second.toNat → 0 < first.toNat → 0 < second.toNat →
    ∃ start finish, settle record first = .ok start ∧ settle start.next second = .ok finish ∧
      Joins start finish settled

/-- Wherever both halves are settled, the whole is. -/
def Merges (settle : Settling) : Prop :=
  ∀ ⦃record whole first second start finish⦄, settle record first = .ok start →
    settle start.next second = .ok finish → whole.toNat = first.toNat + second.toNat →
    ∃ settled, settle record whole = .ok settled

/-! ## Any number of parts -/

theorem makeUp_single (settled : Settlement) :
    Instalments.MakeUp ⟨settled.next, [settled.collateralEquivalent]⟩ [amount] settled where
  last_eq := rfl
  worth_le := Nat.le_refl _
  le_worth := Nat.le_refl _

/-- One cut more, one unit of collateral more to lose. -/
theorem Joins.makeUp (hjoins : Joins start finish settled) (h : run.MakeUp rest finish)
    (hne : rest ≠ []) :
    Instalments.MakeUp ⟨run.last, start.collateralEquivalent :: run.values⟩ (amount :: rest)
      settled where
  last_eq := h.last_eq.trans hjoins.next_eq
  worth_le := Nat.le_trans (Nat.add_le_add_left h.worth_le _) hjoins.worth_le
  le_worth := by
    have hrest := h.le_worth
    have hjoin := hjoins.le_worth
    have hlength := List.length_pos_iff.2 hne
    simp only [totalOf, List.length_cons]
    omega

/-- Where the whole is settled, so are its parts, by induction on them: the rest is what is left
of the whole after the first part. -/
theorem Divides.inTurn (hdivides : Divides settle) (hne : parts ≠ [])
    (hpositive : ∀ part ∈ parts, 0 < part.toNat) (htotal : totalOf parts = whole.toNat)
    (h : settle record whole = .ok settled) :
    ∃ run, settleInTurn settle record parts = .ok run ∧ run.MakeUp parts settled := by
  induction parts generalizing record whole settled with
  | nil => exact absurd rfl hne
  | cons part rest ih =>
      by_cases hrest : rest = []
      · subst hrest
        cases eq_of_totalOf_single htotal
        exact ⟨_, settleInTurn_cons_eq_ok_iff.2 ⟨settled, h, _, rfl, rfl⟩, makeUp_single settled⟩
      · obtain ⟨remaining, hremaining, hwhole⟩ := exists_remaining htotal
        have hlater : ∀ later ∈ rest, 0 < later.toNat := fun later hmem =>
          hpositive later (List.mem_cons_of_mem _ hmem)
        have hpos : 0 < remaining.toNat := hremaining ▸ totalOf_pos hrest hlater
        obtain ⟨start, finish, hstart, hfinish, hjoins⟩ :=
          hdivides h hwhole (hpositive part List.mem_cons_self) hpos
        obtain ⟨later, hrun, hmakes⟩ := ih hrest hlater hremaining hfinish
        exact ⟨_, settleInTurn_cons_eq_ok_iff.2 ⟨start, hstart, later, hrun, rfl⟩,
          hjoins.makeUp hmakes hrest⟩

/-- Parts that can be settled in turn can be settled at once. -/
theorem Merges.inTurn (hmerges : Merges settle) (hne : parts ≠ [])
    (htotal : totalOf parts = whole.toNat) (h : settleInTurn settle record parts = .ok run) :
    ∃ settled, settle record whole = .ok settled := by
  induction parts generalizing record whole run with
  | nil => exact absurd rfl hne
  | cons part rest ih =>
      obtain ⟨start, hstart, later, hlater, -⟩ := settleInTurn_cons_eq_ok_iff.1 h
      by_cases hrest : rest = []
      · subst hrest
        cases eq_of_totalOf_single htotal
        exact ⟨start, hstart⟩
      · obtain ⟨remaining, hremaining, hwhole⟩ := exists_remaining htotal
        obtain ⟨finish, hfinish⟩ := ih hrest hremaining hlater
        exact hmerges hstart hfinish hwhole

/-- The parts are settled in turn exactly when the whole is settled, and come to the same. -/
structure SplitsEvenly (settle : Settling) (record : Record) (parts : List Amount)
    (whole : Amount) : Prop where
  accepts_iff : (∃ run, settleInTurn settle record parts = .ok run) ↔
    ∃ settled, settle record whole = .ok settled
  makeUp : ∀ run settled, settleInTurn settle record parts = .ok run →
    settle record whole = .ok settled → run.MakeUp parts settled

/-- What divides and merges splits evenly. -/
theorem Divides.splitsEvenly (hdivides : Divides settle) (hmerges : Merges settle)
    (hne : parts ≠ []) (hpositive : ∀ part ∈ parts, 0 < part.toNat)
    (htotal : totalOf parts = whole.toNat) : SplitsEvenly settle record parts whole where
  accepts_iff := by
    constructor
    · rintro ⟨run, hrun⟩
      exact hmerges.inTurn hne htotal hrun
    · rintro ⟨settled, hsettled⟩
      obtain ⟨run, hrun, -⟩ := hdivides.inTurn hne hpositive htotal hsettled
      exact ⟨run, hrun⟩
  makeUp run settled hrun hsettled := by
    obtain ⟨other, hother, hmakes⟩ := hdivides.inTurn hne hpositive htotal hsettled
    cases hrun.symm.trans hother
    exact hmakes

/-! ## Borrows, paybacks and withdrawals -/

variable {oracle : Oracle} {quote : Quote}

/-- What two halves report to be worth, when all are valued at one quote. -/
theorem joins_of_worth (hnext : finish.next = settled.next)
    (hwhole : whole.toNat = first.toNat + second.toNat)
    (hstart : start.collateralEquivalent.toNat = quote.rate.worth first.toNat)
    (hfinish : finish.collateralEquivalent.toNat = quote.rate.worth second.toNat)
    (hsettled : settled.collateralEquivalent.toNat = quote.rate.worth whole.toNat) :
    Joins start finish settled where
  next_eq := hnext
  worth_le := by
    rw [hstart, hfinish, hsettled, hwhole]
    exact quote.rate.worth_add_worth_le _ _
  le_worth := by
    rw [hstart, hfinish, hsettled, hwhole]
    exact quote.rate.worth_add_le_succ _ _

namespace Record

/-- Where the price is known, a borrow is told by numbers. -/
theorem borrow_at (hquote : oracle.currentQuote.result = .ok quote)
    (h : (record.borrow oracle amount).result = .ok settled) :
    settled.collateralEquivalent.toNat = quote.rate.worth amount.toNat ∧
      settled.next.debt.toNat = record.debt.toNat + amount.toNat ∧
      settled.next.deposited = record.deposited := by
  obtain ⟨-, other, hother, hworth, hdebt, hdeposit, -⟩ := borrow_eq_ok_iff.1 h
  cases hquote.symm.trans hother
  exact ⟨hworth, hdebt, hdeposit⟩

theorem payBack_at (hquote : oracle.currentQuote.result = .ok quote)
    (h : (record.payBack oracle amount).result = .ok settled) :
    settled.collateralEquivalent.toNat = quote.rate.worth amount.toNat ∧
      record.debt.toNat = settled.next.debt.toNat + amount.toNat ∧
      settled.next.deposited = record.deposited := by
  obtain ⟨-, other, hother, hworth, hdebt, hdeposit⟩ := payBack_eq_ok_iff.1 h
  cases hquote.symm.trans hother
  exact ⟨hworth, hdebt, hdeposit⟩

/-- A borrow can be made in two halves. -/
theorem borrow_divides (oracle : Oracle) :
    Divides fun record amount => (record.borrow oracle amount).result := by
  intro record whole first second settled h hwhole hfirst hsecond
  obtain ⟨-, quote, hquote, hroom, hcover⟩ := borrow_accepts_iff.1 ⟨settled, h⟩
  obtain ⟨hworth, hdebt, hdeposit⟩ := borrow_at hquote h
  have hless : record.debt.toNat + first.toNat ≤ record.debt.toNat + whole.toNat := by omega
  have hfirstRoom : record.debt.toNat + first.toNat < 2 ^ (64 : Nat) :=
    Nat.lt_of_le_of_lt hless hroom
  -- Less debt is worth no more, so the first half is covered too.
  have hfirstCover := Nat.le_trans (quote.rate.worth_mono hless) hcover
  obtain ⟨start, hstart⟩ : ∃ start, (record.borrow oracle first).result = .ok start :=
    borrow_accepts_iff.2 ⟨hfirst, quote, hquote, hfirstRoom, hfirstCover⟩
  obtain ⟨hstartWorth, hstartDebt, hstartDeposit⟩ := borrow_at hquote hstart
  -- The second half leads to the same debt as the whole, and is checked with all of it.
  have hsum : start.next.debt.toNat + second.toNat = record.debt.toNat + whole.toNat := by omega
  rw [← hsum] at hroom hcover
  rw [← hstartDeposit] at hcover
  obtain ⟨finish, hfinish⟩ : ∃ finish, (start.next.borrow oracle second).result = .ok finish :=
    borrow_accepts_iff.2 ⟨hsecond, quote, hquote, hroom, hcover⟩
  obtain ⟨hfinishWorth, hfinishDebt, hfinishDeposit⟩ := borrow_at hquote hfinish
  refine ⟨start, finish, hstart, hfinish, joins_of_worth ?_ hwhole hstartWorth hfinishWorth hworth⟩
  refine Record.ext ?_ (Word.ext ?_)
  · rw [hfinishDeposit, hstartDeposit, hdeposit]
  · omega

/-- The second half was checked with all the debt, which is the debt after the whole. -/
theorem borrow_merges (oracle : Oracle) :
    Merges fun record amount => (record.borrow oracle amount).result := by
  intro record whole first second start finish hstart hfinish hwhole
  obtain ⟨hsecond, quote, hquote, hroom, hcover⟩ := borrow_accepts_iff.1 ⟨finish, hfinish⟩
  obtain ⟨-, hdebt, hdeposit⟩ := borrow_at hquote hstart
  have hsum : start.next.debt.toNat + second.toNat = record.debt.toNat + whole.toNat := by omega
  rw [hsum] at hroom hcover
  rw [hdeposit] at hcover
  have hpos : 0 < whole.toNat := by omega
  exact borrow_accepts_iff.2 ⟨hpos, quote, hquote, hroom, hcover⟩

theorem payBack_divides (oracle : Oracle) :
    Divides fun record amount => (record.payBack oracle amount).result := by
  intro record whole first second settled h hwhole hfirst hsecond
  obtain ⟨-, quote, hquote, henough, hvalue⟩ := payBack_accepts_iff.1 ⟨settled, h⟩
  obtain ⟨hworth, hdebt, hdeposit⟩ := payBack_at hquote h
  -- Neither half is worth more than the whole, which is worth an amount.
  have hfirstFits : quote.rate.worth first.toNat < 2 ^ (64 : Nat) :=
    Nat.lt_of_le_of_lt (quote.rate.worth_mono (by omega)) hvalue
  have hsecondFits : quote.rate.worth second.toNat < 2 ^ (64 : Nat) :=
    Nat.lt_of_le_of_lt (quote.rate.worth_mono (by omega)) hvalue
  have hfirstOwed : first.toNat ≤ record.debt.toNat := by omega
  obtain ⟨start, hstart⟩ : ∃ start, (record.payBack oracle first).result = .ok start :=
    payBack_accepts_iff.2 ⟨hfirst, quote, hquote, hfirstOwed, hfirstFits⟩
  obtain ⟨hstartWorth, hstartDebt, hstartDeposit⟩ := payBack_at hquote hstart
  have hsecondOwed : second.toNat ≤ start.next.debt.toNat := by omega
  obtain ⟨finish, hfinish⟩ : ∃ finish, (start.next.payBack oracle second).result = .ok finish :=
    payBack_accepts_iff.2 ⟨hsecond, quote, hquote, hsecondOwed, hsecondFits⟩
  obtain ⟨hfinishWorth, hfinishDebt, hfinishDeposit⟩ := payBack_at hquote hfinish
  refine ⟨start, finish, hstart, hfinish, joins_of_worth ?_ hwhole hstartWorth hfinishWorth hworth⟩
  refine Record.ext ?_ (Word.ext ?_)
  · rw [hfinishDeposit, hstartDeposit, hdeposit]
  · omega

/-- A withdrawal can be made in two halves. -/
theorem withdraw_divides (oracle : Oracle) :
    Divides fun record amount => (record.withdraw oracle amount).result := by
  intro record whole first second settled h hwhole hfirst hsecond
  obtain ⟨-, henough, hprice⟩ := withdraw_accepts_iff.1 ⟨settled, h⟩
  obtain ⟨-, -, hdeposit, hdebt, hvalue⟩ := withdraw_eq_ok_iff.1 h
  -- More is left after the first half than after the whole, and that covers the debt.
  obtain ⟨start, hstart⟩ : ∃ start, (record.withdraw oracle first).result = .ok start := by
    have hfirstEnough : first.toNat ≤ record.deposited.toNat := by omega
    refine withdraw_accepts_iff.2 ⟨hfirst, hfirstEnough, fun hdebtor => ?_⟩
    obtain ⟨quote, hquote, hcover⟩ := hprice hdebtor
    exact ⟨quote, hquote, by omega⟩
  obtain ⟨-, -, hstartDeposit, hstartDebt, hstartValue⟩ := withdraw_eq_ok_iff.1 hstart
  -- What is left after both is what is left after the whole.
  obtain ⟨finish, hfinish⟩ : ∃ finish, (start.next.withdraw oracle second).result = .ok finish := by
    have hsecondEnough : second.toNat ≤ start.next.deposited.toNat := by omega
    refine withdraw_accepts_iff.2 ⟨hsecond, hsecondEnough, fun hdebtor => ?_⟩
    rw [hstartDebt] at hdebtor ⊢
    obtain ⟨quote, hquote, hcover⟩ := hprice hdebtor
    exact ⟨quote, hquote, by omega⟩
  obtain ⟨-, -, hfinishDeposit, hfinishDebt, hfinishValue⟩ := withdraw_eq_ok_iff.1 hfinish
  refine ⟨start, finish, hstart, hfinish, Record.ext (Word.ext ?_) ?_, ?_, ?_⟩
  · omega
  · rw [hfinishDebt, hstartDebt, hdebt]
  · rw [hstartValue, hfinishValue, hvalue]
    exact Nat.le_refl _
  · rw [hvalue]
    exact Nat.zero_le _

theorem withdraw_merges (oracle : Oracle) :
    Merges fun record amount => (record.withdraw oracle amount).result := by
  intro record whole first second start finish hstart hfinish hwhole
  obtain ⟨hsecond, henough, hprice⟩ := withdraw_accepts_iff.1 ⟨finish, hfinish⟩
  obtain ⟨-, -, hdeposit, hdebt, -⟩ := withdraw_eq_ok_iff.1 hstart
  have hpos : 0 < whole.toNat := by omega
  have hwholeEnough : whole.toNat ≤ record.deposited.toNat := by omega
  refine withdraw_accepts_iff.2 ⟨hpos, hwholeEnough, fun hdebtor => ?_⟩
  rw [hdebt] at hprice
  obtain ⟨quote, hquote, hcover⟩ := hprice hdebtor
  exact ⟨quote, hquote, by omega⟩

/-- A borrow or a withdrawal goes through in parts exactly when it goes through at once, at any
oracle, and the record is the same in the end. So does a payback in parts where it does at once. The
parts report to be worth no more than the whole, and less by one for each cut at most. -/
theorem splitting_gains_nothing (record : Record) (oracle : Oracle) {parts : List Amount}
    {whole : Amount} (hne : parts ≠ []) (hpositive : ∀ part ∈ parts, 0 < part.toNat)
    (htotal : totalOf parts = whole.toNat) :
    SplitsEvenly (fun record amount => (record.borrow oracle amount).result) record parts whole ∧
    SplitsEvenly (fun record amount => (record.withdraw oracle amount).result) record parts whole ∧
    ∀ settled, (record.payBack oracle whole).result = .ok settled →
      ∃ run, settleInTurn (fun record amount => (record.payBack oracle amount).result) record
          parts = .ok run ∧ run.MakeUp parts settled :=
  ⟨(borrow_divides oracle).splitsEvenly (borrow_merges oracle) hne hpositive htotal,
    (withdraw_divides oracle).splitsEvenly (withdraw_merges oracle) hne hpositive htotal,
    fun _ hsettled => (payBack_divides oracle).inTurn hne hpositive htotal hsettled⟩

/-- Seven units of debt are left to borrow, at half a unit of collateral each. -/
def almostDrawn : Record := ⟨.units (2 ^ 63 - 1), .units (2 ^ 64 - 8)⟩

/-- They are borrowed in three parts, of which two are worth nothing. -/
def dustRun : Instalments :=
  ⟨⟨.units (2 ^ 63 - 1), .units (2 ^ 64 - 1)⟩, [.units 0, .units 0, .units 2]⟩

/-- At once they are worth 3, so no more than two cuts can lose. -/
theorem dust_makes_up_a_loan :
    (∀ part ∈ [.units 1, .units 1, .units 5], 0 < (part : Amount).toNat) ∧
      totalOf [.units 1, .units 1, .units 5] = (.units 7 : Amount).toNat ∧
      settleInTurn (fun record amount =>
          (record.borrow (.answers ⟨⟨.units 5, 1⟩, false⟩) amount).result)
        almostDrawn [.units 1, .units 1, .units 5] = .ok dustRun ∧
      dustRun.MakeUp [.units 1, .units 1, .units 5] ⟨dustRun.last, .units 3⟩ := by
  have hpositive : ∀ part ∈ [.units 1, .units 1, .units 5], 0 < (part : Amount).toNat := by decide
  have htotal : totalOf [.units 1, .units 1, .units 5] = (.units 7 : Amount).toNat := by decide
  have hrun : settleInTurn (fun record amount =>
      (record.borrow (.answers ⟨⟨.units 5, 1⟩, false⟩) amount).result)
    almostDrawn [.units 1, .units 1, .units 5] = .ok dustRun := by rfl
  have hsettled : (almostDrawn.borrow (.answers ⟨⟨.units 5, 1⟩, false⟩) (.units 7)).result =
      .ok ⟨dustRun.last, .units 3⟩ := by rfl
  obtain ⟨hsplits, -⟩ := splitting_gains_nothing almostDrawn (.answers ⟨⟨.units 5, 1⟩, false⟩)
    (by decide) hpositive htotal
  exact ⟨hpositive, htotal, hrun, hsplits.makeUp _ _ hrun hsettled⟩

end Record

end CollateralLending
