/-
  CollateralLending.Proofs.Lending.Coverage

  Positions stay covered while the price does not rise. Prices are compared as
  rational numbers, so an answer may come with any number of decimals; stale
  and failing answers may come in between, since nothing is settled at them.

  The invariant looks ahead: after each step every record is covered at every
  usable answer that is still to come. An operation checks the answer it reads,
  which is the highest of those, and a floored value is monotone in the rate
  even across scales (`Quote.wide_le_of_ratio_le`). An operation that reads no
  answer leaves less debt, more deposit, or no debt at all.
-/
import CollateralLending.Proofs.Lending.VaultRun
import CollateralLending.Proofs.Price.Conversion

namespace CollateralLending

/-! ## Covered records -/

namespace Record

/-- The deposit is worth at least the debt. -/
def CoveredAt (record : Record) (quote : Quote) : Prop :=
  (quote.wide record.debt).toNat ≤ record.deposited.toNat

variable {old new : Record} {quote high : Quote}

theorem coveredAt_of_debtless (h : new.debt.toNat = 0) (quote : Quote) : new.CoveredAt quote := by
  unfold CoveredAt
  rw [Quote.toNat_wide_eq_worth, h, FixedRate.worth_zero]
  exact Nat.zero_le _

/-- A debt covered at one price is covered at every lower one, at whatever scale. -/
theorem CoveredAt.of_ratio_le (h : new.CoveredAt high) (hratio : quote.ratio ≤ high.ratio) :
    new.CoveredAt quote :=
  Nat.le_trans (Quote.wide_le_of_ratio_le hratio new.debt) h

theorem CoveredAt.of_eased (h : old.CoveredAt quote) (hdebt : new.debt.toNat ≤ old.debt.toNat)
    (hdeposit : old.deposited.toNat ≤ new.deposited.toNat) : new.CoveredAt quote := by
  have hwide := quote.wide_le_of_amount_le hdebt
  unfold CoveredAt at h ⊢
  omega

end Record

variable {K : Type} [Ord K] [Std.TransOrd K] [Std.LawfulEqOrd K] [DecidableEq K]
variable {vault : LedgerVault K}

omit [Std.TransOrd K] [Std.LawfulEqOrd K] in
/-- A settlement eases the position, leaves no debt, or has checked the answer it read. -/
theorem LedgerVault.Settles.eased_or_checked {step : VaultStep K} {account : K} {next : Record}
    (h : vault.Settles step account next) :
    (next.debt.toNat ≤ (vault.record account).debt.toNat ∧
        (vault.record account).deposited.toNat ≤ next.deposited.toNat) ∨
      next.debt.toNat = 0 ∨
      ∃ quote, vault.oracle.currentQuote.result = .ok quote ∧ next.CoveredAt quote := by
  cases h with
  | deposit settles =>
      obtain ⟨-, hdeposit, hdebt, -⟩ := Record.deposit_eq_ok_iff.1 settles
      rw [hdebt]
      exact .inl ⟨Nat.le_refl _, by omega⟩
  | borrow settles =>
      obtain ⟨-, quote, hquote, -, -, hdeposit, hcover⟩ := Record.borrow_eq_ok_iff.1 settles
      rw [← hdeposit] at hcover
      exact .inr (.inr ⟨quote, hquote, hcover⟩)
  | payback settles =>
      obtain ⟨-, quote, -, -, hdebt, hdeposit⟩ := Record.payBack_eq_ok_iff.1 settles
      rw [hdeposit]
      exact .inl ⟨by omega, Nat.le_refl _⟩
  | @withdraw caller amount settled settles =>
      obtain ⟨-, hprice, -, hdebt, -⟩ := Record.withdraw_eq_ok_iff.1 settles
      right
      -- A withdrawal asks for the price only where there is debt.
      by_cases hdebtor : 0 < (vault.record account).debt.toNat
      · obtain ⟨quote, hquote, hcover⟩ := hprice hdebtor
        rw [← hdebt] at hcover
        exact .inr ⟨quote, hquote, hcover⟩
      · rw [hdebt]
        exact .inl (by omega)
  | liquidate settles => exact .inr (.inl rfl)

/-! ## Answers to come -/

/-- The usable answers that are seen from an oracle on, while the steps are taken. -/
def quotesSeen (oracle : Oracle) (steps : List (VaultStep K)) : List Quote :=
  (oracle :: steps.filterMap VaultStep.oracle?).filterMap fun next =>
    next.currentQuote.result.toOption

omit [Ord K] [Std.TransOrd K] [Std.LawfulEqOrd K] [DecidableEq K] in
theorem quotesSeen_of_quote {oracle : Oracle} {quote : Quote}
    (h : oracle.currentQuote.result = .ok quote) (steps : List (VaultStep K)) :
    ∃ rest, quotesSeen oracle steps = quote :: rest := by
  refine ⟨_, List.filterMap_cons_some ?_⟩
  rw [h]
  rfl

/-- A step passes by answers and brings none that was not to come. -/
theorem quotesSeen_step (vault : LedgerVault K) (step : VaultStep K) (steps : List (VaultStep K)) :
    List.Sublist (quotesSeen (vault.step step).vault.oracle steps)
      (quotesSeen vault.oracle (step :: steps)) := by
  rw [vault.step_oracle]
  unfold quotesSeen
  refine List.Sublist.filterMap _ ?_
  cases horacle : step.oracle? with
  | none =>
      rw [List.filterMap_cons_none horacle]
      exact List.Sublist.refl _
  | some next =>
      rw [List.filterMap_cons_some horacle]
      exact List.sublist_cons_self _ _

/-- The price never rises. -/
def NeverRises (quotes : List Quote) : Prop :=
  quotes.Pairwise fun earlier later => later.ratio ≤ earlier.ratio

namespace LedgerVault

/-- Every record is covered at every usable answer to come. -/
def CoveredThrough (vault : LedgerVault K) (steps : List (VaultStep K)) : Prop :=
  ∀ account, ∀ quote ∈ quotesSeen vault.oracle steps, (vault.record account).CoveredAt quote

theorem CoveredThrough.step {step : VaultStep K} {steps : List (VaultStep K)}
    (hprice : NeverRises (quotesSeen vault.oracle (step :: steps)))
    (h : vault.CoveredThrough (step :: steps)) : (vault.step step).vault.CoveredThrough steps := by
  intro a quote hquote
  have hmem : quote ∈ quotesSeen vault.oracle (step :: steps) :=
    (quotesSeen_step vault step steps).subset hquote
  rcases vault.step_records step with hsame | ⟨account, next, hsettles, hrecords⟩
  · rw [hsame]
    exact h a quote hmem
  · rw [hrecords]
    by_cases ha : a = account
    · rw [if_pos ha]
      rcases hsettles.eased_or_checked with ⟨hdebt, hdeposit⟩ | hdebtless |
        ⟨current, hcurrent, hcover⟩
      · exact (h account quote hmem).of_eased hdebt hdeposit
      · exact Record.coveredAt_of_debtless hdebtless quote
      · -- The answer that was read comes first of all that are still to come.
        obtain ⟨rest, hseen⟩ := quotesSeen_of_quote hcurrent (step :: steps)
        rw [hseen] at hprice hmem
        rcases List.mem_cons.1 hmem with rfl | hrest
        · exact hcover
        · exact hcover.of_ratio_le (List.rel_of_pairwise_cons hprice hrest)
    · rw [if_neg ha]
      exact h a quote hmem

/-- A covered vault stays covered along any steps, as long as the price never rises. -/
theorem CoveredThrough.after (earlier : List (VaultStep K)) {later : List (VaultStep K)}
    (hprice : NeverRises (quotesSeen vault.oracle (earlier ++ later)))
    (h : vault.CoveredThrough (earlier ++ later)) : (vault.after earlier).CoveredThrough later := by
  induction earlier generalizing vault with
  | nil => exact h
  | cons step steps ih =>
      have hseen := quotesSeen_step vault step (steps ++ later)
      rw [after_cons]
      exact ih (hprice.sublist hseen) (h.step hprice)

/-- A covered record cannot be liquidated, whoever asks for it. -/
theorem CoveredThrough.not_liquidate {steps : List (VaultStep K)} (h : vault.CoveredThrough steps)
    (caller account : K) : (vault.liquidate caller account).result ≠ .ok () := by
  intro hok
  rcases vault.liquidate_cases caller account with ⟨error, herror, -⟩ | ⟨settled, hsettled, -⟩
  · rw [herror] at hok
    cases hok
  · obtain ⟨-, -, quote, hquote, hunder⟩ := Record.liquidate_eq_ok_iff.1 hsettled
    obtain ⟨rest, hseen⟩ := quotesSeen_of_quote hquote steps
    have hcover := h account quote (by
      rw [hseen]
      exact List.mem_cons_self)
    unfold Record.CoveredAt at hcover
    omega

/-- Take any run from an empty ledger in which the price never rises, and stop it anywhere. Every
record is covered at each usable answer from there on, and nobody can liquidate anybody. -/
theorem covered_while_price_falls (vault : LedgerVault K) (hempty : vault.ledger = .empty)
    (earlier later : List (VaultStep K))
    (hprice : NeverRises (quotesSeen vault.oracle (earlier ++ later))) :
    (∀ account, ∀ quote ∈ quotesSeen (vault.after earlier).oracle later,
      ((vault.after earlier).record account).debt.toNat * quote.rate.raw.toNat /
          10 ^ quote.rate.decimals.toNat ≤
        ((vault.after earlier).record account).deposited.toNat) ∧
    ∀ caller account, ((vault.after earlier).liquidate caller account).result ≠ .ok () := by
  have hstart : vault.CoveredThrough (earlier ++ later) := by
    intro account quote _
    refine Record.coveredAt_of_debtless ?_ quote
    unfold record
    rw [hempty]
    rfl
  have hcovered := hstart.after earlier hprice
  exact ⟨hcovered, hcovered.not_liquidate⟩

/-! ### A falling price -/

/-- Account 2 holds the collateral, and account 0 is the vault's own. -/
def fallingVault : LedgerVault Nat :=
  .new 0 1 (TokenLedger.empty.mint 2 ⟨2000, by decide⟩).1
    (TokenLedger.empty.mint 0 ⟨500, by decide⟩).1 (.answers ⟨⟨⟨4, by decide⟩, 0⟩, false⟩)

/-- The price falls from 4 to 3.5, with a stale answer of 9 in between. -/
def fallingStart : List (VaultStep Nat) :=
  [.deposit 2 ⟨2000, by decide⟩, .borrow 2 ⟨450, by decide⟩,
    .oracle (.answers ⟨⟨⟨9, by decide⟩, 0⟩, true⟩),
    .oracle (.answers ⟨⟨⟨35, by decide⟩, 1⟩, false⟩)]

/-- It falls on to 3, after a withdrawal and a read that fails. -/
def fallingEnd : List (VaultStep Nat) :=
  [.withdraw 2 ⟨400, by decide⟩, .oracle (.fails .transferFailed),
    .oracle (.answers ⟨⟨⟨3, by decide⟩, 0⟩, false⟩)]

theorem covered_in_falling_run :
    NeverRises (quotesSeen fallingVault.oracle (fallingStart ++ fallingEnd)) ∧
      ((fallingVault.after fallingStart).record 2).debt.toNat = 450 ∧
      ∀ caller account, ((fallingVault.after fallingStart).liquidate caller account).result ≠
        .ok () := by
  have hprice : NeverRises (quotesSeen fallingVault.oracle (fallingStart ++ fallingEnd)) := by
    unfold NeverRises
    decide +kernel
  have hcovered := covered_while_price_falls fallingVault rfl fallingStart fallingEnd hprice
  exact ⟨hprice, by decide, hcovered.2⟩

end LedgerVault

end CollateralLending
