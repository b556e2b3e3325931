/-
  CollateralLending.Proofs.Lending.PriceGate

  Which operations of a lending vault over a ledger need a price. Those that do
  read the oracle once, before they look at anything but their amount or their
  caller, and settle by the quote of that read; so a read that fails and an
  answer that is stale stop them whatever else is the case. The others never
  read it, and come out the same whatever it would have answered.

  An operation is looked at as a function of the oracle: it is constant
  (`NeverAsks`), or it factors through one read (`AsksOnce`).

  Main statement: `price_is_asked_once_or_never`.
-/
import CollateralLending.Proofs.Lending.Operations

namespace CollateralLending

/-! ## Consultations as functions of the oracle -/

namespace Consultation

variable {α β : Type}

/-- The oracle is not read, and has no say in the result. -/
def NeverAsks (consult : Oracle → Consultation α) : Prop :=
  ∃ result, ∀ oracle, consult oracle = .ofResult result

/-- The oracle is read once, and the quote is all that the result takes from it. -/
def AsksOnce (consult : Oracle → Consultation α) : Prop :=
  ∃ next : Quote → Except LendingError α, ∀ oracle,
    consult oracle = ⟨1, oracle.currentQuote.result.bind next⟩

theorem lift_ok_bind (a : α) (next : α → Consultation β) :
    ((liftM (Except.ok a : Except LendingError α) : Consultation α) >>= next) = next a := by
  show (⟨0 + (next a).reads, (next a).result⟩ : Consultation β) = next a
  rw [Nat.zero_add]

theorem lift_error_bind (error : LendingError) (next : α → Consultation β) :
    ((liftM (Except.error error : Except LendingError α) : Consultation α) >>= next) =
      .ofResult (.error error) := rfl

/-- Checks before and after the read are no reads. -/
theorem reads_lift_bind {result : Except LendingError α} {next : α → Consultation β}
    (hnext : ∀ a, (next a).reads = 0) :
    ((liftM result : Consultation α) >>= next).reads = 0 := by
  cases result with
  | error error => rfl
  | ok a =>
      rw [lift_ok_bind]
      exact hnext a

/-- What is refused before the price is asked for never asks for it. -/
theorem neverAsks_of_refused {check : Except LendingError α} {error : LendingError}
    {next : Oracle → α → Consultation β} (h : check = .error error) :
    NeverAsks fun oracle => (liftM check : Consultation α) >>= next oracle := by
  rw [h]
  exact ⟨.error error, fun oracle => lift_error_bind error (next oracle)⟩

theorem asksOnce_of_passed {check : Except LendingError α} {a : α}
    {next : Oracle → α → Consultation β} (h : check = .ok a)
    (hnext : AsksOnce fun oracle => next oracle a) :
    AsksOnce fun oracle => (liftM check : Consultation α) >>= next oracle := by
  obtain ⟨settle, hsettle⟩ := hnext
  rw [h]
  exact ⟨settle, fun oracle => (lift_ok_bind a (next oracle)).trans (hsettle oracle)⟩

/-- What starts with the price asks for it once if the rest asks no more. -/
theorem asksOnce_of_quote_first {next : Quote → Consultation α}
    (hnext : ∀ quote, (next quote).reads = 0) :
    AsksOnce fun oracle => oracle.currentQuote >>= next := by
  refine ⟨fun quote => (next quote).result, ?_⟩
  intro oracle
  show oracle.currentQuote.andThen next = _
  unfold andThen
  cases hquote : oracle.currentQuote.result with
  | error error => rfl
  | ok quote =>
      simp only [hnext quote]
      rfl

end Consultation

open Consultation

/-! ## Records -/

namespace Record

variable {amount : Amount}

theorem ensurePositive_of_pos (h : 0 < amount.toNat) : ensurePositive amount = .ok () :=
  ensure_eq_ok_iff.2 h

theorem ensurePositive_of_zero (h : ¬ 0 < amount.toNat) :
    ensurePositive amount = .error .invalidAmount :=
  ensure_eq_error_iff.2 ⟨h, rfl⟩

theorem borrow_neverAsks (record : Record) (h : ¬ 0 < amount.toNat) :
    NeverAsks (record.borrow · amount) := by
  unfold borrow
  exact neverAsks_of_refused (ensurePositive_of_zero h)

theorem borrow_asksOnce (record : Record) (h : 0 < amount.toNat) :
    AsksOnce (record.borrow · amount) := by
  unfold borrow
  refine asksOnce_of_passed (ensurePositive_of_pos h) (asksOnce_of_quote_first fun quote => ?_)
  exact reads_lift_bind fun _ => reads_lift_bind fun _ => reads_lift_bind fun _ => rfl

theorem payBack_neverAsks (record : Record) (h : ¬ 0 < amount.toNat) :
    NeverAsks (record.payBack · amount) := by
  unfold payBack
  exact neverAsks_of_refused (ensurePositive_of_zero h)

theorem payBack_asksOnce (record : Record) (h : 0 < amount.toNat) :
    AsksOnce (record.payBack · amount) := by
  unfold payBack
  refine asksOnce_of_passed (ensurePositive_of_pos h) (asksOnce_of_quote_first fun quote => ?_)
  exact reads_lift_bind fun _ => reads_lift_bind fun _ => reads_lift_bind fun _ => rfl

theorem withdraw_neverAsks (record : Record) (h : ¬ (0 < amount.toNat ∧ 0 < record.debt.toNat)) :
    NeverAsks (record.withdraw · amount) := by
  unfold withdraw
  by_cases hpos : 0 < amount.toNat
  · -- Without debt, what is taken out is all that counts.
    have hdebt : ¬ 0 < record.debt.toNat := fun hdebtor => h ⟨hpos, hdebtor⟩
    refine ⟨(record.takeOut amount).map fun next => ⟨next, .zero⟩, ?_⟩
    intro oracle
    simp only [ensurePositive_of_pos hpos, lift_ok_bind, if_neg hdebt]
    cases record.takeOut amount with
    | error error => rfl
    | ok next => rfl
  · exact neverAsks_of_refused (ensurePositive_of_zero hpos)

/-- A withdrawal from under a debt asks for the price once. -/
theorem withdraw_asksOnce (record : Record) (hpos : 0 < amount.toNat)
    (hdebt : 0 < record.debt.toNat) : AsksOnce (record.withdraw · amount) := by
  unfold withdraw
  simp only [if_pos hdebt]
  refine asksOnce_of_passed (ensurePositive_of_pos hpos) (asksOnce_of_quote_first fun quote => ?_)
  exact reads_lift_bind fun _ => reads_lift_bind fun _ => rfl

variable {K : Type} [DecidableEq K] {caller admin : K}

/-- Whoever is not the admin is turned away before the oracle is read. -/
theorem liquidate_of_stranger (record : Record) (h : caller ≠ admin) (oracle : Oracle) :
    record.liquidate caller admin oracle = .ofResult (.error .unauthorized) := by
  have hcaller : ensure (caller = admin) LendingError.unauthorized = .error .unauthorized :=
    ensure_eq_error_iff.2 ⟨h, rfl⟩
  unfold liquidate
  rw [hcaller, lift_error_bind]

/-- A liquidation by the admin asks for the price once. -/
theorem liquidate_asksOnce (record : Record) (h : caller = admin) :
    AsksOnce (record.liquidate caller admin ·) := by
  have hcaller : ensure (caller = admin) LendingError.unauthorized = .ok () := ensure_eq_ok_iff.2 h
  unfold liquidate
  refine asksOnce_of_passed hcaller (asksOnce_of_quote_first fun quote => ?_)
  exact reads_lift_bind fun _ => rfl

end Record

/-! ## Vaults -/

variable {K : Type} [Ord K]

/-- The vault with another oracle. -/
def LedgerVault.withOracle (vault : LedgerVault K) (oracle : Oracle) : LedgerVault K :=
  { vault with oracle := oracle }

/-- The outcome with another oracle in the vault that is left behind. -/
def VaultOutcome.withOracle (outcome : VaultOutcome K) (oracle : Oracle) : VaultOutcome K :=
  { outcome with vault := outcome.vault.withOracle oracle }

/-- Which operations need a price: borrowings, paybacks and withdrawals with debt when they are for
something, and liquidations when they come from the admin. -/
def Operation.NeedsPrice (vault : LedgerVault K) (account : K) : Operation K → Prop
  | deposit _ => False
  | borrow amount | payback amount => 0 < amount.toNat
  | withdraw amount => 0 < amount.toNat ∧ 0 < (vault.record account).debt.toNat
  | liquidate caller => caller = vault.admin

namespace LedgerVault

variable [Std.TransOrd K] [Std.LawfulEqOrd K]

theorem perform_reads (vault : LedgerVault K) (account : K) (settlement : Consultation Settlement)
    (move : LedgerVault K × Except LendingError Unit) (event : Settlement → LendingEvent K) :
    (vault.perform account settlement move event).reads = settlement.reads := by
  rcases perform_cases vault account settlement move event with
    ⟨error, -, heq⟩ | ⟨settled, -, ⟨error, -, heq⟩ | ⟨-, heq⟩⟩ <;> rw [heq]

theorem perform_of_error (vault : LedgerVault K) (account : K)
    {settlement : Consultation Settlement} {error : LendingError}
    (h : settlement.result = .error error)
    (move : LedgerVault K × Except LendingError Unit) (event : Settlement → LendingEvent K) :
    vault.perform account settlement move event = ⟨vault, .error error, settlement.reads⟩ := by
  unfold perform
  rw [h]

/-- Once it is settled, nothing of an operation depends on the oracle. -/
theorem perform_withOracle (vault : LedgerVault K) (oracle : Oracle) (account : K)
    (settlement : Consultation Settlement) (move : LedgerVault K × Except LendingError Unit)
    (event : Settlement → LendingEvent K) :
    (vault.withOracle oracle).perform account settlement (move.1.withOracle oracle, move.2) event =
      (vault.perform account settlement move event).withOracle oracle := by
  unfold perform
  cases settlement.result with
  | error error => rfl
  | ok settled =>
      obtain ⟨moved, outcome⟩ := move
      cases outcome with
      | error error => rfl
      | ok _ => rfl

variable [DecidableEq K]

/-- The operation never reads the oracle, and whatever the oracle answers makes no difference. -/
structure IgnoresOracle (vault : LedgerVault K) (step : VaultStep K) : Prop where
  reads : (vault.step step).reads = 0
  same : ∀ oracle, (vault.withOracle oracle).step step = (vault.step step).withOracle oracle

/-- The operation reads the oracle once, and stops there, leaving the vault as it is, when the read
fails or the answer is stale. -/
structure StopsAtGate (vault : LedgerVault K) (step : VaultStep K) : Prop where
  reads : (vault.step step).reads = 1
  failed : ∀ error, vault.oracle.latest = .error error →
    vault.step step = ⟨vault, .error error, 1⟩
  stale : ∀ answer, vault.oracle.latest = .ok answer → answer.isStale = true →
    vault.step step = ⟨vault, .error .staleFeed, 1⟩

variable {vault : LedgerVault K} {step : VaultStep K} {account : K}

/-- The step carries out what it consults the oracle for, whichever oracle the vault has. -/
structure Performs (vault : LedgerVault K) (step : VaultStep K) (account : K)
    (consult : Oracle → Consultation Settlement) (move : LedgerVault K × Except LendingError Unit)
    (event : Settlement → LendingEvent K) : Prop where
  own : vault.step step = vault.perform account (consult vault.oracle) move event
  other : ∀ oracle, (vault.withOracle oracle).step step =
    (vault.withOracle oracle).perform account (consult oracle)
      (move.1.withOracle oracle, move.2) event

variable {consult : Oracle → Consultation Settlement}
variable {move : LedgerVault K × Except LendingError Unit} {event : Settlement → LendingEvent K}

/-- An operation whose settlement never asks ends alike at every oracle. -/
theorem Performs.ignoresOracle (hperforms : vault.Performs step account consult move event)
    (hconsult : NeverAsks consult) : vault.IgnoresOracle step := by
  obtain ⟨result, hresult⟩ := hconsult
  have hown : vault.step step = vault.perform account (.ofResult result) move event := by
    rw [hperforms.own, hresult]
  refine ⟨?_, ?_⟩
  · rw [hown, perform_reads]
    rfl
  · intro oracle
    rw [hperforms.other, hresult, perform_withOracle, hown]

/-- A step that fails with what the oracle fails with stops at the gate. -/
theorem stopsAtGate_of_quote (hreads : (vault.step step).reads = 1)
    (hrefused : ∀ error, vault.oracle.currentQuote.result = .error error →
      vault.step step = ⟨vault, .error error, 1⟩) : vault.StopsAtGate step where
  reads := hreads
  failed error hlatest := by
    apply hrefused
    unfold Oracle.currentQuote
    rw [hlatest]
    rfl
  stale answer hlatest hstale := by
    apply hrefused
    unfold Oracle.currentQuote
    rw [hlatest]
    show Oracle.usable answer = _
    unfold Oracle.usable
    -- A stale answer is refused before anything else about it is looked at.
    rw [if_pos hstale]

/-- An operation whose settlement asks once stops there when no price is given. -/
theorem Performs.stopsAtGate (hperforms : vault.Performs step account consult move event)
    (hconsult : AsksOnce consult) : vault.StopsAtGate step := by
  obtain ⟨next, hnext⟩ := hconsult
  have hstep := hperforms.own
  rw [hnext] at hstep
  apply stopsAtGate_of_quote
  · rw [hstep, perform_reads]
  · intro error hquote
    rw [hstep]
    apply perform_of_error
    rw [hquote]
    rfl

theorem liquidate_of_error (vault : LedgerVault K) {caller : K} {error : LendingError}
    (h : ((vault.record account).liquidate caller vault.admin vault.oracle).result = .error error) :
    vault.liquidate caller account = ⟨vault, .error error,
      ((vault.record account).liquidate caller vault.admin vault.oracle).reads⟩ := by
  unfold liquidate
  simp only [h]

theorem liquidate_reads (vault : LedgerVault K) (caller account : K) :
    (vault.liquidate caller account).reads =
      ((vault.record account).liquidate caller vault.admin vault.oracle).reads := by
  unfold liquidate
  simp only
  cases ((vault.record account).liquidate caller vault.admin vault.oracle).result with
  | error error => rfl
  | ok settled => rfl

theorem ignoresOracle_liquidate {caller : K} (h : caller ≠ vault.admin) :
    vault.IgnoresOracle (.liquidate caller account) := by
  -- A stranger is refused first, whatever the oracle would have answered.
  have hrefused : ∀ oracle, (vault.withOracle oracle).liquidate caller account =
      ⟨vault.withOracle oracle, .error .unauthorized, 0⟩ := by
    intro oracle
    have hturned : ((vault.withOracle oracle).record account).liquidate caller
        (vault.withOracle oracle).admin (vault.withOracle oracle).oracle =
          .ofResult (.error .unauthorized) := Record.liquidate_of_stranger _ h oracle
    rw [liquidate_of_error (vault.withOracle oracle) (congrArg (·.result) hturned), hturned]
    rfl
  have hself : vault.liquidate caller account = ⟨vault, .error .unauthorized, 0⟩ :=
    hrefused vault.oracle
  refine ⟨congrArg (·.reads) hself, ?_⟩
  intro oracle
  exact (hrefused oracle).trans (congrArg (·.withOracle oracle) hself).symm

theorem stopsAtGate_liquidate {caller : K} (h : caller = vault.admin) :
    vault.StopsAtGate (.liquidate caller account) := by
  obtain ⟨next, hnext⟩ := (vault.record account).liquidate_asksOnce h
  -- The admin's liquidation starts with the price.
  have hasked : (vault.record account).liquidate caller vault.admin vault.oracle =
      ⟨1, vault.oracle.currentQuote.result.bind next⟩ := hnext vault.oracle
  apply stopsAtGate_of_quote
  · show (vault.liquidate caller account).reads = 1
    rw [liquidate_reads, hasked]
  · intro error hquote
    show vault.liquidate caller account = _
    have hresult : ((vault.record account).liquidate caller vault.admin vault.oracle).result =
        .error error := by
      rw [hasked, hquote]
      rfl
    rw [liquidate_of_error vault hresult, hasked]

/-- Every operation of every vault: one that needs no price never reads the oracle and ignores what
it would have answered; any other reads it once, and fails, changing nothing, when the read fails or
the answer is stale. -/
theorem price_is_asked_once_or_never (vault : LedgerVault K) (operation : Operation K)
    (account : K) :
    (¬ operation.NeedsPrice vault account → vault.IgnoresOracle (operation.on account)) ∧
    (operation.NeedsPrice vault account → vault.StopsAtGate (operation.on account)) := by
  -- Each operation is a settlement, an asset to move and an event, and only the settlement may ask.
  cases operation with
  | deposit amount =>
      have hperforms : vault.Performs (.deposit account amount) account
          (fun _ => .ofResult ((vault.record account).deposit amount))
          (vault.withCollateral (vault.collateral.transfer account vault.address amount))
          (fun _ => .deposited amount) := ⟨rfl, fun _ => rfl⟩
      exact ⟨fun _ => hperforms.ignoresOracle ⟨_, fun _ => rfl⟩, False.elim⟩
  | borrow amount =>
      have hperforms : vault.Performs (.borrow account amount) account
          ((vault.record account).borrow · amount)
          (vault.withDebt (vault.debt.transfer vault.address account amount))
          (fun settled => .borrowed amount settled.collateralEquivalent) := ⟨rfl, fun _ => rfl⟩
      exact ⟨fun hzero => hperforms.ignoresOracle (Record.borrow_neverAsks _ hzero),
        fun hpos => hperforms.stopsAtGate (Record.borrow_asksOnce _ hpos)⟩
  | payback amount =>
      have hperforms : vault.Performs (.payback account amount) account
          ((vault.record account).payBack · amount)
          (vault.withDebt (vault.debt.transferFrom vault.address account vault.address amount))
          (fun settled => .paidBack amount settled.collateralEquivalent) := ⟨rfl, fun _ => rfl⟩
      exact ⟨fun hzero => hperforms.ignoresOracle (Record.payBack_neverAsks _ hzero),
        fun hpos => hperforms.stopsAtGate (Record.payBack_asksOnce _ hpos)⟩
  | withdraw amount =>
      have hperforms : vault.Performs (.withdraw account amount) account
          ((vault.record account).withdraw · amount)
          (vault.withCollateral (vault.collateral.transfer vault.address account amount))
          (fun _ => .withdrawn amount) := ⟨rfl, fun _ => rfl⟩
      exact ⟨fun hneither => hperforms.ignoresOracle (Record.withdraw_neverAsks _ hneither),
        fun hboth => hperforms.stopsAtGate (Record.withdraw_asksOnce _ hboth.1 hboth.2)⟩
  | liquidate caller =>
      exact ⟨fun hstranger => ignoresOracle_liquidate hstranger,
        fun hadmin => stopsAtGate_liquidate hadmin⟩

/-- The answer is stale, and its scale is out of range besides. Account 2 owes something, and
account 3 does not. -/
def staleVault : LedgerVault Nat :=
  { new 0 1 (TokenLedger.empty.mint 0 (.units 150)).1 .empty
      (.answers ⟨⟨.units 5, 40⟩, true⟩) with
    ledger := (Table.empty.set 2 ⟨.units 100, .units 10⟩).set 3 ⟨.units 50, .zero⟩ }

theorem withdrawals_from_stale_vault :
    staleVault.step (.withdraw 2 (.units 900)) = ⟨staleVault, .error .staleFeed, 1⟩ ∧
      ∀ oracle,
        ((staleVault.withOracle oracle).step (.withdraw 3 (.units 50))).result = .ok () := by
  have hdebtor := (price_is_asked_once_or_never staleVault (.withdraw (.units 900)) 2).2
    ⟨by decide, by decide +kernel⟩
  have hfree := (price_is_asked_once_or_never staleVault (.withdraw (.units 50)) 3).1
    fun hneeds => absurd hneeds.2 (by decide +kernel)
  have hpaid : (staleVault.step (.withdraw 3 (.units 50))).result = .ok () := by rfl
  refine ⟨hdebtor.stale ⟨⟨.units 5, 40⟩, true⟩ rfl rfl, ?_⟩
  intro oracle
  exact (congrArg (·.result) (hfree.same oracle)).trans hpaid

end LedgerVault

end CollateralLending
