/-
  CollateralLending.Proofs.Chain.Failures

  Why a part of a transaction failed. `Fails part s cause` says that the part
  fails in session `s` for that cause, whatever field is blamed. As in
  `CollateralLending.Proofs.Chain.Yields` there is one equivalence for each way
  a part is built.

  Taking and checking accounts fails for reasons of the chain, and so do the
  calls that make accounts: no program of this library gives the reason
  (`Cause.isOwn`).
-/
import CollateralLending.Proofs.Chain.Yields
import CollateralLending.Proofs.Outcome

namespace CollateralLending

variable {α β : Type}

/-- Whether a program of this library gives the reason. -/
def Cause.isOwn : Cause → Bool
  | lending _ | feed _ | share _ => true
  | account _ | program _ => false

namespace Tx

/-- The part fails for this cause. -/
def Fails (part : Tx α) (s : Session) (cause : Cause) : Prop :=
  ∃ field?, part s = .error ⟨cause, field?⟩

/-- The part fails for a reason of the lending program. -/
abbrev Refuses (part : Tx α) (s : Session) (error : LendingError) : Prop :=
  Fails part s (.lending error)

variable {s : Session} {cause : Cause}

/-! ## Parts of a transaction -/

/-- Two parts in a row fail in the first, or in the second after the first went through. -/
theorem fails_bind {first : Tx α} {next : α → Tx β} :
    Fails (first >>= next) s cause ↔
      Fails first s cause ∨ ∃ a u, Yields first s a u ∧ Fails (next a) u cause := by
  unfold Fails Yields
  show (∃ field?, (Except.bind (first s) fun p => next p.1 p.2) = _) ↔ _
  cases h : first s with
  | error e => simp [Except.bind]
  | ok p =>
      obtain ⟨a, u⟩ := p
      constructor
      · intro hnext
        exact .inr ⟨a, u, rfl, hnext⟩
      · rintro (⟨_, hfail⟩ | ⟨a', u', he, hnext⟩)
        · cases hfail
        · cases he
          exact hnext

theorem fails_pure {a : α} : Fails (pure a) s cause ↔ False := by
  show (∃ field?, (Except.ok (a, s) : Except Failure (α × Session)) = .error ⟨cause, field?⟩) ↔
    False
  simp

/-- The cause is the one the part was told to fail for; who is blamed does not matter. -/
theorem fails_fail {failure : Failure} :
    Fails (Tx.fail failure : Tx α) s cause ↔ failure.cause = cause := by
  unfold Fails Tx.fail
  constructor
  · rintro ⟨field?, h⟩
    cases h
    rfl
  · intro h
    exact ⟨failure.field?, by rw [← h]⟩

/-- A check fails where its condition does not hold, for the cause it was given. -/
theorem fails_check {p : Prop} [Decidable p] {failure : Failure} :
    Fails (Tx.check p failure) s cause ↔ ¬ p ∧ failure.cause = cause := by
  unfold Fails Tx.check
  by_cases h : p
  · simp [h]
  · simp only [h, not_false_eq_true, true_and]
    show Fails (Tx.fail failure : Tx Unit) s cause ↔ failure.cause = cause
    exact fails_fail

/-- A result computed outside the session fails the part with its own error. -/
theorem fails_liftCause {result : Except Cause α} {field? : Option Field} :
    Fails (Tx.liftCause result field?) s cause ↔ result = .error cause := by
  unfold Fails Tx.liftCause
  cases result <;> simp

theorem fails_account {address : Address} : Fails (Tx.account address) s cause ↔ False := by
  simp [Fails, Tx.account]

/-- A call that is refused hands its error on. -/
theorem fails_invoke {call : Bank → Except ProgramError Bank} :
    Fails (Tx.invoke call) s cause ↔
      ∃ fault, call s.bank = .error fault ∧ .program fault = cause := by
  unfold Fails Tx.invoke
  cases call s.bank <;> simp [Failure.unblamed]

/-- A call with a fallback fails for the fallback, whatever it was refused for. -/
theorem fails_invokeOr {fallback : Cause} {call : Bank → Except ProgramError Bank} :
    Fails (Tx.invokeOr fallback call) s cause ↔
      (∃ fault, call s.bank = .error fault) ∧ fallback = cause := by
  unfold Fails Tx.invokeOr
  cases call s.bank <;> simp [Failure.unblamed]

/-- Saving never fails, and neither do events and lines of the log. -/
theorem fails_save {kind : AccountKind α} {address : Address} {value : α} :
    Fails (Tx.save kind address value) s cause ↔ False := by
  simp [Fails, Tx.save]

theorem fails_emit {event : Event Address} : Fails (Tx.emit event) s cause ↔ False := by
  simp [Fails, Tx.emit]

theorem fails_log {line : LogLine Address} : Fails (Tx.log line) s cause ↔ False := by
  simp [Fails, Tx.log]

end Tx

/-! ## Loading -/

namespace AccountKind

/-- No program of this library gives the reason for which an account of the type cannot be
loaded. -/
def Neutral (kind : AccountKind α) : Prop :=
  ∀ account cause, kind.load account = .error cause → cause.isOwn = false

/-- Loading fails before reading for reasons of the chain, so only reading has to be looked at. -/
theorem neutral_of_read {kind : AccountKind α}
    (h : ∀ data cause, kind.read data = .error cause → cause.isOwn = false) : kind.Neutral := by
  intro account cause hload
  unfold load at hload
  split at hload
  · cases hload
    rfl
  · split at hload
    · cases hload
      rfl
    · exact h account.data cause hload

/-- Data of another type is refused for a reason of the chain. -/
theorem isOwn_refusal (discriminator : List UInt8) (data : Data) :
    (refusal discriminator data).isOwn = false := by
  unfold refusal
  split
  · split
    · rfl
    · split <;> rfl
  · rfl

theorem feed_neutral : feed.Neutral :=
  neutral_of_read fun data cause h => by
    cases data <;> cases h <;> exact isOwn_refusal ..

theorem vault_neutral : vault.Neutral :=
  neutral_of_read fun data cause h => by
    cases data <;> cases h <;> exact isOwn_refusal ..

theorem position_neutral : position.Neutral :=
  neutral_of_read fun data cause h => by
    cases data <;> cases h <;> exact isOwn_refusal ..

theorem shareVault_neutral : shareVault.Neutral :=
  neutral_of_read fun data cause h => by
    cases data <;> cases h <;> exact isOwn_refusal ..

/-- Bytes that are no token account are refused by the token program. -/
theorem token_neutral : token.Neutral :=
  neutral_of_read fun data cause h => by
    cases data with
    | raw bytes =>
        obtain ⟨fault, -, rfl⟩ := mapError_eq_error_iff.1 h
        rfl
    | token _ | mint _ | feed _ _ | vault _ _ | position _ _ | shareVault _ _ => cases h <;> rfl

theorem mint_neutral : mint.Neutral :=
  neutral_of_read fun data cause h => by
    cases data with
    | raw bytes =>
        obtain ⟨fault, -, rfl⟩ := mapError_eq_error_iff.1 h
        rfl
    | token _ | mint _ | feed _ _ | vault _ _ | position _ _ | shareVault _ _ => cases h <;> rfl

end AccountKind

/-! ## Accounts of a call -/

namespace Call

open Tx (Fails)

variable {call : Call} {field : Field} {address expected : Address} {s : Session}
variable {cause : Cause} (hown : cause.isOwn = true)

include hown

/-- A refused account is no reason that a program of this library gives. -/
theorem account_ne_of_isOwn (error : AccountError) : (Cause.account error = cause) = False := by
  rw [eq_iff_iff, iff_false]
  rintro rfl
  cases hown

/-- Nor is a refused call. -/
theorem program_ne_of_isOwn (fault : ProgramError) : (Cause.program fault = cause) = False := by
  rw [eq_iff_iff, iff_false]
  rintro rfl
  cases hown

/-- An account that is missing is a failure of the chain. -/
theorem fails_required : Fails (call.required field) s cause ↔ False := by
  unfold Call.required
  cases call.address? field with
  | none => simp only [Tx.fails_fail, Failure.account, account_ne_of_isOwn hown]
  | some found => exact Tx.fails_pure

theorem fails_pending : Fails (call.pending field) s cause ↔ False := by
  unfold Call.pending
  cases call.address? field with
  | none => simp only [Tx.fails_fail, Failure.unblamed, account_ne_of_isOwn hown]
  | some found => exact Tx.fails_pure

/-- So is an account that did not sign. -/
theorem fails_signer : Fails (call.signer field) s cause ↔ False := by
  simp only [Call.signer, Tx.fails_bind, Tx.fails_check, Tx.fails_pure, fails_required hown,
    Failure.account, account_ne_of_isOwn hown, and_false, exists_false, or_false]

theorem fails_program : Fails (call.program field expected) s cause ↔ False := by
  simp only [Call.program, Tx.fails_bind, Tx.fails_check, Tx.fails_account, fails_required hown,
    Failure.account, account_ne_of_isOwn hown, and_false, exists_false, or_false]

theorem fails_systemAccount : Fails (call.systemAccount field) s cause ↔ False := by
  simp only [Call.systemAccount, Tx.fails_bind, Tx.fails_check, Tx.fails_account, Tx.fails_pure,
    fails_required hown, Failure.account, account_ne_of_isOwn hown, and_false, exists_false,
    or_false]

/-- An account of a neutral type is loaded, or refused for a reason of the chain. -/
theorem fails_load {kind : AccountKind α} (hkind : kind.Neutral) :
    Fails (call.load kind field) s cause ↔ False := by
  have hload : ∀ account, (kind.load account = .error cause) = False := by
    intro account
    rw [eq_iff_iff, iff_false]
    intro h
    rw [hkind account cause h] at hown
    cases hown
  simp only [Call.load, Tx.fails_bind, Tx.fails_liftCause, Tx.fails_account, Tx.fails_pure,
    fails_required hown, hload, and_false, exists_false, or_false]

theorem fails_mutable : Fails (call.mutable field address) s cause ↔ False := by
  simp only [Call.mutable, Tx.fails_bind, Tx.fails_check, Tx.fails_account, Failure.account,
    account_ne_of_isOwn hown, and_false, exists_false, or_false]

/-- An account at another address than the derived one is refused by the chain. -/
theorem fails_derived : Fails (Call.derived field address expected) s cause ↔ False := by
  simp only [Call.derived, Tx.fails_check, Failure.account, account_ne_of_isOwn hown, and_false]

theorem fails_derivedWith {bump : Bump} :
    Fails (Call.derivedWith field address expected bump) s cause ↔ False := by
  simp only [Call.derivedWith, Tx.fails_check, Failure.account, account_ne_of_isOwn hown, and_false]

theorem fails_hasOne {stored passed : Address} :
    Fails (Call.hasOne field stored passed) s cause ↔ False := by
  simp only [Call.hasOne, Tx.fails_check, Failure.account, account_ne_of_isOwn hown, and_false]

theorem fails_rent : Fails call.rent s cause ↔ False := by
  simp only [Call.rent, Tx.fails_bind, Tx.fails_check, Tx.fails_account, fails_required hown,
    Failure.account, account_ne_of_isOwn hown, and_false, exists_false, or_false]

/-- An account cannot be made when its payer or its address refuses, which no program of this
library decides. -/
theorem fails_create {payer target program : Address} {size : Nat} :
    Fails (call.create payer target size program) s cause ↔ False := by
  simp only [Call.create, Tx.fails_bind, Tx.fails_check, Tx.fails_account, Tx.fails_invoke,
    Failure.unblamed, account_ne_of_isOwn hown, program_ne_of_isOwn hown, and_false, exists_false,
    or_false]

theorem fails_created : Fails (call.created field address) s cause ↔ False := by
  simp only [Call.created, Tx.fails_bind, Tx.fails_check, Tx.fails_account, fails_mutable hown,
    Failure.account, account_ne_of_isOwn hown, and_false, exists_false, or_false]

/-- Making an account of a type of the calling program fails in its parts, for reasons of the
chain. -/
theorem fails_createRecord {kind : AccountKind α} {payer : Address} :
    Fails (call.createRecord kind field payer address expected) s cause ↔ False := by
  simp only [Call.createRecord, Tx.fails_bind, fails_derived hown, fails_create hown,
    fails_created hown, and_false, exists_false, or_false]

/-- Setting up a token account that was just made cannot fail, so making one fails as any account
does. -/
theorem fails_createToken {payer mint owner : Address} :
    Fails (call.createToken field payer address expected mint owner) s cause ↔ False := by
  simp only [Call.createToken, Tx.fails_bind, Tx.fails_invoke, fails_derived hown,
    fails_create hown, fails_created hown, program_ne_of_isOwn hown, and_false, exists_false,
    or_false]

end Call

/-! ## Transactions -/

/-- The transaction fails for this cause. -/
def Chain.Fails (chain : Chain) (instruction : Instruction) (passed : Passed) (cause : Cause) :
    Prop :=
  ∃ field?, (chain.execute instruction passed).2 = .error ⟨cause, field?⟩

/-- The transaction fails for a reason of the lending program. -/
abbrev Chain.Refuses (chain : Chain) (instruction : Instruction) (passed : Passed)
    (error : LendingError) : Prop :=
  chain.Fails instruction passed (.lending error)

/-- The cause for which the transaction fails, if it does. -/
def Chain.cause? (chain : Chain) (instruction : Instruction) (passed : Passed) : Option Cause :=
  match (chain.execute instruction passed).2 with
  | .error failure => some failure.cause
  | .ok _ => none

/-- The cause can be computed. -/
theorem fails_iff_cause? {chain : Chain} {instruction : Instruction} {passed : Passed}
    {cause : Cause} :
    chain.Fails instruction passed cause ↔ chain.cause? instruction passed = some cause := by
  unfold Chain.Fails Chain.cause?
  cases (chain.execute instruction passed).2 with
  | ok receipt => simp
  | error failure =>
      obtain ⟨found, field?⟩ := failure
      simp

/-- A transaction fails where its instruction does, and for the same cause. -/
theorem fails_of_chain {chain : Chain} {instruction : Instruction} {passed : Passed} {cause : Cause}
    (h : chain.Fails instruction passed cause) :
    Tx.Fails (instruction.run (chain.callOf instruction passed)) ⟨chain.bank, [], []⟩ cause := by
  obtain ⟨field?, h⟩ := h
  unfold Chain.execute at h
  refine ⟨field?, ?_⟩
  cases hrun : instruction.run (chain.callOf instruction passed) ⟨chain.bank, [], []⟩ with
  | error failure =>
      rw [show (instruction.run (chain.callOf instruction passed)).run ⟨chain.bank, [], []⟩ =
        .error failure from hrun] at h
      cases h
      rfl
  | ok yielded =>
      rw [show (instruction.run (chain.callOf instruction passed)).run ⟨chain.bank, [], []⟩ =
        .ok yielded from hrun] at h
      cases h

end CollateralLending
