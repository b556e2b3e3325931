/-
  CollateralLending.Proofs.Chain.Yields

  What a part of a transaction that went through did. `Yields part s a t` says
  that the part takes session `s` to session `t` and hands on `a`; there is one
  equivalence for each way a part is built, so that an instruction opens step
  by step without looking at the state monad.

  The checks on accounts change nothing: for them the equivalence lists what
  was found. The steps that change the bank name the call that changed it.
-/
import CollateralLending.Chain.Instruction

namespace CollateralLending

variable {α β : Type}

/-- The bank after a value was written over the data of an account. -/
def Bank.write (bank : Bank) (kind : AccountKind α) (address : Address) (value : α) : Bank :=
  bank.set address (kind.save (bank.get address) value)

namespace Tx

/-- The part takes session `s` to session `t` and hands on `a`. -/
def Yields (part : Tx α) (s : Session) (a : α) (t : Session) : Prop := part s = .ok (a, t)

variable {s t : Session}

/-! ## Parts of a transaction -/

/-- Two parts in a row went through when the second did after the first, on what the first handed
on. -/
theorem yields_bind {first : Tx α} {next : α → Tx β} {b : β} :
    Yields (first >>= next) s b t ↔ ∃ a u, Yields first s a u ∧ Yields (next a) u b t := by
  unfold Yields
  show (Except.bind (first s) fun p => next p.1 p.2) = _ ↔ _
  cases h : first s with
  | error e => simp [Except.bind]
  | ok p =>
      obtain ⟨a, u⟩ := p
      constructor
      · intro hnext
        exact ⟨a, u, rfl, hnext⟩
      · rintro ⟨a', u', he, hnext⟩
        cases he
        exact hnext

theorem yields_pure {a b : α} : Yields (pure a) s b t ↔ b = a ∧ t = s := by
  show (Except.ok (a, s) : Except Failure (α × Session)) = _ ↔ _
  simp [eq_comm]

theorem yields_fail {failure : Failure} {a : α} : ¬ Yields (Tx.fail failure) s a t := by
  simp [Yields, Tx.fail]

/-- A check that went through found its condition true and changed nothing. -/
theorem yields_check {p : Prop} [Decidable p] {failure : Failure} {u : Unit} :
    Yields (Tx.check p failure) s u t ↔ p ∧ t = s := by
  unfold Yields Tx.check
  by_cases h : p <;> simp [h, eq_comm]

/-- A result computed outside the session changes nothing. -/
theorem yields_liftCause {result : Except Cause α} {field? : Option Field} {a : α} :
    Yields (Tx.liftCause result field?) s a t ↔ result = .ok a ∧ t = s := by
  unfold Yields Tx.liftCause
  cases result <;> simp [eq_comm]

/-- Looking at an account hands on what is there. -/
theorem yields_account {address : Address} {account : Account} :
    Yields (Tx.account address) s account t ↔ account = s.bank.get address ∧ t = s := by
  simp [Yields, Tx.account, eq_comm]

/-- A call changes the accounts and nothing else of the session. -/
theorem yields_invoke {call : Bank → Except ProgramError Bank} {u : Unit} :
    Yields (Tx.invoke call) s u t ↔
      ∃ bank, call s.bank = .ok bank ∧ t = { s with bank := bank } := by
  unfold Yields Tx.invoke
  cases call s.bank <;> simp [eq_comm]

/-- The fallback of a call does not matter when the call goes through. -/
theorem yields_invokeOr {cause : Cause} {call : Bank → Except ProgramError Bank} {u : Unit} :
    Yields (Tx.invokeOr cause call) s u t ↔
      ∃ bank, call s.bank = .ok bank ∧ t = { s with bank := bank } := by
  unfold Yields Tx.invokeOr
  cases call s.bank <;> simp [eq_comm]

/-- Saving writes the value over the data of the account. -/
theorem yields_save {kind : AccountKind α} {address : Address} {value : α} {u : Unit} :
    Yields (Tx.save kind address value) s u t ↔
      t = { s with bank := s.bank.write kind address value } := by
  simp [Yields, Tx.save, Bank.write, eq_comm]

/-- An event comes behind those that were emitted before. -/
theorem yields_emit {event : Event Address} {u : Unit} :
    Yields (Tx.emit event) s u t ↔ t = { s with events := s.events ++ [event] } := by
  simp [Yields, Tx.emit, eq_comm]

theorem yields_log {line : LogLine Address} {u : Unit} :
    Yields (Tx.log line) s u t ↔ t = { s with log := s.log ++ [line] } := by
  simp [Yields, Tx.log, eq_comm]

end Tx

namespace Call

open Tx (Yields)

variable {call : Call} {field : Field} {address expected : Address} {s t : Session} {u : Unit}

/-! ## Taking the accounts -/

/-- The account in a role was given. -/
theorem yields_required :
    Yields (call.required field) s address t ↔ call.address? field = some address ∧ t = s := by
  unfold Call.required
  cases call.address? field with
  | none => simp [Tx.yields_fail]
  | some found => simp [Tx.yields_pure, eq_comm]

theorem yields_pending :
    Yields (call.pending field) s address t ↔ call.address? field = some address ∧ t = s := by
  unfold Call.pending
  cases call.address? field with
  | none => simp [Tx.yields_fail]
  | some found => simp [Tx.yields_pure, eq_comm]

/-- The account in a role was given and signed. -/
theorem yields_signer :
    Yields (call.signer field) s address t ↔
      (call.address? field = some address ∧ call.signs address = true) ∧ t = s := by
  simp only [Call.signer, Tx.yields_bind, Tx.yields_pure, Tx.yields_check, yields_required]
  constructor
  · rintro ⟨a, _, ⟨ha, rfl⟩, _, _, ⟨hs, rfl⟩, rfl, rfl⟩
    exact ⟨⟨ha, hs⟩, rfl⟩
  · rintro ⟨⟨ha, hs⟩, rfl⟩
    exact ⟨address, _, ⟨ha, rfl⟩, (), _, ⟨hs, rfl⟩, rfl, rfl⟩

/-- The account in a role is the expected program, and can be run. -/
theorem yields_program :
    Yields (call.program field expected) s u t ↔
      (call.address? field = some expected ∧ (s.bank.get expected).isExecutable = true) ∧
        t = s := by
  simp only [Call.program, Tx.yields_bind, Tx.yields_check, Tx.yields_account, yields_required]
  constructor
  · rintro ⟨a, _, ⟨ha, rfl⟩, _, _, ⟨rfl, rfl⟩, _, _, ⟨rfl, rfl⟩, hx, rfl⟩
    exact ⟨⟨ha, hx⟩, rfl⟩
  · rintro ⟨⟨ha, hx⟩, rfl⟩
    exact ⟨expected, _, ⟨ha, rfl⟩, (), _, ⟨rfl, rfl⟩, _, _, ⟨rfl, rfl⟩, hx, rfl⟩

/-- The account in the role of the rent variable is that variable, and holds the rates. -/
theorem yields_rent :
    Yields call.rent s u t ↔
      (call.address? .rent = some .rentSysvar ∧
        Rent.rates.length ≤ (s.bank.get .rentSysvar).data.size) ∧ t = s := by
  simp only [Call.rent, Tx.yields_bind, Tx.yields_check, Tx.yields_account, yields_required]
  constructor
  · rintro ⟨a, _, ⟨ha, rfl⟩, _, _, ⟨rfl, rfl⟩, ⟨rfl, hx⟩, rfl⟩
    exact ⟨⟨ha, hx⟩, rfl⟩
  · rintro ⟨⟨ha, hx⟩, rfl⟩
    exact ⟨_, _, ⟨ha, rfl⟩, _, _, ⟨rfl, rfl⟩, ⟨rfl, hx⟩, rfl⟩

/-- The account in a role belongs to the system program. -/
theorem yields_systemAccount :
    Yields (call.systemAccount field) s address t ↔
      (call.address? field = some address ∧ (s.bank.get address).owner = .systemProgram) ∧
        t = s := by
  simp only [Call.systemAccount, Tx.yields_bind, Tx.yields_pure, Tx.yields_check,
    Tx.yields_account, yields_required]
  constructor
  · rintro ⟨a, _, ⟨ha, rfl⟩, _, _, ⟨rfl, rfl⟩, _, _, ⟨ho, rfl⟩, rfl, rfl⟩
    exact ⟨⟨ha, ho⟩, rfl⟩
  · rintro ⟨⟨ha, ho⟩, rfl⟩
    exact ⟨address, _, ⟨ha, rfl⟩, _, _, ⟨rfl, rfl⟩, (), _, ⟨ho, rfl⟩, rfl, rfl⟩

/-- The account in a role loads as a value of its type. -/
theorem yields_load {kind : AccountKind α} {loaded : Loaded α} :
    Yields (call.load kind field) s loaded t ↔
      (call.address? field = some loaded.address ∧
        kind.load (s.bank.get loaded.address) = .ok loaded.value) ∧ t = s := by
  simp only [Call.load, Tx.yields_bind, Tx.yields_pure, Tx.yields_account, Tx.yields_liftCause,
    yields_required]
  constructor
  · rintro ⟨a, _, ⟨ha, rfl⟩, _, _, ⟨rfl, rfl⟩, value, _, ⟨hv, rfl⟩, rfl, rfl⟩
    exact ⟨⟨ha, hv⟩, rfl⟩
  · rintro ⟨⟨ha, hv⟩, rfl⟩
    exact ⟨_, _, ⟨ha, rfl⟩, _, _, ⟨rfl, rfl⟩, _, _, ⟨hv, rfl⟩, rfl, rfl⟩

/-! ## Constraints -/

/-- The account may be written to, and is no program. -/
theorem yields_mutable :
    Yields (call.mutable field address) s u t ↔
      ((s.bank.get address).isExecutable = false ∧ call.writable address = true) ∧ t = s := by
  simp only [Call.mutable, Tx.yields_bind, Tx.yields_check, Tx.yields_account]
  constructor
  · rintro ⟨_, _, ⟨rfl, rfl⟩, h, rfl⟩
    exact ⟨h, rfl⟩
  · rintro ⟨h, rfl⟩
    exact ⟨_, _, ⟨rfl, rfl⟩, h, rfl⟩

theorem yields_derived :
    Yields (Call.derived field address expected) s u t ↔ address = expected ∧ t = s :=
  Tx.yields_check

/-- The address is the derived one, and the bump seed that was stored belongs to it. -/
theorem yields_derivedWith {bump : Bump} :
    Yields (Call.derivedWith field address expected bump) s u t ↔
      (address = expected ∧ bump = .canonical) ∧ t = s :=
  Tx.yields_check

theorem yields_hasOne {stored passed : Address} :
    Yields (Call.hasOne field stored passed) s u t ↔ stored = passed ∧ t = s :=
  Tx.yields_check

/-! ## Creating accounts -/

variable {payer target program mint owner : Address} {size : Nat}

/-- Who signs for an account that is made at `target`. -/
def signsMaking (call : Call) (target address : Address) : Bool :=
  call.signs address || address = target

/-- The bank is `made` after the account at `target` was made. -/
def Makes (call : Call) (payer target : Address) (size : Nat) (program : Address)
    (bank made : Bank) : Prop :=
  System.establish (call.signsMaking target) payer target size program bank = .ok made

/-- An account was made by a payer that is not the account itself, unless no payment was due. -/
theorem yields_create :
    Yields (call.create payer target size program) s u t ↔
      ((s.bank.get target).lamports.toNat = 0 ∨ payer ≠ target) ∧
        ∃ made, call.Makes payer target size program s.bank made ∧ t = { s with bank := made } := by
  simp only [Call.create, Tx.yields_bind, Tx.yields_check, Tx.yields_account, Tx.yields_invoke]
  constructor
  · rintro ⟨_, _, ⟨rfl, rfl⟩, _, _, ⟨hp, rfl⟩, made, hmade, rfl⟩
    exact ⟨hp, made, hmade, rfl⟩
  · rintro ⟨hp, made, hmade, rfl⟩
    exact ⟨_, _, ⟨rfl, rfl⟩, (), _, ⟨hp, rfl⟩, made, hmade, rfl⟩

/-- The account can be written to, is no program and holds enough for its rent. -/
theorem yields_created :
    Yields (call.created field address) s u t ↔
      ((s.bank.get address).isExecutable = false ∧ call.writable address = true ∧
        (s.bank.get address).isRentExempt = true) ∧ t = s := by
  simp only [Call.created, Tx.yields_bind, Tx.yields_check, Tx.yields_account, yields_mutable]
  constructor
  · rintro ⟨_, _, ⟨⟨hx, hw⟩, rfl⟩, _, _, ⟨rfl, rfl⟩, hr, rfl⟩
    exact ⟨⟨hx, hw, hr⟩, rfl⟩
  · rintro ⟨⟨hx, hw, hr⟩, rfl⟩
    exact ⟨(), _, ⟨⟨hx, hw⟩, rfl⟩, _, _, ⟨rfl, rfl⟩, hr, rfl⟩

/-- A derived account of a type of the calling program was made. -/
theorem makes_of_createRecord {kind : AccountKind α}
    (h : Yields (call.createRecord kind field payer address expected) s u t) :
    address = expected ∧ ∃ made, call.Makes payer address kind.size kind.program s.bank made ∧
      t = { s with bank := made } := by
  simp only [Call.createRecord, Tx.yields_bind, yields_derived, yields_create, yields_created] at h
  obtain ⟨_, _, ⟨rfl, rfl⟩, _, _, ⟨-, made, hmade, rfl⟩, -, rfl⟩ := h
  exact ⟨rfl, made, hmade, rfl⟩

/-- A derived token account was made and set up for its owner. -/
theorem makes_of_createToken
    (h : Yields (call.createToken field payer address expected mint owner) s u t) :
    address = expected ∧
      ∃ made, call.Makes payer address TokenAccount.size .tokenProgram s.bank made ∧
        t = { s with bank := Tokens.openAccount address mint owner made } := by
  simp only [Call.createToken, Tx.yields_bind, Tx.yields_invoke, yields_derived, yields_create,
    yields_created] at h
  obtain ⟨_, _, ⟨rfl, rfl⟩, _, _, ⟨-, made, hmade, rfl⟩, _, _, ⟨_, hopen, rfl⟩, -, rfl⟩ := h
  -- Setting up an account that was just made cannot fail.
  cases hopen
  exact ⟨rfl, made, hmade, rfl⟩

/-- A derived mint was made and set up for its authority. -/
theorem makes_of_createMint {authority : Address} {decimals : UInt8}
    (h : Yields (call.createMint field payer address expected authority decimals) s u t) :
    address = expected ∧
      ∃ made, call.Makes payer address Mint.size .tokenProgram s.bank made ∧
        t = { s with bank := Tokens.openMint address authority decimals made } := by
  simp only [Call.createMint, Tx.yields_bind, Tx.yields_invoke, yields_derived, yields_create,
    yields_created] at h
  obtain ⟨_, _, ⟨rfl, rfl⟩, _, _, ⟨-, made, hmade, rfl⟩, _, _, ⟨_, hopen, rfl⟩, -, rfl⟩ := h
  cases hopen
  exact ⟨rfl, made, hmade, rfl⟩

/-! What was made is no program. -/

/-- An account of a type of the calling program is no program once it was made. -/
theorem plain_of_createRecord {kind : AccountKind α}
    (h : Yields (call.createRecord kind field payer address expected) s u t) :
    (t.bank.get address).isExecutable = false := by
  simp only [Call.createRecord, Tx.yields_bind, yields_created] at h
  obtain ⟨_, _, -, _, _, -, ⟨hplain, -⟩, rfl⟩ := h
  exact hplain

theorem plain_of_createToken
    (h : Yields (call.createToken field payer address expected mint owner) s u t) :
    (t.bank.get address).isExecutable = false := by
  simp only [Call.createToken, Tx.yields_bind, yields_created] at h
  obtain ⟨_, _, -, _, _, -, _, _, -, ⟨hplain, -⟩, rfl⟩ := h
  exact hplain

theorem plain_of_createMint {authority : Address} {decimals : UInt8}
    (h : Yields (call.createMint field payer address expected authority decimals) s u t) :
    (t.bank.get address).isExecutable = false := by
  simp only [Call.createMint, Tx.yields_bind, yields_created] at h
  obtain ⟨_, _, -, _, _, -, _, _, -, ⟨hplain, -⟩, rfl⟩ := h
  exact hplain

end Call

end CollateralLending
