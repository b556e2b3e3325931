/-
  CollateralLending.Proofs.Lending.Isolation

  Accounts of a lending vault over a ledger do not interfere. An operation on
  one account leaves alone all that an operation on another one looks at,
  except what the pool of debt tokens holds; so a borrowing may fail for its
  transfer after another one, and every other outcome is the same in either
  order. Two operations that both succeed in either order lead to the same
  records and the same tokens.

  An operation that succeeds changes both tokens by flows that do not depend on
  the state it starts from (`TokenLedger.Flows`), and flows add up in any order.
-/
import CollateralLending.Proofs.Lending.Transfers
import CollateralLending.Proofs.Token.Flows

namespace CollateralLending

variable {K : Type}

/-! ## Operations on an account -/

namespace Operation

/-- How the operation settles on a record. -/
def settle [DecidableEq K] (record : Record) (admin : K) (oracle : Oracle) :
    Operation K → Except LendingError Record
  | deposit amount => (record.deposit amount).map (·.next)
  | borrow amount => (record.borrow oracle amount).result.map (·.next)
  | payback amount => (record.payBack oracle amount).result.map (·.next)
  | withdraw amount => (record.withdraw oracle amount).result.map (·.next)
  | liquidate caller => (record.liquidate caller admin oracle).result.map fun _ => .zero

/-- The collateral that flows when the operation succeeds. -/
def collateralFlow [DecidableEq K] (address account : K) : Operation K → K → Int
  | deposit amount => (inflow · account address amount)
  | withdraw amount => (inflow · address account amount)
  | borrow _ | payback _ | liquidate _ => TokenLedger.noFlow

/-- The debt tokens that flow when the operation succeeds. -/
def debtFlow [DecidableEq K] (address account : K) : Operation K → K → Int
  | borrow amount => (inflow · address account amount)
  | payback amount => (inflow · account address amount)
  | deposit _ | withdraw _ | liquidate _ => TokenLedger.noFlow

/-- The allowance for debt tokens that is used up when the operation succeeds. -/
def debtSpent [DecidableEq K] (address account : K) : Operation K → K → K → Nat
  | payback amount => fun owner spender =>
    if owner = account ∧ spender = address then amount.toNat else 0
  | deposit _ | borrow _ | withdraw _ | liquidate _ => TokenLedger.nothingSpent

theorem collateralFlow_elsewhere [DecidableEq K] {address account other : K}
    (haddress : account ≠ address) (hne : account ≠ other) (operation : Operation K) :
    operation.collateralFlow address other account = 0 := by
  cases operation with
  | deposit amount => exact inflow_of_ne hne haddress amount
  | withdraw amount => exact inflow_of_ne haddress hne amount
  | borrow _ | payback _ | liquidate _ => rfl

theorem debtFlow_elsewhere [DecidableEq K] {address account other : K}
    (haddress : account ≠ address) (hne : account ≠ other) (operation : Operation K) :
    operation.debtFlow address other account = 0 := by
  cases operation with
  | borrow amount => exact inflow_of_ne haddress hne amount
  | payback amount => exact inflow_of_ne hne haddress amount
  | deposit _ | withdraw _ | liquidate _ => rfl

theorem debtSpent_elsewhere [DecidableEq K] {address account other spender : K}
    (hne : account ≠ other) (operation : Operation K) :
    operation.debtSpent address other account spender = 0 := by
  cases operation with
  | payback amount => exact if_neg fun h => hne h.1
  | deposit _ | borrow _ | withdraw _ | liquidate _ => rfl

variable [Ord K]

/-- Whoever has to pay for the operation cannot. -/
def Short (vault : LedgerVault K) (account : K) : Operation K → Prop
  | deposit amount => (vault.collateral.balanceOf account).toNat < amount.toNat
  | borrow amount => (vault.debt.balanceOf vault.address).toNat < amount.toNat
  | payback amount => (vault.debt.allowance account vault.address).toNat < amount.toNat ∨
      (vault.debt.balanceOf account).toNat < amount.toNat
  | withdraw _ | liquidate _ => False

instance (vault : LedgerVault K) (account : K) :
    (operation : Operation K) → Decidable (operation.Short vault account)
  | deposit _ => inferInstanceAs (Decidable (_ < _))
  | borrow _ => inferInstanceAs (Decidable (_ < _))
  | payback _ => inferInstanceAs (Decidable (_ ∨ _))
  | withdraw _ => inferInstanceAs (Decidable False)
  | liquidate _ => inferInstanceAs (Decidable False)

/-- What the operation comes to in a solvent vault. -/
def outcome [DecidableEq K] (vault : LedgerVault K) (account : K) (operation : Operation K) :
    Except LendingError Unit :=
  match operation.settle (vault.record account) vault.admin vault.oracle with
  | .error error => .error error
  | .ok _ => if operation.Short vault account then .error .transferFailed else .ok ()

end Operation

namespace LedgerVault

variable [Ord K] [Std.TransOrd K] [Std.LawfulEqOrd K] [DecidableEq K]
variable {vault after : LedgerVault K} {account other : K} {next : Record}
variable {operation : Operation K} {result : Except LendingError Unit}

/-- The operation succeeded on this account, which has this record now. -/
structure Carries (vault : LedgerVault K) (operation : Operation K) (account : K) (next : Record)
    (after : LedgerVault K) : Prop where
  address : after.address = vault.address
  admin : after.admin = vault.admin
  oracle : after.oracle = vault.oracle
  ledger : after.ledger = vault.ledger.set account next
  collateral : vault.collateral.Flows after.collateral
    (operation.collateralFlow vault.address account) TokenLedger.nothingSpent
  debt : vault.debt.Flows after.debt (operation.debtFlow vault.address account)
    (operation.debtSpent vault.address account)

/-- How an operation on an account ends: refused, short, or carried out. -/
inductive Ends (vault : LedgerVault K) (operation : Operation K) (account : K) :
    Except LendingError Unit → LedgerVault K → Prop where
  | refused {error : LendingError}
      (settles : operation.settle (vault.record account) vault.admin vault.oracle = .error error) :
      Ends vault operation account (.error error) vault
  | short {next : Record}
      (settles : operation.settle (vault.record account) vault.admin vault.oracle = .ok next)
      (short : operation.Short vault account) :
      Ends vault operation account (.error .transferFailed) vault
  | carried {next : Record} {after : LedgerVault K}
      (settles : operation.settle (vault.record account) vault.admin vault.oracle = .ok next)
      (enough : ¬ operation.Short vault account)
      (carries : vault.Carries operation account next after) :
      Ends vault operation account (.ok ()) after

/-- An operation that moves an asset ends by its settlement and by its move. -/
theorem ends_of_perform {settlement : Consultation Settlement}
    {move : LedgerVault K × Except LendingError Unit} {event : Settlement → LendingEvent K}
    (hsettle : operation.settle (vault.record account) vault.admin vault.oracle =
      settlement.result.map (·.next))
    (hshort : ∀ settled, settlement.result = .ok settled →
      move.2 = if operation.Short vault account then .error .transferFailed else .ok ())
    (hfail : ∀ error, move.2 = .error error → move.1 = vault)
    (hcarries : ∀ settled, move.2 = .ok () → vault.Carries operation account settled.next
      (move.1.conclude account settled.next (event settled))) :
    vault.Ends operation account (vault.perform account settlement move event).result
      (vault.perform account settlement move event).vault := by
  have hsettles : ∀ settled, settlement.result = .ok settled →
      operation.settle (vault.record account) vault.admin vault.oracle = .ok settled.next := by
    intro settled hresult
    rw [hsettle, hresult]
    rfl
  rcases perform_cases vault account settlement move event with
    ⟨error, hresult, heq⟩ | ⟨settled, hresult, ⟨error, hmove, heq⟩ | ⟨hmove, heq⟩⟩
  · -- The settlement is refused.
    rw [heq]
    refine .refused ?_
    rw [hsettle, hresult]
    rfl
  · have hcase := hshort settled hresult
    rw [hmove] at hcase
    -- It settles, but the asset does not move: somebody is short.
    have hunpaid : operation.Short vault account := by
      by_contra henough
      rw [if_neg henough] at hcase
      cases hcase
    rw [heq, hfail error hmove]
    exact .short (hsettles settled hresult) hunpaid
  · have hcase := hshort settled hresult
    rw [hmove] at hcase
    -- It settles and the asset moves: nobody was short.
    have henough : ¬ operation.Short vault account := by
      intro hunpaid
      rw [if_pos hunpaid] at hcase
      cases hcase
    rw [heq]
    exact .carried (hsettles settled hresult) henough (hcarries settled hmove)

/-- In a solvent vault an operation on anyone else ends in one of the three ways. -/
theorem Solvent.ends (h : vault.Solvent) (haccount : account ≠ vault.address)
    (operation : Operation K) :
    vault.Ends operation account (vault.step (operation.on account)).result
      (vault.step (operation.on account)).vault := by
  cases operation with
  | deposit amount =>
      refine ends_of_perform rfl
        (fun _ _ => h.collateral.transfer_result account vault.address amount)
        (withCollateral_of_error fun _ => TokenLedger.transfer_of_error) ?_
      intro settled hmove
      exact ⟨rfl, rfl, rfl, rfl, TokenLedger.flows_of_transfer hmove, vault.debt.flows_refl⟩
  | borrow amount =>
      refine ends_of_perform rfl (fun _ _ => h.debt.transfer_result vault.address account amount)
        (withDebt_of_error fun _ => TokenLedger.transfer_of_error) ?_
      intro settled hmove
      exact ⟨rfl, rfl, rfl, rfl, vault.collateral.flows_refl, TokenLedger.flows_of_transfer hmove⟩
  | payback amount =>
      refine ends_of_perform rfl
        (fun _ _ => h.debt.transferFrom_result (Ne.symm haccount) vault.address amount)
        (withDebt_of_error fun _ => TokenLedger.transferFrom_of_error) ?_
      intro settled hmove
      exact ⟨rfl, rfl, rfl, rfl, vault.collateral.flows_refl,
        TokenLedger.flows_of_transferFrom (Ne.symm haccount) hmove⟩
  | withdraw amount =>
      refine ends_of_perform rfl ?_ (withCollateral_of_error fun _ => TokenLedger.transfer_of_error)
        ?_
      · -- The pool holds the deposit that the amount is taken from.
        intro settled hsettled
        obtain ⟨-, -, hdeposited, -⟩ := Record.withdraw_eq_ok_iff.1 hsettled
        have hdeposit := h.deposited_le haccount
        have hmove := h.collateral.transfer_result vault.address account amount
        rw [if_neg (by omega)] at hmove
        exact hmove
      · intro settled hmove
        exact ⟨rfl, rfl, rfl, rfl, TokenLedger.flows_of_transfer hmove, vault.debt.flows_refl⟩
  | liquidate caller =>
      -- A liquidation moves no asset, so it is refused or carried out.
      show vault.Ends _ account (vault.liquidate caller account).result
        (vault.liquidate caller account).vault
      unfold liquidate
      simp only
      cases hresult : ((vault.record account).liquidate caller vault.admin vault.oracle).result with
      | error error =>
          refine .refused ?_
          rw [Operation.settle, hresult]
          rfl
      | ok settled =>
          have hsettled : (Operation.liquidate caller).settle (vault.record account) vault.admin
              vault.oracle = .ok .zero := by
            rw [Operation.settle, hresult]
            rfl
          exact .carried hsettled not_false
            ⟨rfl, rfl, rfl, rfl, vault.collateral.flows_refl, vault.debt.flows_refl⟩

/-- An operation on an account uses no token directly. -/
theorem collateralIn_on (vault : LedgerVault K) (operation : Operation K) (account : K) :
    vault.collateralIn (operation.on account) = 0 := by
  cases operation <;> rfl

theorem Solvent.on (h : vault.Solvent) (operation : Operation K) (account : K) :
    (vault.step (operation.on account)).vault.Solvent :=
  h.step (Int.le_of_eq (vault.collateralIn_on operation account).symm)

/-! ## What an operation on another account leaves alone -/

/-- All that operations on an account look at is as before, the debt tokens in the pool apart. -/
structure Spares (vault : LedgerVault K) (account : K) (after : LedgerVault K) : Prop where
  address : after.address = vault.address
  admin : after.admin = vault.admin
  oracle : after.oracle = vault.oracle
  record : after.record account = vault.record account
  collateral : (after.collateral.balanceOf account).toNat =
    (vault.collateral.balanceOf account).toNat
  debt : (after.debt.balanceOf account).toNat = (vault.debt.balanceOf account).toNat
  allowance : (after.debt.allowance account vault.address).toNat =
    (vault.debt.allowance account vault.address).toNat

omit [Std.TransOrd K] [Std.LawfulEqOrd K] [DecidableEq K] in
theorem spares_refl (vault : LedgerVault K) (account : K) : vault.Spares account vault :=
  ⟨rfl, rfl, rfl, rfl, rfl, rfl, rfl⟩

/-- What one account does spares every other account but the vault's own. -/
theorem Carries.spares (h : vault.Carries operation other next after)
    (haccount : account ≠ vault.address) (hne : account ≠ other) :
    vault.Spares account after where
  address := h.address
  admin := h.admin
  oracle := h.oracle
  record := by
    unfold record
    rw [h.ledger, Table.get_set_of_ne hne]
  collateral := by
    have hbalance := h.collateral.balance account
    rw [operation.collateralFlow_elsewhere haccount hne] at hbalance
    omega
  debt := by
    have hbalance := h.debt.balance account
    rw [operation.debtFlow_elsewhere haccount hne] at hbalance
    omega
  allowance := by
    have hallowance := h.debt.allowance account vault.address
    rw [operation.debtSpent_elsewhere hne] at hallowance
    exact hallowance.symm

theorem Ends.spares (h : vault.Ends operation other result after)
    (haccount : account ≠ vault.address) (hne : account ≠ other) : vault.Spares account after := by
  cases h with
  | refused _ => exact vault.spares_refl account
  | short _ _ => exact vault.spares_refl account
  | carried _ _ carries => exact carries.spares haccount hne

/-! ## Outcomes -/

/-- How an operation ends is told by its own record, its own balances and what the vault has. -/
theorem Ends.result_eq (h : vault.Ends operation account result after) :
    result = operation.outcome vault account := by
  unfold Operation.outcome
  cases h with
  | refused settles => rw [settles]
  | short settles short => rw [settles, if_pos short]
  | carried settles enough _ => rw [settles, if_neg enough]

omit [Std.TransOrd K] [Std.LawfulEqOrd K] in
/-- Unless it is the pool that pays, an operation on the account has the outcome that it had. -/
theorem Spares.outcome_eq (h : vault.Spares account after)
    (hborrow : ∀ amount, operation ≠ .borrow amount) :
    operation.outcome after account = operation.outcome vault account := by
  have hshort : operation.Short after account ↔ operation.Short vault account := by
    cases operation with
    | deposit amount =>
        unfold Operation.Short
        rw [h.collateral]
    | borrow amount => exact absurd rfl (hborrow amount)
    | payback amount =>
        unfold Operation.Short
        rw [h.address, h.allowance, h.debt]
    | withdraw amount => exact Iff.rfl
    | liquidate caller => exact Iff.rfl
  unfold Operation.outcome
  simp only [h.record, h.admin, h.oracle, hshort]

/-- Both outcomes are the same, or one is a success and the other one a failed transfer. -/
def SameUpToTransfer (early late : Except LendingError Unit) : Prop :=
  late = early ∨ early = .ok () ∧ late = .error .transferFailed ∨
    early = .error .transferFailed ∧ late = .ok ()

omit [Std.TransOrd K] [Std.LawfulEqOrd K] in
/-- An operation on the account settles as before, whoever has to pay. -/
theorem Spares.outcome_upToTransfer (h : vault.Spares account after) (operation : Operation K) :
    SameUpToTransfer (operation.outcome vault account) (operation.outcome after account) := by
  unfold SameUpToTransfer Operation.outcome
  rw [h.record, h.admin, h.oracle]
  cases operation.settle (vault.record account) vault.admin vault.oracle with
  | error error => exact .inl rfl
  | ok next =>
      simp only
      by_cases hbefore : operation.Short vault account
      · by_cases hafter : operation.Short after account
        · exact .inl (by rw [if_pos hbefore, if_pos hafter])
        · exact .inr (.inr ⟨if_pos hbefore, if_neg hafter⟩)
      · by_cases hafter : operation.Short after account
        · exact .inr (.inl ⟨if_neg hbefore, if_pos hafter⟩)
        · exact .inl (by rw [if_neg hbefore, if_neg hafter])

/-! ## Two operations in either order -/

variable {first second left right : LedgerVault K} {early late : Operation K}
variable {firstNext otherNext : Record}

theorem Ends.carried_of_ok (h : vault.Ends operation account (.ok ()) after) :
    ∃ next, operation.settle (vault.record account) vault.admin vault.oracle = .ok next ∧
      vault.Carries operation account next after := by
  cases h with
  | carried settles _ carries => exact ⟨_, settles, carries⟩

/-- What both vaults agree on in the end. -/
structure Agrees (left right : LedgerVault K) : Prop where
  ledger : left.ledger = right.ledger
  collateral : left.collateral = right.collateral
  debt : left.debt = right.debt

/-- Operations on two accounts that succeed in either order lead to the same place. -/
theorem Carries.agrees (hne : account ≠ other)
    (hfirst : vault.Carries early account firstNext first)
    (hleft : first.Carries late other otherNext left)
    (hsecond : vault.Carries late other otherNext second)
    (hright : second.Carries early account firstNext right) : left.Agrees right where
  ledger := by
    rw [hleft.ledger, hfirst.ledger, hright.ledger, hsecond.ledger, Table.set_comm hne]
  -- The later flow is that from the start as well: neither operation moves the vault.
  collateral := by
    have h₂ := hleft.collateral
    have h₄ := hright.collateral
    rw [hfirst.address] at h₂
    rw [hsecond.address] at h₄
    exact hfirst.collateral.comm h₂ hsecond.collateral h₄
  debt := by
    have h₂ := hleft.debt
    have h₄ := hright.debt
    rw [hfirst.address] at h₂
    rw [hsecond.address] at h₄
    exact hfirst.debt.comm h₂ hsecond.debt h₄

/-- Two accounts do not interfere. An operation on one has the outcome that it has after an
operation on the other; a borrowing has it but for the transfer. When both succeed in either order,
the order does not matter. -/
structure DoNotInterfere (vault : LedgerVault K) (a b : K) (onA onB : Operation K) : Prop where
  outcome : (∀ amount, onA ≠ .borrow amount) →
    ((vault.step (onB.on b)).vault.step (onA.on a)).result = (vault.step (onA.on a)).result
  borrow : ∀ amount, onA = .borrow amount →
    SameUpToTransfer (vault.step (onA.on a)).result
      ((vault.step (onB.on b)).vault.step (onA.on a)).result
  order : (vault.step (onA.on a)).result = .ok () →
    ((vault.step (onA.on a)).vault.step (onB.on b)).result = .ok () →
    (vault.step (onB.on b)).result = .ok () →
    ((vault.step (onB.on b)).vault.step (onA.on a)).result = .ok () →
      Agrees ((vault.step (onA.on a)).vault.step (onB.on b)).vault
        ((vault.step (onB.on b)).vault.step (onA.on a)).vault

theorem Solvent.doNotInterfere (h : vault.Solvent) {a b : K} (ha : a ≠ vault.address)
    (hb : b ≠ vault.address) (hne : a ≠ b) (onA onB : Operation K) :
    vault.DoNotInterfere a b onA onB := by
  have hendsA := h.ends ha onA
  have hendsB := h.ends hb onB
  have hsparesA := hendsB.spares ha hne
  have hsparesB := hendsA.spares hb (Ne.symm hne)
  have hlateA := (h.on onB b).ends (by rw [hsparesA.address]; exact ha) onA
  have hlateB := (h.on onA a).ends (by rw [hsparesB.address]; exact hb) onB
  refine ⟨?_, ?_, ?_⟩
  · intro hborrow
    rw [hlateA.result_eq, hendsA.result_eq]
    exact hsparesA.outcome_eq hborrow
  · intro _ _
    rw [hlateA.result_eq, hendsA.result_eq]
    exact hsparesA.outcome_upToTransfer onA
  · intro hokA hokAB hokB hokBA
    rw [hokA] at hendsA
    rw [hokB] at hendsB
    rw [hokAB] at hlateB
    rw [hokBA] at hlateA
    obtain ⟨nextA, hsettleA, hcarriesA⟩ := hendsA.carried_of_ok
    obtain ⟨nextB, hsettleB, hcarriesB⟩ := hendsB.carried_of_ok
    obtain ⟨lateA, hsettleLateA, hcarriesLateA⟩ := hlateA.carried_of_ok
    obtain ⟨lateB, hsettleLateB, hcarriesLateB⟩ := hlateB.carried_of_ok
    -- Each operation settles on the same record, whichever of the two comes first.
    rw [hsparesA.record, hsparesA.admin, hsparesA.oracle, hsettleA] at hsettleLateA
    rw [hsparesB.record, hsparesB.admin, hsparesB.oracle, hsettleB] at hsettleLateB
    cases hsettleLateA
    cases hsettleLateB
    exact hcarriesA.agrees hne hcarriesLateB hcarriesB hcarriesLateA

/-- Take any run of a vault that starts out without positions over two tokens that nobody holds, in
which no direct use of the collateral token takes it out of the vault. In the end no two accounts
interfere, the vault's own account apart. -/
theorem accounts_do_not_interfere (address admin : K) (oracle : Oracle) (steps : List (VaultStep K))
    (hdrawn : (new address admin .empty .empty oracle).NeverDrawn steps) {a b : K}
    (ha : a ≠ address) (hb : b ≠ address) (hne : a ≠ b) (onA onB : Operation K) :
    ((new address admin .empty .empty oracle).after steps).DoNotInterfere a b onA onB := by
  have hsolvent := (solvent_new address admin oracle).after hdrawn
  have haddress : ((new address admin .empty .empty oracle).after steps).address = address :=
    ((new address admin .empty .empty oracle).accounts_after steps).1
  rw [← haddress] at ha hb
  exact hsolvent.doNotInterfere ha hb hne onA onB

/-! ### A pool for one -/

/-- Accounts 2 and 3 have enough on deposit to borrow 80 units each, but the pool has only 100. -/
def scarceRun : List (VaultStep Nat) :=
  [.collateral (.mint 2 (.units 500)), .collateral (.mint 3 (.units 500)),
    .debt (.mint 0 (.units 100)), .deposit 2 (.units 500), .deposit 3 (.units 500)]

/-- Whoever borrows second is turned away, but a withdrawal is paid in either order, and comes to
the same. -/
theorem scarce_pool_orders :
    (new 0 1 .empty .empty doubled).NeverDrawn scarceRun ∧
      SameUpToTransfer
        (((new 0 1 .empty .empty doubled).after scarceRun).borrow 2 (.units 80)).result
        ((((new 0 1 .empty .empty doubled).after scarceRun).borrow 3 (.units 80)).vault.borrow 2
          (.units 80)).result ∧
      ((((new 0 1 .empty .empty doubled).after scarceRun).borrow 3 (.units 80)).vault.withdraw 2
        (.units 200)).result = .ok () ∧
      Agrees
        ((((new 0 1 .empty .empty doubled).after scarceRun).withdraw 2 (.units 200)).vault.borrow 3
          (.units 80)).vault
        ((((new 0 1 .empty .empty doubled).after scarceRun).borrow 3 (.units 80)).vault.withdraw 2
          (.units 200)).vault := by
  have hdrawn : (new 0 1 .empty .empty doubled).NeverDrawn scarceRun := by decide +kernel
  have hborrows := accounts_do_not_interfere 0 1 doubled scarceRun hdrawn (a := 2) (b := 3)
    (by decide) (by decide) (by decide) (.borrow (.units 80)) (.borrow (.units 80))
  have hmixed := accounts_do_not_interfere 0 1 doubled scarceRun hdrawn (a := 2) (b := 3)
    (by decide) (by decide) (by decide) (.withdraw (.units 200)) (.borrow (.units 80))
  have hpaid : (((new 0 1 .empty .empty doubled).after scarceRun).withdraw 2
      (.units 200)).result = .ok () := by decide +kernel
  have hlate := hmixed.outcome (by
    intro _ h
    cases h)
  refine ⟨hdrawn, hborrows.borrow _ rfl, hlate.trans hpaid, ?_⟩
  exact hmixed.order hpaid (by decide +kernel) (by decide +kernel) (hlate.trans hpaid)

end LedgerVault

end CollateralLending
