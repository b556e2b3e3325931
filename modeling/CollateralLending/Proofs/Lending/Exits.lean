/-
  CollateralLending.Proofs.Lending.Exits

  Bookkeeping never stands between users and their assets. In a reached state
  every record is counted in the totals of its vault, and the pool holds all
  that the vault counts (`Bank.Accountable`). So wherever an instruction stops,
  it is not because totals could not be moved or a deposit not be paid out.

  Main statement: `bookkeeping_never_blocks`.
-/
import CollateralLending.Proofs.Lending.Backing
import CollateralLending.Proofs.Lending.Stops
import CollateralLending.Proofs.Lending.Totals

namespace CollateralLending

open Bank

/-! ## What bookkeeping relies on -/

namespace Bank

/-- All lamports there are. -/
def lamports (bank : Bank) : Nat := bank.sum fun _ account => account.lamports.toNat

/-- Every record is counted in the totals of its vault, and the pool holds what the vault counts. -/
structure Accountable (bank : Bank) : Prop where
  orderly : bank.Orderly
  idle : bank.IdlePools
  deposited : ∀ home vault, bank.find? .vault home = some vault → ∀ owner,
    (bank.record home owner).deposited.toNat ≤ vault.totals.deposited.toNat
  borrowed : ∀ home vault, bank.find? .vault home = some vault → ∀ owner,
    (bank.record home owner).debt.toNat ≤ vault.totals.borrowed.toNat
  pooled : ∀ home vault, bank.find? .vault home = some vault →
    vault.totals.deposited.toNat + vault.seizedCollateral.toNat ≤ bank.pooled home

theorem add_le_lamports (bank : Bank) {a b : Address} (h : a ≠ b) :
    (bank.get a).lamports.toNat + (bank.get b).lamports.toNat ≤ bank.lamports :=
  Table.add_le_sum (fun (_ : Address) (account : Account) => account.lamports.toNat)
    (fun _ => rfl) bank h

end Bank

/-- After any run in which keys sign, every account is good for what the books say. -/
theorem accountable_of_run {start chain : Chain} {moves : List Move} (hfresh : start.bank.Fresh)
    (run : Chain.Run start moves chain) (hkeys : ∀ move ∈ moves, move.KeysSign) :
    chain.bank.Accountable := by
  have horderly := orderly_of_run hfresh run
  have hbacked := backed_of_run hfresh run hkeys
  refine ⟨horderly, hbacked.idle, ?_, ?_, ?_⟩
  · intro home vault hvault owner
    rw [(totals_eq_sums hfresh run hvault).1]
    exact horderly.measure_le_sumOver (fun record => record.deposited.toNat) rfl home owner
  · intro home vault hvault owner
    rw [(totals_eq_sums hfresh run hvault).2]
    exact horderly.measure_le_sumOver (fun record => record.debt.toNat) rfl home owner
  · intro home vault hvault
    have hsurplus := hbacked.surplus home vault hvault
    rw [(horderly.vaults home vault hvault).surplus_eq] at hsurplus
    omega

/-! ## No instruction is blocked -/

namespace LendingProgram

open Tx (Refuses)

variable {call : Call} {amount : Amount} {s : Session} {error : LendingError}

theorem Approach.record_eq (approach : Approach call s) (horderly : s.bank.Orderly) :
    approach.position.record = s.bank.record approach.home approach.user := by
  obtain ⟨-, -, hposition⟩ := approach.opens.aside horderly approach.signs
  rw [hposition]

/-- The record that an operation works on is counted. -/
theorem Approach.counted (approach : Approach call s) (h : s.bank.Accountable) :
    approach.position.record.deposited.toNat ≤ approach.vault.totals.deposited.toNat ∧
      approach.position.record.debt.toNat ≤ approach.vault.totals.borrowed.toNat := by
  have hvault := find?_of_load approach.loads
  rw [approach.record_eq h.orderly]
  exact ⟨h.deposited _ _ hvault _, h.borrowed _ _ hvault _⟩

/-- Totals can be moved to a record with no more in it. -/
theorem Approach.move_succeeds (approach : Approach call s) (h : s.bank.Accountable) {next : Record}
    (hdeposited : next.deposited.toNat ≤ approach.position.record.deposited.toNat)
    (hdebt : next.debt.toNat ≤ approach.position.record.debt.toNat) :
    (approach.vault.totals.move approach.position.record next).2 = .ok () := by
  obtain ⟨hcounted, hcountedDebt⟩ := approach.counted h
  have hfits := approach.vault.totals.deposited.lt
  have hdebtFits := approach.vault.totals.borrowed.lt
  exact Totals.move_succeeds hcounted hcountedDebt (by omega) (by omega)

/-- A position that was only just made has nothing in it. -/
theorem Opens.same_of_deposited {user home : Address} {bank opened : Bank}
    {position : UserPosition Address Bump} (h : Opens call user home bank opened position)
    (hdeposited : 0 < position.record.deposited.toNat) : opened = bank := by
  cases h with
  | known => rfl
  | fresh made => exact absurd hdeposited (by simp [bind, blankPosition, Record.zero])

/-- What is settled to be withdrawn can be paid. -/
theorem Approach.pays_out (approach : Approach call s) (h : s.bank.Accountable)
    (hlamports : s.bank.lamports < 2 ^ 64)
    (henough : amount.toNat ≤ approach.position.record.deposited.toNat)
    (hpos : 0 < amount.toNat) :
    ∃ moved, System.transfer
      (call.signsWith (.collateral approach.home) approach.vault.collateralBump)
      (.collateral approach.home) approach.user amount.toNat approach.opened = .ok moved := by
  have hvault := find?_of_load approach.loads
  rw [approach.opens.same_of_deposited (by omega)]
  -- The pool holds what is deposited, and whoever receives it has room: both are part of all
  -- lamports there are.
  have hpool := h.pooled _ _ hvault
  have hcounted := (approach.counted h).1
  refine exists_transfer ?_ ?_ ?_ ?_
  · simp [Call.signsWith, (h.orderly.vaults _ _ hvault).collateralBump]
  · rw [(h.idle approach.home).2]
    rfl
  · show amount.toNat ≤ s.bank.pooled approach.home
    omega
  · intro hne
    have htogether := s.bank.add_le_lamports hne
    unfold Bank.pooled at hpool
    omega

theorem withdraw_never_blocked (h : s.bank.Accountable) (hlamports : s.bank.lamports < 2 ^ 64)
    (hrefused : Refuses (withdraw call amount) s error) :
    error ≠ .mathOverflow ∧ error ≠ .underflow ∧ error ≠ .transferFailed := by
  rcases withdraw_refused hrefused with rfl | ⟨approach, feed, -, hstops⟩
  · decide
  cases hstops with
  | settlement refused =>
      rcases Record.withdraw_refuses refused with rfl | rfl | rfl | rfl <;> decide
  | transfer settles refused =>
      obtain ⟨hpos, -, hdeposited, -⟩ := Record.withdraw_eq_ok_iff.1 settles
      obtain ⟨moved, hpays⟩ := approach.pays_out h hlamports (by omega) hpos
      rw [hpays] at refused
      cases refused
  | totals settles pays refused =>
      obtain ⟨hpos, -, hdeposited, hdebt, -⟩ := Record.withdraw_eq_ok_iff.1 settles
      rw [approach.move_succeeds h (by omega) (by rw [hdebt])] at refused
      cases refused

theorem payback_never_blocked (h : s.bank.Accountable)
    (hrefused : Refuses (payback call amount) s .mathOverflow) :
    ∃ home vault feed, call.address? .vault = some home ∧ s.bank.find? .vault home = some vault ∧
      s.bank.find? .feed vault.priceFeed = some feed ∧
      2 ^ 64 ≤
        amount.toNat * feed.answer.rate.raw.toNat / 10 ^ feed.answer.rate.decimals.toNat := by
  rcases payback_refused hrefused with hother | hother | ⟨approach, feed, paid, hfeed, hstops⟩
  · cases hother
  · cases hother
  cases hstops with
  | settlement refused =>
      rcases Record.payBack_refuses refused with hother | hother | hother | hother | ⟨-, hvalue⟩
      · cases hother
      · cases hother
      · cases hother
      · cases hother
      · exact ⟨_, _, feed, approach.vault_role, find?_of_load approach.loads, find?_of_load hfeed,
          hvalue⟩
  | totals settles pays refused =>
      obtain ⟨hpos, quote, -, -, hdebt, hdeposited⟩ := Record.payBack_eq_ok_iff.1 settles
      rw [approach.move_succeeds h (by rw [hdeposited]) (by omega)] at refused
      cases refused

theorem liquidate_never_blocked (h : s.bank.Accountable)
    (hrefused : Refuses (liquidate call) s error) :
    error ≠ .mathOverflow ∧ error ≠ .underflow := by
  rcases liquidate_refused hrefused with rfl | ⟨approach, hstops⟩
  · decide
  have hvault := find?_of_load approach.loads
  have hrecord : s.bank.record approach.home approach.owner = approach.position.record := by
    unfold Bank.record
    rw [find?_of_load approach.position_loads]
    rfl
  have hdeposited := h.deposited _ _ hvault approach.owner
  have hborrowed := h.borrowed _ _ hvault approach.owner
  rw [hrecord] at hdeposited hborrowed
  have hfits := approach.vault.totals.deposited.lt
  have hdebtFits := approach.vault.totals.borrowed.lt
  cases hstops with
  | settlement refused =>
      rcases Record.liquidate_refuses refused with rfl | rfl | rfl | rfl <;> decide
  | totals refused =>
      have hzero : Record.zero.deposited.toNat = 0 ∧ Record.zero.debt.toNat = 0 := ⟨rfl, rfl⟩
      rw [Totals.move_succeeds hdeposited hborrowed (by omega) (by omega)] at refused
      cases refused
  | seized settles refused =>
      -- The pool holds what was seized before together with the deposit, so their sum is an amount.
      obtain ⟨-, hliquidation, -⟩ := Record.liquidate_eq_ok_iff.1 settles
      have hoverflow := Word.add?_eq_none_iff.1 refused
      rw [hliquidation] at hoverflow
      have hpool := h.pooled _ _ hvault
      have hpoolFits := (s.bank.get (.collateral approach.home)).lamports.lt
      unfold Bank.pooled at hpool
      simp only at hoverflow
      omega

theorem deposit_never_blocked (h : s.bank.Accountable) (hkeys : call.KeysSign)
    (hrefused : Refuses (deposit call amount) s error) :
    error = .transferFailed ∨ ∃ home user,
      call.address? .vault = some home ∧ call.address? .user = some user ∧
        (s.bank.record home user).deposit amount = .error error := by
  obtain ⟨approach, hstops⟩ := deposit_refused hrefused
  cases hstops with
  | settlement refused =>
      rw [approach.record_eq h.orderly] at refused
      exact .inr ⟨_, _, approach.vault_role, approach.user_role, refused⟩
  | transfer settles refused => exact .inl rfl
  | @totals settlement moved _ settles pays refused =>
      -- After the transfer the pool holds all deposits and the new amount.
      obtain ⟨-, hdeposited, hdebt, -⟩ := Record.deposit_eq_ok_iff.1 settles
      obtain ⟨hcounted, hcountedDebt⟩ := approach.counted h
      obtain ⟨-, haside, -⟩ := approach.opens.aside h.orderly approach.signs
      have hpool := h.pooled _ _ (find?_of_load approach.loads)
      have hopened := (haside.pools hkeys h.idle).pooled approach.home
      have hmoved := ((paid_of_transfer pays).2.2.poolMove_into
        (hkeys.collateral_ne approach.signs)).lamports
      have hfits := (moved.get (.collateral approach.home)).lamports.lt
      have hdebtFits := approach.vault.totals.borrowed.lt
      unfold Bank.pooled at hpool hopened hmoved
      rw [Totals.move_succeeds hcounted hcountedDebt (by omega) (by rw [hdebt]; omega)] at refused
      cases refused

end LendingProgram

/-! ## In every reached state -/

/-- In every reached state, whoever asks with whatever accounts: a withdrawal never fails in its
arithmetic or at its transfer, a liquidation never fails in its arithmetic, a payback overflows only
when the value of what is paid back is no amount, and a deposit fails only where it is settled,
which comes before its transfer, or at the transfer itself. -/
theorem bookkeeping_never_blocks {start chain : Chain} {moves : List Move}
    (hfresh : start.bank.Fresh) (run : Chain.Run start moves chain)
    (hkeys : ∀ move ∈ moves, move.KeysSign) (hlamports : chain.bank.lamports < 2 ^ 64)
    (passed : Passed) (amount : Amount) :
    (¬ chain.Refuses (.withdraw amount) passed .mathOverflow ∧
      ¬ chain.Refuses (.withdraw amount) passed .underflow ∧
      ¬ chain.Refuses (.withdraw amount) passed .transferFailed) ∧
    (¬ chain.Refuses .liquidate passed .mathOverflow ∧
      ¬ chain.Refuses .liquidate passed .underflow) ∧
    (chain.Refuses (.payback amount) passed .mathOverflow →
      ∃ home vault feed, (chain.callOf (.payback amount) passed).address? .vault = some home ∧
        chain.bank.find? .vault home = some vault ∧
        chain.bank.find? .feed vault.priceFeed = some feed ∧
        2 ^ 64 ≤
          amount.toNat * feed.answer.rate.raw.toNat / 10 ^ feed.answer.rate.decimals.toNat) ∧
    ((Move.transact (.deposit amount) passed).KeysSign → ∀ error,
      chain.Refuses (.deposit amount) passed error →
      error = .transferFailed ∨
        ∃ home user, (chain.callOf (.deposit amount) passed).address? .vault = some home ∧
          (chain.callOf (.deposit amount) passed).address? .user = some user ∧
          (chain.bank.record home user).deposit amount = .error error) := by
  have haccountable := accountable_of_run hfresh run hkeys
  have hwithdraw : ∀ error, chain.Refuses (.withdraw amount) passed error →
      error ≠ .mathOverflow ∧ error ≠ .underflow ∧ error ≠ .transferFailed := fun error h =>
    LendingProgram.withdraw_never_blocked haccountable hlamports (fails_of_chain h)
  have hliquidate : ∀ error, chain.Refuses .liquidate passed error →
      error ≠ .mathOverflow ∧ error ≠ .underflow := fun error h =>
    LendingProgram.liquidate_never_blocked haccountable (fails_of_chain h)
  refine ⟨⟨?_, ?_, ?_⟩, ⟨?_, ?_⟩, ?_, ?_⟩
  · exact fun h => (hwithdraw _ h).1 rfl
  · exact fun h => (hwithdraw _ h).2.1 rfl
  · exact fun h => (hwithdraw _ h).2.2 rfl
  · exact fun h => (hliquidate _ h).1 rfl
  · exact fun h => (hliquidate _ h).2 rfl
  · exact fun h => LendingProgram.payback_never_blocked haccountable (fails_of_chain h)
  · intro hsigns error h
    exact LendingProgram.deposit_never_blocked (s := ⟨chain.bank, [], []⟩) haccountable
      (hsigns chain) (fails_of_chain h)

namespace FirstDeposit

/-- All accounts that the user leaves with, and those of a liquidation of the user. -/
def leaving : Passed :=
  ⟨[(.user, user), (.admin, admin), (.vault, home), (.account, user),
    (.position, .position home user), (.priceFeed, .feed admin .zero),
    (.collateralVault, .collateral home), (.systemProgram, .systemProgram)], [], []⟩

theorem lamports_lt : reached.bank.lamports < 2 ^ 64 := by decide +kernel

end FirstDeposit

open FirstDeposit in
theorem first_deposit_is_not_locked :
    reached.bank.lamports < 2 ^ 64 ∧
      (¬ reached.Refuses (.withdraw (.units 1000)) leaving .mathOverflow ∧
        ¬ reached.Refuses (.withdraw (.units 1000)) leaving .underflow ∧
        ¬ reached.Refuses (.withdraw (.units 1000)) leaving .transferFailed) ∧
      ¬ reached.Refuses .liquidate leaving .mathOverflow ∧
      ¬ reached.Refuses .liquidate leaving .underflow := by
  obtain ⟨hwithdraw, hliquidate, -, -⟩ := bookkeeping_never_blocks start_fresh reached_run keysSign
    lamports_lt leaving (.units 1000)
  exact ⟨lamports_lt, hwithdraw, hliquidate⟩

end CollateralLending
