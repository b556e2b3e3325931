/-
  CollateralLending.Proofs.Lending.Totals

  The totals of a vault are sums over its positions. A vault keeps them step by
  step, and never looks at the positions; so the proof follows the steps. A
  posting moves one position's share of the sum and the total by the same
  amount, and every other move leaves vaults and positions alone.

  Main statement: `totals_eq_sums`.
-/
import CollateralLending.Proofs.Lending.Reached
import CollateralLending.Proofs.Sums

namespace CollateralLending

open Bank

variable {call : Call} {before after bank : Bank} {chain start : Chain}
variable {measure : Record → Nat} {total : Totals → Amount}

/-- What an account adds to the sum over the positions in a vault: the measure of its record when it
is one of them. -/
def Account.share (measure : Record → Nat) (home : Address) (account : Account) : Nat :=
  match AccountKind.position.load account with
  | .ok position => if position.vault = home then measure position.record else 0
  | .error _ => 0

/-- The sum of a measure over the records of all positions in a vault. -/
def Bank.sumOver (bank : Bank) (measure : Record → Nat) (home : Address) : Nat :=
  bank.sum fun _ account => account.share measure home

/-- In every vault the total is the sum of the measure. -/
def Bank.Balanced (bank : Bank) (measure : Record → Nat) (total : Totals → Amount) : Prop :=
  ∀ home vault, bank.find? .vault home = some vault →
    (total vault.totals).toNat = bank.sumOver measure home

/-! ## Shares -/

/-- What an account counts for is its record, if it is a position of the vault. -/
theorem share_eq_find? (bank : Bank) (measure : Record → Nat) (home a : Address) :
    (bank.get a).share measure home =
      ((bank.find? .position a).map fun position =>
        if position.vault = home then measure position.record else 0).getD 0 := by
  unfold Account.share Bank.find?
  cases AccountKind.position.load (bank.get a) <;> rfl

theorem share_eq_of_find? {home a : Address}
    (h : after.find? .position a = before.find? .position a) :
    (after.get a).share measure home = (before.get a).share measure home := by
  rw [share_eq_find?, share_eq_find?, h]

/-- A position counts for its own vault and for no other. -/
theorem Bank.Orderly.share_position (h : bank.Orderly) (hzero : measure .zero = 0)
    (home place owner : Address) :
    (bank.get (.position place owner)).share measure home =
      if place = home then measure (bank.record place owner) else 0 := by
  rw [share_eq_find?]
  unfold Bank.record
  cases hfound : bank.find? .position (.position place owner) with
  | none => simp [hzero]
  | some position =>
      obtain ⟨haddress, -, -⟩ := h.positions _ _ hfound
      simp only [Address.position.injEq] at haddress
      simp only [Option.map_some, Option.getD_some, haddress.1]

/-- No position has more than all positions in its vault. -/
theorem Bank.Orderly.measure_le_sumOver (h : bank.Orderly) (measure : Record → Nat)
    (hzero : measure .zero = 0) (home owner : Address) :
    measure (bank.record home owner) ≤ bank.sumOver measure home := by
  have hshare := h.share_position hzero home home owner
  rw [if_pos rfl] at hshare
  rw [← hshare]
  exact Table.le_sum (fun (_ : Address) (account : Account) => account.share measure home)
    (fun _ => rfl) bank (.position home owner)

/-! ## What one move does to sums -/

theorem Bank.SameBooks.sumOver (h : SameBooks before after) (home : Address) :
    after.sumOver measure home = before.sumOver measure home :=
  Table.sum_congr _ (fun _ => rfl) fun a => share_eq_of_find? (h.positions a)

theorem Bank.SameBooks.balanced (h : SameBooks before after)
    (hbalanced : before.Balanced measure total) : after.Balanced measure total := by
  intro home vault hvault
  rw [h.vaults] at hvault
  rw [h.sumOver]
  exact hbalanced home vault hvault

/-- A new vault has no positions: positions have their vault from the start. -/
theorem Bank.Opening.balanced {home : Address} {vault : Vault Address Bump}
    (h : Opening before after home vault) (horderly : before.Orderly)
    (htotal : (total vault.totals).toNat = 0) (hbalanced : before.Balanced measure total) :
    after.Balanced measure total := by
  intro place found hfound
  have hsum : after.sumOver measure place = before.sumOver measure place :=
    Table.sum_congr _ (fun _ => rfl) fun a => share_eq_of_find? (h.positions a)
  rw [hsum]
  by_cases hplace : place = home
  · subst hplace
    cases hfound.symm.trans h.opened
    -- Measured at this vault, the accounts are like those of an empty chain.
    have hempty : before.sumOver measure place =
        (Table.empty : Bank).sum fun _ account => account.share measure place := by
      apply Table.sum_congr _ (fun _ => rfl)
      intro a
      rw [share_eq_find?]
      cases hposition : before.find? .position a with
      | none => rfl
      | some position =>
          obtain ⟨-, -, known, hknown⟩ := horderly.positions a position hposition
          have hne : position.vault ≠ place := by
            rintro rfl
            rw [h.free] at hknown
            cases hknown
          simp only [Option.map_some, Option.getD_some, if_neg hne]
          rfl
    rw [hempty, htotal]
    rfl
  · rw [h.vaults place hplace] at hfound
    exact hbalanced place found hfound

/-- A position written back changes the sum by what the total changes. -/
theorem Bank.Posting.balanced {home owner : Address} {vault next : Vault Address Bump}
    {new : Record} (h : Posting before after home owner vault next new)
    (hbefore : before.Orderly) (hafter : after.Orderly) (hzero : measure .zero = 0)
    (htotal : (total next.totals).toNat + measure (before.record home owner) =
      (total vault.totals).toNat + measure new)
    (hbalanced : before.Balanced measure total) : after.Balanced measure total := by
  intro place found hfound
  -- All accounts measure as before, but for the one that holds the position.
  have hsum :
      after.sumOver measure place + (before.get (.position home owner)).share measure place =
      before.sumOver measure place + (after.get (.position home owner)).share measure place := by
    refine Table.sum_update (fun (_ : Address) (account : Account) => account.share measure place)
      (fun _ => rfl) (Address.position home owner) fun a ha => ?_
    exact share_eq_of_find? (h.positions a ha)
  rw [hbefore.share_position hzero, hafter.share_position hzero, h.record_self] at hsum
  by_cases hplace : place = home
  · subst hplace
    cases hfound.symm.trans h.vault_after
    have hold := hbalanced place vault h.vault_before
    rw [if_pos rfl, if_pos rfl] at hsum
    omega
  · rw [h.vaults place hplace] at hfound
    rw [if_neg (Ne.symm hplace), if_neg (Ne.symm hplace)] at hsum
    have hold := hbalanced place found hfound
    omega

/-- How a total has to move with the measure. -/
def Follows (measure : Record → Nat) (total : Totals → Amount) : Prop :=
  ∀ {totals moved : Totals} {old new : Record}, totals.move old new = (moved, .ok ()) →
    (total moved).toNat + measure old = (total totals).toNat + measure new

/-- One instruction keeps every total the sum of its records. -/
theorem Effect.balanced {instruction : Instruction} (h : Effect call before after instruction)
    (horderly : before.Orderly) (hzero : measure .zero = 0)
    (hempty : (total ⟨.zero, .zero⟩).toNat = 0) (hfollows : Follows measure total)
    (hbalanced : before.Balanced measure total) : after.Balanced measure total := by
  have hafter := h.orderly horderly
  cases h with
  | aside other aside => exact aside.books.balanced hbalanced
  | opens role signs opening pool => exact opening.balanced horderly hempty hbalanced
  | operates operation role user_role signs tracks posting pool =>
      exact posting.balanced horderly hafter hzero (hfollows tracks) hbalanced
  | liquidates role signs feed_loads quotes uncovered tracks seizes posting pools =>
      exact posting.balanced horderly hafter hzero (hfollows tracks) hbalanced

/-! ## Along a run -/

/-- By induction on the run, every total is the sum of its records. -/
theorem balanced_of_run {moves : List Move} (hfresh : start.bank.Fresh)
    (run : Chain.Run start moves chain) (hzero : measure .zero = 0)
    (hempty : (total ⟨.zero, .zero⟩).toNat = 0) (hfollows : Follows measure total) :
    chain.bank.Balanced measure total := by
  induction run with
  | nil =>
      intro home vault hvault
      have howner := hfresh.unowned home
      rw [owner_of_find? AccountKind.vault_lawful hvault] at howner
      cases howner
  | snoc run move allowed ih =>
      have horderly := orderly_of_run hfresh run
      rcases effect_of_move horderly allowed with hpaid | ⟨instruction, passed, -, heffect⟩
      · exact hpaid.books.balanced ih
      · exact heffect.balanced horderly hzero hempty hfollows ih

/-- In every reached state both totals of every vault are exactly the sums over the positions in it,
whoever signed and whatever accounts were passed. -/
theorem totals_eq_sums {moves : List Move} (hfresh : start.bank.Fresh)
    (run : Chain.Run start moves chain) {home : Address} {vault : Vault Address Bump}
    (hvault : chain.bank.find? .vault home = some vault) :
    vault.totals.deposited.toNat = chain.bank.sumOver (fun record => record.deposited.toNat) home ∧
      vault.totals.borrowed.toNat = chain.bank.sumOver (fun record => record.debt.toNat) home := by
  have hdeposited : Follows (fun record => record.deposited.toNat) Totals.deposited :=
    fun hmove => (Totals.move_eq_ok_iff.1 hmove).1.2
  have hborrowed : Follows (fun record => record.debt.toNat) Totals.borrowed :=
    fun hmove => (Totals.move_eq_ok_iff.1 hmove).2.2
  exact ⟨balanced_of_run hfresh run rfl rfl hdeposited home vault hvault,
    balanced_of_run hfresh run rfl rfl hborrowed home vault hvault⟩

theorem first_deposit_is_counted :
    FirstDeposit.reached.bank.sumOver (fun record => record.deposited.toNat) FirstDeposit.home =
        1000 ∧
      FirstDeposit.reached.bank.sumOver (fun record => record.debt.toNat)
          FirstDeposit.home = 0 := by
  have htotals := totals_eq_sums FirstDeposit.start_fresh FirstDeposit.reached_run
    FirstDeposit.find?_vault
  exact ⟨htotals.1.symm, htotals.2.symm⟩

end CollateralLending
