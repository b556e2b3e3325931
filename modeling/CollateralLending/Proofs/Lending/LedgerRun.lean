/-
  CollateralLending.Proofs.Lending.LedgerRun

  Runs of a ledger. What a run does is told without any listing, by a function
  from accounts to records that is zero at first (`RecordMap`). A change adds an
  integer to the deposit or to the debt of one account; where the sum is no
  amount the change is refused, and nothing is different afterwards.

  One step of a ledger is one step of the function it reads as
  (`readings_step`), so a whole run is (`readings_run`). The listing adds
  nothing to that function: tables that read alike are equal.

  Main statement: `ledger_runs_as_map`.
-/
import CollateralLending.Lending.Ledger
import CollateralLending.Proofs.Lending.Settlements
import CollateralLending.Proofs.Sums
import Mathlib.Algebra.BigOperators.Finprod

namespace CollateralLending

variable {K : Type}

/-! ## Steps -/

/-- A step on a ledger. -/
inductive LedgerStep (K : Type) where
  | get (account : K)
  | store (account : K) (record : Record)
  | raiseDeposit (account : K) (delta : Amount)
  | lowerDeposit (account : K) (delta : Amount)
  | raiseDebt (account : K) (delta : Amount)
  | lowerDebt (account : K) (delta : Amount)

/-- The account a step is about. -/
def LedgerStep.account : LedgerStep K → K
  | get account | store account _ | raiseDeposit account _ | lowerDeposit account _
  | raiseDebt account _ | lowerDebt account _ => account

/-- The step that takes another one back. -/
def LedgerStep.opposite? : LedgerStep K → Option (LedgerStep K)
  | raiseDeposit account delta => some (lowerDeposit account delta)
  | lowerDeposit account delta => some (raiseDeposit account delta)
  | raiseDebt account delta => some (lowerDebt account delta)
  | lowerDebt account delta => some (raiseDebt account delta)
  | get _ | store .. => none

/-- The answer to a step: the record that was asked for, or how a change ended. -/
inductive LedgerAnswer where
  | record (record : Record)
  | outcome (result : Except LendingError Unit)

/-- Takes steps one after the other: the state after them, and the answers, oldest first. -/
def runSteps {S : Type} (step : S → LedgerStep K → S × LedgerAnswer) (state : S) :
    List (LedgerStep K) → S × List LedgerAnswer
  | [] => (state, [])
  | first :: rest =>
    let later := runSteps step (step state first).1 rest
    (later.1, (step state first).2 :: later.2)

/-- What views of two kinds of states agree on after each step they agree on after each run. -/
theorem runSteps_view {S T : Type} {step : S → LedgerStep K → S × LedgerAnswer}
    {viewStep : T → LedgerStep K → T × LedgerAnswer} {view : S → T}
    (h : ∀ state first, Prod.map view id (step state first) = viewStep (view state) first)
    (state : S) (steps : List (LedgerStep K)) :
    Prod.map view id (runSteps step state steps) = runSteps viewStep (view state) steps := by
  induction steps generalizing state with
  | nil => rfl
  | cons first rest ih =>
      have hlater := ih (step state first).1
      unfold runSteps
      rw [← h state first, Prod.map_fst, ← hlater]
      rfl

/-! ## Ledgers -/

namespace Ledger

variable [Ord K]

/-- A ledger on which nobody has a position. -/
def new : Ledger K := Table.empty

variable [Std.TransOrd K] [Std.LawfulEqOrd K]

/-- The ledger after a change: as it was when the change was refused. -/
def concluded (ledger : Ledger K) : Except LendingError (Ledger K) → Ledger K × LedgerAnswer
  | .ok next => (next, .outcome (.ok ()))
  | .error error => (ledger, .outcome (.error error))

/-- Takes a step. -/
def step (ledger : Ledger K) : LedgerStep K → Ledger K × LedgerAnswer
  | .get account => (ledger, .record (ledger.get account))
  | .store account record => (ledger.set account record, .outcome (.ok ()))
  | .raiseDeposit account delta => ledger.concluded (ledger.raiseDeposit account delta)
  | .lowerDeposit account delta => ledger.concluded (ledger.lowerDeposit account delta)
  | .raiseDebt account delta => ledger.concluded (ledger.raiseDebt account delta)
  | .lowerDebt account delta => ledger.concluded (ledger.lowerDebt account delta)

/-- The ledger after a run, and its answers. -/
def run (ledger : Ledger K) (steps : List (LedgerStep K)) : Ledger K × List LedgerAnswer :=
  runSteps step ledger steps

end Ledger

/-! ## Functions -/

/-- The amount that is this integer, where there is one. -/
def amountOf (number : Int) : Except LendingError Amount :=
  if number < 0 then .error .underflow
  else if h : number.toNat < 2 ^ (64 : Nat) then .ok ⟨number.toNat, h⟩
  else .error .mathOverflow

/-- The record with so much more on deposit and so much more debt. -/
def Record.plus (record : Record) (deposit debt : Int) : Except LendingError Record := do
  let deposited ← amountOf (record.deposited.toNat + deposit)
  let owed ← amountOf (record.debt.toNat + debt)
  return ⟨deposited, owed⟩

/-- The records of all accounts. -/
abbrev RecordMap (K : Type) := K → Record

namespace RecordMap

variable [DecidableEq K]

/-- Adds to the record of one account, or leaves all as they are. -/
def add (records : RecordMap K) (account : K) (deposit debt : Int) : RecordMap K × LedgerAnswer :=
  match (records account).plus deposit debt with
  | .ok next => (Function.update records account next, .outcome (.ok ()))
  | .error error => (records, .outcome (.error error))

/-- Takes a step. -/
def step (records : RecordMap K) : LedgerStep K → RecordMap K × LedgerAnswer
  | .get account => (records, .record (records account))
  | .store account record => (Function.update records account record, .outcome (.ok ()))
  | .raiseDeposit account delta => records.add account delta.toNat 0
  | .lowerDeposit account delta => records.add account (-delta.toNat) 0
  | .raiseDebt account delta => records.add account 0 delta.toNat
  | .lowerDebt account delta => records.add account 0 (-delta.toNat)

/-- The records of accounts that never did anything. -/
def blank : RecordMap K := fun _ => .zero

/-- The records after a run, and the answers to it. -/
def run (records : RecordMap K) (steps : List (LedgerStep K)) : RecordMap K × List LedgerAnswer :=
  runSteps step records steps

end RecordMap

/-! ## Sums over all keys -/

/-- A sum over a table is the sum over all keys there are. -/
theorem Table.sum_eq_finsum {V : Type} [Ord K] [Std.TransOrd K] [Std.LawfulEqOrd K] [DecidableEq K]
    [Inhabited V] {measure : K → V → Nat} (blank : ∀ key, measure key default = 0)
    (table : Table K V) : table.sum measure = ∑ᶠ key, measure key (table.get key) := by
  have hsupport : Function.support (fun key => measure key (table.get key)) ⊆
      (table.keys.toFinset : Set K) := by
    intro key hkey
    refine List.mem_toFinset.2 (mem_keys_iff.2 fun hdefault => hkey ?_)
    show measure key (table.get key) = 0
    rw [hdefault, blank]
  rw [finsum_eq_sum_of_support_subset _ hsupport]
  exact sum_eq_sum_of_subset blank table (Finset.Subset.refl _)

/-! ## Changes of a record -/

theorem amountOf_add (a b : Amount) :
    amountOf (a.toNat + b.toNat) = someOr (a.add? b) .mathOverflow := by
  unfold amountOf Word.add? Word.ofNat?
  rw [if_neg (by omega)]
  have hsum : ((a.toNat : Int) + b.toNat).toNat = a.toNat + b.toNat := by omega
  simp only [hsum]
  split <;> rfl

theorem amountOf_sub (a b : Amount) :
    amountOf (a.toNat + -b.toNat) = someOr (a.sub? b) .underflow := by
  unfold amountOf Word.sub?
  by_cases hle : b.toNat ≤ a.toNat
  · have hrest : ((a.toNat : Int) + -b.toNat).toNat = a.toNat - b.toNat := by omega
    have hlt : a.toNat - b.toNat < 2 ^ (64 : Nat) := Nat.lt_of_le_of_lt (Nat.sub_le _ _) a.lt
    rw [if_neg (by omega), if_pos hle]
    simp only [hrest, dif_pos hlt]
    rfl
  · rw [if_pos (by omega), if_neg hle]
    rfl

theorem amountOf_self (a : Amount) : amountOf (a.toNat + 0) = .ok a := by
  unfold amountOf
  rw [if_neg (by omega)]
  simp only [Int.add_zero, Int.toNat_natCast, dif_pos a.lt]

namespace Record

variable (record : Record) (delta : Amount)

theorem raiseDeposit_eq_plus : record.raiseDeposit delta = record.plus delta.toNat 0 := by
  unfold raiseDeposit plus
  rw [amountOf_add, amountOf_self]
  cases record.deposited.add? delta <;> rfl

theorem lowerDeposit_eq_plus : record.lowerDeposit delta = record.plus (-delta.toNat) 0 := by
  unfold lowerDeposit plus
  rw [amountOf_sub, amountOf_self]
  cases record.deposited.sub? delta <;> rfl

theorem raiseDebt_eq_plus : record.raiseDebt delta = record.plus 0 delta.toNat := by
  unfold raiseDebt plus
  rw [amountOf_add, amountOf_self]
  cases record.debt.add? delta <;> rfl

theorem lowerDebt_eq_plus : record.lowerDebt delta = record.plus 0 (-delta.toNat) := by
  unfold lowerDebt plus
  rw [amountOf_sub, amountOf_self]
  cases record.debt.sub? delta <;> rfl

end Record

namespace Ledger

variable [Ord K] [Std.TransOrd K] [Std.LawfulEqOrd K]
variable {ledger next : Ledger K} {account : K} {delta : Amount}

/-! ## A ledger and what it reads as -/

/-- What a ledger reads as. -/
def readings (ledger : Ledger K) : RecordMap K := fun account => ledger.get account

variable [DecidableEq K]

omit [Std.TransOrd K] [Std.LawfulEqOrd K] [DecidableEq K] in
theorem readings_new : (new : Ledger K).readings = .blank := rfl

theorem readings_set (ledger : Ledger K) (account : K) (record : Record) :
    readings (ledger.set account record) = Function.update ledger.readings account record := by
  funext other
  rw [readings, Table.get_set, Function.update_apply]
  rfl

/-- A ledger concludes a change as a function does that adds the same. -/
theorem readings_concluded {change : Record → Except LendingError Record} {deposit debt : Int}
    (h : ∀ record, change record = record.plus deposit debt) (ledger : Ledger K) (account : K) :
    Prod.map readings id (ledger.concluded (ledger.update account change)) =
      ledger.readings.add account deposit debt := by
  have hread : ledger.readings account = ledger.get account := rfl
  unfold update RecordMap.add
  rw [h, hread]
  cases (ledger.get account).plus deposit debt with
  | ok record =>
      show (readings (ledger.set account record), LedgerAnswer.outcome (.ok ())) = _
      rw [readings_set]
  | error error => rfl

/-- One step of the ledger is a step of its readings. -/
theorem readings_step (ledger : Ledger K) (step : LedgerStep K) :
    Prod.map readings id (ledger.step step) = ledger.readings.step step := by
  cases step with
  | get account => rfl
  | store account record =>
      show (readings (ledger.set account record), LedgerAnswer.outcome (.ok ())) = _
      rw [readings_set]
      rfl
  | raiseDeposit account delta =>
      exact readings_concluded (·.raiseDeposit_eq_plus delta) ledger account
  | lowerDeposit account delta =>
      exact readings_concluded (·.lowerDeposit_eq_plus delta) ledger account
  | raiseDebt account delta => exact readings_concluded (·.raiseDebt_eq_plus delta) ledger account
  | lowerDebt account delta => exact readings_concluded (·.lowerDebt_eq_plus delta) ledger account

theorem readings_run (ledger : Ledger K) (steps : List (LedgerStep K)) :
    Prod.map readings id (ledger.run steps) = ledger.readings.run steps :=
  runSteps_view readings_step ledger steps

/-! ## The listing -/

/-- A ledger lists the accounts whose record is not zero, each once and by ascending key, and its
totals are sums over all accounts. -/
structure Lists (ledger : Ledger K) (records : RecordMap K) : Prop where
  get_eq : ∀ account, ledger.get account = records account
  mem_positions_iff : ∀ account record,
    (account, record) ∈ ledger.positions ↔ records account = record ∧ record ≠ .zero
  ascending : ledger.positions.Pairwise fun first second => compare first.1 second.1 = .lt
  once : (ledger.positions.map (·.1)).Nodup
  finite : {account | records account ≠ .zero}.Finite
  deposited_eq : ledger.totalDeposited = ∑ᶠ account, (records account).deposited.toNat
  borrowed_eq : ledger.totalBorrowed = ∑ᶠ account, (records account).debt.toNat

theorem lists_readings (ledger : Ledger K) : ledger.Lists ledger.readings where
  get_eq _ := rfl
  mem_positions_iff _ _ := Table.mem_entries_iff
  ascending := ledger.ascending
  once := ledger.nodup_keys
  finite := by
    refine (List.finite_toSet ledger.keys).subset fun account hopen => ?_
    exact Table.mem_keys_iff.2 hopen
  deposited_eq := Table.sum_eq_finsum (fun _ => rfl) ledger
  borrowed_eq := Table.sum_eq_finsum (fun _ => rfl) ledger

/-! ## Changes taken back -/

theorem concluded_back {change back : Record → Except LendingError Record}
    (hback : ∀ {record next}, change record = .ok next → back next = .ok record)
    (h : (ledger.concluded (ledger.update account change)).2 = .outcome (.ok ())) :
    (ledger.concluded (ledger.update account change)).1.concluded
        ((ledger.concluded (ledger.update account change)).1.update account back) =
      (ledger, .outcome (.ok ())) := by
  unfold update at h ⊢
  cases hchange : change (ledger.get account) with
  | error error =>
      rw [hchange] at h
      cases h
  | ok next =>
      show concluded (ledger.set account next)
        ((back ((ledger.set account next).get account)).map ((ledger.set account next).set account))
          = _
      rw [Table.get_set_self, hback hchange]
      show (Table.set (Table.set ledger account next) account (ledger.get account), _) = _
      rw [Table.set_set_get]

/-- A step that went through and its opposite leave the ledger as it was. -/
theorem step_back {step back : LedgerStep K} (hopposite : step.opposite? = some back)
    (h : (ledger.step step).2 = .outcome (.ok ())) :
    (ledger.step step).1.step back = (ledger, .outcome (.ok ())) := by
  -- Reading and storing have no opposite; raising and lowering by the same amount are each other's.
  cases step with
  | get account => cases hopposite
  | store account record => cases hopposite
  | raiseDeposit account delta =>
      cases hopposite
      refine concluded_back (fun hraised => ?_) h
      obtain ⟨hdeposit, hdebt⟩ := Record.raiseDeposit_eq_ok_iff.1 hraised
      exact Record.lowerDeposit_eq_ok_iff.2 ⟨hdeposit, hdebt.symm⟩
  | lowerDeposit account delta =>
      cases hopposite
      refine concluded_back (fun hlowered => ?_) h
      obtain ⟨hdeposit, hdebt⟩ := Record.lowerDeposit_eq_ok_iff.1 hlowered
      exact Record.raiseDeposit_eq_ok_iff.2 ⟨hdeposit, hdebt.symm⟩
  | raiseDebt account delta =>
      cases hopposite
      refine concluded_back (fun hraised => ?_) h
      obtain ⟨hdebt, hdeposit⟩ := Record.raiseDebt_eq_ok_iff.1 hraised
      exact Record.lowerDebt_eq_ok_iff.2 ⟨hdebt, hdeposit.symm⟩
  | lowerDebt account delta =>
      cases hopposite
      refine concluded_back (fun hlowered => ?_) h
      obtain ⟨hdebt, hdeposit⟩ := Record.lowerDebt_eq_ok_iff.1 hlowered
      exact Record.raiseDebt_eq_ok_iff.2 ⟨hdebt, hdeposit.symm⟩

theorem run_back {step back : LedgerStep K} (hopposite : step.opposite? = some back)
    (h : (ledger.step step).2 = .outcome (.ok ())) :
    ledger.run [step, back] = (ledger, [.outcome (.ok ()), .outcome (.ok ())]) := by
  have hback := step_back hopposite h
  show (((ledger.step step).1.step back).1,
    [(ledger.step step).2, ((ledger.step step).1.step back).2]) = _
  rw [hback, h]

/-! ## What a step can do -/

omit [DecidableEq K] in
theorem concluded_update_cases (ledger : Ledger K) (account : K)
    (change : Record → Except LendingError Record) :
    (∃ error, ledger.concluded (ledger.update account change) =
        (ledger, .outcome (.error error))) ∨
      ∃ record, ledger.concluded (ledger.update account change) =
        (ledger.set account record, .outcome (.ok ())) := by
  unfold update
  cases change (ledger.get account) with
  | error error => exact .inl ⟨error, rfl⟩
  | ok next => exact .inr ⟨next, rfl⟩

omit [DecidableEq K] in
/-- A step reads, or is refused, or stores a record of its account. -/
theorem step_cases (ledger : Ledger K) (step : LedgerStep K) :
    (∃ record, ledger.step step = (ledger, .record record)) ∨
      (∃ error, ledger.step step = (ledger, .outcome (.error error))) ∨
      ∃ record, ledger.step step = (ledger.set step.account record, .outcome (.ok ())) := by
  cases step with
  | get account => exact .inl ⟨_, rfl⟩
  | store account record => exact .inr (.inr ⟨record, rfl⟩)
  | raiseDeposit account delta => exact .inr (ledger.concluded_update_cases account _)
  | lowerDeposit account delta => exact .inr (ledger.concluded_update_cases account _)
  | raiseDebt account delta => exact .inr (ledger.concluded_update_cases account _)
  | lowerDebt account delta => exact .inr (ledger.concluded_update_cases account _)

omit [DecidableEq K] in
theorem step_of_error {step : LedgerStep K} {error : LendingError}
    (h : (ledger.step step).2 = .outcome (.error error)) : (ledger.step step).1 = ledger := by
  rcases ledger.step_cases step with ⟨_, heq⟩ | ⟨_, heq⟩ | ⟨record, heq⟩
  · rw [heq]
  · rw [heq]
  · rw [heq] at h
    cases h

/-- A step changes the record of its own account only. -/
theorem get_step_of_ne {step : LedgerStep K} (hne : account ≠ step.account) :
    (ledger.step step).1.get account = ledger.get account := by
  rcases ledger.step_cases step with ⟨_, heq⟩ | ⟨_, heq⟩ | ⟨record, heq⟩
  · rw [heq]
  · rw [heq]
  · rw [heq]
    exact Table.get_set_of_ne hne

/-! ## The size of totals -/

omit [DecidableEq K] in
/-- A total grows with every step by what one record has at most. -/
theorem sum_run_le (measure : K → Record → Nat) {most : Nat}
    (blank : ∀ account, measure account default = 0)
    (hmost : ∀ account record, measure account record ≤ most) (ledger : Ledger K)
    (steps : List (LedgerStep K)) :
    (ledger.run steps).1.sum measure ≤ ledger.sum measure + steps.length * most := by
  -- On the steps: one of them stores one record at most.
  induction steps generalizing ledger with
  | nil => exact Nat.le_add_right _ _
  | cons first rest ih =>
      have hstep : (ledger.step first).1.sum measure ≤ ledger.sum measure + most := by
        rcases ledger.step_cases first with ⟨_, heq⟩ | ⟨_, heq⟩ | ⟨record, heq⟩
        · rw [heq]
          exact Nat.le_add_right _ _
        · rw [heq]
          exact Nat.le_add_right _ _
        · rw [heq]
          have hsum := Table.sum_set measure blank ledger first.account record
          have hrecord := hmost first.account record
          show (Table.set ledger first.account record).sum measure ≤ _
          omega
      have hrest := ih (ledger.step first).1
      rw [List.length_cons, Nat.succ_mul]
      show ((ledger.step first).1.run rest).1.sum measure ≤ _
      omega

omit [DecidableEq K] in
theorem total_run_lt (field : Record → Amount) (blank : field .zero = .zero)
    {steps : List (LedgerStep K)} (hsteps : steps.length ≤ 2 ^ (64 : Nat)) :
    ((new : Ledger K).run steps).1.sum (fun _ record => (field record).toNat) <
      2 ^ (128 : Nat) := by
  have hsum := sum_run_le (fun (_ : K) record => (field record).toNat)
    (fun _ => by rw [Record.default_eq_zero, blank]; rfl)
    (fun _ record => Nat.le_sub_one_of_lt (field record).lt) new steps
  have hempty : (new : Ledger K).sum (fun _ record => (field record).toNat) = 0 := rfl
  rw [hempty, Nat.zero_add] at hsum
  have hmost := Nat.mul_le_mul_right (2 ^ (64 : Nat) - 1) hsteps
  omega

/-! ## Runs -/

/-- Whatever is done with a new ledger, its answers are those of a function from accounts to records
that starts at zero and is changed by exact numbers, and it lists that function. A refused step
leaves it as it is, and any other step leaves the other accounts as they are. So ledgers that read
alike after their runs are equal, a change that went through can be taken back without a trace, and
the totals of up to 2 ^ 64 steps fit 128 bits. -/
theorem ledger_runs_as_map (steps : List (LedgerStep K)) :
    ((new : Ledger K).run steps).2 = (RecordMap.blank.run steps).2 ∧
    ((new : Ledger K).run steps).1.Lists (RecordMap.blank.run steps).1 ∧
    (∀ step error, (((new : Ledger K).run steps).1.step step).2 = .outcome (.error error) →
      (((new : Ledger K).run steps).1.step step).1 = ((new : Ledger K).run steps).1) ∧
    (∀ step account, account ≠ step.account →
      (((new : Ledger K).run steps).1.step step).1.get account =
        ((new : Ledger K).run steps).1.get account) ∧
    (∀ others, (∀ account, ((new : Ledger K).run others).1.get account =
        ((new : Ledger K).run steps).1.get account) →
      ((new : Ledger K).run others).1 = ((new : Ledger K).run steps).1) ∧
    (∀ step back, step.opposite? = some back →
      (((new : Ledger K).run steps).1.step step).2 = .outcome (.ok ()) →
      ((new : Ledger K).run steps).1.run [step, back] =
        (((new : Ledger K).run steps).1, [.outcome (.ok ()), .outcome (.ok ())])) ∧
    (steps.length ≤ 2 ^ (64 : Nat) →
      ((new : Ledger K).run steps).1.totalDeposited < 2 ^ (128 : Nat) ∧
      ((new : Ledger K).run steps).1.totalBorrowed < 2 ^ (128 : Nat)) := by
  have hrun := readings_run (new : Ledger K) steps
  rw [readings_new] at hrun
  refine ⟨?_, ?_, fun _ _ => step_of_error, fun _ _ => get_step_of_ne, fun _ => Table.ext_get,
    fun _ _ => run_back, fun hsteps => ?_⟩
  · rw [← hrun]
    rfl
  · rw [← hrun]
    exact lists_readings _
  · exact ⟨total_run_lt Record.deposited rfl hsteps, total_run_lt Record.debt rfl hsteps⟩

/-- Account 9 comes and goes; a debt that is not there cannot be lowered, and one that is there has
no room for the largest amount. -/
def mixedRun : List (LedgerStep Nat) :=
  [.raiseDeposit 7 (.units 100), .lowerDebt 7 (.units 1), .raiseDebt 9 (.units 4),
    .store 3 ⟨.units 5, .units 2⟩, .raiseDebt 3 (.units (2 ^ 64 - 1)), .lowerDebt 9 (.units 4),
    .get 3]

theorem listing_of_mixed_run :
    ((new : Ledger Nat).run mixedRun).2 =
        [.outcome (.ok ()), .outcome (.error .underflow), .outcome (.ok ()), .outcome (.ok ()),
          .outcome (.error .mathOverflow), .outcome (.ok ()), .record ⟨.units 5, .units 2⟩] ∧
      ((new : Ledger Nat).run mixedRun).1.positions =
        [(3, ⟨.units 5, .units 2⟩), (7, ⟨.units 100, .zero⟩)] ∧
      ∑ᶠ account, ((RecordMap.blank.run mixedRun).1 account).deposited.toNat = 105 := by
  obtain ⟨hanswers, hlists, -⟩ := ledger_runs_as_map mixedRun
  refine ⟨?_, rfl, ?_⟩
  · rw [hanswers]
    rfl
  · rw [← hlists.deposited_eq]
    rfl

end Ledger

end CollateralLending
