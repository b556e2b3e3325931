/-
  CollateralLending.Proofs.Lending.Mirrors

  The lending vault over a ledger as a mirror of a vault on chain: it has the
  same admin, and every owner has the same record in both
  (`LedgerVault.Mirrors`). An operation that goes through on chain then goes
  through in the mirror, announces the same event and leaves a mirror again,
  provided the mirror reads the same feed and its tokens can be moved.

  Main statement: `echoes_of_run`.
-/
import CollateralLending.Proofs.Lending.Operations
import CollateralLending.Proofs.Lending.Totals

namespace CollateralLending

open Bank

namespace LedgerVault

/-! ## Mirrors -/

/-- The lending vault has the admin and the records of a vault on chain. -/
structure Mirrors (mirror : LedgerVault Address) (bank : Bank) (home : Address)
    (vault : Vault Address Bump) : Prop where
  found : bank.find? .vault home = some vault
  admin : mirror.admin = vault.admin
  records : ∀ owner, mirror.record owner = bank.record home owner

/-- It reads the feed of the vault as it is now. -/
def Reads (mirror : LedgerVault Address) (bank : Bank) (now : Seconds)
    (vault : Vault Address Bump) : Prop :=
  ∀ feed, bank.find? .feed vault.priceFeed = some feed → mirror.oracle = feed.answer.snapshot now

/-- The totals of its ledger are those of the vault. -/
structure Tallies (mirror : LedgerVault Address) (vault : Vault Address Bump) : Prop where
  deposited : mirror.ledger.totalDeposited = vault.totals.deposited.toNat
  borrowed : mirror.ledger.totalBorrowed = vault.totals.borrowed.toNat

variable {mirror : LedgerVault Address} {before after : Bank} {home owner : Address}
variable {vault next : Vault Address Bump} {new : Record}

/-- A ledger with the records of all owners adds up to what the positions in their vault do. -/
theorem Mirrors.sum_eq (h : mirror.Mirrors before home vault) (horderly : before.Orderly)
    {measure : Record → Nat} (hzero : measure .zero = 0) :
    mirror.ledger.sum (fun _ record => measure record) = before.sumOver measure home := by
  unfold Bank.sumOver
  symm
  refine Table.sum_eq_sum_of_injective (fun _ => rfl) (fun _ => hzero) (Address.position home)
    ?_ ?_ ?_
  · intro a b hab
    cases hab
    rfl
  · intro owner
    rw [horderly.share_position hzero, if_pos rfl, ← h.records]
    rfl
  · -- What is not at the address of a position in this vault is no position in it.
    intro a ha
    rw [share_eq_find?]
    cases hfound : before.find? .position a with
    | none => rfl
    | some position =>
        obtain ⟨rfl, -, -⟩ := horderly.positions a position hfound
        have hne : position.vault ≠ home := by
          rintro rfl
          exact ha ⟨position.owner, rfl⟩
        simp only [Option.map_some, Option.getD_some, if_neg hne]

/-- A mirror stays one while nothing happens to its vault. -/
theorem Mirrors.of_same (h : mirror.Mirrors before home vault)
    (hvault : after.find? .vault home = before.find? .vault home)
    (hrecords : ∀ owner, after.record home owner = before.record home owner) :
    mirror.Mirrors after home vault where
  found := by
    rw [hvault]
    exact h.found
  admin := h.admin
  records owner := by
    rw [hrecords]
    exact h.records owner

/-- A step of the mirror does what happened on chain: it goes through, announces the event and
leaves a mirror. -/
structure Echoes (mirror : LedgerVault Address) (step : VaultStep Address) (after : Bank)
    (home : Address) (event : LendingEvent Address) : Prop where
  result : (mirror.step step).result = .ok ()
  events : (mirror.step step).vault.events = mirror.events ++ [event]
  mirrors : ∃ next, (mirror.step step).vault.Mirrors after home next

theorem Mirrors.echoes (h : mirror.Mirrors before home vault) {step : VaultStep Address}
    {event : LendingEvent Address} (hconcludes : mirror.Concludes step owner new event)
    (hposting : Posting before after home owner vault next new)
    (hadmin : next.admin = vault.admin) :
    mirror.Echoes step after home event := by
  refine ⟨hconcludes.result, hconcludes.events, next, hposting.vault_after, ?_, ?_⟩
  · rw [hconcludes.admin, hadmin]
    exact h.admin
  · intro a
    unfold record
    rw [hconcludes.ledger, Table.get_set, hposting.record]
    by_cases ha : a = owner
    · rw [if_pos ha, if_pos (And.intro rfl ha)]
    · rw [if_neg ha, if_neg fun both => ha both.2]
      exact h.records a

end LedgerVault

/-! ## Operations on chain and their echo -/

/-- The step of a lending vault that an instruction stands for. -/
def Instruction.vaultStep? (call : Call) : Instruction → Option (VaultStep Address)
  | deposit amount => (call.address? .user).map fun user => .deposit user amount
  | borrow amount => (call.address? .user).map fun user => .borrow user amount
  | payback amount => (call.address? .user).map fun user => .payback user amount
  | withdraw amount => (call.address? .user).map fun user => .withdraw user amount
  | liquidate =>
    (call.address? .admin).bind fun admin =>
      (call.address? .account).map fun account => .liquidate admin account
  | openFeed _ | setAnswer _ | setStaleness _ | openVault | openShareVault _ | depositUnderlying _
  | withdrawUnderlying _ | setExchangeRate _ => none

variable {call : Call} {s t : Session} {mirror : LedgerVault Address} {amount : Amount}

namespace LendingProgram

open LedgerVault

/-- The mirror makes the deposit too. -/
theorem DepositRun.echoes (run : DepositRun call amount s t) (horderly : s.bank.Orderly)
    (h : mirror.Mirrors s.bank run.home run.vault)
    (htransfer : mirror.transfer (.deposit run.user amount) = .ok ()) :
    mirror.Echoes (.deposit run.user amount) t.bank run.home run.event := by
  have hpaid := (paid_of_transfer run.pays).2.2
  obtain ⟨-, hposting⟩ := run.posting horderly hpaid.sameRecords.sameBooks hpaid.owner
  have hsettles := run.settles
  rw [run.record_eq horderly, ← h.records] at hsettles
  rw [run.announces]
  exact h.echoes (concludes_of_deposit hsettles htransfer) hposting rfl

theorem WithdrawRun.echoes (run : WithdrawRun call amount s t) (horderly : s.bank.Orderly)
    (h : mirror.Mirrors s.bank run.home run.vault) (hreads : mirror.Reads s.bank call.now run.vault)
    (htransfer : mirror.transfer (.withdraw run.user amount) = .ok ()) :
    mirror.Echoes (.withdraw run.user amount) t.bank run.home run.event := by
  have hpaid := (paid_of_transfer run.pays).2.2
  obtain ⟨-, hposting⟩ := run.posting horderly hpaid.sameRecords.sameBooks hpaid.owner
  have hsettles := run.settles
  rw [run.record_eq horderly, ← h.records, ← hreads _ (find?_of_load run.feed_loads)] at hsettles
  rw [run.announces]
  exact h.echoes (concludes_of_withdraw hsettles htransfer) hposting rfl

theorem BorrowRun.echoes (run : BorrowRun call amount s t) (horderly : s.bank.Orderly)
    (h : mirror.Mirrors s.bank run.home run.vault) (hreads : mirror.Reads s.bank call.now run.vault)
    (htransfer : mirror.transfer (.borrow run.user amount) = .ok ()) :
    mirror.Echoes (.borrow run.user amount) t.bank run.home run.event := by
  have hmoved := retokened_of_transfer run.pays
  obtain ⟨-, hposting⟩ := run.posting horderly hmoved.sameRecords.sameBooks hmoved.owner
  have hsettles := run.settles
  rw [run.record_eq horderly, ← h.records, ← hreads _ (find?_of_load run.feed_loads)] at hsettles
  rw [run.announces]
  exact h.echoes (concludes_of_borrow hsettles htransfer) hposting rfl

theorem PaybackRun.echoes (run : PaybackRun call amount s t) (horderly : s.bank.Orderly)
    (h : mirror.Mirrors s.bank run.home run.vault) (hreads : mirror.Reads s.bank call.now run.vault)
    (htransfer : mirror.transfer (.payback run.user amount) = .ok ()) :
    mirror.Echoes (.payback run.user amount) t.bank run.home run.event := by
  have hmoved := retokened_of_transfer run.pays
  obtain ⟨-, hposting⟩ := run.posting horderly hmoved.sameRecords.sameBooks hmoved.owner
  have hsettles := run.settles
  rw [run.record_eq horderly, ← h.records, ← hreads _ (find?_of_load run.feed_loads)] at hsettles
  rw [run.announces]
  exact h.echoes (concludes_of_payback hsettles htransfer) hposting rfl

theorem LiquidateRun.echoes (run : LiquidateRun call s t) (horderly : s.bank.Orderly)
    (h : mirror.Mirrors s.bank run.home run.vault)
    (hreads : mirror.Reads s.bank call.now run.vault) :
    mirror.Echoes (.liquidate run.admin run.owner) t.bank run.home (.liquidated run.owner) := by
  obtain ⟨-, hposting⟩ := run.posting horderly
  have hsettles := run.settles
  rw [← run.record_eq, ← h.records, ← h.admin, ← hreads _ (find?_of_load run.feed_loads)]
    at hsettles
  exact h.echoes (concludes_of_liquidate hsettles) hposting rfl

end LendingProgram

open LendingProgram in
/-- What an operation does on chain, its echo does in a mirror of the vault. -/
theorem echoes_of_run (horderly : s.bank.Orderly) {instruction : Instruction}
    (hrun : Tx.Yields (instruction.run call) s () t) {home : Address} {vault : Vault Address Bump}
    (hrole : call.address? .vault = some home) {step : VaultStep Address}
    (hstep : instruction.vaultStep? call = some step) (h : mirror.Mirrors s.bank home vault)
    (hreads : mirror.Reads s.bank call.now vault) (htransfer : mirror.transfer step = .ok ()) :
    ∃ event, t.events = s.events ++ [.lending event] ∧ mirror.Echoes step t.bank home event := by
  -- The vault that a run found is the one that is mirrored.
  have hsame : ∀ {place : Address} {found : Vault Address Bump},
      call.address? .vault = some place → AccountKind.vault.load (s.bank.get place) = .ok found →
      home = place ∧ vault = found := by
    intro place found hplace hload
    obtain rfl := Option.some.inj (hrole.symm.trans hplace)
    exact ⟨rfl, Option.some.inj (h.found.symm.trans (find?_of_load hload))⟩
  cases instruction with
  | deposit amount =>
      obtain ⟨run⟩ := deposit_run hrun
      obtain ⟨rfl, rfl⟩ := hsame run.vault_role run.loads
      simp only [Instruction.vaultStep?, run.user_role, Option.map_some, Option.some.injEq] at hstep
      subst hstep
      exact ⟨run.event, congrArg Session.events run.ends, run.echoes horderly h htransfer⟩
  | borrow amount =>
      obtain ⟨run⟩ := borrow_run hrun
      obtain ⟨rfl, rfl⟩ := hsame run.vault_role run.loads
      simp only [Instruction.vaultStep?, run.user_role, Option.map_some, Option.some.injEq] at hstep
      subst hstep
      exact ⟨run.event, congrArg Session.events run.ends, run.echoes horderly h hreads htransfer⟩
  | payback amount =>
      obtain ⟨run⟩ := payback_run hrun
      obtain ⟨rfl, rfl⟩ := hsame run.vault_role run.loads
      simp only [Instruction.vaultStep?, run.user_role, Option.map_some, Option.some.injEq] at hstep
      subst hstep
      exact ⟨run.event, congrArg Session.events run.ends, run.echoes horderly h hreads htransfer⟩
  | withdraw amount =>
      obtain ⟨run⟩ := withdraw_run hrun
      obtain ⟨rfl, rfl⟩ := hsame run.vault_role run.loads
      simp only [Instruction.vaultStep?, run.user_role, Option.map_some, Option.some.injEq] at hstep
      subst hstep
      exact ⟨run.event, congrArg Session.events run.ends, run.echoes horderly h hreads htransfer⟩
  | liquidate =>
      obtain ⟨run⟩ := liquidate_run hrun
      obtain ⟨rfl, rfl⟩ := hsame run.vault_role run.loads
      simp only [Instruction.vaultStep?, run.admin_role, run.account_role, Option.bind_some,
        Option.map_some, Option.some.injEq] at hstep
      subst hstep
      have hevents := congrArg Session.events run.ends
      rw [run.owner_eq horderly] at hevents
      exact ⟨_, hevents, run.echoes horderly h hreads⟩
  | openFeed | setAnswer | setStaleness | openVault | openShareVault | depositUnderlying
  | withdrawUnderlying | setExchangeRate => cases hstep

open LendingProgram in
/-- Whatever writes a record stands for a step of a lending vault. -/
theorem exists_vaultStep {instruction : Instruction}
    (hrun : Tx.Yields (instruction.run call) s () t)
    (hwrites : instruction.isOperation = true ∨ instruction = .liquidate) :
    ∃ step, instruction.vaultStep? call = some step := by
  cases instruction with
  | deposit amount =>
      obtain ⟨run⟩ := deposit_run hrun
      exact ⟨_, by rw [Instruction.vaultStep?, run.user_role]; rfl⟩
  | borrow amount =>
      obtain ⟨run⟩ := borrow_run hrun
      exact ⟨_, by rw [Instruction.vaultStep?, run.user_role]; rfl⟩
  | payback amount =>
      obtain ⟨run⟩ := payback_run hrun
      exact ⟨_, by rw [Instruction.vaultStep?, run.user_role]; rfl⟩
  | withdraw amount =>
      obtain ⟨run⟩ := withdraw_run hrun
      exact ⟨_, by rw [Instruction.vaultStep?, run.user_role]; rfl⟩
  | liquidate =>
      obtain ⟨run⟩ := liquidate_run hrun
      exact ⟨_, by rw [Instruction.vaultStep?, run.admin_role, run.account_role]; rfl⟩
  | openFeed | setAnswer | setStaleness | openVault | openShareVault | depositUnderlying
  | withdrawUnderlying | setExchangeRate => simp [Instruction.isOperation] at hwrites

end CollateralLending
