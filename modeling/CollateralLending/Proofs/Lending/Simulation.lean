/-
  CollateralLending.Proofs.Lending.Simulation

  The lending vault over a ledger previews the vault on chain: in runs of both
  side by side (`Shadow`) it stays a mirror, keeps the same totals and announces
  the same events.

  Main statement: `ledger_vault_simulates`.
-/
import CollateralLending.Proofs.Lending.Mirrors

namespace CollateralLending

open Bank

/-! ## Runs side by side -/

/-- A transaction on the vault goes through, and stands for the step. -/
structure Chain.Operates (chain : Chain) (instruction : Instruction) (passed : Passed)
    (home : Address) (step : VaultStep Address) (receipt : Receipt) : Prop where
  accepted : (chain.execute instruction passed).2 = .ok receipt
  role : (chain.callOf instruction passed).address? .vault = some home
  step_eq : instruction.vaultStep? (chain.callOf instruction passed) = some step

/-- A step of a lending vault that is no operation: a token is used, or the oracle changes. -/
def VaultStep.isAside {K : Type} : VaultStep K → Bool
  | collateral _ | debt _ | oracle _ => true
  | deposit .. | borrow .. | payback .. | withdraw .. | liquidate .. => false

/-- A run of the chain with a run of a lending vault beside it. Operations on the vault are made in
both, with the mirror reading the vault's feed and its tokens ready to be moved; each goes its own
way otherwise. The events are those of the operations. -/
inductive Shadow (home : Address) (chain : Chain) (mirror : LedgerVault Address) :
    List (Event Address) → Chain → LedgerVault Address → Prop where
  | start : Shadow home chain mirror [] chain mirror
  | aside {events : List (Event Address)} {later : Chain} {moved : LedgerVault Address}
      (shadow : Shadow home chain mirror events later moved) (step : VaultStep Address)
      (aside : step.isAside = true) :
      Shadow home chain mirror events later (moved.step step).vault
  | elsewhere {events : List (Event Address)} {later : Chain} {moved : LedgerVault Address}
      (shadow : Shadow home chain mirror events later moved) (move : Move)
      (allowed : move.Allowed later)
      (elsewhere : ∀ instruction passed step receipt, move = .transact instruction passed →
        ¬ later.Operates instruction passed home step receipt) :
      Shadow home chain mirror events (later.after move) moved
  | operates {events : List (Event Address)} {later : Chain} {moved : LedgerVault Address}
      (shadow : Shadow home chain mirror events later moved)
      {instruction : Instruction} {passed : Passed} {step : VaultStep Address} {receipt : Receipt}
      (operates : later.Operates instruction passed home step receipt)
      (reads : ∀ vault, later.bank.find? .vault home = some vault →
        moved.Reads later.bank later.now vault)
      (transfer : moved.transfer step = .ok ()) :
      Shadow home chain mirror (events ++ receipt.events)
        (later.after (.transact instruction passed)) (moved.step step).vault

section

variable {start chain later : Chain} {home : Address} {vault : Vault Address Bump}
variable {mirror moved : LedgerVault Address} {events : List (Event Address)} {moves : List Move}

theorem Shadow.exists_run (shadow : Shadow home chain mirror events later moved)
    (run : Chain.Run start moves chain) : ∃ moves, Chain.Run start moves later := by
  induction shadow with
  | start => exact ⟨moves, run⟩
  | aside shadow step aside ih => exact ih
  | elsewhere shadow move allowed elsewhere ih =>
      obtain ⟨moves, ih⟩ := ih
      exact ⟨_, ih.snoc move allowed⟩
  | operates shadow operates reads transfer ih =>
      obtain ⟨moves, ih⟩ := ih
      exact ⟨_, ih.snoc _ trivial⟩

/-- A step aside changes neither records nor events. -/
theorem LedgerVault.Mirrors.step_aside {bank : Bank} (h : mirror.Mirrors bank home vault)
    {step : VaultStep Address} (haside : step.isAside = true) :
    (mirror.step step).vault.Mirrors bank home vault ∧
      (mirror.step step).vault.events = mirror.events := by
  cases step with
  | collateral step => exact ⟨⟨h.found, h.admin, h.records⟩, rfl⟩
  | debt step => exact ⟨⟨h.found, h.admin, h.records⟩, rfl⟩
  | oracle next => exact ⟨⟨h.found, h.admin, h.records⟩, rfl⟩
  | deposit | borrow | payback | withdraw | liquidate => cases haside

/-- What happens elsewhere leaves the mirror one. -/
theorem LedgerVault.Mirrors.after_elsewhere (h : mirror.Mirrors chain.bank home vault)
    (horderly : chain.bank.Orderly) {move : Move} (hallowed : move.Allowed chain)
    (helsewhere : ∀ instruction passed step receipt, move = .transact instruction passed →
      ¬ chain.Operates instruction passed home step receipt) :
    mirror.Mirrors (chain.after move).bank home vault := by
  have hsame : ∀ {after : Bank}, SameBooks chain.bank after → mirror.Mirrors after home vault :=
    fun hbooks => h.of_same (hbooks.vaults home) fun owner => hbooks.record home owner
  -- A posting is made elsewhere when it is made to another vault.
  have hother : ∀ {after : Bank} {place owner : Address} {old next : Vault Address Bump}
      {new : Record}, home ≠ place → Posting chain.bank after place owner old next new →
      mirror.Mirrors after home vault := by
    intro after place owner old next new hne posting
    refine h.of_same (posting.vaults home hne) fun a => ?_
    rw [posting.record, if_neg fun both => hne both.1]
  cases move with
  | outside bank => exact hsame (Outside.paidIn hallowed).books
  | clock now => exact hsame (.refl chain.bank)
  | transact instruction passed =>
      rcases chain.execute_cases instruction passed with
        ⟨hfail, -⟩ | ⟨t, hrun, hafter, changed, hreceipt⟩
      · rw [hfail]
        exact h
      · have hne : ∀ place, (chain.callOf instruction passed).address? .vault = some place →
            (instruction.isOperation = true ∨ instruction = .liquidate) → home ≠ place := by
          rintro place hrole hwrites rfl
          obtain ⟨step, hstep⟩ := exists_vaultStep hrun hwrites
          exact helsewhere instruction passed step _ rfl ⟨hreceipt, hrole, hstep⟩
        rw [hafter]
        cases effect_of_run horderly hrun with
        | aside other aside => exact hsame aside.books
        | opens role signs opening pool =>
            refine h.of_same (opening.vaults home ?_) fun owner => ?_
            · -- The vault opens where there was none.
              rintro rfl
              have hfree := opening.free
              rw [h.found] at hfree
              cases hfree
            · unfold Bank.record
              rw [opening.positions]
        | operates operation role user_role signs tracks posting pool =>
            exact hother (hne _ role (.inl operation)) posting
        | liquidates role signs feed_loads quotes uncovered tracks seizes posting pools =>
            exact hother (hne _ role (.inr rfl)) posting

/-- An operation on chain is echoed by every mirror that is ready for it. -/
theorem LedgerVault.Mirrors.echoes_of_operates (h : mirror.Mirrors chain.bank home vault)
    (horderly : chain.bank.Orderly) {instruction : Instruction} {passed : Passed}
    {step : VaultStep Address} {receipt : Receipt}
    (hoperates : chain.Operates instruction passed home step receipt)
    (hreads : mirror.Reads chain.bank chain.now vault) (htransfer : mirror.transfer step = .ok ()) :
    ∃ event, receipt.events = [.lending event] ∧
      mirror.Echoes step (chain.after (.transact instruction passed)).bank home event := by
  obtain ⟨haccepted, hrole, hstep⟩ := hoperates
  rcases chain.execute_cases instruction passed with ⟨-, hfail⟩ |
    ⟨t, hrun, hafter, changed, hreceipt⟩
  · exact absurd ⟨receipt, haccepted⟩ hfail
  · obtain ⟨event, hevent, hecho⟩ := echoes_of_run horderly hrun hrole hstep h hreads htransfer
    have hsame : receipt = ⟨t.events, t.log, changed⟩ :=
      Except.ok.inj (haccepted.symm.trans hreceipt)
    refine ⟨event, ?_, ?_⟩
    · rw [hsame]
      exact hevent
    · rw [hafter]
      exact hecho

/-- A mirror has the totals of its vault, because both are sums over the same records. -/
theorem LedgerVault.Mirrors.tallies (h : mirror.Mirrors chain.bank home vault)
    (hfresh : start.bank.Fresh) (run : Chain.Run start moves chain) : mirror.Tallies vault := by
  have horderly := orderly_of_run hfresh run
  obtain ⟨hdeposited, hborrowed⟩ := totals_eq_sums hfresh run h.found
  refine ⟨?_, ?_⟩
  · rw [hdeposited, ← h.sum_eq horderly rfl]
    rfl
  · rw [hborrowed, ← h.sum_eq horderly rfl]
    rfl

/-- All along a shadow the lending vault is a mirror and has announced what the chain emitted. -/
theorem Shadow.mirrors (shadow : Shadow home chain mirror events later moved)
    (hfresh : start.bank.Fresh) (run : Chain.Run start moves chain)
    (h : mirror.Mirrors chain.bank home vault) :
    (∃ announced, events = announced.map .lending ∧ moved.events = mirror.events ++ announced) ∧
      ∃ next, moved.Mirrors later.bank home next := by
  induction shadow with
  | start => exact ⟨⟨[], rfl, (List.append_nil _).symm⟩, vault, h⟩
  | aside shadow step aside ih =>
      obtain ⟨⟨announced, hevents, hannounced⟩, next, hnext⟩ := ih
      obtain ⟨hmirrors, hsame⟩ := hnext.step_aside aside
      exact ⟨⟨announced, hevents, hsame.trans hannounced⟩, next, hmirrors⟩
  | elsewhere shadow move allowed elsewhere ih =>
      obtain ⟨hannounced, next, hnext⟩ := ih
      obtain ⟨moves, hrun⟩ := shadow.exists_run run
      exact ⟨hannounced, next, hnext.after_elsewhere (orderly_of_run hfresh hrun) allowed elsewhere⟩
  | operates shadow operates reads transfer ih =>
      obtain ⟨⟨announced, rfl, hannounced⟩, next, hnext⟩ := ih
      obtain ⟨moves, hrun⟩ := shadow.exists_run run
      obtain ⟨event, hevent, hecho⟩ := hnext.echoes_of_operates
        (orderly_of_run hfresh hrun) operates (reads next hnext.found) transfer
      refine ⟨⟨announced ++ [event], ?_, ?_⟩, hecho.mirrors⟩
      · rw [hevent, List.map_append]
        rfl
      · rw [hecho.events, hannounced, List.append_assoc]

/-- A lending vault that mirrors a vault on chain simulates it. At every point of runs side by side
it has the records and the totals of the vault and has announced the same events; and an operation
that goes through on chain goes through in it, with the one event that the transaction emits, and
leads to such a point again. -/
theorem ledger_vault_simulates (hfresh : start.bank.Fresh) (run : Chain.Run start moves chain)
    (h : mirror.Mirrors chain.bank home vault)
    (shadow : Shadow home chain mirror events later moved) :
    (∃ announced, events = announced.map .lending ∧ moved.events = mirror.events ++ announced) ∧
      ∃ current, moved.Mirrors later.bank home current ∧ moved.Tallies current ∧
        ∀ instruction passed step receipt, later.Operates instruction passed home step receipt →
          moved.Reads later.bank later.now current → moved.transfer step = .ok () →
          (moved.step step).result = .ok () ∧
          (∃ event, receipt.events = [.lending event] ∧
            (moved.step step).vault.events = moved.events ++ [event]) ∧
          ∃ next, (moved.step step).vault.Mirrors
              (later.after (.transact instruction passed)).bank home next ∧
            (moved.step step).vault.Tallies next := by
  obtain ⟨hannounced, current, hcurrent⟩ := shadow.mirrors hfresh run h
  obtain ⟨moves, hrun⟩ := shadow.exists_run run
  refine ⟨hannounced, current, hcurrent, hcurrent.tallies hfresh hrun, ?_⟩
  intro instruction passed step receipt hoperates hreads htransfer
  obtain ⟨event, hevent, hecho⟩ :=
    hcurrent.echoes_of_operates (orderly_of_run hfresh hrun) hoperates hreads htransfer
  obtain ⟨next, hnext⟩ := hecho.mirrors
  have hafter : Chain.Run start _ (later.after (.transact instruction passed)) :=
    hrun.snoc _ trivial
  exact ⟨hecho.result, ⟨event, hevent, hecho.events⟩, next, hnext, hnext.tallies hfresh hafter⟩

/-- A vault with nothing deposited and nothing owed is mirrored by a new lending vault. -/
theorem LedgerVault.mirrors_new (hfresh : start.bank.Fresh) (run : Chain.Run start moves chain)
    (hvault : chain.bank.find? .vault home = some vault) (htotals : vault.totals = ⟨.zero, .zero⟩)
    (address : Address) (collateral debt : TokenLedger Address) (oracle : Oracle) :
    (LedgerVault.new address vault.admin collateral debt oracle).Mirrors chain.bank home vault := by
  refine ⟨hvault, rfl, fun owner => ?_⟩
  show Record.zero = chain.bank.record home owner
  -- No position has more than all of them have.
  have horderly := orderly_of_run hfresh run
  obtain ⟨hdeposited, hborrowed⟩ := totals_eq_sums hfresh run hvault
  rw [htotals] at hdeposited hborrowed
  have hdeposit := horderly.measure_le_sumOver (fun record => record.deposited.toNat) rfl home owner
  have hdebt := horderly.measure_le_sumOver (fun record => record.debt.toNat) rfl home owner
  rw [← hdeposited] at hdeposit
  rw [← hborrowed] at hdebt
  ext
  · exact (Nat.le_zero.1 hdeposit).symm
  · exact (Nat.le_zero.1 hdebt).symm

end

namespace FirstDeposit

/-- A lending vault for the vault that was opened. -/
def mirror : LedgerVault Address :=
  .new (key 9) admin .empty .empty (.answers ⟨⟨.units 2, 0⟩, false⟩)

/-- It gets ready for the deposit: the user is given the collateral. -/
def ready : LedgerVault Address := (mirror.step (.collateral (.mint user (.units 1000)))).vault

def simulated : LedgerVault Address := (ready.step (.deposit user (.units 1000))).vault

theorem find?_feed : opened.bank.find? .feed (.feed admin .zero) =
    some ⟨admin, .zero, ⟨⟨.units 2, 0⟩, false, .zero, .zero⟩, .canonical⟩ := by decide +kernel

theorem ready_transfer : ready.transfer (.deposit user (.units 1000)) = .ok () := by
  decide +kernel

end FirstDeposit

open FirstDeposit in
theorem first_deposit_is_simulated :
    ∃ instruction passed receipt,
      deposit = .transact instruction passed ∧
      (opened.execute instruction passed).2 = .ok receipt ∧
      simulated.events.map .lending = receipt.events ∧
      simulated.Mirrors reached.bank home vault ∧ simulated.Tallies vault := by
  have hmirrors : mirror.Mirrors opened.bank home
      (LendingProgram.openedVault admin debtMint (.feed admin .zero)) :=
    LedgerVault.mirrors_new start_fresh opened_run find?_openedVault rfl _ _ _ _
  obtain ⟨instruction, passed, hdeposit, receipt, hreceipt⟩ := deposit_accepted
  refine ⟨instruction, passed, receipt, hdeposit, hreceipt, ?_⟩
  cases hdeposit
  have hoperates : opened.Operates _ _ home (.deposit user (.units 1000)) receipt :=
    ⟨hreceipt, rfl, rfl⟩
  have hreads : ∀ vault, opened.bank.find? .vault home = some vault →
      ready.Reads opened.bank opened.now vault := by
    intro vault hvault feed hfeed
    rw [find?_openedVault] at hvault
    cases hvault
    cases hfeed.symm.trans find?_feed
    rfl
  have hshadow : Shadow home opened mirror receipt.events reached simulated :=
    .operates (.aside .start (.collateral (.mint user (.units 1000))) rfl) hoperates hreads
      ready_transfer
  obtain ⟨⟨announced, hevents, hannounced⟩, current, hcurrent, htallies, -⟩ :=
    ledger_vault_simulates start_fresh opened_run hmirrors hshadow
  cases hcurrent.found.symm.trans find?_vault
  refine ⟨?_, hcurrent, htallies⟩
  rw [hannounced, hevents]
  rfl

end CollateralLending
