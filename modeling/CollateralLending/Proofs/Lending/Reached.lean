/-
  CollateralLending.Proofs.Lending.Reached

  The books of every chain that a run reaches. A move is either an instruction
  with its effect, or it leaves the books alone and at most pays lamports into
  pools (`effect_of_move`). So the books of a reached chain are orderly.
-/
import CollateralLending.Proofs.Lending.Effect

namespace CollateralLending

open Bank

variable {call : Call} {before after : Bank} {chain : Chain}

/-- Books stay as they are, and pools lose nothing. -/
structure Bank.PaidIn (before after : Bank) : Prop where
  books : SameBooks before after
  idle : before.IdlePools → after.IdlePools
  pooled : ∀ home, before.pooled home ≤ after.pooled home

theorem Bank.PaidIn.refl (bank : Bank) : PaidIn bank bank where
  books := .refl bank
  idle h := h
  pooled _ := Nat.le_refl _

theorem Bank.Outside.paidIn (h : Outside before after) : PaidIn before after where
  books := h.sameRecords.sameBooks
  idle hidle home := by
    have hgiven := h.given (.collateral home) (.inl rfl)
    obtain ⟨howner, hdata⟩ := hidle home
    refine ⟨hgiven.owner.trans howner, ?_⟩
    rcases hgiven.data.same_or_isTokens with hsame | ⟨htokens, -⟩
    · rw [hsame, hdata]
    · -- An idle pool has no data, so it holds no tokens.
      rw [hdata] at htokens
      cases htokens
  pooled home := (h.given (.collateral home) (.inl rfl)).lamports

/-- What a move of the chain does to the books. -/
theorem effect_of_move (horderly : chain.bank.Orderly) {move : Move}
    (hallowed : move.Allowed chain) :
    PaidIn chain.bank (chain.after move).bank ∨
      ∃ instruction passed, move = .transact instruction passed ∧
        Effect (chain.callOf instruction passed) chain.bank
          (chain.after move).bank instruction := by
  cases move with
  | outside bank => exact .inl hallowed.paidIn
  | clock now => exact .inl (.refl chain.bank)
  | transact instruction passed =>
      rcases chain.execute_cases instruction passed with ⟨hsame, -⟩ | ⟨t, hyields, hafter, -⟩
      · rw [hsame]
        exact .inl (.refl chain.bank)
      · rw [hafter]
        exact .inr ⟨instruction, passed, rfl, effect_of_run horderly hyields⟩

theorem effect_of_accepts (horderly : chain.bank.Orderly) {instruction : Instruction}
    {passed : Passed} (h : chain.Accepts instruction passed) :
    Effect (chain.callOf instruction passed) chain.bank
      (chain.after (.transact instruction passed)).bank instruction := by
  obtain ⟨t, hyields, hafter⟩ := Chain.yields_of_accepts h
  rw [hafter]
  exact effect_of_run horderly hyields

/-! ## Orderly books -/

theorem Vault.Seated.of_same {vault next : Vault Address Bump} {home : Address}
    (h : vault.Seated home) (hnext : next =
      { vault with totals := next.totals, seizedCollateral := next.seizedCollateral }) :
    next.Seated home := by
  rw [hnext]
  exact ⟨h.home_eq, h.debtVault, h.collateralVault, h.bump, h.collateralBump, h.debtVaultBump⟩

/-- Every instruction leaves the books in order. -/
theorem Effect.orderly {instruction : Instruction} (h : Effect call before after instruction)
    (horderly : before.Orderly) : after.Orderly := by
  cases h with
  | aside other aside => exact aside.books.orderly horderly
  | opens role signs opening pool =>
      exact opening.orderly ⟨rfl, rfl, rfl, rfl, rfl, rfl⟩ horderly
  | operates operation role user_role signs tracks posting pool =>
      have hseat := horderly.vaults _ _ posting.vault_before
      exact posting.orderly (hseat.of_same rfl) horderly
  | liquidates role signs feed_loads quotes uncovered tracks seizes posting pools =>
      have hseat := horderly.vaults _ _ posting.vault_before
      exact posting.orderly (hseat.of_same rfl) horderly

/-- A vault is new only when it was opened. -/
theorem Effect.opens_of_new {instruction : Instruction}
    (h : Effect call before after instruction) {home : Address} {vault : Vault Address Bump}
    (hnew : before.find? .vault home = none) (hvault : after.find? .vault home = some vault) :
    instruction = .openVault ∧ call.address? .vault = some home := by
  have hsame : after.find? .vault home ≠ before.find? .vault home := by
    rw [hnew, hvault]
    simp
  cases h with
  | aside other aside => exact absurd (aside.books.vaults home) hsame
  | @opens admin debtMint priceFeed role signs opening pool =>
      by_cases hhome : home = .vault debtMint
      · exact ⟨rfl, hhome ▸ role⟩
      · exact absurd (opening.vaults home hhome) hsame
  | @operates _ place user found totals record operation role user_role signs tracks posting pool =>
      by_cases hhome : home = place
      · rw [hhome, posting.vault_before] at hnew
        cases hnew
      · exact absurd (posting.vaults home hhome) hsame
  | @liquidates place owner found feed quote totals seized role signs feed_loads quotes uncovered
      tracks seizes posting pools =>
      by_cases hhome : home = place
      · rw [hhome, posting.vault_before] at hnew
        cases hnew
      · exact absurd (posting.vaults home hhome) hsame

theorem Bank.Orderly.of_run {start : Chain} {moves : List Move} (horderly : start.bank.Orderly)
    (run : Chain.Run start moves chain) : chain.bank.Orderly := by
  -- The effect of a move is known only over orderly books, so both are carried along together.
  induction run with
  | nil => exact horderly
  | snoc run move allowed ih =>
      rcases effect_of_move ih allowed with hpaid | ⟨instruction, passed, -, heffect⟩
      · exact hpaid.books.orderly ih
      · exact heffect.orderly ih

/-- After any run from a fresh start the books are in order. -/
theorem orderly_of_run {start : Chain} {moves : List Move} (hfresh : start.bank.Fresh)
    (run : Chain.Run start moves chain) : chain.bank.Orderly := hfresh.orderly.of_run run

/-! ## The first deposit in a vault

A run to look at: the admin opens a feed and a vault, and a user makes a deposit. -/

namespace FirstDeposit

def key (byte : UInt8) : Address := .unnamed ⟨List.replicate 32 byte, List.length_replicate⟩

def admin : Address := key 1

def user : Address := key 2

def debtMint : Address := key 3

def home : Address := .vault debtMint

def purse : Account where
  lamports := ⟨1000000000, by decide⟩
  owner := .systemProgram
  data := .empty

def start : Chain :=
  ((Chain.genesis.forge admin purse).forge user purse).forge debtMint
    (.holding (.mint ⟨none, .zero, 6⟩) none none)

/-- A unit of debt is worth two lamports. -/
def openFeed : Move :=
  .transact (.openFeed ⟨.zero, ⟨⟨2, by decide⟩, 0⟩, false, .zero⟩)
    ⟨[(.feed, .feed admin .zero), (.authority, admin), (.systemProgram, .systemProgram)], [], []⟩

def openVault : Move :=
  .transact .openVault
    ⟨[(.admin, admin), (.vault, home), (.debtMint, debtMint), (.debtVault, .debtVault home),
      (.collateralVault, .collateral home), (.priceFeed, .feed admin .zero),
      (.tokenProgram, .tokenProgram), (.systemProgram, .systemProgram), (.rent, .rentSysvar)],
    [], []⟩

def deposit : Move :=
  .transact (.deposit ⟨1000, by decide⟩)
    ⟨[(.user, user), (.vault, home), (.position, .position home user),
      (.collateralVault, .collateral home), (.systemProgram, .systemProgram)], [], []⟩

def opened : Chain := (start.after openFeed).after openVault

def reached : Chain := opened.after deposit

/-- The vault after the deposit. -/
def vault : Vault Address Bump :=
  { LendingProgram.openedVault admin debtMint (.feed admin .zero) with
    totals := ⟨⟨1000, by decide⟩, .zero⟩ }

theorem start_fresh : start.bank.Fresh :=
  .forge (.forge (.forge Chain.genesis_fresh rfl rfl) rfl rfl) rfl rfl

theorem opened_run : start.Run [openFeed, openVault] opened := by
  have hfeed : start.Run [openFeed] (start.after openFeed) := .snoc .nil openFeed trivial
  exact .snoc hfeed openVault trivial

theorem reached_run : start.Run [openFeed, openVault, deposit] reached :=
  .snoc opened_run deposit trivial

theorem keysSign : ∀ move ∈ [openFeed, openVault, deposit], move.KeysSign := by
  simp only [List.mem_cons, List.not_mem_nil, or_false, forall_eq_or_imp, forall_eq]
  exact ⟨Move.keysSign_of_passed (by decide), Move.keysSign_of_passed (by decide),
    Move.keysSign_of_passed (by decide)⟩

theorem find?_openedVault : opened.bank.find? .vault home =
    some (LendingProgram.openedVault admin debtMint (.feed admin .zero)) := by decide +kernel

theorem find?_vault : reached.bank.find? .vault home = some vault := by decide +kernel

theorem record_ne : reached.bank.record home user ≠ opened.bank.record home user := by
  decide +kernel

theorem deposit_accepted :
    ∃ instruction passed, deposit = .transact instruction passed ∧
      opened.Accepts instruction passed := by
  refine ⟨_, _, rfl, Classical.byContradiction fun hrefused => record_ne ?_⟩
  show (opened.after deposit).bank.record home user = opened.bank.record home user
  rw [deposit, Chain.after_eq_of_refused hrefused]

end FirstDeposit

end CollateralLending
