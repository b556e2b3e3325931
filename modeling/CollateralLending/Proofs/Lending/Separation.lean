/-
  CollateralLending.Proofs.Lending.Separation

  Vaults do not touch each other. An instruction on a vault changes accounts of
  three kinds only (`LendingProgram.Reach`): those that sign, the accounts of
  this vault, and token accounts of the vault's debt token.

  Which accounts were passed does not matter, although deposits and withdrawals
  do not derive the address of the vault again, and the wallet of a borrow or a
  payback is only known to hold the debt token. A vault is loaded, so it sits at
  the address of its debt token (`Bank.Orderly`); its accounts are derived from
  that address; and no other vault has a debt pool of the same token.
-/
import CollateralLending.Proofs.Lending.Backing
import CollateralLending.Proofs.Lending.DebtPool

namespace CollateralLending

/-! ## Changes within reach -/

namespace Bank

variable {before middle after bank : Bank} {reach : Address → Prop}
variable {source target payer program address : Address}

/-- No account out of reach changed. -/
def Within (reach : Address → Prop) (before after : Bank) : Prop :=
  ∀ a, ¬ reach a → after.get a = before.get a

theorem Within.refl (bank : Bank) : Within reach bank bank := fun _ _ => rfl

theorem Within.trans (h₁ : Within reach before middle) (h₂ : Within reach middle after) :
    Within reach before after := by
  intro a ha
  rw [h₂ a ha, h₁ a ha]

theorem ne_of_reach {a : Address} (ha : ¬ reach a) (haddress : reach address) : a ≠ address := by
  rintro rfl
  exact ha haddress

theorem Paid.within {n : Nat} (h : Paid before after source target n) (hsource : reach source)
    (htarget : reach target) : Within reach before after := fun _ ha =>
  h.get_of_ne (ne_of_reach ha hsource) (ne_of_reach ha htarget)

theorem Made.within {size : Nat} (h : Made before after payer target size program)
    (hpayer : reach payer) (htarget : reach target) : Within reach before after := fun _ ha =>
  h.get_of_ne (ne_of_reach ha hpayer) (ne_of_reach ha htarget)

theorem within_set {account : Account} (h : reach address) :
    Within reach bank (bank.set address account) := fun _ ha =>
  Table.get_set_of_ne (ne_of_reach ha h)

theorem within_write {α : Type} {kind : AccountKind α} (value : α) (h : reach address) :
    Within reach bank (bank.write kind address value) := within_set h

/-- A transfer of tokens changes the two accounts that it is between. -/
theorem within_of_tokenTransfer {signs : Address → Bool} {authority : Address} {amount : Amount}
    (h : Tokens.transfer signs source target authority amount bank = .ok after)
    (hsource : reach source) (htarget : reach target) : Within reach bank after := by
  simp only [Tokens.transfer, bind_eq_ok_iff] at h
  obtain ⟨sender, -, receiver, -, _, -, rest, -, _, -, spent, -, h⟩ := h
  split at h
  · obtain rfl := pure_eq_ok_iff.1 h
    exact .refl _
  · simp only [bind_eq_ok_iff] at h
    obtain ⟨sum, -, h⟩ := h
    -- Wrapped lamports move between the same two accounts.
    have hmove : ∃ moved, Within reach bank moved ∧
        Tokens.put (Tokens.put moved source (.token { spent with amount := rest })) target
          (.token { receiver with amount := sum }) = after := by
      split at h
      · simp only [bind_eq_ok_iff, pure_eq_ok_iff, Tokens.moveLamports, someOr_eq_ok_iff] at h
        obtain ⟨moved, ⟨_, -, _, -, rfl⟩, hafter⟩ := h
        exact ⟨_, (within_set hsource).trans (within_set htarget), hafter⟩
      · simp only [bind_eq_ok_iff, pure_eq_ok_iff] at h
        obtain ⟨_, rfl, hafter⟩ := h
        exact ⟨bank, .refl bank, hafter⟩
    obtain ⟨moved, hmove, rfl⟩ := hmove
    exact hmove.trans ((within_set hsource).trans (within_set htarget))

end Bank

open Bank

/-! ## The accounts of a vault -/

/-- The account of a vault, its pools and its positions. -/
inductive Address.PartOf (home : Address) : Address → Prop where
  | vault : PartOf home home
  | debtPool : PartOf home (.debtVault home)
  | collateral : PartOf home (.collateral home)
  | position (owner : Address) : PartOf home (.position home owner)

/-- An account is part of one vault only. -/
theorem Address.PartOf.eq {a first second : Address} (h₁ : PartOf (.vault first) a)
    (h₂ : PartOf (.vault second) a) : first = second := by
  cases h₁ <;> cases h₂ <;> rfl

theorem Address.PartOf.isDerived {a debtMint : Address} (h : PartOf (.vault debtMint) a) :
    a.isDerived = true := by
  cases h <;> rfl

variable {call : Call} {amount : Amount} {s t : Session}

namespace LendingProgram

/-- What an instruction on a vault may change. -/
inductive Reach (call : Call) (bank : Bank) (home : Address) : Address → Prop where
  | signer {a : Address} (signs : call.signs a = true) : Reach call bank home a
  | part {a : Address} (part : Address.PartOf home a) : Reach call bank home a
  | wallet {a : Address} {tokens : TokenAccount} {vault : Vault Address Bump}
      (loads : AccountKind.token.load (bank.get a) = .ok tokens)
      (vault_loads : AccountKind.vault.load (bank.get home) = .ok vault)
      (mint : tokens.mint = vault.debtMint) :
      Reach call bank home a

/-! ### Every instruction -/

variable {reach : Address → Prop} {user home : Address} {bank opened : Bank}
variable {position : UserPosition Address Bump}

theorem Opens.within (h : Opens call user home bank opened position) (huser : reach user)
    (hposition : reach (.position home user)) : Within reach bank opened := by
  cases h with
  | fresh made => exact (made_of_establish made).within huser hposition
  | known loads => exact .refl bank

/-- An operation reaches no further than its caller, its vault, and what it is called with. -/
theorem Visit.within (visit : Visit call s t)
    (hmoves : Within (Reach call s.bank visit.home) visit.opened visit.moved) :
    Within (Reach call s.bank visit.home) s.bank t.bank := by
  have hposition : Reach call s.bank visit.home (.position visit.home visit.user) :=
    .part (.position visit.user)
  have hopens := visit.opens.within (.signer visit.signs) hposition
  rw [show t.bank = _ from congrArg Session.bank visit.ends]
  exact hopens.trans (hmoves.trans
    ((within_write _ (.part .vault)).trans (within_write _ hposition)))

theorem DepositRun.within (run : DepositRun call amount s t) :
    Within (Reach call s.bank run.home) s.bank t.bank :=
  run.toVisit.within ((paid_of_transfer run.pays).2.2.within (.signer run.signs)
    (.part .collateral))

theorem WithdrawRun.within (run : WithdrawRun call amount s t) :
    Within (Reach call s.bank run.home) s.bank t.bank :=
  run.toVisit.within ((paid_of_transfer run.pays).2.2.within (.part .collateral)
    (.signer run.signs))

theorem DebtVisit.reach_wallet (visit : DebtVisit call s t) :
    Reach call s.bank visit.home visit.wallet :=
  .wallet visit.wallet_loads visit.loads visit.wallet_mint

theorem BorrowRun.within (run : BorrowRun call amount s t) :
    Within (Reach call s.bank run.home) s.bank t.bank :=
  run.toVisit.within (within_of_tokenTransfer run.pays (.part .debtPool) run.reach_wallet)

theorem PaybackRun.within (run : PaybackRun call amount s t) :
    Within (Reach call s.bank run.home) s.bank t.bank :=
  run.toVisit.within (within_of_tokenTransfer run.pays run.reach_wallet (.part .debtPool))

theorem LiquidateRun.within (run : LiquidateRun call s t) :
    Within (Reach call s.bank run.home) s.bank t.bank := by
  rw [show t.bank = _ from congrArg Session.bank run.ends]
  exact (within_write _ (.part .vault)).trans (within_write _ (.part (.position run.owner)))

theorem OpenVaultRun.within (run : OpenVaultRun call s t) :
    Within (Reach call s.bank (.vault run.debtMint)) s.bank t.bank := by
  have hadmin : Reach call s.bank (.vault run.debtMint) run.admin := .signer run.signs
  have hmade := (made_of_establish run.makes).within hadmin (.part .vault)
  have hpooled := (made_of_establish run.makes_pool).within hadmin (.part .debtPool)
  have hreserved := (paid_of_reserves run.reserves).within hadmin (.part .collateral)
  rw [show t.bank = _ from congrArg Session.bank run.ends]
  exact hmade.trans (hpooled.trans ((within_set (.part .debtPool)).trans
    (hreserved.trans (within_write _ (.part .vault)))))

/-- Every instruction of the lending program is on one vault, and changes what it may change. -/
theorem within_of_run {instruction : Instruction} (hprogram : instruction.program = .lendingProgram)
    (horderly : s.bank.Orderly) (h : Tx.Yields (instruction.run call) s () t) :
    ∃ debtMint, call.address? .vault = some (.vault debtMint) ∧
      Within (Reach call s.bank (.vault debtMint)) s.bank t.bank := by
  -- A vault that is loaded sits at the address of its token.
  have hloaded : ∀ {home : Address} {vault : Vault Address Bump},
      call.address? .vault = some home → AccountKind.vault.load (s.bank.get home) = .ok vault →
      Within (Reach call s.bank home) s.bank t.bank →
      ∃ debtMint, call.address? .vault = some (.vault debtMint) ∧
        Within (Reach call s.bank (.vault debtMint)) s.bank t.bank := by
    intro home vault hrole hload hwithin
    have hhome := (horderly.vaults home vault (find?_of_load hload)).home_eq
    rw [hhome] at hrole hwithin
    exact ⟨vault.debtMint, hrole, hwithin⟩
  cases instruction with
  | openVault =>
      obtain ⟨run⟩ := openVault_run h
      exact ⟨run.debtMint, run.vault_role, run.within⟩
  | deposit amount =>
      obtain ⟨run⟩ := deposit_run h
      exact hloaded run.vault_role run.loads run.within
  | borrow amount =>
      obtain ⟨run⟩ := borrow_run h
      exact hloaded run.vault_role run.loads run.within
  | payback amount =>
      obtain ⟨run⟩ := payback_run h
      exact hloaded run.vault_role run.loads run.within
  | withdraw amount =>
      obtain ⟨run⟩ := withdraw_run h
      exact hloaded run.vault_role run.loads run.within
  | liquidate =>
      obtain ⟨run⟩ := liquidate_run h
      exact hloaded run.vault_role run.loads run.within
  | openFeed _ | setAnswer _ | setStaleness _ | openShareVault _ | depositUnderlying _
  | withdrawUnderlying _ | setExchangeRate _ => cases hprogram

/-- An account of one vault is in reach of an instruction on another one only where it could pass
for a wallet of the other one's token. -/
theorem Reach.debtMint_eq {a first second : Address} (h : Reach call bank (.vault first) a)
    (horderly : bank.Orderly) (hkeys : call.KeysSign) (hpart : Address.PartOf (.vault second) a)
    (hmint : ∀ tokens, AccountKind.token.load (bank.get a) = .ok tokens → tokens.mint = second) :
    first = second := by
  cases h with
  | signer signs =>
      have hkey := hkeys a signs
      rw [hpart.isDerived] at hkey
      cases hkey
  | part part => exact part.eq hpart
  | @wallet tokens vault loads vault_loads mint =>
      have hhome := (horderly.vaults _ vault (find?_of_load vault_loads)).home_eq
      calc first = vault.debtMint := Address.vault.inj hhome
        _ = tokens.mint := mint.symm
        _ = second := hmint tokens loads

end LendingProgram

/-! ## Other vaults -/

/-- A vault, its positions and its pools are as they were. -/
structure Bank.LeavesVault (before after : Bank) (home : Address) (vault : Vault Address Bump) :
    Prop where
  account : after.get home = before.get home
  positions : ∀ a position, before.find? .position a = some position → position.vault = home →
    after.get a = before.get a
  /-- No position was opened. -/
  unopened : ∀ a position, after.find? .position a = some position → position.vault = home →
    before.find? .position a = some position
  collateral : after.get vault.collateralVault = before.get vault.collateralVault
  debt : after.get vault.debtVault = before.get vault.debtVault

variable {before after : Bank} {instruction : Instruction}

/-- Only the vault that the instruction is on gets positions. -/
theorem Effect.find?_position_of_ne (h : Effect call before after instruction) {home a : Address}
    {position : UserPosition Address Bump} (hhome : call.address? .vault ≠ some home)
    (hposition : after.find? .position a = some position) (hvault : position.vault = home) :
    before.find? .position a = some position := by
  have hposted : ∀ {place owner : Address} {vault next : Vault Address Bump} {record : Record},
      call.address? .vault = some place → Posting before after place owner vault next record →
      before.find? .position a = some position := by
    intro place owner vault next record hrole hposting
    by_cases ha : a = .position place owner
    · rw [ha, hposting.position_after] at hposition
      cases hposition
      exact absurd (hvault ▸ hrole) hhome
    · rw [← hposting.positions a ha]
      exact hposition
  cases h with
  | aside other aside =>
      rw [← aside.books.positions]
      exact hposition
  | opens role signs opening pool =>
      rw [← opening.positions]
      exact hposition
  | operates operation role user_role signs tracks posting pool => exact hposted role posting
  | liquidates role signs feed_loads quotes uncovered tracks seizes posting pools =>
      exact hposted role posting

namespace LendingProgram

variable {first second a : Address}

/-- An instruction on one vault leaves the accounts of another one, unless they could pass for
wallets of its token. -/
theorem get_of_part (h : Within (Reach call s.bank (.vault first)) s.bank t.bank)
    (horderly : s.bank.Orderly) (hkeys : call.KeysSign) (hne : first ≠ second)
    (hpart : Address.PartOf (.vault second) a)
    (hmint : ∀ tokens, AccountKind.token.load (s.bank.get a) = .ok tokens → tokens.mint = second) :
    t.bank.get a = s.bank.get a :=
  h a fun hreach => hne (hreach.debtMint_eq horderly hkeys hpart hmint)

/-- What the token program does not own is no wallet. -/
theorem get_of_part_of_owner (h : Within (Reach call s.bank (.vault first)) s.bank t.bank)
    (horderly : s.bank.Orderly) (hkeys : call.KeysSign) (hne : first ≠ second)
    (hpart : Address.PartOf (.vault second) a) (howner : (s.bank.get a).owner ≠ .tokenProgram) :
    t.bank.get a = s.bank.get a := by
  refine get_of_part h horderly hkeys hne hpart ?_
  intro tokens hload
  exact absurd (AccountKind.owner_of_load hload) howner

end LendingProgram

/-- A lending instruction leaves alone every vault but the one it is called with. -/
theorem leavesVault_of_run (hprogram : instruction.program = .lendingProgram)
    (h : Tx.Yields (instruction.run call) s () t) (horderly : s.bank.Orderly)
    (hkeys : call.KeysSign) (hidle : s.bank.IdlePools) (hpools : s.bank.HasPools) :
    ∃ home, call.address? .vault = some home ∧
      ∀ other vault, s.bank.find? .vault other = some vault → other ≠ home →
        s.bank.LeavesVault t.bank other vault := by
  obtain ⟨debtMint, hrole, hwithin⟩ := LendingProgram.within_of_run hprogram horderly h
  refine ⟨.vault debtMint, hrole, ?_⟩
  intro other vault hvault hother
  have hseat := horderly.vaults other vault hvault
  obtain rfl := hseat.home_eq
  have hmint : debtMint ≠ vault.debtMint := by
    rintro rfl
    exact hother rfl
  have hkept : ∀ {a : Address}, Address.PartOf (.vault vault.debtMint) a →
      (s.bank.get a).owner ≠ .tokenProgram → t.bank.get a = s.bank.get a :=
    LendingProgram.get_of_part_of_owner hwithin horderly hkeys hmint
  constructor
  case account =>
    refine hkept .vault ?_
    rw [owner_of_find? AccountKind.vault_lawful hvault]
    decide
  case positions =>
    intro a position hposition hhome
    obtain ⟨haddress, -, -⟩ := horderly.positions a position hposition
    rw [hhome] at haddress
    refine hkept (haddress ▸ .position position.owner) ?_
    rw [owner_of_find? AccountKind.position_lawful hposition]
    decide
  case unopened =>
    intro a position hposition hhome
    refine (effect_of_run horderly h).find?_position_of_ne ?_ hposition hhome
    rw [hrole]
    rintro ⟨⟩
    exact hmint rfl
  case collateral =>
    rw [hseat.collateralVault]
    refine hkept .collateral ?_
    rw [(hidle _).1]
    decide
  case debt =>
    -- The debt pool could be a wallet, but it holds the token of its own vault.
    rw [hseat.debtVault]
    obtain ⟨pool, hpool⟩ := hpools _ vault hvault
    refine LendingProgram.get_of_part hwithin horderly hkeys hmint .debtPool ?_
    intro tokens hload
    rw [AccountKind.eq_of_token_load hpool.data hload]
    exact hpool.mint

/-- In every reached state, an instruction of the lending program that goes through is on one vault:
every other vault keeps its account, its positions, and its two pools, whatever accounts were
passed. -/
theorem other_vaults_are_untouched {start chain : Chain} {moves : List Move}
    (hfresh : start.bank.Fresh) (run : Chain.Run start moves chain)
    (hkeys : ∀ move ∈ moves, move.KeysSign) {passed : Passed}
    (hprogram : instruction.program = .lendingProgram)
    (hsigns : (Move.transact instruction passed).KeysSign)
    (haccepts : chain.Accepts instruction passed) :
    ∃ home, (chain.callOf instruction passed).address? .vault = some home ∧
      ∀ other vault, chain.bank.find? .vault other = some vault → other ≠ home →
        chain.bank.LeavesVault (chain.after (.transact instruction passed)).bank other vault := by
  obtain ⟨t, hyields, hafter⟩ := Chain.yields_of_accepts haccepts
  have hidle := (backed_of_run hfresh run hkeys).idle
  have hpools := hasPools_of_chain_run hfresh run hkeys
  rw [hafter]
  exact leavesVault_of_run hprogram hyields (orderly_of_run hfresh run) (hsigns chain) hidle hpools

/-! ### Two vaults

After the first deposit the admin opens a vault for another token, and the user deposits there as
well. -/

namespace TwoVaults

def debtMint : Address := FirstDeposit.key 4

def home : Address := .vault debtMint

def start : Chain :=
  FirstDeposit.start.forge debtMint (.holding (.mint ⟨none, .zero, 9⟩) none none)

def openSecond : Move :=
  .transact .openVault
    ⟨[(.admin, FirstDeposit.admin), (.vault, home), (.debtMint, debtMint),
      (.debtVault, .debtVault home), (.collateralVault, .collateral home),
      (.priceFeed, .feed FirstDeposit.admin .zero), (.tokenProgram, .tokenProgram),
      (.systemProgram, .systemProgram), (.rent, .rentSysvar)], [], []⟩

def moves : List Move :=
  [FirstDeposit.openFeed, FirstDeposit.openVault, FirstDeposit.deposit, openSecond]

def reached : Chain := moves.foldl Chain.after start

/-- The user passes its accounts of the second vault. -/
def passed : Passed :=
  ⟨[(.user, FirstDeposit.user), (.vault, home), (.position, .position home FirstDeposit.user),
    (.collateralVault, .collateral home), (.systemProgram, .systemProgram)], [], []⟩

theorem start_fresh : start.bank.Fresh := .forge FirstDeposit.start_fresh rfl rfl

theorem reached_run : start.Run moves reached :=
  Chain.Run.extend .nil moves fun move hmove _ => by
    simp only [moves, List.mem_cons, List.not_mem_nil, or_false] at hmove
    rcases hmove with rfl | rfl | rfl | rfl <;> trivial

theorem keysSign : ∀ move ∈ moves, move.KeysSign := by
  simp only [moves, List.mem_cons, List.not_mem_nil, or_false, forall_eq_or_imp, forall_eq]
  exact ⟨Move.keysSign_of_passed (by decide), Move.keysSign_of_passed (by decide),
    Move.keysSign_of_passed (by decide), Move.keysSign_of_passed (by decide)⟩

theorem find?_vault : reached.bank.find? .vault FirstDeposit.home = some FirstDeposit.vault := by
  decide +kernel

end TwoVaults

/-- A deposit in the second vault leaves the first one alone, and the position in it. -/
theorem first_vault_is_untouched :
    FirstDeposit.home ≠ TwoVaults.home ∧
      TwoVaults.reached.Accepts (.deposit ⟨500, by decide⟩) TwoVaults.passed ∧
      TwoVaults.reached.bank.LeavesVault
        (TwoVaults.reached.after (.transact (.deposit ⟨500, by decide⟩) TwoVaults.passed)).bank
        FirstDeposit.home FirstDeposit.vault := by
  have hne : FirstDeposit.home ≠ TwoVaults.home := by decide
  have haccepts : TwoVaults.reached.Accepts (.deposit ⟨500, by decide⟩) TwoVaults.passed :=
    Chain.accepts_of_isOk (by decide +kernel)
  obtain ⟨home, hrole, hleaves⟩ := other_vaults_are_untouched TwoVaults.start_fresh
    TwoVaults.reached_run TwoVaults.keysSign rfl (Move.keysSign_of_passed (by decide)) haccepts
  obtain rfl : TwoVaults.home = home := Option.some.inj (.trans (by decide +kernel) hrole)
  exact ⟨hne, haccepts, hleaves _ _ TwoVaults.find?_vault hne⟩

end CollateralLending
