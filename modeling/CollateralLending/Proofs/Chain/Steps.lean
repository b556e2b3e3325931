/-
  CollateralLending.Proofs.Chain.Steps

  The steps that instructions are made of: lamports are paid, accounts are made
  and set up, tokens are moved, minted and burned, and values of account types
  are written. `Bank.Steps asks` are lists of such steps in which only addresses
  with `asks` ask the token program for anything. Share vaults are not written
  in a step; the instructions of the share vault program write theirs last.

  Steps keep the share vaults, the accounts that programs of this library own,
  and for every token as many units held as exist (`Step.conserves`).
-/
import CollateralLending.Proofs.Chain.FeedProgram
import CollateralLending.Proofs.Chain.LendingProgram
import CollateralLending.Proofs.Chain.Records
import CollateralLending.Proofs.Chain.ShareProgram
import CollateralLending.Proofs.Chain.TokenCalls
import Mathlib.Logic.Relation

namespace CollateralLending

/-! ## Contents -/

/-- Content of the token program has bytes. -/
theorem Data.isTokens_eq_false_of_size {data : Data} (h : data.size = 0) :
    data.isTokens = false := by
  cases data with
  | token account => cases h
  | mint mint => cases h
  | raw _ | feed _ _ | vault _ _ | position _ _ | shareVault _ _ => rfl

theorem Data.isTokens_eq_false_of_isRecord {data : Data} (h : data.isRecord = true) :
    data.isTokens = false := by
  cases data <;> first | rfl | cases h

/-- What is built of a value is a record. -/
theorem AccountKind.Lawful.isRecord_build {α : Type} {kind : AccountKind α} (h : kind.Lawful)
    (value : α) (tail : List UInt8) : (kind.build value tail).isRecord = true :=
  h.isRecord_of_read _ _ (h.read_build value tail)

namespace Bank

variable {before middle after bank : Bank} {asks : Address → Prop} {a home : Address}

/-- The account belongs to a program, and its content is nothing of the token program. -/
structure Houses (bank : Bank) (program a : Address) : Prop where
  owner : (bank.get a).owner = program
  plain : (bank.get a).data.isTokens = false

/-- An account that loads houses the program of its type. -/
theorem houses_of_load {α : Type} {kind : AccountKind α} (hkind : kind.Lawful) {value : α}
    (h : kind.load (bank.get a) = .ok value) : bank.Houses kind.program a where
  owner := owner_of_find? hkind (find?_of_load h)
  plain := Data.isTokens_eq_false_of_isRecord (isRecord_of_find? hkind (find?_of_load h))

/-! ## Steps -/

/-- A step of an instruction; `asks` says who may ask the token program. -/
inductive Step (asks : Address → Prop) : Bank → Bank → Prop where
  | pays {before after : Bank} {source target : Address} {n : Nat}
      (paid : Paid before after source target n) : Step asks before after
  | makes {before after : Bank} {payer target program : Address} {size : Nat}
      (made : Made before after payer target size program) : Step asks before after
  | opens {before : Bank} {target : Address} {size : Nat} {data : Data}
      (owner : (before.get target).owner = .tokenProgram)
      (blank : (before.get target).data = .zeros size)
      (supply : data.supply = 0) (units : ∀ token, data.units token = 0) :
      Step asks before (Tokens.put before target data)
  | transfers {before after : Bank} {signs : Address → Bool} {source target authority : Address}
      {amount : Amount} (asked : asks authority)
      (transfer : Tokens.transfer signs source target authority amount before = .ok after) :
      Step asks before after
  | mints {before after : Bank} {signs : Address → Bool} {mint target authority : Address}
      {amount : Amount} (asked : asks authority)
      (minted : Tokens.mintTo signs mint target authority amount before = .ok after) :
      Step asks before after
  | burns {before after : Bank} {signs : Address → Bool} {mint source authority : Address}
      {amount : Amount} (asked : asks authority)
      (burned : Tokens.burn signs mint source authority amount before = .ok after) :
      Step asks before after
  | writes {α : Type} {before : Bank} {kind : AccountKind α} {address : Address} (value : α)
      (lawful : kind.Lawful) (other : kind.program ≠ .shareProgram)
      (houses : before.Houses kind.program address) :
      Step asks before (before.write kind address value)

/-- Steps, one after the other. -/
def Steps (asks : Address → Prop) : Bank → Bank → Prop := Relation.ReflTransGen (Step asks)

theorem Steps.refl (bank : Bank) : Steps asks bank bank := Relation.ReflTransGen.refl

theorem Step.steps (h : Step asks before after) : Steps asks before after :=
  Relation.ReflTransGen.single h

theorem Steps.trans (h₁ : Steps asks before middle) (h₂ : Steps asks middle after) :
    Steps asks before after :=
  Relation.ReflTransGen.trans h₁ h₂

/-- An account that was made for the token program is set up to hold tokens. -/
theorem steps_openAccount {payer target : Address} {size : Nat} (mint owner : Address)
    (made : Made before bank payer target size .tokenProgram) :
    Steps asks bank (Tokens.openAccount target mint owner bank) := by
  refine (Step.opens made.owner made.data rfl fun token => ?_).steps
  simp only [Data.units]
  split <;> rfl

theorem steps_openMint {payer target : Address} {size : Nat} (authority : Address)
    (decimals : UInt8) (made : Made before bank payer target size .tokenProgram) :
    Steps asks bank (Tokens.openMint target authority decimals bank) :=
  (Step.opens made.owner made.data rfl fun _ => rfl).steps

theorem sameFrame_write {α : Type} (bank : Bank) (kind : AccountKind α) (address : Address)
    (value : α) (a : Address) : SameFrame bank (bank.write kind address value) a := by
  constructor
  all_goals
    rw [get_write]
    split
    · rename_i ha
      rw [ha]
      rfl
    · rfl

/-- What a step does to an account that somebody owns. -/
theorem Step.sameFrame (h : Step asks before after)
    (howner : (before.get a).owner ≠ .systemProgram) : SameFrame before after a := by
  -- Only an account of the system program is made anew; all else changes content, not owners.
  cases h with
  | pays paid =>
      constructor
      · exact paid.owner a
      · rw [paid.same a]
  | makes made =>
      have hne : a ≠ _ := fun heq => howner (heq ▸ made.unowned)
      constructor
      · exact made.owner_of_ne hne
      · rw [made.others a hne]
  | opens owner blank supply units => exact sameFrame_put ..
  | transfers asked transfer =>
      obtain ⟨run⟩ := transfer_run transfer
      exact run.frame a
  | mints asked minted =>
      obtain ⟨run⟩ := mint_run minted
      exact run.frame a
  | burns asked burned =>
      obtain ⟨run⟩ := burn_run burned
      exact run.frame a
  | writes value lawful other houses => exact sameFrame_write ..

/-- Accounts that belong to some program keep their owner and stay what they are, program or not. -/
theorem Steps.sameFrame (h : Steps asks before after)
    (howner : (before.get a).owner ≠ .systemProgram) : SameFrame before after a := by
  induction h with
  | refl => exact .refl before a
  | tail steps step ih => exact ih.trans (step.sameFrame (by rw [ih.owner]; exact howner))

/-- Accounts of this library stay what they are. -/
theorem Step.houses {program : Address} (h : Step asks before after)
    (hown : program.isOwnProgram = true) (hhouses : before.Houses program a) :
    after.Houses program a := by
  have howner : (before.get a).owner ≠ .systemProgram := by
    rw [hhouses.owner]
    rintro rfl
    cases hown
  refine ⟨(h.sameFrame howner).owner.trans hhouses.owner, ?_⟩
  have hplain := hhouses.plain
  cases h with
  | pays paid => rw [paid.data, hplain]
  | makes made => rw [made.others a fun heq => howner (heq ▸ made.unowned), hplain]
  | opens owner blank supply units =>
      -- What is set up belongs to the token program, so it is another account.
      rw [data_put, if_neg, hplain]
      rintro rfl
      rw [← hhouses.owner, owner] at hown
      cases hown
  | transfers asked transfer => rw [(retokened_of_transfer transfer).others a hplain, hplain]
  | mints asked minted => rw [(retokened_of_mintTo minted).others a hplain, hplain]
  | burns asked burned => rw [(retokened_of_burn burned).others a hplain, hplain]
  | writes value lawful other houses =>
      rw [get_write]
      split
      · exact Data.isTokens_eq_false_of_isRecord (lawful.isRecord_build _ _)
      · exact hplain

/-- An account that houses a program goes on doing so. -/
theorem Steps.houses {program : Address} (h : Steps asks before after)
    (hown : program.isOwnProgram = true) (hhouses : before.Houses program a) :
    after.Houses program a := by
  induction h with
  | refl => exact hhouses
  | tail steps step ih => exact step.houses hown ih

/-- No step writes a share vault. -/
theorem Step.find?_shareVault (h : Step asks before after) (home : Address) :
    after.find? .shareVault home = before.find? .shareVault home := by
  have hsame : SameRecords before after →
      after.find? .shareVault home = before.find? .shareVault home :=
    fun hsame => hsame.find? AccountKind.shareVault_lawful home
  cases h with
  | pays paid => exact hsame paid.sameRecords
  | makes made => exact hsame made.sameRecords
  | opens owner blank supply units => exact hsame (sameRecords_put owner)
  | transfers asked transfer => exact hsame (retokened_of_transfer transfer).sameRecords
  | mints asked minted => exact hsame (retokened_of_mintTo minted).sameRecords
  | burns asked burned => exact hsame (retokened_of_burn burned).sameRecords
  | writes value lawful other houses =>
      exact find?_write_of_program AccountKind.shareVault_lawful value houses.owner other home

/-- Nor do any number of them. -/
theorem Steps.find?_shareVault (h : Steps asks before after) (home : Address) :
    after.find? .shareVault home = before.find? .shareVault home := by
  induction h with
  | refl => rfl
  | tail steps step ih => rw [step.find?_shareVault, ih]

/-! ## Units of tokens -/

/-- Content that is nothing of the token program counts for no units. -/
theorem conserves_of_plain
    (h : ∀ a, (after.get a).data = (before.get a).data ∨
      ((before.get a).data.isTokens = false ∧ (after.get a).data.isTokens = false)) :
    Conserves before after := by
  apply Conserves.of_data
  intro a
  refine (h a).imp_right ?_
  rintro ⟨hbefore, hafter⟩ token
  rw [Data.units_of_not_isTokens hbefore, Data.units_of_not_isTokens hafter,
    Data.supply_of_not_isTokens hbefore, Data.supply_of_not_isTokens hafter]
  exact ⟨rfl, rfl⟩

/-- A record that is written holds no tokens, and replaces none. -/
theorem conserves_write {α : Type} {kind : AccountKind α} {program address : Address} (value : α)
    (hkind : kind.Lawful) (hhouses : bank.Houses program address) :
    Conserves bank (bank.write kind address value) := by
  apply conserves_of_plain
  intro a
  rw [get_write]
  split
  · rename_i ha
    subst ha
    exact .inr ⟨hhouses.plain, Data.isTokens_eq_false_of_isRecord (hkind.isRecord_build _ _)⟩
  · exact .inl rfl

/-- Whatever the step, units are made and destroyed together with the supply. -/
theorem Step.conserves (h : Step asks before after) : Conserves before after := by
  -- Only what is done to holdings and mints counts; each of the token calls keeps its own balance.
  cases h with
  | pays paid => exact conserves_of_plain fun a => .inl (paid.data a)
  | @makes _ _ _ target _ _ made =>
      apply conserves_of_plain
      intro a
      -- An account that is made was empty, and holds nothing yet.
      by_cases ha : a = target
      · subst ha
        rw [made.data]
        exact .inr ⟨Data.isTokens_eq_false_of_size made.unused, rfl⟩
      · rw [made.others a ha]
        exact .inl rfl
  | opens owner blank supply units =>
      apply Conserves.of_data
      intro a
      rw [data_put]
      split
      · rename_i ha
        subst ha
        refine .inr fun token => ?_
        rw [blank, units, supply]
        exact ⟨rfl, rfl⟩
      · exact .inl rfl
  | transfers asked transfer =>
      obtain ⟨run⟩ := transfer_run transfer
      exact run.conserves
  | mints asked minted =>
      obtain ⟨run⟩ := mint_run minted
      exact run.conserves
  | burns asked burned =>
      obtain ⟨run⟩ := burn_run burned
      exact run.conserves
  | writes value lawful other houses => exact conserves_write value lawful houses

/-- The same for any number of steps. -/
theorem Steps.conserves (h : Steps asks before after) : Conserves before after := by
  induction h with
  | refl => exact .refl before
  | tail steps step ih => exact ih.trans step.conserves

end Bank

open Bank

variable {call : Call} {amount : Amount} {s t : Session} {asks : Address → Prop}

/-! ## Instructions of the feed program -/

namespace FeedProgram

/-- Opening a feed makes one account and writes one record. -/
theorem OpenFeedRun.steps {terms : FeedTerms} (run : OpenFeedRun call terms s t) :
    Steps asks s.bank t.bank := by
  have hmade := made_of_establish run.makes
  have hhouses : run.made.Houses .feedProgram (.feed run.authority terms.feedId) :=
    ⟨hmade.owner, by rw [hmade.data]; rfl⟩
  rw [run.ends]
  exact (Step.makes hmade).steps.trans
    (Step.writes _ AccountKind.feed_lawful (by decide) hhouses).steps

/-- Updating a feed writes one record. -/
theorem FeedVisit.steps (visit : FeedVisit call s t) : Steps asks s.bank t.bank := by
  rw [visit.writes]
  exact (Step.writes _ AccountKind.feed_lawful (by decide)
    (houses_of_load AccountKind.feed_lawful visit.loads)).steps

end FeedProgram

/-! ## Instructions of the lending program -/

namespace LendingProgram

variable {user home : Address} {bank opened : Bank} {position : UserPosition Address Bump}

/-- Opening a position is steps in which nobody is asked, and the position belongs to the lending
program. -/
theorem Opens.steps (h : Opens call user home bank opened position) :
    Steps asks bank opened ∧ opened.Houses .lendingProgram (.position home user) := by
  cases h with
  | fresh made =>
      have hmade := made_of_establish made
      exact ⟨(Step.makes hmade).steps, hmade.owner, by rw [hmade.data]; rfl⟩
  | known loads => exact ⟨.refl bank, houses_of_load AccountKind.position_lawful loads⟩

/-- An operation ends with writes to the vault and to the position. -/
theorem Visit.closes {asked : Address → Prop} (visit : Visit call s t)
    (hmoves : Step asked visit.opened visit.moved) : Steps asks visit.moved t.bank := by
  obtain ⟨hopens, hposition⟩ : Steps asks s.bank visit.opened ∧ _ := visit.opens.steps
  have hvault : visit.opened.Houses .lendingProgram visit.home :=
    hopens.houses rfl (houses_of_load AccountKind.vault_lawful visit.loads)
  have hfirst : Step asks visit.moved _ :=
    .writes { visit.vault with totals := visit.totals } AccountKind.vault_lawful (by decide)
      (hmoves.houses rfl hvault)
  have hsecond : Step asks _ _ :=
    .writes { visit.position with record := visit.settlement.next } AccountKind.position_lawful
      (by decide) (hfirst.houses rfl (hmoves.houses rfl hposition))
  rw [show t.bank = _ from congrArg Session.bank visit.ends]
  exact hfirst.steps.trans hsecond.steps

/-- An operation of a user is the steps of opening the position, its transfer, and two writes. -/
theorem Visit.steps (visit : Visit call s t) (hmoves : Step asks visit.opened visit.moved) :
    Steps asks s.bank t.bank :=
  visit.opens.steps.1.trans (hmoves.steps.trans (visit.closes hmoves))

/-- A deposit moves lamports, for which no holder of tokens is asked. -/
theorem DepositRun.steps (run : DepositRun call amount s t) : Steps asks s.bank t.bank :=
  run.toVisit.steps (.pays (paid_of_transfer run.pays).2.2)

/-- Nor is one asked for a withdrawal. -/
theorem WithdrawRun.steps (run : WithdrawRun call amount s t) : Steps asks s.bank t.bank :=
  run.toVisit.steps (.pays (paid_of_transfer run.pays).2.2)

/-- A vault asks for what it lends. -/
theorem BorrowRun.steps (run : BorrowRun call amount s t) (hasks : asks run.home) :
    Steps asks s.bank t.bank :=
  run.toVisit.steps (.transfers hasks run.pays)

/-- For a payback the user is asked, who pays. -/
theorem PaybackRun.steps (run : PaybackRun call amount s t) (hasks : asks run.user) :
    Steps asks s.bank t.bank :=
  run.toVisit.steps (.transfers hasks run.pays)

/-- A liquidation moves nothing at all. -/
theorem LiquidateRun.steps (run : LiquidateRun call s t) : Steps asks s.bank t.bank := by
  have hfirst : Step asks s.bank _ :=
    .writes { run.vault with totals := run.totals, seizedCollateral := run.seized }
      AccountKind.vault_lawful (by decide) (houses_of_load AccountKind.vault_lawful run.loads)
  have hsecond : Step asks _ _ :=
    .writes { run.position with record := .zero } AccountKind.position_lawful (by decide)
      (hfirst.houses rfl (houses_of_load AccountKind.position_lawful run.position_loads))
  rw [run.ends]
  exact hfirst.steps.trans hsecond.steps

/-- Reserving the rent of the pool of collateral is a payment, if it is needed at all. -/
theorem Reserves.steps {admin pool : Address} {bank reserved : Bank}
    (h : Reserves call admin pool bank reserved) : Steps asks bank reserved := by
  unfold Reserves at h
  simp only at h
  split at h
  · exact (Step.pays (paid_of_transfer h).2.2).steps
  · rw [h]
    exact .refl bank

/-- The accounts after the debt pool was set up. -/
def OpenVaultRun.stocked (run : OpenVaultRun call s t) : Bank :=
  Tokens.openAccount (.debtVault (.vault run.debtMint)) run.debtMint (.vault run.debtMint)
    run.pooled

/-- A vault is opened in two parts: its accounts are made first, the vault among them. -/
theorem OpenVaultRun.steps_stocked (run : OpenVaultRun call s t) :
    Steps asks s.bank run.stocked ∧ run.stocked.Houses .lendingProgram (.vault run.debtMint) := by
  have hmade := made_of_establish run.makes
  have hpooled := made_of_establish run.makes_pool
  have hfirst : Step asks s.bank run.made := .makes hmade
  have hsecond : Step asks run.made run.pooled := .makes hpooled
  have hthird : Steps asks run.pooled run.stocked :=
    steps_openAccount run.debtMint (.vault run.debtMint) hpooled
  have hvault : run.made.Houses .lendingProgram (.vault run.debtMint) :=
    ⟨hmade.owner, by rw [hmade.data]; rfl⟩
  exact ⟨hfirst.steps.trans (hsecond.steps.trans hthird),
    hthird.houses rfl (hsecond.houses rfl hvault)⟩

/-- The record of the vault is written last. -/
theorem OpenVaultRun.closes (run : OpenVaultRun call s t) : Steps asks run.stocked t.bank := by
  obtain ⟨-, hvault⟩ : Steps asks s.bank run.stocked ∧ _ := run.steps_stocked
  have hreserves : Steps asks run.stocked run.reserved := run.reserves.steps
  have hwrite : Step asks run.reserved _ :=
    .writes (openedVault run.admin run.debtMint run.priceFeed) AccountKind.vault_lawful (by decide)
      (hreserves.houses rfl hvault)
  rw [show t.bank = _ from congrArg Session.bank run.ends]
  exact hreserves.trans hwrite.steps

/-- Opening a vault makes accounts, and asks nobody for tokens. -/
theorem OpenVaultRun.steps (run : OpenVaultRun call s t) : Steps asks s.bank t.bank :=
  run.steps_stocked.1.trans run.closes

end LendingProgram

/-! ## Any instruction of the two programs -/

/-- Who asks the token program in an instruction of another program: keys that sign, and lending
vaults. -/
def AsksAside (call : Call) (bank : Bank) (a : Address) : Prop :=
  call.signs a = true ∨ (bank.get a).owner = .lendingProgram

/-- An instruction of the two other programs is steps for which it asks signers or accounts of the
lending program. -/
theorem steps_of_run {instruction : Instruction} (hother : instruction.program ≠ .shareProgram)
    (h : Tx.Yields (instruction.run call) s () t) :
    Steps (AsksAside call s.bank) s.bank t.bank := by
  -- A borrow asks in the vault's name, a payback in the caller's, and the others ask for no tokens.
  cases instruction with
  | openFeed terms =>
      obtain ⟨run⟩ := FeedProgram.openFeed_run h
      exact run.steps
  | setAnswer rate =>
      obtain ⟨visit⟩ := FeedProgram.setAnswer_run h
      exact visit.steps
  | setStaleness isStale =>
      obtain ⟨visit⟩ := FeedProgram.setStaleness_run h
      exact visit.steps
  | openVault =>
      obtain ⟨run⟩ := LendingProgram.openVault_run h
      exact run.steps
  | deposit amount =>
      obtain ⟨run⟩ := LendingProgram.deposit_run h
      exact run.steps
  | borrow amount =>
      obtain ⟨run⟩ := LendingProgram.borrow_run h
      exact run.steps (.inr (houses_of_load AccountKind.vault_lawful run.loads).owner)
  | payback amount =>
      obtain ⟨run⟩ := LendingProgram.payback_run h
      exact run.steps (.inl run.signs)
  | withdraw amount =>
      obtain ⟨run⟩ := LendingProgram.withdraw_run h
      exact run.steps
  | liquidate =>
      obtain ⟨run⟩ := LendingProgram.liquidate_run h
      exact run.steps
  | openShareVault _ | depositUnderlying _ | withdrawUnderlying _ | setExchangeRate _ =>
      exact absurd rfl hother

/-! ## Instructions of the share vault program

The share vault itself is written last, and that write is no step. -/

namespace ShareProgram

/-- Who asks the token program in an instruction on a share vault: keys that sign, and the share
vault. -/
def Asks (call : Call) (home a : Address) : Prop := call.signs a = true ∨ a = home

theorem Opens.steps {user mint : Address} {bank opened : Bank}
    (h : Opens call user mint bank opened) : Steps asks bank opened := by
  cases h with
  | known => exact .refl bank
  | fresh made =>
      simp only [Tokens.createAssociated, bind_eq_ok_iff, pure_eq_ok_iff] at made
      obtain ⟨_, -, middle, hmakes, rfl⟩ := made
      have hmade := made_of_establish hmakes
      exact (Step.makes hmade).steps.trans (steps_openAccount mint user hmade)

/-- Up to the last write a deposit asks the user for underlying tokens and the share vault for
shares. -/
theorem DepositRun.steps (run : DepositRun call amount s t) :
    Steps (Asks call run.home) s.bank run.minted :=
  run.opens.steps.trans
    ((Step.transfers (.inl run.signs) run.pays).steps.trans (Step.mints (.inr rfl) run.mints).steps)

/-- Up to the last write a withdrawal asks the user for shares and the share vault for underlying
tokens. -/
theorem WithdrawRun.steps (run : WithdrawRun call amount s t) :
    Steps (Asks call run.home) s.bank run.paid :=
  (Step.burns (.inl run.signs) run.burns).steps.trans (Step.transfers (.inr rfl) run.pays).steps

/-- The accounts after the share token was set up. -/
def OpenShareVaultRun.issued {rate : Wide} (run : OpenShareVaultRun call rate s t) : Bank :=
  Tokens.openMint (.shareMint (.shareVault run.underlyingMint)) (.shareVault run.underlyingMint)
    run.decimals run.minted

/-- The accounts after the pool was set up. -/
def OpenShareVaultRun.opened {rate : Wide} (run : OpenShareVaultRun call rate s t) : Bank :=
  Tokens.openAccount (.sharePool (.shareVault run.underlyingMint)) run.underlyingMint
    (.shareVault run.underlyingMint) run.pooled

/-- The share vault is written last. -/
theorem OpenShareVaultRun.bank_eq {rate : Wide} (run : OpenShareVaultRun call rate s t) :
    t.bank = run.opened.write .shareVault (.shareVault run.underlyingMint)
      (openedVault run.admin run.underlyingMint rate) :=
  congrArg Session.bank run.ends

theorem OpenShareVaultRun.steps_issued {rate : Wide} (run : OpenShareVaultRun call rate s t) :
    Steps asks run.made run.issued := by
  have hminted := made_of_establish run.makes_mint
  exact (Step.makes hminted).steps.trans (steps_openMint _ _ hminted)

theorem OpenShareVaultRun.steps_opened {rate : Wide} (run : OpenShareVaultRun call rate s t) :
    Steps asks run.issued run.opened := by
  have hpooled := made_of_establish run.makes_pool
  exact (Step.makes hpooled).steps.trans (steps_openAccount _ _ hpooled)

/-- Opening a share vault makes accounts, and asks nobody for tokens. -/
theorem OpenShareVaultRun.steps {rate : Wide} (run : OpenShareVaultRun call rate s t) :
    Steps asks s.bank run.opened :=
  (Step.makes (made_of_establish run.makes)).steps.trans (run.steps_issued.trans run.steps_opened)

/-- The share vault's own account was made first; the two others do not touch it. -/
theorem OpenShareVaultRun.houses {rate : Wide} (run : OpenShareVaultRun call rate s t) :
    run.made.Houses .shareProgram (.shareVault run.underlyingMint) := by
  have hmade := made_of_establish run.makes
  exact ⟨hmade.owner, by rw [hmade.data]; rfl⟩

theorem OpenShareVaultRun.houses_opened {rate : Wide} (run : OpenShareVaultRun call rate s t) :
    run.opened.Houses .shareProgram (.shareVault run.underlyingMint) := by
  have hsteps : Steps (fun _ => False) run.made run.opened :=
    run.steps_issued.trans run.steps_opened
  exact hsteps.houses rfl run.houses

/-! ### Any instruction on a share vault -/

/-- An instruction on a share vault: tokens are moved when keys that sign or the share vault ask for
it, and the share vault is written last. -/
structure Course (call : Call) (before after : Bank) where
  place : Address
  moved : Bank
  next : ShareVault Address Bump
  steps : Steps (Asks call place) before moved
  houses : moved.Houses .shareProgram place
  ends : after = moved.write .shareVault place next

/-- Every instruction of the share vault program conserves units. -/
theorem Course.conserves {before after : Bank} (course : Course call before after) :
    Conserves before after := by
  rw [course.ends]
  exact course.steps.conserves.trans
    (conserves_write course.next AccountKind.shareVault_lawful course.houses)

def OpenShareVaultRun.course {rate : Wide} (run : OpenShareVaultRun call rate s t) :
    Course call s.bank t.bank where
  place := .shareVault run.underlyingMint
  moved := run.opened
  next := openedVault run.admin run.underlyingMint rate
  steps := run.steps
  houses := run.houses_opened
  ends := run.bank_eq

def DepositRun.course (run : DepositRun call amount s t) : Course call s.bank t.bank where
  place := run.home
  moved := run.minted
  next := { run.vault with totalUnderlying := run.total }
  steps := run.steps
  houses := run.steps.houses rfl (houses_of_load AccountKind.shareVault_lawful run.loads)
  ends := congrArg Session.bank run.ends

def WithdrawRun.course (run : WithdrawRun call amount s t) : Course call s.bank t.bank where
  place := run.home
  moved := run.paid
  next := { run.vault with totalUnderlying := run.vault.totalUnderlying.monus amount }
  steps := run.steps
  houses := run.steps.houses rfl (houses_of_load AccountKind.shareVault_lawful run.loads)
  ends := congrArg Session.bank run.ends

def SetExchangeRateRun.course {rate : Wide} (run : SetExchangeRateRun call rate s t) :
    Course call s.bank t.bank where
  place := run.home
  moved := s.bank
  next := { run.vault with exchangeRate := rate }
  steps := .refl s.bank
  houses := houses_of_load AccountKind.shareVault_lawful run.loads
  ends := congrArg Session.bank run.ends

end ShareProgram

end CollateralLending
