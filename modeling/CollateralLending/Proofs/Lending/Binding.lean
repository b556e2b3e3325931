/-
  CollateralLending.Proofs.Lending.Binding

  What the accounts of the lending program are bound to. Each of them is a
  vault at the address of its debt token or a position at the address of its
  vault and its owner, with the bump seeds of the addresses (`Bank.Bound`). So
  there is one vault for each debt token and one position for each owner in it,
  a position is never bound to another owner, and a liquidation names the
  account that it was asked for.

  That vaults and positions are where they belong is known from
  `Bank.Orderly`; what is new here is that the program owns nothing else. An
  instruction may make an account for it, which holds zeros at first, but then
  writes a vault or a position there before it ends (`kept_of_run`). Only others
  can leave it with an account of zeros, which is then neither.
-/
import CollateralLending.Proofs.Chain.Steps
import CollateralLending.Proofs.Lending.Backing
import CollateralLending.Proofs.Lending.DebtAccount

namespace CollateralLending

namespace Bank

variable {before middle after bank : Bank} {written : Address → Prop}
variable {program source target payer address : Address}

/-! ## What a program owns -/

/-- Except for accounts that were written, a program owns nothing that it did not own before, and
the content is the same. Content of the token program, which changes at the token program's will,
does not count. -/
def OwnsNoMore (program : Address) (written : Address → Prop) (before after : Bank) : Prop :=
  ∀ a, ¬ written a → (after.get a).owner = program →
    (before.get a).owner = program ∧
      ((before.get a).data.isTokens = false → (after.get a).data = (before.get a).data)

theorem OwnsNoMore.of_accounts
    (h : ∀ a, ¬ written a → (after.get a).owner = program →
      (after.get a).owner = (before.get a).owner ∧ (after.get a).data = (before.get a).data) :
    OwnsNoMore program written before after := by
  intro a ha howner
  obtain ⟨hsame, hdata⟩ := h a ha howner
  exact ⟨hsame ▸ howner, fun _ => hdata⟩

theorem OwnsNoMore.refl (bank : Bank) : OwnsNoMore program written bank bank :=
  .of_accounts fun _ _ _ => ⟨rfl, rfl⟩

theorem OwnsNoMore.trans (h₁ : OwnsNoMore program written before middle)
    (h₂ : OwnsNoMore program written middle after) : OwnsNoMore program written before after := by
  intro a ha howner
  obtain ⟨hmiddle, hlast⟩ := h₂ a ha howner
  obtain ⟨hbefore, hfirst⟩ := h₁ a ha hmiddle
  refine ⟨hbefore, ?_⟩
  intro hplain
  have hdata := hfirst hplain
  rw [hlast (by rw [hdata, hplain]), hdata]

theorem Paid.ownsNoMore {n : Nat} (h : Paid before after source target n) :
    OwnsNoMore program written before after :=
  .of_accounts fun a _ _ => ⟨h.owner a, h.data a⟩

/-- An account that is made for the program is written later on. -/
theorem Made.ownsNoMore {maker : Address} {size : Nat}
    (h : Made before after payer target size maker) (hmaker : maker ≠ program ∨ written target) :
    OwnsNoMore program written before after := by
  apply OwnsNoMore.of_accounts
  intro a ha howner
  have hne : a ≠ target := by
    rintro rfl
    exact hmaker.elim (fun hne => hne (h.owner.symm.trans howner)) ha
  rw [h.others a hne]
  exact ⟨rfl, rfl⟩

/-- Token movements change content of the token program only. -/
theorem Retokened.ownsNoMore (h : Retokened before after) :
    OwnsNoMore program written before after := by
  intro a _ howner
  refine ⟨(h.owner a).symm.trans howner, ?_⟩
  intro hplain
  rw [h.others a hplain]

theorem ownsNoMore_put {data : Data} (h : (bank.get target).owner ≠ program) :
    OwnsNoMore program written bank (Tokens.put bank target data) := by
  apply OwnsNoMore.of_accounts
  intro a _ howner
  rw [owner_put] at howner
  rw [owner_put, data_put, if_neg]
  · exact ⟨rfl, rfl⟩
  · rintro rfl
    exact h howner

theorem ownsNoMore_write {α : Type} {kind : AccountKind α} (value : α)
    (h : (bank.get address).owner ≠ program ∨ written address) :
    OwnsNoMore program written bank (bank.write kind address value) := by
  apply OwnsNoMore.of_accounts
  intro a ha howner
  rw [get_write] at howner ⊢
  split
  · rename_i heq
    subst heq
    rw [if_pos rfl] at howner
    exact absurd howner (h.resolve_right ha)
  · exact ⟨rfl, rfl⟩

/-- A vault or a position is at the address. -/
def Kept (bank : Bank) (a : Address) : Prop :=
  (∃ vault, bank.find? .vault a = some vault) ∨
    ∃ position, bank.find? .position a = some position

/-- Vaults and positions are no token accounts, so what is read of them does not depend on
tokens. -/
theorem Kept.isTokens {a : Address} (h : bank.Kept a) : (bank.get a).data.isTokens = false := by
  rcases h with ⟨vault, hvault⟩ | ⟨position, hposition⟩
  · exact Data.isTokens_eq_false_of_isRecord (isRecord_of_find? AccountKind.vault_lawful hvault)
  · exact Data.isTokens_eq_false_of_isRecord
      (isRecord_of_find? AccountKind.position_lawful hposition)

theorem Kept.of_account {a : Address} (h : before.Kept a)
    (howner : (after.get a).owner = (before.get a).owner)
    (hdata : (after.get a).data = (before.get a).data) : after.Kept a := by
  have hsame : ∀ {α : Type} {kind : AccountKind α} {value : α}, kind.Lawful →
      before.find? kind a = some value → after.find? kind a = some value := by
    intro α kind value hkind hvalue
    rw [find?_eq_some_iff hkind] at hvalue ⊢
    rw [howner, hdata]
    exact hvalue
  refine h.imp ?_ ?_
  · rintro ⟨vault, hvault⟩
    exact ⟨vault, hsame AccountKind.vault_lawful hvault⟩
  · rintro ⟨position, hposition⟩
    exact ⟨position, hsame AccountKind.position_lawful hposition⟩

end Bank

section

open Bank

variable {call : Call} {amount : Amount} {s t : Session} {written : Address → Prop}

/-- A token account or a mint is made and set up. -/
theorem ownsNoMore_of_makes_put {payer target : Address} {size : Nat} {data : Data}
    {before middle : Bank} (h : call.Makes payer target size .tokenProgram before middle) :
    OwnsNoMore .lendingProgram written before (Tokens.put middle target data) := by
  have hmade := made_of_establish h
  refine (hmade.ownsNoMore (.inl (by decide))).trans (ownsNoMore_put ?_)
  rw [hmade.owner]
  decide

/-! ## Instructions of other programs -/

namespace FeedProgram

theorem OpenFeedRun.ownsNoMore {terms : FeedTerms} (run : OpenFeedRun call terms s t) :
    OwnsNoMore .lendingProgram written s.bank t.bank := by
  have hmade := made_of_establish run.makes
  rw [run.ends]
  refine (hmade.ownsNoMore (.inl (by decide))).trans (ownsNoMore_write _ (.inl ?_))
  rw [hmade.owner]
  decide

theorem FeedVisit.ownsNoMore (visit : FeedVisit call s t) :
    OwnsNoMore .lendingProgram written s.bank t.bank := by
  rw [visit.writes]
  refine ownsNoMore_write _ (.inl ?_)
  rw [AccountKind.owner_of_load visit.loads]
  decide

end FeedProgram

namespace ShareProgram

theorem Opens.ownsNoMore {user mint : Address} {bank opened : Bank}
    (h : Opens call user mint bank opened) : OwnsNoMore .lendingProgram written bank opened := by
  cases h with
  | known => exact .refl bank
  | fresh made =>
      simp only [Tokens.createAssociated, bind_eq_ok_iff, pure_eq_ok_iff] at made
      obtain ⟨_, -, middle, hmakes, rfl⟩ := made
      exact ownsNoMore_of_makes_put hmakes

/-- The share vault, which is written last, is an account of the share vault program. -/
theorem Course.ownsNoMore {before after : Bank} (course : Course call before after)
    (h : OwnsNoMore .lendingProgram written before course.moved) :
    OwnsNoMore .lendingProgram written before after := by
  rw [show after = _ from course.ends]
  refine h.trans (ownsNoMore_write _ (.inl ?_))
  rw [course.houses.owner]
  decide

theorem OpenShareVaultRun.ownsNoMore {rate : Wide} (run : OpenShareVaultRun call rate s t) :
    OwnsNoMore .lendingProgram written s.bank t.bank := by
  have hmade : OwnsNoMore .lendingProgram written s.bank run.made :=
    (made_of_establish run.makes).ownsNoMore (.inl (by decide))
  exact run.course.ownsNoMore (hmade.trans
    ((ownsNoMore_of_makes_put run.makes_mint).trans (ownsNoMore_of_makes_put run.makes_pool)))

theorem DepositRun.ownsNoMore (run : DepositRun call amount s t) :
    OwnsNoMore .lendingProgram written s.bank t.bank := by
  have hmoved := (retokened_of_transfer run.pays).trans (retokened_of_mintTo run.mints)
  exact run.course.ownsNoMore (run.opens.ownsNoMore.trans hmoved.ownsNoMore)

theorem WithdrawRun.ownsNoMore (run : WithdrawRun call amount s t) :
    OwnsNoMore .lendingProgram written s.bank t.bank :=
  run.course.ownsNoMore
    ((retokened_of_burn run.burns).trans (retokened_of_transfer run.pays)).ownsNoMore

theorem SetExchangeRateRun.ownsNoMore {rate : Wide} (run : SetExchangeRateRun call rate s t) :
    OwnsNoMore .lendingProgram written s.bank t.bank :=
  run.course.ownsNoMore (.refl s.bank)

end ShareProgram

/-! ## Instructions of the lending program -/

namespace LendingProgram

theorem Opens.ownsNoMore {user home : Address} {bank opened : Bank}
    {position : UserPosition Address Bump} (h : Opens call user home bank opened position)
    (hposition : written (.position home user)) :
    OwnsNoMore .lendingProgram written bank opened := by
  cases h with
  | fresh made => exact (made_of_establish made).ownsNoMore (.inr hposition)
  | known loads => exact .refl bank

theorem Visit.ownsNoMore (visit : Visit call s t)
    (hmoves : OwnsNoMore .lendingProgram written visit.opened visit.moved)
    (hhome : written visit.home) (hposition : written (.position visit.home visit.user)) :
    OwnsNoMore .lendingProgram written s.bank t.bank := by
  rw [show t.bank = _ from congrArg Session.bank visit.ends]
  exact (visit.opens.ownsNoMore hposition).trans (hmoves.trans
    ((ownsNoMore_write _ (.inr hhome)).trans (ownsNoMore_write _ (.inr hposition))))

theorem LiquidateRun.ownsNoMore (run : LiquidateRun call s t) (hhome : written run.home)
    (hposition : written (.position run.home run.owner)) :
    OwnsNoMore .lendingProgram written s.bank t.bank := by
  rw [show t.bank = _ from congrArg Session.bank run.ends]
  exact (ownsNoMore_write _ (.inr hhome)).trans (ownsNoMore_write _ (.inr hposition))

theorem OpenVaultRun.ownsNoMore (run : OpenVaultRun call s t)
    (hhome : written (.vault run.debtMint)) :
    OwnsNoMore .lendingProgram written s.bank t.bank := by
  have hmade : OwnsNoMore .lendingProgram written s.bank run.made :=
    (made_of_establish run.makes).ownsNoMore (.inr hhome)
  have hreserved : OwnsNoMore .lendingProgram written _ run.reserved :=
    (paid_of_reserves run.reserves).ownsNoMore
  rw [show t.bank = _ from congrArg Session.bank run.ends]
  exact hmade.trans ((ownsNoMore_of_makes_put run.makes_pool).trans
    (hreserved.trans (ownsNoMore_write _ (.inr hhome))))

end LendingProgram

/-! ## Every instruction -/

variable {before after : Bank} {instruction : Instruction} {home owner a : Address}

theorem Bank.Posting.kept {vault next : Vault Address Bump} {new : Record}
    (h : Posting before after home owner vault next new) :
    after.Kept home ∧ after.Kept (.position home owner) :=
  ⟨.inl ⟨next, h.vault_after⟩, .inr ⟨_, h.position_after⟩⟩

theorem Instruction.program_of_isOperation (h : instruction.isOperation = true) :
    instruction.program = .lendingProgram := by
  cases instruction <;> first | rfl | cases h

/-- An operation leaves a vault and a position where it writes. -/
theorem Effect.kept (h : Effect call before after instruction)
    (hoperation : instruction.isOperation = true) (hvault : call.address? .vault = some home)
    (huser : call.address? .user = some owner) :
    after.Kept home ∧ after.Kept (.position home owner) := by
  cases h with
  | aside other aside => exact absurd (Instruction.program_of_isOperation hoperation) other
  | operates operation role user_role signs tracks posting pool =>
      cases role.symm.trans hvault
      cases user_role.symm.trans huser
      exact posting.kept
  | opens role signs opening pool => cases hoperation
  | liquidates role signs feed_loads quotes uncovered tracks seizes posting pools =>
      cases hoperation

/-- Where an instruction leaves the lending program with more than it had, it leaves a vault or a
position. -/
theorem kept_of_run (horderly : s.bank.Orderly) (h : Tx.Yields (instruction.run call) s () t) :
    OwnsNoMore .lendingProgram t.bank.Kept s.bank t.bank := by
  -- The run says what was written, and the effect that vaults and positions stand there now.
  have heffect := effect_of_run horderly h
  cases instruction with
  | openFeed terms =>
      obtain ⟨run⟩ := FeedProgram.openFeed_run h
      exact run.ownsNoMore
  | setAnswer rate =>
      obtain ⟨visit, -⟩ := FeedProgram.setAnswer_run h
      exact visit.ownsNoMore
  | setStaleness isStale =>
      obtain ⟨visit, -⟩ := FeedProgram.setStaleness_run h
      exact visit.ownsNoMore
  | openVault =>
      obtain ⟨run⟩ := LendingProgram.openVault_run h
      obtain ⟨home, vault, hrole, -, hvault⟩ := heffect.opened
      cases run.vault_role.symm.trans hrole
      exact run.ownsNoMore (.inl ⟨vault, hvault⟩)
  | deposit amount =>
      obtain ⟨run⟩ := LendingProgram.deposit_run h
      obtain ⟨hhome, hposition⟩ := heffect.kept rfl run.vault_role run.user_role
      exact run.toVisit.ownsNoMore (paid_of_transfer run.pays).2.2.ownsNoMore hhome hposition
  | borrow amount =>
      obtain ⟨run⟩ := LendingProgram.borrow_run h
      obtain ⟨hhome, hposition⟩ := heffect.kept rfl run.vault_role run.user_role
      exact run.toVisit.ownsNoMore (retokened_of_transfer run.pays).ownsNoMore hhome hposition
  | payback amount =>
      obtain ⟨run⟩ := LendingProgram.payback_run h
      obtain ⟨hhome, hposition⟩ := heffect.kept rfl run.vault_role run.user_role
      exact run.toVisit.ownsNoMore (retokened_of_transfer run.pays).ownsNoMore hhome hposition
  | withdraw amount =>
      obtain ⟨run⟩ := LendingProgram.withdraw_run h
      obtain ⟨hhome, hposition⟩ := heffect.kept rfl run.vault_role run.user_role
      exact run.toVisit.ownsNoMore (paid_of_transfer run.pays).2.2.ownsNoMore hhome hposition
  | liquidate =>
      obtain ⟨run⟩ := LendingProgram.liquidate_run h
      obtain ⟨hhome, hposition⟩ := (run.posting horderly).2.kept
      exact run.ownsNoMore hhome hposition
  | openShareVault rate =>
      obtain ⟨run⟩ := ShareProgram.openShareVault_run h
      exact run.ownsNoMore
  | depositUnderlying amount =>
      obtain ⟨run⟩ := ShareProgram.deposit_run h
      exact run.ownsNoMore
  | withdrawUnderlying amount =>
      obtain ⟨run⟩ := ShareProgram.withdraw_run h
      exact run.ownsNoMore
  | setExchangeRate rate =>
      obtain ⟨run⟩ := ShareProgram.setExchangeRate_run h
      exact run.ownsNoMore

/-! ## Along a run -/

variable {start chain later : Chain} {moves more : List Move}

/-- A transaction of another program hands the account over to the lending program. -/
def Chain.HandsOver (a : Address) (chain : Chain) (move : Move) : Prop :=
  (chain.bank.get a).owner ≠ .lendingProgram ∧
    ∃ bank, move = .outside bank ∧ (bank.get a).owner = .lendingProgram

/-- The account was handed over with zeros for its content, and they are still there. -/
structure Chain.Blank (start : Chain) (moves : List Move) (chain : Chain) (a : Address) : Prop where
  isOwn : a.isOwn = false
  zeros : ∃ size, (chain.bank.get a).data = .zeros size
  handed : ¬ Chain.Never (Chain.HandsOver a) start moves

theorem Chain.Blank.isTokens (h : Chain.Blank start moves chain a) :
    (chain.bank.get a).data.isTokens = false := by
  obtain ⟨size, hzeros⟩ := h.zeros
  rw [hzeros]
  rfl

theorem Chain.Blank.snoc (h : Chain.Blank start moves chain a) (run : Chain.Run start moves chain)
    {move : Move}
    (hdata : ((chain.after move).bank.get a).data = (chain.bank.get a).data) :
    Chain.Blank start (moves ++ [move]) (chain.after move) a where
  isOwn := h.isOwn
  zeros := by
    rw [hdata]
    exact h.zeros
  handed := by
    rw [run.never_snoc]
    exact fun hnever => h.handed hnever.1

/-- Others may add to what the program owns, but not change it. -/
theorem kept_or_blank_of_outside {bank : Bank} (run : Chain.Run start moves chain)
    (houtside : Outside chain.bank bank)
    (h : (chain.bank.get a).owner = .lendingProgram →
      chain.bank.Kept a ∨ Chain.Blank start moves chain a)
    (howner : (bank.get a).owner = .lendingProgram) :
    bank.Kept a ∨ Chain.Blank start (moves ++ [.outside bank]) { chain with bank := bank } a := by
  by_cases hbefore : (chain.bank.get a).owner = .lendingProgram
  · -- What the program had stays what it was.
    have hguard : chain.bank.Guarded a := .inr (by rw [hbefore]; rfl)
    have hgiven := houtside.given a hguard
    have hplain := (h hbefore).elim Kept.isTokens Chain.Blank.isTokens
    have hdata : (bank.get a).data = (chain.bank.get a).data := by
      rcases hgiven.data.same_or_isTokens with hsame | ⟨htokens, -⟩
      · exact hsame
      · rw [hplain] at htokens
        cases htokens
    exact (h hbefore).imp (·.of_account hgiven.owner hdata) (·.snoc run hdata)
  · -- What it got was handed over.
    have hunguarded : ¬ chain.bank.Guarded a := by
      intro hguard
      exact hbefore ((houtside.given a hguard).owner.symm.trans howner)
    have hhanded : Chain.HandsOver a chain (.outside bank) := ⟨hbefore, bank, rfl, howner⟩
    refine .inr ⟨?_, houtside.handed a hunguarded (by rw [howner]; rfl), ?_⟩
    · cases hown : a.isOwn with
      | false => rfl
      | true => exact absurd (.inl hown) hunguarded
    · rw [run.never_snoc]
      exact fun hnever => hnever.2 hhanded

/-- No instruction leaves an account of zeros behind, so what is neither a vault nor a position was
handed over. -/
theorem kept_or_blank_of_run (hfresh : start.bank.Fresh) (run : Chain.Run start moves chain)
    (howner : (chain.bank.get a).owner = .lendingProgram) :
    chain.bank.Kept a ∨ Chain.Blank start moves chain a := by
  induction run with
  | nil =>
      have hunowned := hfresh.unowned a
      rw [howner] at hunowned
      cases hunowned
  | @snoc moves chain run move allowed ih =>
      -- Both what is kept and what is blank carry over where the account is left alone.
      have hsame : ∀ {next : Chain}, chain.after move = next →
          (next.bank.get a).owner = (chain.bank.get a).owner →
          (next.bank.get a).data = (chain.bank.get a).data →
          (chain.after move).bank.Kept a ∨
            Chain.Blank start (moves ++ [move]) (chain.after move) a := by
        rintro next rfl hframe hdata
        exact (ih (hframe.symm.trans howner)).imp (·.of_account hframe hdata) (·.snoc run hdata)
      cases move with
      | clock now => exact hsame rfl rfl rfl
      | outside bank => exact kept_or_blank_of_outside run allowed ih howner
      | transact instruction passed =>
          rcases chain.execute_cases instruction passed with ⟨hrefused, -⟩ | ⟨t, hyields, hafter, -⟩
          · exact hsame hrefused rfl rfl
          · -- Either the instruction left a vault or a position, or it left the account alone.
            by_cases hkept : t.bank.Kept a
            · rw [hafter]
              exact .inl hkept
            · rw [hafter] at howner
              obtain ⟨hbefore, hdata⟩ :=
                kept_of_run (orderly_of_run hfresh run) hyields a hkept howner
              have hplain := (ih hbefore).elim Kept.isTokens Chain.Blank.isTokens
              refine hsame hafter ?_ (hdata hplain)
              rw [hbefore]
              exact howner

/-! ## Vaults and positions -/

/-- The account is a vault or a position, and its address is the one derived for what it says. -/
inductive Bank.Bound (bank : Bank) (a : Address) : Prop where
  | vault {vault : Vault Address Bump} (found : bank.find? .vault a = some vault)
      (seated : vault.Seated a) : Bound bank a
  | position {position : UserPosition Address Bump} {vault : Vault Address Bump}
      (found : bank.find? .position a = some position)
      (address : a = .position position.vault position.owner)
      (bump : position.bump = .canonical)
      (vault_found : bank.find? .vault position.vault = some vault) : Bound bank a

/-- In orderly books every vault and position is bound to its address. -/
theorem Bank.Kept.bound {bank : Bank} (h : bank.Kept a) (horderly : bank.Orderly) :
    bank.Bound a := by
  rcases h with ⟨vault, hvault⟩ | ⟨position, hposition⟩
  · exact .vault hvault (horderly.vaults a vault hvault)
  · obtain ⟨haddress, hbump, vault, hvault⟩ := horderly.positions a position hposition
    exact .position hposition haddress hbump hvault

/-- A position changes in its record only. -/
theorem Effect.keeps_position (h : Effect call before after instruction)
    (horderly : before.Orderly) {position : UserPosition Address Bump}
    (hposition : before.find? .position a = some position) :
    ∃ record, after.find? .position a = some { position with record := record } := by
  have hsame : after.find? .position a = before.find? .position a →
      ∃ record, after.find? .position a = some { position with record := record } :=
    fun hbook => ⟨position.record, hbook.trans hposition⟩
  have hposted : ∀ {home owner : Address} {vault next : Vault Address Bump} {record : Record},
      Posting before after home owner vault next record →
      ∃ record, after.find? .position a = some { position with record := record } := by
    intro home owner vault next record hposting
    by_cases ha : a = .position home owner
    · -- What is written is the position of its own vault and owner.
      obtain ⟨haddress, hbump, -⟩ := horderly.positions a position hposition
      obtain ⟨rfl, rfl⟩ := Address.position.inj (ha.symm.trans haddress)
      refine ⟨record, ?_⟩
      rw [ha, hposting.position_after, ← hbump]
    · exact hsame (hposting.positions a ha)
  cases h with
  | aside other aside => exact hsame (aside.books.positions a)
  | opens role signs opening pool => exact hsame (opening.positions a)
  | operates operation role user_role signs tracks posting pool => exact hposted posting
  | liquidates role signs feed_loads quotes uncovered tracks seizes posting pools =>
      exact hposted posting

/-- A position is there for good, with the same owner and the same vault. -/
theorem keeps_position_of_run (horderly : chain.bank.Orderly) (run : Chain.Run chain more later)
    {position : UserPosition Address Bump}
    (hposition : chain.bank.find? .position a = some position) :
    ∃ record, later.bank.find? .position a = some { position with record := record } := by
  induction run with
  | nil => exact ⟨position.record, hposition⟩
  | snoc run move allowed ih =>
      obtain ⟨record, hrecord⟩ := ih
      have hmiddle := horderly.of_run run
      rcases effect_of_move hmiddle allowed with hpaid | ⟨instruction, passed, -, heffect⟩
      · exact ⟨record, (hpaid.books.positions a).trans hrecord⟩
      · obtain ⟨next, hnext⟩ := heffect.keeps_position hmiddle hrecord
        exact ⟨next, hnext⟩

/-! ## Liquidations -/

theorem LendingProgram.Visit.not_liquidated {account : Address}
    (visit : LendingProgram.Visit call s t) (hnone : s.events = [])
    (hevent : visit.event ≠ .liquidated account) : .lending (.liquidated account) ∉ t.events := by
  rw [show t.events = _ from congrArg Session.events visit.ends, hnone]
  simp [hevent.symm]

/-- Nothing but a liquidation announces one. -/
theorem not_liquidated_of_run (hother : instruction ≠ .liquidate)
    (h : Tx.Yields (instruction.run call) s () t) (hnone : s.events = []) {account : Address} :
    .lending (.liquidated account) ∉ t.events := by
  have hsilent : t.events = s.events → .lending (.liquidated account) ∉ t.events := by
    intro hevents
    simp [hevents, hnone]
  have hannounces : ∀ {event : Event Address}, t.events = s.events ++ [event] →
      .lending (.liquidated account) ≠ event → .lending (.liquidated account) ∉ t.events := by
    intro event hevents hne
    simp [hevents, hnone, hne]
  cases instruction with
  | liquidate => exact absurd rfl hother
  | deposit amount =>
      obtain ⟨run⟩ := LendingProgram.deposit_run h
      exact run.toVisit.not_liquidated hnone (by rw [run.announces]; nofun)
  | borrow amount =>
      obtain ⟨run⟩ := LendingProgram.borrow_run h
      exact run.toVisit.not_liquidated hnone (by rw [run.announces]; nofun)
  | payback amount =>
      obtain ⟨run⟩ := LendingProgram.payback_run h
      exact run.toVisit.not_liquidated hnone (by rw [run.announces]; nofun)
  | withdraw amount =>
      obtain ⟨run⟩ := LendingProgram.withdraw_run h
      exact run.toVisit.not_liquidated hnone (by rw [run.announces]; nofun)
  | openVault =>
      obtain ⟨run⟩ := LendingProgram.openVault_run h
      exact hsilent (by rw [run.ends])
  | openFeed terms =>
      obtain ⟨run⟩ := FeedProgram.openFeed_run h
      exact hsilent (by rw [run.ends])
  | setAnswer rate =>
      obtain ⟨visit, -⟩ := FeedProgram.setAnswer_run h
      obtain ⟨event, hevents⟩ := visit.announces
      exact hannounces hevents nofun
  | setStaleness isStale =>
      obtain ⟨visit, -⟩ := FeedProgram.setStaleness_run h
      obtain ⟨event, hevents⟩ := visit.announces
      exact hannounces hevents nofun
  | openShareVault rate =>
      obtain ⟨run⟩ := ShareProgram.openShareVault_run h
      exact hsilent (by rw [run.ends])
  | depositUnderlying amount =>
      obtain ⟨run⟩ := ShareProgram.deposit_run h
      exact hannounces (congrArg Session.events run.ends) nofun
  | withdrawUnderlying amount =>
      obtain ⟨run⟩ := ShareProgram.withdraw_run h
      exact hannounces (congrArg Session.events run.ends) nofun
  | setExchangeRate rate =>
      obtain ⟨run⟩ := ShareProgram.setExchangeRate_run h
      exact hannounces (congrArg Session.events run.ends) nofun

/-- Whose liquidation an instruction announces: that of the account it was passed, if it is one. -/
theorem liquidated_mem_events_iff (horderly : s.bank.Orderly)
    (h : Tx.Yields (instruction.run call) s () t) (hnone : s.events = []) {account : Address} :
    .lending (.liquidated account) ∈ t.events ↔
      instruction = .liquidate ∧ call.address? .account = some account := by
  by_cases hliquidate : instruction = .liquidate
  · subst hliquidate
    obtain ⟨run⟩ := LendingProgram.liquidate_run h
    -- The event names the owner that the position stores, whom its address was derived for.
    rw [show t.events = _ from congrArg Session.events run.ends, hnone, run.owner_eq horderly,
      run.account_role]
    simp [eq_comm]
  · simp only [not_liquidated_of_run hliquidate h hnone, hliquidate, false_and]

/-! ## The invariant -/

/-- In every reached state, an account of the lending program that others did not hand over to it is
a vault or a position at the address derived for it; one that they did hand over, and that is
neither, is at an address of their own and still holds zeros. So no two vaults are for the same debt
token, and no two positions for the same vault and owner. Whatever happens next, a position stays
bound to its vault and its owner. A transaction announces a liquidation when it is one, of the
account that was passed to it. -/
theorem lending_accounts_are_bound (hfresh : start.bank.Fresh)
    (run : Chain.Run start moves chain) :
    (∀ a, (chain.bank.get a).owner = .lendingProgram →
      Chain.Never (Chain.HandsOver a) start moves → chain.bank.Bound a) ∧
    (∀ a, (chain.bank.get a).owner = .lendingProgram →
      chain.bank.Bound a ∨ a.isOwn = false ∧ ∃ size, (chain.bank.get a).data = .zeros size) ∧
    (∀ a b vault other, chain.bank.find? .vault a = some vault →
      chain.bank.find? .vault b = some other → vault.debtMint = other.debtMint → a = b) ∧
    (∀ a b position other, chain.bank.find? .position a = some position →
      chain.bank.find? .position b = some other → position.vault = other.vault →
      position.owner = other.owner → a = b) ∧
    (∀ more later, Chain.Run chain more later → ∀ a position,
      chain.bank.find? .position a = some position →
      ∃ record, later.bank.find? .position a = some { position with record := record }) ∧
    ∀ instruction passed receipt, (chain.execute instruction passed).2 = .ok receipt →
      ∀ account, .lending (.liquidated account) ∈ receipt.events ↔
        instruction = .liquidate ∧
          (chain.callOf instruction passed).address? .account = some account := by
  have horderly := orderly_of_run hfresh run
  refine ⟨?_, ?_, ?_, ?_, ?_, ?_⟩
  · intro a howner hnever
    -- What is still blank was handed over at some point.
    rcases kept_or_blank_of_run hfresh run howner with hkept | hblank
    · exact hkept.bound horderly
    · exact absurd hnever hblank.handed
  · intro a howner
    exact (kept_or_blank_of_run hfresh run howner).imp (·.bound horderly)
      fun hblank => ⟨hblank.isOwn, hblank.zeros⟩
  · intro a b vault other hvault hother hmint
    rw [(horderly.vaults a vault hvault).home_eq, (horderly.vaults b other hother).home_eq, hmint]
  · intro a b position other hposition hother hvault howner
    rw [(horderly.positions a position hposition).1, (horderly.positions b other hother).1, hvault,
      howner]
  · intro more later hlater a position hposition
    exact keeps_position_of_run horderly hlater hposition
  · intro instruction passed receipt hreceipt account
    rcases chain.execute_cases instruction passed with ⟨-, hrefused⟩ | ⟨t, hyields, -, changed, hok⟩
    · exact absurd ⟨receipt, hreceipt⟩ hrefused
    · cases hreceipt.symm.trans hok
      exact liquidated_mem_events_iff horderly hyields rfl

end

namespace FirstLoan

open FirstDeposit

/-- Some of the loan is paid back, and the price rises. -/
def repaying : List Move := [borrow (.units 200) wallet, payback (.units 50), raise]

def owed : Chain := repaying.foldl Chain.after funded

theorem owed_run : start.Run (filling ++ repaying) owed :=
  funded_run.extend repaying (by simp [repaying, borrow, payback, raise, Move.Allowed])

theorem not_handed : Chain.Never (Chain.HandsOver (.position home user)) start
    (filling ++ repaying) := by
  have htransact : ∀ {chain : Chain} {instruction : Instruction} {passed : Passed},
      ¬ Chain.HandsOver (.position home user) chain (.transact instruction passed) := by
    rintro chain instruction passed ⟨-, bank, ⟨⟩, -⟩
  have hfund : ¬ Chain.HandsOver (.position home user) deposited fund := by
    rintro ⟨hbefore, -⟩
    exact hbefore (by decide +kernel)
  exact ⟨htransact, htransact, htransact, hfund, htransact, htransact, htransact, trivial⟩

/-- The accounts of the liquidation. -/
def liquidated : Passed :=
  ⟨[(.admin, admin), (.vault, home), (.account, user), (.position, .position home user),
    (.priceFeed, .feed admin .zero)], [], []⟩

theorem liquidate_accepted : owed.Accepts .liquidate liquidated :=
  Chain.accepts_of_isOk (by decide +kernel)

end FirstLoan

/-- The position of the first loan is bound, and its liquidation names the user. -/
theorem first_loan_is_bound :
    (FirstLoan.owed.bank.get (.position FirstDeposit.home FirstDeposit.user)).owner =
        .lendingProgram ∧
      FirstLoan.owed.bank.Bound (.position FirstDeposit.home FirstDeposit.user) ∧
      ∃ passed receipt, FirstLoan.liquidate = .transact .liquidate passed ∧
        (FirstLoan.owed.execute .liquidate passed).2 = .ok receipt ∧
        .lending (.liquidated FirstDeposit.user) ∈ receipt.events := by
  have hbound := lending_accounts_are_bound FirstLoan.start_fresh FirstLoan.owed_run
  have howner : (FirstLoan.owed.bank.get (.position FirstDeposit.home FirstDeposit.user)).owner =
      .lendingProgram := by decide +kernel
  obtain ⟨receipt, hreceipt⟩ := FirstLoan.liquidate_accepted
  refine ⟨howner, hbound.1 _ howner FirstLoan.not_handed, _, receipt, rfl, hreceipt, ?_⟩
  exact (hbound.2.2.2.2.2 _ _ receipt hreceipt _).2 ⟨rfl, by decide⟩

end CollateralLending
