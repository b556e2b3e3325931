/-
  CollateralLending.Proofs.Share.Issuance

  The accounts from which a share vault issues its shares: its own, the mint of
  the share token, and the pool of underlying tokens (`Bank.Issues`). Only the
  share vault mints shares and moves the pool. So whatever happens without it
  leaves the pool at least as full, and at most as many shares
  (`Bank.Spares`); what its own calls do is exact.
-/
import CollateralLending.Proofs.Chain.Holdings

namespace CollateralLending

open Bank

namespace Bank

variable {before middle after bank : Bank} {asks : Address → Prop} {home : Address}

/-! ## Accounts of a share vault -/

/-- The accounts of a share vault. -/
def tills (home : Address) : List Address := [home, .shareMint home, .sharePool home]

/-- The share vault issues shares of a mint that it alone mints, against a pool that it alone
moves. -/
structure Issues (bank : Bank) (home : Address) (mint : Mint) (pool : TokenAccount) : Prop where
  home_owner : (bank.get home).owner = .shareProgram
  mint_owner : (bank.get (.shareMint home)).owner = .tokenProgram
  mint_data : (bank.get (.shareMint home)).data = .mint mint
  minter : mint.authority? = some home
  pool_owner : (bank.get (.sharePool home)).owner = .tokenProgram
  pool_data : (bank.get (.sharePool home)).data = .token pool
  keeper : pool.owner = home
  undelegated : pool.delegation? = none
  unwrapped : pool.isNative = false
  home_eq : home = .shareVault pool.mint
  plain : ∀ a ∈ tills home, (bank.get a).isExecutable = false

variable {mint nextMint : Mint} {pool nextPool : TokenAccount}

/-- None of the accounts of a share vault belongs to the system program, so none can be made
anew. -/
theorem Issues.owner_ne (h : bank.Issues home mint pool) {a : Address} (ha : a ∈ tills home) :
    (bank.get a).owner ≠ .systemProgram := by
  simp only [tills, List.mem_cons, List.not_mem_nil, or_false] at ha
  rcases ha with rfl | rfl | rfl
  · rw [h.home_owner]
    decide
  · rw [h.mint_owner]
    decide
  · rw [h.pool_owner]
    decide

/-- The accounts go on issuing shares when only the supply, the pool's amount and its freezing
change. -/
theorem Issues.carry (h : before.Issues home mint pool)
    (hframe : ∀ a ∈ tills home, SameFrame before after a)
    (hmint : (after.get (.shareMint home)).data = .mint nextMint)
    (hminter : nextMint.authority? = mint.authority?)
    (hpool : (after.get (.sharePool home)).data = .token nextPool)
    (hsame : nextPool.mint = pool.mint ∧ nextPool.owner = pool.owner ∧
      nextPool.delegation? = pool.delegation? ∧ nextPool.isNative = pool.isNative) :
    after.Issues home nextMint nextPool where
  home_owner := (hframe home (by simp [tills])).owner.trans h.home_owner
  mint_owner := (hframe (.shareMint home) (by simp [tills])).owner.trans h.mint_owner
  mint_data := hmint
  minter := hminter.trans h.minter
  pool_owner := (hframe (.sharePool home) (by simp [tills])).owner.trans h.pool_owner
  pool_data := hpool
  keeper := hsame.2.1.trans h.keeper
  undelegated := hsame.2.2.1.trans h.undelegated
  unwrapped := hsame.2.2.2.trans h.unwrapped
  home_eq := by rw [hsame.1]; exact h.home_eq
  plain a ha := (hframe a ha).executable.trans (h.plain a ha)

/-! ## What happens without the share vault -/

/-- A share vault that issues shares goes on to, against a pool at least as full, and with at most
as many shares. -/
def Spares (home : Address) (before after : Bank) : Prop :=
  ∀ mint pool, before.Issues home mint pool →
    ∃ nextMint nextPool, after.Issues home nextMint nextPool ∧ mint.Given nextMint ∧
      pool.Given nextPool

theorem Spares.refl (home : Address) (bank : Bank) : Spares home bank bank :=
  fun mint pool h => ⟨mint, pool, h, .refl mint, .refl pool⟩

theorem Spares.trans (h₁ : Spares home before middle) (h₂ : Spares home middle after) :
    Spares home before after := by
  intro mint pool h
  obtain ⟨mint', pool', h', hmint', hpool'⟩ := h₁ mint pool h
  obtain ⟨mint'', pool'', h'', hmint'', hpool''⟩ := h₂ mint' pool' h'
  exact ⟨mint'', pool'', h'', hmint'.trans hmint'', hpool'.trans hpool''⟩

/-- A share vault goes on issuing shares when its accounts stay in place and others only burn its
shares and pay into its pool. -/
theorem Issues.carry_given (h : before.Issues home mint pool)
    (hframe : ∀ a ∈ tills home, SameFrame before after a)
    (hmint : ∃ next, (after.get (.shareMint home)).data = .mint next ∧ mint.Given next)
    (hpool : ∃ next, (after.get (.sharePool home)).data = .token next ∧ pool.Given next) :
    ∃ nextMint nextPool, after.Issues home nextMint nextPool ∧ mint.Given nextMint ∧
      pool.Given nextPool := by
  obtain ⟨nextMint, hmintData, hmintGiven⟩ := hmint
  obtain ⟨nextPool, hpoolData, hpoolGiven⟩ := hpool
  exact ⟨nextMint, nextPool, h.carry hframe hmintData hmintGiven.authority hpoolData
    ⟨hpoolGiven.mint, hpoolGiven.owner, hpoolGiven.delegation, hpoolGiven.native⟩, hmintGiven,
    hpoolGiven⟩

/-- Others can add to the pool and destroy shares. -/
theorem Outside.spares (h : Outside before after) (home : Address) : Spares home before after := by
  intro mint pool hissues
  have hguarded : ∀ a ∈ tills home, before.Guarded a := by
    intro a ha
    simp only [tills, List.mem_cons, List.not_mem_nil, or_false] at ha
    rcases ha with rfl | rfl | rfl
    · exact .inl (by rw [hissues.home_eq]; rfl)
    · exact .inl rfl
    · exact .inl rfl
  refine hissues.carry_given (fun a ha => ?_) ?_ ?_
  · have hgiven := h.given a (hguarded a ha)
    exact ⟨hgiven.owner, hgiven.executable⟩
  · have hdata := (h.given (.shareMint home) (.inl rfl)).data
    rw [hissues.mint_data] at hdata
    exact hdata.exists_mint
  · have hdata := (h.given (.sharePool home) (.inl rfl)).data
    rw [hissues.pool_data] at hdata
    exact hdata.exists_token

/-- One step that does not ask in the name of the share vault spares it. -/
theorem Step.spares (h : Step asks before after) (hquiet : ¬ asks home) :
    Spares home before after := by
  intro mint pool hissues
  have hlost : Tokens.isLost home = false := by rw [hissues.home_eq]; rfl
  exact hissues.carry_given (fun a ha => h.sameFrame (hissues.owner_ne ha))
    (h.exists_mint hquiet hissues.mint_data hissues.minter)
    (h.exists_token hquiet hissues.pool_data hissues.keeper hissues.undelegated hlost)

/-- Any number of steps that do not ask in the name of the share vault spare it. -/
theorem Steps.spares (h : Steps asks before after) (hquiet : ¬ asks home) :
    Spares home before after := by
  induction h with
  | refl => exact .refl home before
  | tail steps step ih => exact ih.trans (step.spares hquiet)

/-! ## What the share vault does -/

variable {authority target source : Address} {amount shares : Amount}

/-- What somebody else asks to transfer does not come from the pool. -/
theorem Issues.source_ne (h : before.Issues home mint pool) (hauthority : authority ≠ home)
    (run : TransferRun source target authority amount before after) : source ≠ .sharePool home := by
  rintro rfl
  have hsender := run.source_data
  rw [h.pool_data] at hsender
  injection hsender with hsender
  have howner := run.spends.authority_eq (by rw [← hsender]; exact h.undelegated)
  rw [← hsender, h.keeper] at howner
  exact hauthority howner

/-- What comes in by a transfer that somebody else asks for is in the pool afterwards. -/
theorem Issues.of_receipt (h : before.Issues home mint pool) (hauthority : authority ≠ home)
    (run : TransferRun source (.sharePool home) authority amount before after) :
    ∃ nextPool, after.Issues home mint nextPool ∧
      nextPool.amount.toNat = pool.amount.toNat + amount.toNat := by
  have hreceiver := run.target_data
  rw [h.pool_data] at hreceiver
  cases hreceiver
  have hself := h.source_ne hauthority run
  refine ⟨{ run.receiver with amount := run.sum }, h.carry (fun a _ => run.frame a) ?_ rfl ?_
    ⟨rfl, rfl, rfl, rfl⟩, run.gives hself⟩
  · rw [run.data, if_neg hself, if_neg (by simp), if_neg, h.mint_data]
    rintro rfl
    have hsender := run.source_data
    rw [h.mint_data] at hsender
    cases hsender
  · rw [run.data, if_neg hself, if_pos rfl]

/-- What goes out is all that the pool loses. -/
theorem Issues.of_payment (h : before.Issues home mint pool)
    (run : TransferRun (.sharePool home) target home amount before after) :
    ∃ nextPool, after.Issues home mint nextPool ∧
      pool.amount.toNat ≤ nextPool.amount.toNat + amount.toNat := by
  have hsender := run.source_data
  rw [h.pool_data] at hsender
  cases hsender
  have hmint : (after.get (.shareMint home)).data = .mint mint := by
    rw [run.data]
    split
    · exact h.mint_data
    · rw [if_neg, if_neg (by simp), h.mint_data]
      rintro rfl
      have hreceiver := run.target_data
      rw [h.mint_data] at hreceiver
      cases hreceiver
  have hframe : ∀ a ∈ tills home, SameFrame before after a := fun a _ => run.frame a
  by_cases hself : .sharePool home = target
  · refine ⟨run.sender, h.carry hframe hmint rfl ?_ ⟨rfl, rfl, rfl, rfl⟩, Nat.le_add_right _ _⟩
    rw [run.data, if_pos hself, h.pool_data]
  · have hspent := run.spends.undelegated h.undelegated
    refine ⟨{ run.sender with amount := run.rest }, h.carry hframe hmint rfl ?_
      ⟨rfl, rfl, rfl, rfl⟩, Nat.le_of_eq run.takes⟩
    rw [run.data, if_neg hself, if_neg hself, if_pos rfl, hspent]

/-- Shares that are minted add to the supply. -/
theorem Issues.of_mint (h : before.Issues home mint pool) (htarget : target ≠ .sharePool home)
    (run : MintRun (.shareMint home) target home shares before after) :
    ∃ nextMint, after.Issues home nextMint pool ∧
      nextMint.supply.toNat = mint.supply.toNat + shares.toNat := by
  have hminted := run.mint_data
  rw [h.mint_data] at hminted
  cases hminted
  refine ⟨{ run.minted with supply := run.supply }, h.carry (fun a _ => run.frame a) ?_ rfl ?_
    ⟨rfl, rfl, rfl, rfl⟩, run.makes⟩
  · rw [run.data, if_pos rfl]
  · rw [run.data, if_neg (by simp), if_neg (Ne.symm htarget), h.pool_data]

/-- Shares that are burned are taken from the supply. -/
theorem Issues.of_burn (h : before.Issues home mint pool) (hsource : source ≠ .sharePool home)
    (run : BurnRun (.shareMint home) source authority shares before after) :
    ∃ nextMint, after.Issues home nextMint pool ∧
      mint.supply.toNat = nextMint.supply.toNat + shares.toNat := by
  have hburned := run.mint_data
  rw [h.mint_data] at hburned
  cases hburned
  refine ⟨{ run.burned with supply := run.supply }, h.carry (fun a _ => run.frame a) ?_ rfl ?_
    ⟨rfl, rfl, rfl, rfl⟩, run.destroys⟩
  · rw [run.data, if_pos rfl]
  · rw [run.data, if_neg (by simp), if_neg (Ne.symm hsource), h.pool_data]

/-- A share vault that is written, this one or another, is all that changes. -/
theorem Issues.of_write (h : bank.Issues home mint pool) {place : Address}
    (hplace : bank.Houses .shareProgram place) (value : ShareVault Address Bump) :
    (bank.write .shareVault place value).Issues home mint pool := by
  have hmint : (bank.get (.shareMint home)).data.isTokens = true := by rw [h.mint_data]; rfl
  have hpool : (bank.get (.sharePool home)).data.isTokens = true := by rw [h.pool_data]; rfl
  exact h.carry (fun a _ => sameFrame_write bank .shareVault place value a)
    ((hplace.data_write value hmint).trans h.mint_data) rfl
    ((hplace.data_write value hpool).trans h.pool_data) ⟨rfl, rfl, rfl, rfl⟩

end Bank

/-! ## Opening a share vault -/

/-- No shares exist when a share vault is opened. -/
theorem ShareProgram.OpenShareVaultRun.issues {call : Call} {rate : Wide} {s t : Session}
    (run : ShareProgram.OpenShareVaultRun call rate s t) :
    ∃ mint pool, t.bank.Issues (.shareVault run.underlyingMint) mint pool ∧
      mint.supply.toNat = 0 := by
  have hminted := made_of_establish run.makes_mint
  have hpooled := made_of_establish run.makes_pool
  let home : Address := .shareVault run.underlyingMint
  let issued : Bank := run.issued
  let opened : Bank := run.opened
  -- Neither account is touched again once it is made: the mint comes first, then the pool.
  have hlast : Steps (fun _ => False) issued opened := run.steps_opened
  have hall : Steps (fun _ => False) run.made opened := run.steps_issued.trans hlast
  have hopened : opened.Houses .shareProgram home := run.houses_opened
  have hhome : SameFrame run.made opened home := hall.sameFrame (by rw [run.houses.owner]; decide)
  have hmintOwner : (issued.get (.shareMint home)).owner = .tokenProgram :=
    (owner_put ..).trans hminted.owner
  have hmintData : (issued.get (.shareMint home)).data = .mint ⟨some home, .zero, run.decimals⟩ :=
    (data_put ..).trans (if_pos rfl)
  have hmint : SameFrame issued opened (.shareMint home) :=
    hlast.sameFrame (by rw [hmintOwner]; decide)
  have hissues : opened.Issues home ⟨some home, .zero, run.decimals⟩
      { mint := run.underlyingMint, owner := home, amount := .zero } :=
    { home_owner := hopened.owner
      mint_owner := hmint.owner.trans hmintOwner
      mint_data := by
        rw [← hmintData]
        refine ((data_put ..).trans (if_neg (by simp))).trans (hpooled.data_of_isTokens ?_)
        exact congrArg Data.isTokens hmintData
      minter := rfl
      pool_owner := (owner_put ..).trans hpooled.owner
      pool_data := (data_put ..).trans (if_pos rfl)
      keeper := rfl
      undelegated := rfl
      unwrapped := rfl
      home_eq := rfl
      plain := by
        simp only [tills, List.mem_cons, List.not_mem_nil, or_false, forall_eq_or_imp, forall_eq]
        exact ⟨hhome.executable.trans run.plain, hmint.executable.trans run.mint_plain,
          run.pool_plain⟩ }
  -- Last the share vault itself is written, which is neither of them.
  rw [run.bank_eq]
  exact ⟨_, _, hissues.of_write hopened _, rfl⟩

end CollateralLending
