/-
  CollateralLending.Proofs.Chain.Holdings

  What steps do to holdings of tokens. Whoever does not ask the token program
  keeps its holdings and the mint of its token: others can add to the former
  and destroy units of the latter (`Step.exists_token`, `Step.exists_mint`).
  Where nobody asks, every holding stays as it is (`Bank.Quiet`). A transfer
  moves its amount from one account to another and touches no other holding
  (`TransferRun.moves`).
-/
import CollateralLending.Proofs.Chain.Steps

namespace CollateralLending

open Bank

/-! ## What others may do -/

theorem Mint.Given.refl (mint : Mint) : mint.Given mint := ⟨rfl, rfl, Nat.le_refl _⟩

/-- Being given to twice is being given to. -/
theorem Mint.Given.trans {first second third : Mint} (h₁ : first.Given second)
    (h₂ : second.Given third) : first.Given third :=
  ⟨h₂.authority.trans h₁.authority, h₂.decimals.trans h₁.decimals,
    Nat.le_trans h₂.supply h₁.supply⟩

theorem TokenAccount.Given.refl (account : TokenAccount) : account.Given account :=
  ⟨rfl, rfl, rfl, rfl, Nat.le_refl _⟩

/-- What was added in two steps was added. -/
theorem TokenAccount.Given.trans {first second third : TokenAccount} (h₁ : first.Given second)
    (h₂ : second.Given third) : first.Given third :=
  ⟨h₂.mint.trans h₁.mint, h₂.owner.trans h₁.owner, h₂.delegation.trans h₁.delegation,
    h₂.native.trans h₁.native, Nat.le_trans h₁.amount h₂.amount⟩

/-- A mint stays a mint. -/
theorem Data.Given.exists_mint {mint : Mint} {data : Data} (h : (Data.mint mint).Given data) :
    ∃ next, data = .mint next ∧ mint.Given next := by
  cases h with
  | same => exact ⟨mint, rfl, .refl mint⟩
  | mint given => exact ⟨_, rfl, given⟩

/-- A token account stays a token account. -/
theorem Data.Given.exists_token {account : TokenAccount} {data : Data}
    (h : (Data.token account).Given data) : ∃ next, data = .token next ∧ account.Given next := by
  cases h with
  | same => exact ⟨account, rfl, .refl account⟩
  | token given => exact ⟨_, rfl, given⟩

/-- What is loaded from an account that holds tokens is what it holds. -/
theorem AccountKind.eq_of_token_load {account : Account} {found value : TokenAccount}
    (hdata : account.data = .token found) (h : AccountKind.token.load account = .ok value) :
    value = found := by
  unfold AccountKind.load at h
  split at h
  · cases h
  · split at h
    · cases h
    · rw [hdata] at h
      cases h
      rfl

namespace Bank

variable {first before middle after last bank : Bank} {asks : Address → Prop}
variable {source target authority home token : Address} {amount : Amount}
variable {mint : Mint} {pool : TokenAccount}

/-! ## Holdings of those who do not ask -/

/-- Tokens are not touched where an account is made: it is made where there was nothing. -/
theorem Made.data_of_isTokens {payer target program a : Address} {size : Nat}
    (h : Made before after payer target size program) (ha : (before.get a).data.isTokens = true) :
    (after.get a).data = (before.get a).data := by
  rw [h.others a]
  rintro rfl
  rw [Data.isTokens_eq_false_of_size h.unused] at ha
  cases ha

/-- Nor are they touched where content is put in the place of zeros. -/
theorem data_put_of_zeros {target a : Address} {data : Data} {size : Nat}
    (hblank : (bank.get target).data = .zeros size) (ha : (bank.get a).data.isTokens = true) :
    ((Tokens.put bank target data).get a).data = (bank.get a).data := by
  rw [data_put, if_neg]
  rintro rfl
  rw [hblank] at ha
  cases ha

/-- Nor where a record of another program is written. -/
theorem Houses.data_write {α : Type} {kind : AccountKind α} {program address a : Address}
    (h : bank.Houses program address) (value : α) (ha : (bank.get a).data.isTokens = true) :
    ((bank.write kind address value).get a).data = (bank.get a).data := by
  rw [get_write, if_neg]
  rintro rfl
  rw [h.plain] at ha
  cases ha

/-- Only the minter of a token adds to its supply. -/
theorem Step.exists_mint (h : Step asks before after) (hquiet : ¬ asks home) {a : Address}
    (hdata : (before.get a).data = .mint mint) (hminter : mint.authority? = some home) :
    ∃ next, (after.get a).data = .mint next ∧ mint.Given next := by
  have htokens : (before.get a).data.isTokens = true := by rw [hdata]; rfl
  have hsame : (after.get a).data = (before.get a).data →
      ∃ next, (after.get a).data = .mint next ∧ mint.Given next :=
    fun hsame => ⟨mint, hsame.trans hdata, .refl mint⟩
  have htoken : ∀ {account : TokenAccount} {other : Address},
      (before.get other).data = .token account → a ≠ other := by
    rintro account other hother rfl
    rw [hdata] at hother
    cases hother
  cases h with
  | pays paid => exact hsame (paid.data a)
  | makes made => exact hsame (made.data_of_isTokens htokens)
  | opens owner blank supply units => exact hsame (data_put_of_zeros blank htokens)
  | transfers asked transfer =>
      obtain ⟨run⟩ := transfer_run transfer
      apply hsame
      rw [run.data]
      split
      · rfl
      · rw [if_neg (htoken run.target_data), if_neg (htoken run.source_data)]
  | @mints _ _ _ minted _ _ _ asked mints =>
      obtain ⟨run⟩ := mint_run mints
      apply hsame
      rw [run.data, if_neg, if_neg (htoken run.target_data)]
      -- Whoever mints is its minter.
      rintro rfl
      have hmint := run.mint_data
      rw [hdata] at hmint
      cases hmint
      have hauthority := run.minter
      rw [hminter] at hauthority
      cases hauthority
      exact hquiet asked
  | @burns _ _ _ burned _ _ _ asked burns =>
      obtain ⟨run⟩ := burn_run burns
      by_cases ha : a = burned
      · subst ha
        have hmint := run.mint_data
        rw [hdata] at hmint
        cases hmint
        refine ⟨{ run.burned with supply := run.supply }, by rw [run.data, if_pos rfl], rfl, rfl,
          ?_⟩
        have hdestroys := run.destroys
        simp only
        omega
      · exact hsame (by rw [run.data, if_neg ha, if_neg (htoken run.source_data)])
  | writes value lawful other houses => exact hsame (houses.data_write value htokens)

/-- Only the owner of a holding takes from it, when there is no delegate. -/
theorem Step.exists_token (h : Step asks before after) (hquiet : ¬ asks home) {a : Address}
    (hdata : (before.get a).data = .token pool) (hkeeper : pool.owner = home)
    (hundelegated : pool.delegation? = none) (hlost : Tokens.isLost home = false) :
    ∃ next, (after.get a).data = .token next ∧ pool.Given next := by
  have htokens : (before.get a).data.isTokens = true := by rw [hdata]; rfl
  have hsame : (after.get a).data = (before.get a).data →
      ∃ next, (after.get a).data = .token next ∧ pool.Given next :=
    fun hsame => ⟨pool, hsame.trans hdata, .refl pool⟩
  have hmint : ∀ {minted : Mint} {other : Address},
      (before.get other).data = .mint minted → a ≠ other := by
    rintro minted other hother rfl
    rw [hdata] at hother
    cases hother
  -- Without a delegate only the keeper may spend, and the keeper does not ask.
  have hspends : ∀ {authority : Address} {spent : TokenAccount}, asks authority →
      ¬ Spends pool authority spent := by
    intro authority spent hasked hspends
    rw [hspends.authority_eq hundelegated, hkeeper] at hasked
    exact hquiet hasked
  cases h with
  | pays paid => exact hsame (paid.data a)
  | makes made => exact hsame (made.data_of_isTokens htokens)
  | opens owner blank supply units => exact hsame (data_put_of_zeros blank htokens)
  | @transfers _ _ _ source target _ _ asked transfer =>
      obtain ⟨run⟩ := transfer_run transfer
      have hsource : a ≠ source := by
        rintro rfl
        have hsender := run.source_data
        rw [hdata] at hsender
        cases hsender
        exact hspends asked run.spends
      by_cases hself : source = target
      · exact hsame (by rw [run.data, if_pos hself])
      · by_cases ha : a = target
        · subst ha
          have hreceiver := run.target_data
          rw [hdata] at hreceiver
          cases hreceiver
          refine ⟨{ run.receiver with amount := run.sum },
            by rw [run.data, if_neg hself, if_pos rfl], rfl, rfl, rfl, rfl, ?_⟩
          have hgives := run.gives hself
          simp only
          omega
        · exact hsame (by rw [run.data, if_neg hself, if_neg ha, if_neg hsource])
  | @mints _ _ _ minted target _ _ asked mints =>
      obtain ⟨run⟩ := mint_run mints
      by_cases ha : a = target
      · subst ha
        have hreceiver := run.target_data
        rw [hdata] at hreceiver
        cases hreceiver
        refine ⟨{ run.receiver with amount := run.sum },
          by rw [run.data, if_neg (hmint run.mint_data), if_pos rfl], rfl, rfl, rfl, rfl, ?_⟩
        have hgives := run.gives
        simp only
        omega
      · exact hsame (by rw [run.data, if_neg (hmint run.mint_data), if_neg ha])
  | burns asked burns =>
      obtain ⟨run⟩ := burn_run burns
      apply hsame
      rw [run.data, if_neg (hmint run.mint_data), if_neg]
      rintro rfl
      have hholder := run.source_data
      rw [hdata] at hholder
      cases hholder
      -- Anyone may burn what a lost owner holds, but the keeper here is not lost.
      rcases run.spends with ⟨hgone, -⟩ | hpermit
      · rw [hkeeper, hlost] at hgone
        cases hgone
      · exact hspends asked hpermit
  | writes value lawful other houses => exact hsame (houses.data_write value htokens)

/-! ## Steps in which nobody asks -/

/-- Steps in which nobody asks the token program for anything. -/
abbrev Quiet : Bank → Bank → Prop := Steps fun _ => False

/-- When nobody asks, the content of the token program stays as it is. -/
theorem Step.quiet_data (h : Step (fun _ => False) before after) {a : Address}
    (ha : (before.get a).data.isTokens = true) : (after.get a).data = (before.get a).data := by
  cases h with
  | pays paid => exact paid.data a
  | makes made => exact made.data_of_isTokens ha
  | opens owner blank supply units => exact data_put_of_zeros blank ha
  | transfers asked | mints asked | burns asked => exact asked.elim
  | writes value lawful other houses => exact houses.data_write value ha

/-- Every account holds as much of every token. -/
def SameUnits (before after : Bank) : Prop :=
  ∀ token a, (after.get a).data.units token = (before.get a).data.units token

/-- A value that is written holds no units, and neither did what was there. -/
theorem Houses.units_write {α : Type} {kind : AccountKind α} {program address : Address}
    (h : bank.Houses program address) (hkind : kind.Lawful) (value : α) :
    SameUnits bank (bank.write kind address value) := by
  intro token a
  rw [get_write]
  split
  · rename_i ha
    subst ha
    rw [Data.units_of_not_isTokens h.plain]
    exact Data.units_of_not_isTokens
      (Data.isTokens_eq_false_of_isRecord (hkind.isRecord_build _ _)) token
  · rfl

/-- Accounts that are made, set up or written hold no units before and after. -/
theorem Step.quiet_units (h : Step (fun _ => False) before after) : SameUnits before after := by
  intro token a
  cases h with
  | pays paid => rw [paid.data]
  | @makes _ _ _ made _ _ makes =>
      by_cases ha : a = made
      · subst ha
        rw [makes.data, Data.units_of_not_isTokens (Data.isTokens_eq_false_of_size makes.unused)]
        rfl
      · rw [makes.others a ha]
  | opens owner blank supply units =>
      rw [data_put]
      split
      · rename_i ha
        rw [ha, blank, units]
        rfl
      · rfl
  | transfers asked | mints asked | burns asked => exact asked.elim
  | writes value lawful other houses => exact houses.units_write lawful value token a

/-- The same for any number of such steps. -/
theorem Quiet.data (h : Quiet before after) {a : Address}
    (ha : (before.get a).data.isTokens = true) : (after.get a).data = (before.get a).data := by
  induction h with
  | refl => rfl
  | tail steps step ih => rw [step.quiet_data (by rw [ih]; exact ha), ih]

/-- So all holdings stay. -/
theorem Quiet.units (h : Quiet before after) : SameUnits before after := by
  intro token a
  induction h with
  | refl => rfl
  | tail steps step ih => rw [step.quiet_units, ih]

/-! ## Units that move -/

/-- `amount` units of a token moved from one account to another, and nothing else came to hold more
or less of any token. -/
structure Moves (before after : Bank) (token source target : Address) (amount : Nat) : Prop where
  takes : (before.get source).data.units token = (after.get source).data.units token + amount
  gives : (after.get target).data.units token = (before.get target).data.units token + amount
  others : ∀ a other, (a ≠ source ∧ a ≠ target) ∨ other ≠ token →
    (after.get a).data.units other = (before.get a).data.units other

/-- A move of tokens is not disturbed by steps around it in which nobody asks. -/
theorem Moves.between {n : Nat} (h₁ : Quiet first before)
    (h : Moves before after token source target n) (h₂ : Quiet after last) :
    Moves first last token source target n where
  takes := by rw [h₂.units, ← h₁.units, h.takes]
  gives := by rw [h₂.units, ← h₁.units, h.gives]
  others a other ha := by rw [h₂.units, ← h₁.units, h.others a other ha]

/-- A transfer between two accounts moves its amount of the sender's token. -/
theorem TransferRun.moves (run : TransferRun source target authority amount before after)
    (hne : source ≠ target) : Moves before after run.sender.mint source target amount.toNat := by
  have hspent : run.spent.mint = run.sender.mint := by rw [run.spends.spent_eq]
  have hdata : ∀ a, (after.get a).data =
      if a = target then .token { run.receiver with amount := run.sum }
      else if a = source then .token { run.spent with amount := run.rest }
      else (before.get a).data := fun a => by rw [run.data, if_neg hne]
  refine ⟨?_, ?_, ?_⟩
  · rw [hdata, if_neg hne, if_pos rfl, run.source_data]
    simp only [Data.units, hspent, if_pos]
    exact run.takes
  · rw [hdata, if_pos rfl, run.target_data]
    simp only [Data.units, run.same_mint, if_pos]
    exact run.gives hne
  · intro a other ha
    rw [hdata]
    by_cases htarget : a = target
    · -- The two accounts hold nothing but this token.
      have hother : run.receiver.mint ≠ other := by
        rw [← run.same_mint]
        exact (ha.resolve_left fun h => h.2 htarget).symm
      rw [if_pos htarget, htarget, run.target_data]
      simp only [Data.units, if_neg hother]
    · by_cases hsource : a = source
      · have hother : run.sender.mint ≠ other := (ha.resolve_left fun h => h.1 hsource).symm
        rw [if_neg htarget, if_pos hsource, hsource, run.source_data]
        simp only [Data.units, hspent, if_neg hother]
      · rw [if_neg htarget, if_neg hsource]

end Bank

end CollateralLending
