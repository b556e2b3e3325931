/-
  CollateralLending.Proofs.Chain.TokenCalls

  What transferring, minting and burning tokens did, to the unit: one run
  structure for each call, and from it what the call does to the units of a
  token that are held altogether (`Bank.held`) and that exist
  (`Bank.supplyOf`). The last section tells when burning and transferring go
  through.
-/
import CollateralLending.Proofs.Chain.Calls
import CollateralLending.Proofs.Sums

namespace CollateralLending

/-! ## Units of a token -/

/-- How many units of a token the content holds. -/
def Data.units (token : Address) : Data → Nat
  | .token account => if account.mint = token then account.amount.toNat else 0
  | raw _ | feed .. | vault .. | position .. | shareVault .. | mint _ => 0

/-- How many units exist of the token that the content is the mint of. -/
def Data.supply : Data → Nat
  | .mint found => found.supply.toNat
  | .raw _ | .feed .. | .vault .. | .position .. | .shareVault .. | .token _ => 0

theorem Data.units_of_not_isTokens {data : Data} (h : data.isTokens = false) (token : Address) :
    data.units token = 0 := by
  cases data <;> first | rfl | cases h

theorem Data.supply_of_not_isTokens {data : Data} (h : data.isTokens = false) :
    data.supply = 0 := by
  cases data <;> first | rfl | cases h

namespace Bank

variable {before after bank : Bank} {source target authority mint token : Address}
variable {signs : Address → Bool} {amount : Amount}

/-- The units of a token that all accounts hold. -/
def held (bank : Bank) (token : Address) : Nat := bank.sum fun _ account => account.data.units token

/-- The units of a token that exist. -/
def supplyOf (bank : Bank) (token : Address) : Nat := (bank.get token).data.supply

/-- What is held of a token depends on the holdings alone. -/
theorem held_congr (h : ∀ a, (after.get a).data.units token = (before.get a).data.units token) :
    after.held token = before.held token :=
  Table.sum_congr (fun (_ : Address) (account : Account) => account.data.units token)
    (fun _ => rfl) h

/-- When two accounts change, what is held changes by what those two hold. -/
theorem held_update_pair (before after : Bank) (token : Address) (hne : source ≠ target)
    (h : ∀ a, a ≠ source → a ≠ target → (after.get a).data = (before.get a).data) :
    after.held token + (before.get source).data.units token + (before.get target).data.units token =
      before.held token + (after.get source).data.units token +
        (after.get target).data.units token :=
  Table.sum_update_pair (fun (_ : Address) (account : Account) => account.data.units token)
    (fun _ => rfl) hne fun a hs ht => by rw [h a hs ht]

/-- No account holds more than all of them do. -/
theorem units_le_held (bank : Bank) (token address : Address) :
    (bank.get address).data.units token ≤ bank.held token :=
  Table.le_sum (fun (_ : Address) (account : Account) => account.data.units token)
    (fun _ => rfl) bank address

/-- No account holds units of the token. -/
def Unheld (bank : Bank) (token : Address) : Prop := ∀ a, (bank.get a).data.units token = 0

/-- Where no account holds any, none is held. -/
theorem Unheld.held_eq_zero (h : bank.Unheld token) : bank.held token = 0 := by
  have hempty : bank.held token = held Table.empty token := held_congr fun a => h a
  exact hempty

theorem Unheld.set (h : bank.Unheld token) {address : Address} {account : Account}
    (haccount : account.data.units token = 0) : Unheld (bank.set address account) token := by
  intro a
  rw [Table.get_set]
  split
  · exact haccount
  · exact h a

theorem Unheld.forge {chain : Chain} (h : chain.bank.Unheld token) {address : Address}
    {account : Account} (haccount : account.data.units token = 0) :
    (chain.forge address account).bank.Unheld token := h.set haccount

/-- On the first chain nobody holds anything. -/
theorem unheld_genesis (token : Address) : Chain.genesis.bank.Unheld token := by
  have hempty : Unheld Table.empty token := fun _ => rfl
  have hrent : Unheld (Table.set Table.empty .rentSysvar Chain.rentAccount) token :=
    Unheld.set hempty rfl
  simp only [Chain.genesis, Address.programs, List.foldl_cons, List.foldl_nil]
  exact .set (.set (.set (.set (.set (.set hrent rfl) rfl) rfl) rfl) rfl) rfl

/-! ## Calls -/

/-- The account is for the same program, and no more or less a program. -/
structure SameFrame (before after : Bank) (a : Address) : Prop where
  owner : (after.get a).owner = (before.get a).owner
  executable : (after.get a).isExecutable = (before.get a).isExecutable

theorem get_put (bank : Bank) (address : Address) (data : Data) (a : Address) :
    (Tokens.put bank address data).get a =
      if a = address then { bank.get address with data := data } else bank.get a := by
  rw [Tokens.put, Table.get_set]

/-- Content is put into one account. -/
theorem data_put (bank : Bank) (address : Address) (data : Data) (a : Address) :
    ((Tokens.put bank address data).get a).data =
      if a = address then data else (bank.get a).data := by
  rw [get_put]
  split <;> rfl

theorem SameFrame.refl (bank : Bank) (a : Address) : SameFrame bank bank a := ⟨rfl, rfl⟩

theorem SameFrame.trans {middle : Bank} {a : Address} (h₁ : SameFrame before middle a)
    (h₂ : SameFrame middle after a) : SameFrame before after a :=
  ⟨h₂.owner.trans h₁.owner, h₂.executable.trans h₁.executable⟩

theorem sameFrame_put (bank : Bank) (address : Address) (data : Data) (a : Address) :
    SameFrame bank (Tokens.put bank address data) a := by
  constructor
  all_goals
    rw [get_put]
    split
    · rename_i ha
      rw [ha]
    · rfl

/-- A token account is found where the data is one. -/
theorem tokenAt_eq_ok_iff {account : TokenAccount} :
    Tokens.tokenAt bank target = .ok account ↔ (bank.get target).data = .token account := by
  unfold Tokens.tokenAt
  cases (bank.get target).data <;> simp

theorem mintAt_eq_ok_iff {found : Mint} :
    Tokens.mintAt bank mint = .ok found ↔ (bank.get mint).data = .mint found := by
  unfold Tokens.mintAt
  cases (bank.get mint).data <;> simp

/-- Spending leaves all of an account but its delegation. -/
structure Spends (account : TokenAccount) (authority : Address) (spent : TokenAccount) : Prop where
  spender : account.owner = authority ∨
    ∃ delegation, account.delegation? = some delegation ∧ delegation.delegate = authority
  spent_eq : spent = { account with delegation? := spent.delegation? }
  undelegated : account.delegation? = none → spent = account

/-- Without a delegate only the owner spends. -/
theorem Spends.authority_eq {account spent : TokenAccount} (h : Spends account authority spent)
    (hundelegated : account.delegation? = none) : authority = account.owner := by
  rcases h.spender with howner | ⟨delegation, hsome, -⟩
  · exact howner.symm
  · rw [hundelegated] at hsome
    cases hsome

/-- Only the owner and the delegate spend, and the delegate gives up what it spent. -/
theorem spends_of_spend {account spent : TokenAccount}
    (h : Tokens.spend signs bank account authority amount = .ok spent) :
    Spends account authority spent := by
  have hagree : ∀ {expected : Address}, Tokens.agree signs bank expected authority = .ok () →
      expected = authority := by
    intro expected hagree
    simp only [Tokens.agree, bind_eq_ok_iff, ensure_eq_ok_iff] at hagree
    obtain ⟨_, heq, -⟩ := hagree
    exact heq
  unfold Tokens.spend at h
  split at h
  · -- The delegate asks: it was set as one, and what it may spend becomes less.
    rename_i delegation hdelegation
    simp only [bind_eq_ok_iff, pure_eq_ok_iff] at h
    obtain ⟨_, -, rest, -, rfl⟩ := h
    obtain ⟨hsome, hdelegate⟩ := Option.filter_eq_some_iff.1 hdelegation
    refine ⟨.inr ⟨delegation, hsome, of_decide_eq_true hdelegate⟩, rfl, fun hnone => ?_⟩
    rw [hsome] at hnone
    cases hnone
  · -- Nobody else but the owner may ask.
    simp only [bind_eq_ok_iff, pure_eq_ok_iff] at h
    obtain ⟨_, howner, rfl⟩ := h
    exact ⟨.inl (hagree howner), rfl, fun _ => rfl⟩

/-- A transfer of tokens. -/
structure TransferRun (source target authority : Address) (amount : Amount)
    (before after : Bank) where
  sender : TokenAccount
  receiver : TokenAccount
  spent : TokenAccount
  rest : Amount
  sum : Amount
  source_data : (before.get source).data = .token sender
  target_data : (before.get target).data = .token receiver
  same_mint : sender.mint = receiver.mint
  spends : Spends sender authority spent
  takes : sender.amount.toNat = rest.toNat + amount.toNat
  gives : source ≠ target → sum.toNat = receiver.amount.toNat + amount.toNat
  frame : ∀ a, SameFrame before after a
  data : ∀ a, (after.get a).data =
    if source = target then (before.get a).data
    else if a = target then .token { receiver with amount := sum }
    else if a = source then .token { spent with amount := rest }
    else (before.get a).data

/-- Lamports that move with native tokens change no owner and no data. -/
theorem sameFrame_moveLamports (h : Tokens.moveLamports source target amount bank = .ok after)
    (a : Address) : SameFrame bank after a ∧ (after.get a).data = (bank.get a).data := by
  simp only [Tokens.moveLamports, bind_eq_ok_iff, someOr_eq_ok_iff, pure_eq_ok_iff] at h
  obtain ⟨rest, -, sum, -, rfl⟩ := h
  -- Both writes put back what was there, but for the lamports.
  have hsame : ∀ (bank : Bank) (address : Address) (lamports : Amount),
      SameFrame bank (bank.set address { bank.get address with lamports := lamports }) a ∧
        ((bank.set address { bank.get address with lamports := lamports }).get a).data =
          (bank.get a).data := by
    intro bank address lamports
    by_cases ha : a = address
    · subst ha
      rw [Table.get_set_self]
      exact ⟨⟨by rw [Table.get_set_self], by rw [Table.get_set_self]⟩, rfl⟩
    · exact ⟨⟨by rw [Table.get_set_of_ne ha], by rw [Table.get_set_of_ne ha]⟩,
        by rw [Table.get_set_of_ne ha]⟩
  obtain ⟨hfirst, hfirstData⟩ := hsame bank source rest
  obtain ⟨hsecond, hsecondData⟩ :=
    hsame (bank.set source { bank.get source with lamports := rest }) target sum
  exact ⟨hfirst.trans hsecond, hsecondData.trans hfirstData⟩

/-- What a transfer of tokens did. -/
theorem transfer_run (h : Tokens.transfer signs source target authority amount before = .ok after) :
    Nonempty (TransferRun source target authority amount before after) := by
  simp only [Tokens.transfer, bind_eq_ok_iff, tokenAt_eq_ok_iff, ensure_eq_ok_iff, someOr_eq_ok_iff,
    Word.sub?_eq_some_iff] at h
  obtain ⟨sender, hsender, receiver, hreceiver, _, -, rest, htakes, _, hmint, spent, hspend, h⟩ := h
  have hspends := spends_of_spend hspend
  split at h
  · rename_i hself
    obtain rfl := pure_eq_ok_iff.1 h
    exact ⟨{
      sender := sender
      receiver := receiver
      spent := spent
      rest := rest
      sum := receiver.amount
      source_data := hsender
      target_data := hreceiver
      same_mint := hmint
      spends := hspends
      takes := htakes
      gives := fun hne => absurd hself hne
      frame := .refl _
      data := fun a => by rw [if_pos hself] }⟩
  · rename_i hne
    simp only [bind_eq_ok_iff, someOr_eq_ok_iff, Word.add?_eq_some_iff] at h
    obtain ⟨sum, hsum, h⟩ := h
    -- Wrapped lamports that move along change no content.
    have hmove : ∃ moved, (∀ a, SameFrame before moved a ∧
        (moved.get a).data = (before.get a).data) ∧
        Tokens.put (Tokens.put moved source (.token { spent with amount := rest })) target
          (.token { receiver with amount := sum }) = after := by
      split at h
      · simp only [bind_eq_ok_iff, pure_eq_ok_iff] at h
        obtain ⟨moved, hmoved, hafter⟩ := h
        exact ⟨moved, sameFrame_moveLamports hmoved, hafter⟩
      · simp only [bind_eq_ok_iff, pure_eq_ok_iff] at h
        obtain ⟨_, rfl, hafter⟩ := h
        exact ⟨before, fun a => ⟨.refl before a, rfl⟩, hafter⟩
    obtain ⟨moved, hmoved, rfl⟩ := hmove
    exact ⟨{
      sender := sender
      receiver := receiver
      spent := spent
      rest := rest
      sum := sum
      source_data := hsender
      target_data := hreceiver
      same_mint := hmint
      spends := hspends
      takes := htakes
      gives := fun _ => hsum
      frame := fun a => (hmoved a).1.trans ((sameFrame_put ..).trans (sameFrame_put ..))
      data := fun a => by rw [data_put, data_put, (hmoved a).2, if_neg hne] }⟩

/-- A minting of tokens. -/
structure MintRun (mint target authority : Address) (amount : Amount) (before after : Bank) where
  receiver : TokenAccount
  minted : Mint
  sum : Amount
  supply : Amount
  target_data : (before.get target).data = .token receiver
  mint_data : (before.get mint).data = .mint minted
  receiver_mint : receiver.mint = mint
  minter : minted.authority? = some authority
  gives : sum.toNat = receiver.amount.toNat + amount.toNat
  makes : supply.toNat = minted.supply.toNat + amount.toNat
  frame : ∀ a, SameFrame before after a
  data : ∀ a, (after.get a).data =
    if a = mint then .mint { minted with supply := supply }
    else if a = target then .token { receiver with amount := sum }
    else (before.get a).data

/-- What minting did. -/
theorem mint_run (h : Tokens.mintTo signs mint target authority amount before = .ok after) :
    Nonempty (MintRun mint target authority amount before after) := by
  simp only [Tokens.mintTo, Tokens.agree, bind_eq_ok_iff, tokenAt_eq_ok_iff, mintAt_eq_ok_iff,
    ensure_eq_ok_iff, someOr_eq_ok_iff, Word.add?_eq_some_iff, pure_eq_ok_iff] at h
  obtain ⟨receiver, hreceiver, _, -, _, -, _, hmint, minted, hminted, minter, hminter, _,
    ⟨_, rfl, -⟩, sum, hsum, supply, hsupply, rfl⟩ := h
  exact ⟨{
    receiver := receiver
    minted := minted
    sum := sum
    supply := supply
    target_data := hreceiver
    mint_data := hminted
    receiver_mint := hmint
    minter := hminter
    gives := hsum
    makes := hsupply
    frame := fun a => (sameFrame_put ..).trans (sameFrame_put ..)
    data := fun a => by rw [data_put, data_put] }⟩

/-- A burning of tokens. -/
structure BurnRun (mint source authority : Address) (amount : Amount) (before after : Bank) where
  holder : TokenAccount
  burned : Mint
  spent : TokenAccount
  rest : Amount
  supply : Amount
  source_data : (before.get source).data = .token holder
  mint_data : (before.get mint).data = .mint burned
  holder_mint : holder.mint = mint
  spends : Tokens.isLost holder.owner = true ∧ spent = holder ∨ Spends holder authority spent
  takes : holder.amount.toNat = rest.toNat + amount.toNat
  destroys : burned.supply.toNat = supply.toNat + amount.toNat
  frame : ∀ a, SameFrame before after a
  data : ∀ a, (after.get a).data =
    if a = mint then .mint { burned with supply := supply }
    else if a = source then .token { spent with amount := rest }
    else (before.get a).data

/-- What burning did. -/
theorem burn_run (h : Tokens.burn signs mint source authority amount before = .ok after) :
    Nonempty (BurnRun mint source authority amount before after) := by
  simp only [Tokens.burn, bind_eq_ok_iff, tokenAt_eq_ok_iff, mintAt_eq_ok_iff, ensure_eq_ok_iff,
    someOr_eq_ok_iff, Word.sub?_eq_some_iff] at h
  obtain ⟨holder, hholder, burned, hburned, _, -, _, -, rest, htakes, _, hmint, h⟩ := h
  -- Tokens that are lost are burned without permission.
  have hspent : ∃ spent, (Tokens.isLost holder.owner = true ∧ spent = holder ∨
      Spends holder authority spent) ∧ ∃ supply : Amount,
        burned.supply.toNat = supply.toNat + amount.toNat ∧
        Tokens.put (Tokens.put before source (.token { spent with amount := rest })) mint
          (.mint { burned with supply := supply }) = after := by
    split at h
    · rename_i hlost
      simp only [bind_eq_ok_iff, someOr_eq_ok_iff, Word.sub?_eq_some_iff, pure_eq_ok_iff] at h
      obtain ⟨_, rfl, supply, hsupply, hafter⟩ := h
      exact ⟨holder, .inl ⟨hlost, rfl⟩, supply, hsupply, hafter⟩
    · simp only [bind_eq_ok_iff, someOr_eq_ok_iff, Word.sub?_eq_some_iff, pure_eq_ok_iff] at h
      obtain ⟨spent, hspend, supply, hsupply, hafter⟩ := h
      exact ⟨spent, .inr (spends_of_spend hspend), supply, hsupply, hafter⟩
  obtain ⟨spent, hspends, supply, hsupply, rfl⟩ := hspent
  exact ⟨{
    holder := holder
    burned := burned
    spent := spent
    rest := rest
    supply := supply
    source_data := hholder
    mint_data := hburned
    holder_mint := hmint
    spends := hspends
    takes := htakes
    destroys := hsupply
    frame := fun a => (sameFrame_put ..).trans (sameFrame_put ..)
    data := fun a => by rw [data_put, data_put] }⟩

/-! ## What exists is held -/

/-- Of every token as many units come to be held as come to exist. -/
def Conserves (before after : Bank) : Prop :=
  ∀ token, after.held token + before.supplyOf token = before.held token + after.supplyOf token

theorem Conserves.refl (bank : Bank) : Conserves bank bank := fun _ => rfl

theorem Conserves.trans {middle : Bank} (h₁ : Conserves before middle)
    (h₂ : Conserves middle after) : Conserves before after := by
  intro token
  have hfirst := h₁ token
  have hsecond := h₂ token
  omega

/-- Accounts that are of no token count for nothing. -/
theorem Conserves.of_data
    (h : ∀ a, (after.get a).data = (before.get a).data ∨
      ∀ token, (after.get a).data.units token = (before.get a).data.units token ∧
        (after.get a).data.supply = (before.get a).data.supply) : Conserves before after := by
  intro token
  have hsupply : after.supplyOf token = before.supplyOf token := by
    unfold supplyOf
    rcases h token with hsame | hcounts
    · rw [hsame]
    · exact (hcounts token).2
  have hheld : after.held token = before.held token := by
    apply held_congr
    intro a
    rcases h a with hsame | hcounts
    · rw [hsame]
    · exact (hcounts token).1
  rw [hsupply, hheld]

/-- A transfer creates and destroys nothing. -/
theorem TransferRun.supplyOf (run : TransferRun source target authority amount before after)
    (token : Address) : after.supplyOf token = before.supplyOf token := by
  unfold Bank.supplyOf
  rw [run.data]
  split
  · rfl
  · split
    · rename_i htarget
      rw [htarget, run.target_data]
      rfl
    · split
      · rename_i hsource
        rw [hsource, run.source_data]
        rfl
      · rfl

/-- A transfer takes from one holding what it adds to another. -/
theorem TransferRun.conserves (run : TransferRun source target authority amount before after) :
    Conserves before after := by
  by_cases hself : source = target
  · -- To itself: only the checks are made.
    refine .of_data fun a => .inl ?_
    rw [run.data, if_pos hself]
  · have hdata : ∀ a, (after.get a).data =
        if a = target then .token { run.receiver with amount := run.sum }
        else if a = source then .token { run.spent with amount := run.rest }
        else (before.get a).data := fun a => by rw [run.data, if_neg hself]
    -- Giving up an allowance leaves the token what it is.
    have hspent : run.spent.mint = run.sender.mint := by rw [run.spends.spent_eq]
    intro token
    have hsupply := run.supplyOf token
    have hheld := held_update_pair before after token hself fun a hsource htarget => by
      rw [hdata, if_neg htarget, if_neg hsource]
    rw [hdata source, hdata target, if_neg hself, if_pos rfl, if_pos rfl, run.source_data,
      run.target_data] at hheld
    simp only [Data.units, hspent, run.same_mint] at hheld
    have htakes := run.takes
    have hgives := run.gives hself
    -- Either it is this token, which leaves one account and arrives at the other, or none of it
    -- moved.
    split at hheld
    all_goals omega

/-- A holding and its mint change by the same number of units. -/
theorem Conserves.of_pair {old next : TokenAccount} {oldMint nextMint : Mint}
    (hsource : (before.get source).data = .token old) (hold : old.mint = mint)
    (hmint : (before.get mint).data = .mint oldMint)
    (hdata : ∀ a, (after.get a).data =
      if a = mint then .mint nextMint else if a = source then .token next else (before.get a).data)
    (hnext : next.mint = mint)
    (hunits : next.amount.toNat + oldMint.supply.toNat = old.amount.toNat + nextMint.supply.toNat) :
    Conserves before after := by
  -- A holding is no mint.
  have hne : source ≠ mint := by
    rintro rfl
    rw [hsource] at hmint
    cases hmint
  intro token
  have hheld := held_update_pair before after token hne fun a hs hm => by
    rw [hdata, if_neg hm, if_neg hs]
  rw [hdata source, hdata mint, if_neg hne, if_pos rfl, if_pos rfl, hsource, hmint] at hheld
  simp only [Data.units, hold, hnext] at hheld
  unfold supplyOf
  rw [hdata]
  -- Only units of this mint are made or destroyed.
  by_cases htoken : token = mint
  · subst htoken
    rw [if_pos rfl, hmint]
    rw [if_pos rfl, if_pos rfl] at hheld
    simp only [Data.supply]
    omega
  · rw [if_neg htoken]
    rw [if_neg (Ne.symm htoken), if_neg (Ne.symm htoken)] at hheld
    split
    · rename_i hs
      rw [hs, hsource]
      simp only [Data.supply]
      rw [hs] at hheld
      omega
    · omega

/-- Minting adds to the supply what it adds to a holding. -/
theorem MintRun.conserves (run : MintRun mint target authority amount before after) :
    Conserves before after := by
  refine .of_pair run.target_data run.receiver_mint run.mint_data run.data run.receiver_mint ?_
  have hgives := run.gives
  have hmakes := run.makes
  simp only
  omega

theorem BurnRun.spent_mint (run : BurnRun mint source authority amount before after) :
    run.spent.mint = mint := by
  rcases run.spends with ⟨-, hsame⟩ | hspends
  · rw [hsame, run.holder_mint]
  · rw [hspends.spent_eq, run.holder_mint]

/-- Burning takes from the supply what it takes from a holding. -/
theorem BurnRun.conserves (run : BurnRun mint source authority amount before after) :
    Conserves before after := by
  refine .of_pair run.source_data run.holder_mint run.mint_data run.data run.spent_mint ?_
  have htakes := run.takes
  have hdestroys := run.destroys
  simp only
  omega

/-! ## Calls that go through -/

/-- The owner of tokens may spend them when it signs and is no group, unless it is its own delegate
and may spend less. -/
theorem exists_spend {account : TokenAccount} (howner : account.owner = authority)
    (hsigns : signs authority = true) (hplain : Tokens.requiredSigners? (bank.get authority) = none)
    (hdelegate : ∀ delegation, account.delegation? = some delegation →
      delegation.delegate = authority → amount.toNat ≤ delegation.amount.toNat) :
    ∃ spent, Tokens.spend signs bank account authority amount = .ok spent := by
  have hagree : ∀ {expected : Address}, expected = authority →
      Tokens.agree signs bank expected authority = .ok () := by
    rintro _ rfl
    simp only [Tokens.agree, hplain, bind_eq_ok_iff, ensure_eq_ok_iff]
    exact ⟨(), trivial, hsigns⟩
  unfold Tokens.spend
  split
  · rename_i delegation hdelegation
    obtain ⟨hsome, heq⟩ := Option.filter_eq_some_iff.1 hdelegation
    have heq := of_decide_eq_true heq
    -- An owner that is its own delegate is bound by what it may spend as one.
    obtain ⟨rest, hrest⟩ := Word.exists_rest (hdelegate delegation hsome heq)
    simp only [bind_eq_ok_iff, someOr_eq_ok_iff, Word.sub?_eq_some_iff, pure_eq_ok_iff]
    exact ⟨_, (), hagree heq, rest, hrest, rfl⟩
  · simp only [bind_eq_ok_iff, pure_eq_ok_iff]
    exact ⟨account, (), hagree howner, rfl⟩

/-- Burning goes through for what is held and may be spent. -/
theorem exists_burn {holder : TokenAccount} {burned : Mint}
    (hsource : (bank.get source).data = .token holder) (hmint : (bank.get mint).data = .mint burned)
    (hfrozen : holder.isFrozen = false) (hnative : holder.isNative = false)
    (hsame : holder.mint = mint) (henough : amount.toNat ≤ holder.amount.toNat)
    (hsupply : amount.toNat ≤ burned.supply.toNat)
    (hspend : ∃ spent, Tokens.spend signs bank holder authority amount = .ok spent) :
    ∃ after, Tokens.burn signs mint source authority amount bank = .ok after := by
  obtain ⟨rest, hrest⟩ := Word.exists_rest henough
  obtain ⟨supply, hleft⟩ := Word.exists_rest hsupply
  -- Whose tokens are lost needs no permission.
  have hpermit : ∃ spent, (if Tokens.isLost holder.owner then pure holder
      else Tokens.spend signs bank holder authority amount) = .ok spent := by
    split
    · exact ⟨holder, rfl⟩
    · exact hspend
  obtain ⟨spent, hspent⟩ := hpermit
  refine ⟨Tokens.put (Tokens.put bank source (.token { spent with amount := rest })) mint
    (.mint { burned with supply := supply }), ?_⟩
  simp only [Tokens.burn, bind_eq_ok_iff, tokenAt_eq_ok_iff, mintAt_eq_ok_iff, ensure_eq_ok_iff,
    someOr_eq_ok_iff, Word.sub?_eq_some_iff]
  refine ⟨holder, hsource, burned, hmint, (), hfrozen, (), hnative, rest, hrest, (), hsame, ?_⟩
  split at hspent
  · rename_i hlost
    rw [if_pos hlost]
    simp only [bind_eq_ok_iff, someOr_eq_ok_iff, Word.sub?_eq_some_iff, pure_eq_ok_iff]
    exact ⟨spent, pure_eq_ok_iff.1 hspent, supply, hleft, rfl⟩
  · rename_i hheld
    rw [if_neg hheld]
    simp only [bind_eq_ok_iff, someOr_eq_ok_iff, Word.sub?_eq_some_iff, pure_eq_ok_iff]
    exact ⟨spent, hspent, supply, hleft, rfl⟩

/-- A transfer goes through for what is held and may be spent when the receiver has room. -/
theorem exists_tokenTransfer {sender receiver : TokenAccount}
    (hsource : (bank.get source).data = .token sender)
    (htarget : (bank.get target).data = .token receiver)
    (hfrozen : sender.isFrozen = false ∧ receiver.isFrozen = false)
    (hnative : sender.isNative = false) (hmint : sender.mint = receiver.mint)
    (henough : amount.toNat ≤ sender.amount.toNat)
    (hroom : source ≠ target → receiver.amount.toNat + amount.toNat < 2 ^ 64)
    (hspend : ∃ spent, Tokens.spend signs bank sender authority amount = .ok spent) :
    ∃ after, Tokens.transfer signs source target authority amount bank = .ok after := by
  obtain ⟨rest, hrest⟩ := Word.exists_rest henough
  obtain ⟨spent, hspent⟩ := hspend
  by_cases hself : source = target
  · -- To itself: all checks are passed, and nothing is written.
    refine ⟨bank, ?_⟩
    simp only [Tokens.transfer, bind_eq_ok_iff, tokenAt_eq_ok_iff, ensure_eq_ok_iff,
      someOr_eq_ok_iff, Word.sub?_eq_some_iff]
    refine ⟨sender, hsource, receiver, htarget, (), hfrozen, rest, hrest, (), hmint, spent, hspent,
      ?_⟩
    rw [if_pos hself]
    rfl
  · let sum : Amount := ⟨receiver.amount.toNat + amount.toNat, hroom hself⟩
    refine ⟨Tokens.put (Tokens.put bank source (.token { spent with amount := rest })) target
      (.token { receiver with amount := sum }), ?_⟩
    simp only [Tokens.transfer, bind_eq_ok_iff, tokenAt_eq_ok_iff, ensure_eq_ok_iff,
      someOr_eq_ok_iff, Word.sub?_eq_some_iff]
    refine ⟨sender, hsource, receiver, htarget, (), hfrozen, rest, hrest, (), hmint, spent, hspent,
      ?_⟩
    rw [if_neg hself]
    simp only [hnative, Bool.false_eq_true, if_false, bind_eq_ok_iff, someOr_eq_ok_iff,
      Word.add?_eq_some_iff, pure_eq_ok_iff]
    exact ⟨sum, rfl, bank, rfl, rfl⟩

end Bank

end CollateralLending
