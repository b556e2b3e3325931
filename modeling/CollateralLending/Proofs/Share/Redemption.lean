/-
  CollateralLending.Proofs.Share.Redemption

  Shares can be redeemed: a user who holds as many shares as an amount costs can
  withdraw it, because the pool of a solvent share vault holds the amount. What
  else a withdrawal asks for is listed in `Bank.Admits`: it is up to the user,
  and to those who can freeze accounts. What the withdrawal then does is told by
  `Redemption`.

  Main statement: `shares_are_redeemable`.
-/
import CollateralLending.Proofs.Share.Payments
import CollateralLending.Proofs.Share.Solvency

namespace CollateralLending

open Bank

/-! ## Loading what the token program owns -/

theorem AccountKind.load_token {account : Account} {value : TokenAccount}
    (howner : account.owner = .tokenProgram) (hdata : account.data = .token value) :
    AccountKind.token.load account = .ok value := by
  unfold AccountKind.load
  rw [if_neg (by rw [howner]; simp), if_neg (by rw [howner]; exact fun h => h rfl), hdata]
  rfl

theorem AccountKind.load_mint {account : Account} {value : Mint}
    (howner : account.owner = .tokenProgram) (hdata : account.data = .mint value) :
    AccountKind.mint.load account = .ok value := by
  unfold AccountKind.load
  rw [if_neg (by rw [howner]; simp), if_neg (by rw [howner]; exact fun h => h rfl), hdata]
  rfl

/-! ## A withdrawal -/

/-- The accounts passed to withdraw from a share vault to a wallet. -/
def Passed.redemption (home user wallet : Address) : Passed where
  accounts := [(.user, user), (.shareVault, home), (.userTokenAccount, wallet),
    (.vault, .sharePool home), (.shareMint, .shareMint home),
    (.userShareAccount, .associated user (.shareMint home)), (.tokenProgram, .tokenProgram)]
  unsigned := []
  readonly := []

/-- What a withdrawal asks for beside shares and pool. The user signs for itself, and may spend the
shares; the wallet takes the underlying token and has room; nothing is frozen or a program but the
token program. -/
structure Bank.Admits (bank : Bank) (home user wallet : Address) (held received : TokenAccount)
    (amount : Amount) (shares : Nat) : Prop where
  runs : (bank.get .tokenProgram).isExecutable = true
  alone : Tokens.requiredSigners? (bank.get user) = none
  user_plain : (bank.get user).isExecutable = false
  held_owner : (bank.get (.associated user (.shareMint home))).owner = .tokenProgram
  held_plain : (bank.get (.associated user (.shareMint home))).isExecutable = false
  holder : held.owner = user
  held_thawed : held.isFrozen = false
  held_unwrapped : held.isNative = false
  permitted : ∀ delegation, held.delegation? = some delegation → delegation.delegate = user →
    shares ≤ delegation.amount.toNat
  wallet_owner : (bank.get wallet).owner = .tokenProgram
  wallet_plain : (bank.get wallet).isExecutable = false
  wallet_data : (bank.get wallet).data = .token received
  wallet_mint : home = .shareVault received.mint
  wallet_thawed : received.isFrozen = false
  room : wallet ≠ .sharePool home → received.amount.toNat + amount.toNat < 2 ^ 64
  pool_thawed : ∀ pool, (bank.get (.sharePool home)).data = .token pool → pool.isFrozen = false

/-- The roles of a withdrawal, all writable, and the user signs. -/
structure Call.Redeems (call : Call) (home user wallet : Address) : Prop where
  user_role : call.address? .user = some user
  vault_role : call.address? .shareVault = some home
  wallet_role : call.address? .userTokenAccount = some wallet
  pool_role : call.address? .vault = some (.sharePool home)
  mint_role : call.address? .shareMint = some (.shareMint home)
  share_role : call.address? .userShareAccount = some (.associated user (.shareMint home))
  program_role : call.address? .tokenProgram = some .tokenProgram
  signs : call.signs user = true
  writable : ∀ a, call.writable a = true

/-- The accounts named by `redemption` play the roles they are passed for. -/
theorem redeems_of_passed (chain : Chain) (amount : Amount) (home user wallet : Address) :
    (chain.callOf (.withdrawUnderlying amount) (.redemption home user wallet)).Redeems home user
      wallet where
  user_role := rfl
  vault_role := rfl
  wallet_role := rfl
  pool_role := rfl
  mint_role := rfl
  share_role := rfl
  program_role := rfl
  signs := by
    refine List.any_eq_true.2 ⟨(.user, user), .head _, ?_⟩
    simp only [decide_true, Bool.true_and]
    rfl
  writable a := by
    have hnone : (chain.callOf (.withdrawUnderlying amount)
      (.redemption home user wallet)).readonly = [] := rfl
    simp [Call.writable, hnone]

section Withdrawals

variable {call : Call} {amount shares : Amount} {s t : Session} {home user wallet : Address}
variable {vault : ShareVault Address Bump} {mint : Mint} {pool held received : TokenAccount}

/-! ## What the pool holds -/

/-- Shares that are held are covered. -/
theorem le_pool_of_sharesFor_le {bank : Bank} (h : bank.Redeemable)
    (hcovers : bank.Covers home vault) (hissues : bank.Issues home mint pool)
    (hcovered : mint.supply.toNat * wad ≤ pool.amount.toNat * vault.exchangeRate.toNat)
    {a : Address} (hheld : (bank.get a).data = .token held) (hshare : held.mint = .shareMint home)
    (hshares : sharesFor amount vault.exchangeRate ≤ held.amount.toNat) :
    held.amount.toNat ≤ mint.supply.toNat ∧ amount.toNat ≤ pool.amount.toNat := by
  have hsupply : held.amount.toNat ≤ mint.supply.toNat :=
    calc
      held.amount.toNat = (bank.get a).data.units (.shareMint home) := by
        rw [hheld, Data.units, if_pos hshare]
      _ ≤ bank.held (.shareMint home) := bank.units_le_held _ a
      _ ≤ bank.supplyOf (.shareMint home) := h.held home
      _ = mint.supply.toNat := by rw [supplyOf, hissues.mint_data, Data.supply]
  have hvalue : amount.toNat * vault.exchangeRate.toNat ≤
      pool.amount.toNat * vault.exchangeRate.toNat :=
    calc
      amount.toNat * vault.exchangeRate.toNat ≤ held.amount.toNat * wad :=
        sharesFor_le_iff.1 hshares
      _ ≤ mint.supply.toNat * wad := Nat.mul_le_mul_right wad hsupply
      _ ≤ pool.amount.toNat * vault.exchangeRate.toNat := hcovered
  exact ⟨hsupply, Nat.le_of_mul_le_mul_right hvalue hcovers.rate_pos⟩

/-- What costs no more shares than there can be has a price. -/
theorem exists_burnedShares (hshares : sharesFor amount vault.exchangeRate < 2 ^ 64) :
    ∃ shares, vault.burnedShares amount = .ok shares ∧
      shares.toNat = sharesFor amount vault.exchangeRate := by
  have hvalue := sharesFor_le_iff.1 (Nat.le_refl (sharesFor amount vault.exchangeRate))
  have hbound : (2 ^ 64 - 1) * wad < 2 ^ 128 := by decide
  have hlt : amount.toNat * vault.exchangeRate.toNat < 2 ^ 128 :=
    calc
      amount.toNat * vault.exchangeRate.toNat ≤ sharesFor amount vault.exchangeRate * wad := hvalue
      _ ≤ (2 ^ 64 - 1) * wad := Nat.mul_le_mul_right wad (Nat.le_sub_one_of_lt hshares)
      _ < 2 ^ 128 := hbound
  exact ⟨⟨_, hshares⟩, burnedShares_eq_ok_iff.2 ⟨hlt, rfl⟩, rfl⟩

/-! ## Withdrawals go through -/

/-- Only an account of the token program can be a group of signers. -/
theorem requiredSigners?_of_owner {account : Account} (h : account.owner ≠ .tokenProgram) :
    Tokens.requiredSigners? account = none := by
  unfold Tokens.requiredSigners?
  rw [if_neg fun hgroup => h hgroup.1]

namespace ShareProgram

open Tx (Yields)

/-- The shares can be burned. -/
theorem exists_burned (hadmits : s.bank.Admits home user wallet held received amount shares.toNat)
    (hsigns : call.signs user = true) (hissues : s.bank.Issues home mint pool)
    (hheld : (s.bank.get (.associated user (.shareMint home))).data = .token held)
    (hshare : held.mint = .shareMint home) (henough : shares.toNat ≤ held.amount.toNat)
    (hsupply : held.amount.toNat ≤ mint.supply.toNat) :
    ∃ burned, Tokens.burn call.signs (.shareMint home) (.associated user (.shareMint home)) user
      shares s.bank = .ok burned :=
  exists_burn hheld hissues.mint_data hadmits.held_thawed hadmits.held_unwrapped hshare henough
    (Nat.le_trans henough hsupply)
    (exists_spend hadmits.holder hsigns hadmits.alone hadmits.permitted)

/-- After that the share vault can pay from its pool. -/
theorem exists_paid (call : Call) {burned : Bank}
    (hadmits : s.bank.Admits home user wallet held received amount shares.toNat)
    (hseated : vault.Seated home) (hissues : s.bank.Issues home mint pool)
    (hshare : held.mint = .shareMint home)
    (hheld : (s.bank.get (.associated user (.shareMint home))).data = .token held)
    (henough : amount.toNat ≤ pool.amount.toNat)
    (burning : BurnRun (.shareMint home) (.associated user (.shareMint home)) user shares s.bank
      burned) :
    ∃ paid, Tokens.transfer (vaultSigns call ⟨home, vault⟩) (.sharePool home) wallet home amount
      burned = .ok paid := by
  obtain ⟨nextMint, hnext, -⟩ := hissues.of_burn (by simp) burning
  -- The wallet is neither the mint nor the account that the shares were in.
  have hmint : wallet ≠ .shareMint home := by
    rintro rfl
    have hwallet := hadmits.wallet_data
    rw [hissues.mint_data] at hwallet
    cases hwallet
  have hother : wallet ≠ .associated user (.shareMint home) := by
    rintro rfl
    have hwallet := hadmits.wallet_data
    rw [hheld] at hwallet
    cases hwallet
    have hhome := hadmits.wallet_mint
    rw [hshare] at hhome
    exact ne_shareVault_shareMint home hhome
  have hwallet : (burned.get wallet).data = .token received := by
    rw [burning.data, if_neg hmint, if_neg hother, hadmits.wallet_data]
  have hsame : pool.mint = received.mint := by
    have hhome := hissues.home_eq.symm.trans hadmits.wallet_mint
    injection hhome
  have hsigns : vaultSigns call ⟨home, vault⟩ home = true := by
    have hplace : home = .shareVault vault.underlyingMint := hseated.home_eq
    simp only [vaultSigns, Call.signsWith, hseated.bump, ← hplace, decide_true, Bool.and_self,
      Bool.or_true]
  have hplain : Tokens.requiredSigners? (burned.get home) = none :=
    requiredSigners?_of_owner (by rw [hnext.home_owner]; decide)
  refine exists_tokenTransfer hnext.pool_data hwallet
    ⟨hadmits.pool_thawed pool hissues.pool_data, hadmits.wallet_thawed⟩ hissues.unwrapped hsame
    henough (fun hne => hadmits.room hne.symm) (exists_spend hissues.keeper hsigns hplain ?_)
  intro delegation hsome
  rw [hissues.undelegated] at hsome
  cases hsome

/-- Before anything is paid, every account is found and passes its checks. -/
theorem yields_site (roles : call.Redeems home user wallet)
    (hadmits : s.bank.Admits home user wallet held received amount shares.toNat)
    (hvault : s.bank.find? .shareVault home = some vault) (hseated : vault.Seated home)
    (hissues : s.bank.Issues home mint pool) :
    Yields (takeSite call) s
        ⟨user, ⟨home, vault⟩, ⟨wallet, received⟩, ⟨.sharePool home, pool⟩,
          ⟨.shareMint home, mint⟩⟩ s ∧
      Yields (checkSite call
        ⟨user, ⟨home, vault⟩, ⟨wallet, received⟩, ⟨.sharePool home, pool⟩, ⟨.shareMint home, mint⟩⟩)
        s () s := by
  have hplain := hissues.plain
  simp only [tills, List.mem_cons, List.not_mem_nil, or_false, forall_eq_or_imp, forall_eq]
    at hplain
  obtain ⟨hhome, hmint, hpool⟩ := hplain
  -- The address of the share vault tells the token that it takes in.
  have hunderlying : received.mint = vault.underlyingMint := by
    have heq := hadmits.wallet_mint.symm.trans hseated.home_eq
    injection heq
  constructor
  · simp only [takeSite, Tx.yields_bind, Tx.yields_pure, Call.yields_signer, Call.yields_load]
    exact ⟨user, s, ⟨⟨roles.user_role, roles.signs⟩, rfl⟩, ⟨home, vault⟩, s,
      ⟨⟨roles.vault_role, load_of_find? hvault⟩, rfl⟩, ⟨wallet, received⟩, s,
      ⟨⟨roles.wallet_role, AccountKind.load_token hadmits.wallet_owner hadmits.wallet_data⟩, rfl⟩,
      ⟨.sharePool home, pool⟩, s,
      ⟨⟨roles.pool_role, AccountKind.load_token hissues.pool_owner hissues.pool_data⟩, rfl⟩,
      ⟨.shareMint home, mint⟩, s,
      ⟨⟨roles.mint_role, AccountKind.load_mint hissues.mint_owner hissues.mint_data⟩, rfl⟩, rfl,
      rfl⟩
  · simp only [checkSite, Tx.yields_bind, Tx.yields_check, Call.yields_mutable, Call.yields_hasOne,
      Call.yields_derivedWith, and_assoc, exists_and_left, exists_eq_left, exists_const, and_true,
      true_and]
    exact ⟨hadmits.user_plain, roles.writable user, hhome, roles.writable home, hseated.shareMint,
      hseated.pool, hadmits.wallet_plain, roles.writable wallet, hunderlying, hseated.poolBump,
      hpool, roles.writable _, hmint, roles.writable _⟩

/-- A withdrawal that is admitted and paid for with shares goes through. -/
theorem exists_withdraw (roles : call.Redeems home user wallet) (h : s.bank.Redeemable)
    (hvault : s.bank.find? .shareVault home = some vault)
    (hheld : (s.bank.get (.associated user (.shareMint home))).data = .token held)
    (hshare : held.mint = .shareMint home) (hpositive : 0 < amount.toNat)
    (hshares : sharesFor amount vault.exchangeRate ≤ held.amount.toNat)
    (hadmits : s.bank.Admits home user wallet held received amount
      (sharesFor amount vault.exchangeRate)) :
    ∃ t, Yields (withdraw call amount) s () t := by
  have hcovers := h.solvent home vault hvault
  obtain ⟨mint, pool, hissues, hcovered⟩ := hcovers.covered
  obtain ⟨hsupply, henough⟩ :=
    le_pool_of_sharesFor_le h hcovers hissues hcovered hheld hshare hshares
  obtain ⟨shares, hprice, hcost⟩ :=
    exists_burnedShares (Nat.lt_of_le_of_lt hshares held.amount.lt)
  rw [← hcost] at hshares hadmits
  -- First the shares are burned, then the pool pays, and last the share vault is written.
  obtain ⟨burned, hburn⟩ :=
    exists_burned hadmits roles.signs hissues hheld hshare hshares hsupply
  obtain ⟨burning⟩ := burn_run hburn
  obtain ⟨paid, hpay⟩ := exists_paid call hadmits hcovers.seated hissues hshare hheld henough
    burning
  obtain ⟨htake, hcheck⟩ := yields_site roles hadmits hvault hcovers.seated hissues
  have hload := AccountKind.load_token hadmits.held_owner hheld
  refine ⟨{
    bank := paid.write .shareVault home
      { vault with totalUnderlying := vault.totalUnderlying.monus amount }
    events := s.events ++ [.share (.burned user vault.underlyingMint shares)]
    log := s.log }, ?_⟩
  simp only [withdraw, Tx.yields_bind]
  refine ⟨_, s, htake, ?_⟩
  simp only [Tx.yields_liftCause, Tx.yields_check, Tx.yields_invoke, Tx.yields_invokeOr,
    Tx.yields_emit, Tx.yields_save, Call.yields_load, Call.yields_program, Call.yields_mutable,
    mapError_eq_ok_iff]
  refine ⟨⟨.associated user (.shareMint home), held⟩, s, ⟨⟨roles.share_role, hload⟩, rfl⟩, (), s,
    ⟨⟨roles.program_role, hadmits.runs⟩, rfl⟩, (), s, hcheck, (), s, ⟨hadmits.holder, rfl⟩, (), s,
    ⟨rfl, rfl⟩, (), s, ⟨⟨hadmits.held_plain, roles.writable _⟩, rfl⟩, (), s, ⟨hpositive, rfl⟩,
    shares, s, ⟨hprice, rfl⟩, (), s, ⟨hshares, rfl⟩, (), _, ⟨burned, hburn, rfl⟩, (), _,
    ⟨paid, hpay, rfl⟩, (), _, rfl, rfl⟩

/-- The roles say what a withdrawal that went through did. -/
theorem redemption_of_yields (roles : call.Redeems home user wallet)
    (hvault : s.bank.find? .shareVault home = some vault) (hseated : vault.Seated home)
    (h : Yields (withdraw call amount) s () t) :
    Redemption s.bank t.bank home vault user wallet amount := by
  obtain ⟨run⟩ := withdraw_run h
  obtain rfl : run.user = user := Option.some.inj (run.user_role.symm.trans roles.user_role)
  obtain rfl : run.home = home := Option.some.inj (run.vault_role.symm.trans roles.vault_role)
  obtain rfl : run.wallet = wallet :=
    Option.some.inj (run.wallet_role.symm.trans roles.wallet_role)
  obtain rfl : run.vault = vault := Option.some.inj ((find?_of_load run.loads).symm.trans hvault)
  exact run.redemption hseated

end ShareProgram

end Withdrawals

/-! ## Along a run -/

/-- While the rate of a share vault never falls, its pool covers all its shares. So a user can
withdraw whatever costs no more shares than it holds, and the pool never lacks it: the withdrawal
goes through, burns those shares and pays the amount from the pool. -/
theorem shares_are_redeemable {start chain : Chain} {moves : List Move} (hfresh : start.bank.Fresh)
    (hnone : ∀ home, start.bank.held (.shareMint home) = 0) (run : start.SteadyRun moves chain)
    {home : Address} {vault : ShareVault Address Bump}
    (hvault : chain.bank.find? .shareVault home = some vault) :
    ∃ mint pool, (chain.bank.get vault.shareMint).data = .mint mint ∧
      (chain.bank.get vault.pool).data = .token pool ∧
      mint.supply.toNat * wad ≤ pool.amount.toNat * vault.exchangeRate.toNat ∧
      ∀ (user : Address) (held : TokenAccount) (amount : Amount),
        (chain.bank.get (.associated user vault.shareMint)).data = .token held →
        held.mint = vault.shareMint → 0 < amount.toNat →
        sharesFor amount vault.exchangeRate ≤ held.amount.toNat →
        amount.toNat ≤ pool.amount.toNat ∧
          ∀ (wallet : Address) (received : TokenAccount),
            chain.bank.Admits home user wallet held received amount
              (sharesFor amount vault.exchangeRate) →
            chain.Accepts (.withdrawUnderlying amount) (.redemption home user wallet) ∧
              Redemption chain.bank
                (chain.after
                  (.transact (.withdrawUnderlying amount) (.redemption home user wallet))).bank
                home vault user wallet amount := by
  have hredeemable := redeemable_of_run hfresh hnone run
  have hcovers := hredeemable.solvent home vault hvault
  obtain ⟨mint, pool, hissues, hcovered⟩ := hcovers.covered
  have hmint := hcovers.seated.shareMint
  refine ⟨mint, pool, hmint ▸ hissues.mint_data, hcovers.seated.pool ▸ hissues.pool_data, hcovered,
    ?_⟩
  rw [hmint]
  intro user held amount hheld hshare hpositive hshares
  refine ⟨(le_pool_of_sharesFor_le hredeemable hcovers hissues hcovered hheld hshare hshares).2, ?_⟩
  intro wallet received hadmits
  have hroles := redeems_of_passed chain amount home user wallet
  obtain ⟨t, hyields⟩ := ShareProgram.exists_withdraw (s := ⟨chain.bank, [], []⟩) hroles
    hredeemable hvault hheld hshare hpositive hshares hadmits
  have haccepts : chain.Accepts (.withdrawUnderlying amount) (.redemption home user wallet) :=
    Chain.accepts_of_yields hyields
  obtain ⟨last, hlast, hafter⟩ := Chain.yields_of_accepts haccepts
  rw [hafter]
  exact ⟨haccepts, ShareProgram.redemption_of_yields hroles hvault hcovers.seated hlast⟩

/-! ## The first shares

A run to look at: a share vault is opened at one and a half shares per unit, a user deposits, and
the rate goes up to two. The deposit was worth half a share more than was minted for it. -/

namespace FirstShares

theorem length_key (byte : UInt8) : (List.replicate 32 byte).length = 32 := List.length_replicate

def key (byte : UInt8) : Address := .unnamed ⟨List.replicate 32 byte, length_key byte⟩

def admin : Address := key 1

def user : Address := key 2

def underlyingMint : Address := key 3

def wallet : Address := key 4

def home : Address := .shareVault underlyingMint

def purse : Account where
  lamports := .units 1000000000
  owner := .systemProgram
  data := .empty

def tokens (amount : Nat) : TokenAccount where
  mint := underlyingMint
  owner := user
  amount := .units amount

def start : Chain :=
  (((Chain.genesis.forge admin purse).forge user purse).forge underlyingMint
    (.holding (.mint ⟨none, .units 5000, 6⟩) none none)).forge wallet
      (.holding (.token (tokens 5000)) none none)

def rate (halves : Nat) : Wide := .units (halves * 500000000000000000)

def openShareVault : Move :=
  .transact (.openShareVault (rate 3))
    ⟨[(.admin, admin), (.shareVault, home), (.underlyingMint, underlyingMint),
      (.shareMint, .shareMint home), (.vault, .sharePool home), (.tokenProgram, .tokenProgram),
      (.systemProgram, .systemProgram), (.rent, .rentSysvar)], [], []⟩

def deposit : Move :=
  .transact (.depositUnderlying (.units 1001))
    ⟨[(.user, user), (.shareVault, home), (.userTokenAccount, wallet), (.vault, .sharePool home),
      (.shareMint, .shareMint home), (.userShareAccount, .associated user (.shareMint home)),
      (.tokenProgram, .tokenProgram), (.associatedTokenProgram, .associatedTokenProgram),
      (.systemProgram, .systemProgram)], [], []⟩

def raise : Move :=
  .transact (.setExchangeRate (rate 4)) ⟨[(.shareVault, home), (.admin, admin)], [], []⟩

def deposited : Chain := (start.after openShareVault).after deposit

def reached : Chain := deposited.after raise

def vault (halves total : Nat) : ShareVault Address Bump :=
  { ShareProgram.openedVault admin underlyingMint (rate halves) with
    totalUnderlying := .units total }

/-- The shares of the user. -/
def shares : TokenAccount where
  mint := .shareMint home
  owner := user
  amount := .units 1501

theorem start_fresh : start.bank.Fresh :=
  .forge (.forge (.forge (.forge Chain.genesis_fresh rfl rfl) rfl rfl) rfl rfl) rfl rfl

theorem find?_deposited : deposited.bank.find? .shareVault home = some (vault 3 1001) := by
  decide +kernel

theorem find?_reached : reached.bank.find? .shareVault home = some (vault 4 1001) := by
  decide +kernel

/-- The pool of the share vault. -/
def pool : TokenAccount where
  mint := underlyingMint
  owner := home
  amount := .units 1001

theorem pool_data : (reached.bank.get (.sharePool home)).data = .token pool := by decide +kernel

theorem shares_data :
    (reached.bank.get (.associated user (.shareMint home))).data = .token shares := by
  decide +kernel

theorem start_held (place : Address) : start.bank.held (.shareMint place) = 0 := by
  have hwallet : (Data.token (tokens 5000)).units (.shareMint place) = 0 := by
    simp [Data.units, tokens, underlyingMint, key]
  have hstart : start.bank.Unheld (.shareMint place) :=
    .forge (.forge (.forge (.forge (unheld_genesis _) rfl) rfl) rfl) hwallet
  exact hstart.held_eq_zero

theorem reached_run : start.SteadyRun [openShareVault, deposit, raise] reached := by
  have hopened : start.SteadyRun [openShareVault] (start.after openShareVault) :=
    .snoc .nil openShareVault trivial (Move.keysSign_of_passed (by decide)) fun _ => trivial
  have hdeposited : start.SteadyRun [openShareVault, deposit] deposited :=
    .snoc hopened deposit trivial (Move.keysSign_of_passed (by decide)) fun _ => trivial
  refine .snoc hdeposited raise trivial (Move.keysSign_of_passed (by decide)) fun _ => ?_
  rintro place found hplace hfound
  cases hplace
  cases find?_deposited.symm.trans hfound
  decide

theorem admits : reached.bank.Admits home user wallet shares (tokens 3999) (.units 750) 1500 where
  runs := by decide +kernel
  alone := by decide +kernel
  user_plain := by decide +kernel
  held_owner := by decide +kernel
  held_plain := by decide +kernel
  holder := rfl
  held_thawed := rfl
  held_unwrapped := rfl
  permitted := nofun
  wallet_owner := by decide +kernel
  wallet_plain := by decide +kernel
  wallet_data := by decide +kernel
  wallet_mint := rfl
  wallet_thawed := rfl
  room _ := by decide
  pool_thawed pool hpool := by
    cases pool_data.symm.trans hpool
    rfl

end FirstShares

open FirstShares in
/-- Of the 1501 shares 1500 are burned for 750 units, which go from the pool to the wallet. -/
theorem first_shares_are_redeemable :
    shares.amount.toNat = 1501 ∧
      reached.Accepts (.withdrawUnderlying (.units 750)) (.redemption home user wallet) ∧
      sharesFor (.units 750) (rate 4) = 1500 ∧
      Redemption reached.bank
        (reached.after (.transact (.withdrawUnderlying (.units 750))
          (.redemption home user wallet))).bank
        home (vault 4 1001) user wallet (.units 750) := by
  obtain ⟨mint, pool, -, -, -, hredeem⟩ :=
    shares_are_redeemable start_fresh start_held reached_run find?_reached
  obtain ⟨-, hadmitted⟩ :=
    hredeem user shares (.units 750) shares_data rfl (by decide) (by decide)
  obtain ⟨haccepts, hredemption⟩ := hadmitted wallet (tokens 3999) admits
  exact ⟨by decide, haccepts, by decide, hredemption⟩

end CollateralLending
