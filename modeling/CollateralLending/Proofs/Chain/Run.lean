/-
  CollateralLending.Proofs.Chain.Run

  Runs of a chain. A chain moves on by a transaction, with any instruction and
  any accounts; by whatever the transactions of other programs do; and by the
  clock. `Chain.Run` are the runs over any list of such moves.

  Other programs do as they like with accounts of their own. Of the accounts of
  this library (`Bank.Guarded`: the derived addresses and what its programs
  own) nobody else is the owner, and nobody else signs for them, so all that
  others can do is pay in (`Bank.Outside`).
-/
import CollateralLending.Proofs.Chain.Yields
import CollateralLending.Table.Lemmas

namespace CollateralLending

/-! ## Whose an account is -/

/-- Whether one of the programs of this library derives the address. -/
def Address.isOwn : Address → Bool
  | feed .. | vault _ | debtVault _ | collateral _ | position .. | shareVault _ | shareMint _
  | sharePool _ => true
  | systemProgram | tokenProgram | associatedTokenProgram | lendingProgram | feedProgram
  | shareProgram | rentSysvar | named _ | unnamed _ | associated .. => false

/-- Whether the address is a program of this library. -/
def Address.isOwnProgram : Address → Bool
  | lendingProgram | feedProgram | shareProgram => true
  | systemProgram | tokenProgram | associatedTokenProgram | rentSysvar | named _ | unnamed _
  | feed .. | vault _ | debtVault _ | collateral _ | position .. | shareVault _ | shareMint _
  | sharePool _ | associated .. => false

/-- The account at the address is one that no other program may write to or sign for. -/
def Bank.Guarded (bank : Bank) (address : Address) : Prop :=
  address.isOwn = true ∨ (bank.get address).owner.isOwnProgram = true

/-- The program that runs an instruction. -/
def Instruction.program : Instruction → Address
  | openFeed _ | setAnswer _ | setStaleness _ => .feedProgram
  | openVault | deposit _ | borrow _ | payback _ | withdraw _ | liquidate => .lendingProgram
  | openShareVault _ | depositUnderlying _ | withdrawUnderlying _ | setExchangeRate _ =>
    .shareProgram

/-! ## What others may do -/

/-- Others may add to a holding, and freeze or thaw it. -/
structure TokenAccount.Given (before after : TokenAccount) : Prop where
  mint : after.mint = before.mint
  owner : after.owner = before.owner
  delegation : after.delegation? = before.delegation?
  native : after.isNative = before.isNative
  amount : before.amount.toNat ≤ after.amount.toNat

/-- Others may destroy units of a token that they hold. -/
structure Mint.Given (before after : Mint) : Prop where
  authority : after.authority? = before.authority?
  decimals : after.decimals = before.decimals
  supply : after.supply.toNat ≤ before.supply.toNat

/-- What others may do to the content of a guarded account. -/
inductive Data.Given : Data → Data → Prop where
  | same (data : Data) : Given data data
  | token {before after : TokenAccount} (given : before.Given after) :
      Given (.token before) (.token after)
  | mint {before after : Mint} (given : before.Given after) : Given (.mint before) (.mint after)

/-- What others may do to a guarded account. -/
structure Account.Given (before after : Account) : Prop where
  owner : after.owner = before.owner
  executable : after.isExecutable = before.isExecutable
  lamports : before.lamports.toNat ≤ after.lamports.toNat
  data : before.data.Given after.data

/-- What the transactions of other programs may do to all accounts. An account that they hand over
to a program of this library has zeros for its content. -/
structure Bank.Outside (before after : Bank) : Prop where
  given : ∀ a, before.Guarded a → (before.get a).Given (after.get a)
  handed : ∀ a, ¬ before.Guarded a → (after.get a).owner.isOwnProgram = true →
    ∃ size, (after.get a).data = .zeros size

/-! ## Runs -/

/-- A step of a chain. -/
inductive Move where
  /-- A transaction with an instruction of this library, which may fail. -/
  | transact (instruction : Instruction) (passed : Passed)
  /-- Transactions of other programs, which leave these accounts. -/
  | outside (after : Bank)
  /-- The clock is set. -/
  | clock (now : Seconds)

/-- The chain after a move. -/
def Chain.after (chain : Chain) : Move → Chain
  | .transact instruction passed => (chain.execute instruction passed).1
  | .outside bank => { chain with bank := bank }
  | .clock now => { chain with now := now }

/-- Transactions of other programs keep to what they may do; the rest is free. -/
def Move.Allowed (chain : Chain) : Move → Prop
  | .transact .. | .clock _ => True
  | .outside bank => chain.bank.Outside bank

/-- The chains that the moves lead to, one after the other. -/
inductive Chain.Run (start : Chain) : List Move → Chain → Prop where
  | nil : Run start [] start
  | snoc {moves : List Move} {chain : Chain} (run : Run start moves chain) (move : Move)
      (allowed : move.Allowed chain) : Run start (moves ++ [move]) (chain.after move)

/-- No account of this library exists. -/
structure Bank.Fresh (bank : Bank) : Prop where
  unused : ∀ a, a.isOwn = true → (bank.get a).owner = .systemProgram ∧ (bank.get a).data = .empty
  unowned : ∀ a, (bank.get a).owner.isOwnProgram = false

/-- Only keys sign: no derived address does. -/
def Call.KeysSign (call : Call) : Prop := ∀ a, call.signs a = true → a.isDerived = false

/-- Only keys sign the transaction, if the move is one. Who signs does not depend on the chain. -/
def Move.KeysSign : Move → Prop
  | .transact instruction passed => ∀ chain : Chain, (chain.callOf instruction passed).KeysSign
  | .outside _ | .clock _ => True

/-- An instruction is called with accounts that were passed to it. -/
theorem Call.mem_of_mem_accounts {fields : List Field} {given : List (Field × Address)}
    {unsigned readonly : List Field} {now : Seconds} {entry : Field × Address}
    (h : entry ∈ (Call.ofGiven fields given unsigned readonly now).accounts) : entry ∈ given := by
  simp only [Call.ofGiven, List.mem_filterMap, Option.map_eq_some_iff] at h
  obtain ⟨pair, hpair, address, haddress, rfl⟩ := h
  have hmap := List.takeWhile_subset _ hpair
  obtain ⟨field, -, rfl⟩ := List.mem_map.1 hmap
  obtain ⟨before, after, hgiven, -⟩ := List.lookup_eq_some_iff.1 haddress
  rw [hgiven]
  simp

/-- Only keys sign when only keys are passed in the roles that sign. -/
theorem Move.keysSign_of_passed {instruction : Instruction} {passed : Passed}
    (h : ∀ entry ∈ passed.accounts, entry.1.signs = true → entry.2.isDerived = false) :
    (Move.transact instruction passed).KeysSign := by
  intro chain a ha
  simp only [Call.signs, List.any_eq_true, Bool.and_eq_true, decide_eq_true_eq] at ha
  obtain ⟨entry, hentry, ⟨rfl, hsigns⟩, -⟩ := ha
  exact h entry (Call.mem_of_mem_accounts hentry) hsigns

namespace Chain

variable {chain : Chain} {instruction : Instruction} {passed : Passed}

/-- The transaction goes through. -/
def Accepts (chain : Chain) (instruction : Instruction) (passed : Passed) : Prop :=
  ∃ receipt, (chain.execute instruction passed).2 = .ok receipt

/-- A transaction either changes nothing or leaves the accounts of the session its instruction
yields. -/
theorem execute_cases (chain : Chain) (instruction : Instruction) (passed : Passed) :
    (chain.after (.transact instruction passed) = chain ∧ ¬ chain.Accepts instruction passed) ∨
      ∃ t, Tx.Yields (instruction.run (chain.callOf instruction passed)) ⟨chain.bank, [], []⟩ () t ∧
        chain.after (.transact instruction passed) = { chain with bank := t.bank } ∧
        ∃ changed, (chain.execute instruction passed).2 = .ok ⟨t.events, t.log, changed⟩ := by
  cases hrun : instruction.run (chain.callOf instruction passed) ⟨chain.bank, [], []⟩ with
  | error failure =>
      have hexecute : chain.execute instruction passed = (chain, .error failure) := by
        unfold execute
        rw [show (instruction.run (chain.callOf instruction passed)).run ⟨chain.bank, [], []⟩ =
          .error failure from hrun]
      refine .inl ⟨by rw [after, hexecute], ?_⟩
      rintro ⟨receipt, haccept⟩
      rw [hexecute] at haccept
      cases haccept
  | ok yielded =>
      obtain ⟨⟨⟩, t⟩ := yielded
      have hexecute : chain.execute instruction passed = ({ chain with bank := t.bank },
          .ok ⟨t.events, t.log, (chain.bank.differences t.bank).map fun address =>
            (address, t.bank.get address)⟩) := by
        unfold execute
        rw [show (instruction.run (chain.callOf instruction passed)).run ⟨chain.bank, [], []⟩ =
          .ok ((), t) from hrun]
      refine .inr ⟨t, hrun, ?_, ?_⟩
      · rw [after, hexecute]
      · rw [hexecute]
        exact ⟨_, rfl⟩

/-- A transaction that is refused changes nothing. -/
theorem after_eq_of_refused (h : ¬ chain.Accepts instruction passed) :
    chain.after (.transact instruction passed) = chain := by
  rcases chain.execute_cases instruction passed with ⟨hsame, -⟩ | ⟨t, -, -, changed, hreceipt⟩
  · exact hsame
  · exact absurd ⟨_, hreceipt⟩ h

/-- An accepted transaction is an instruction that yields, from a session without events, the
accounts that are there afterwards. -/
theorem yields_of_accepts (h : chain.Accepts instruction passed) :
    ∃ t, Tx.Yields (instruction.run (chain.callOf instruction passed)) ⟨chain.bank, [], []⟩ () t ∧
      chain.after (.transact instruction passed) = { chain with bank := t.bank } := by
  rcases chain.execute_cases instruction passed with ⟨-, hfail⟩ | ⟨t, hyields, hafter, -⟩
  · exact absurd h hfail
  · exact ⟨t, hyields, hafter⟩

/-- When the instruction yields, the transaction is accepted. -/
theorem accepts_of_yields {t : Session}
    (h : Tx.Yields (instruction.run (chain.callOf instruction passed)) ⟨chain.bank, [], []⟩ () t) :
    chain.Accepts instruction passed := by
  unfold Accepts execute
  rw [show (instruction.run (chain.callOf instruction passed)).run ⟨chain.bank, [], []⟩ =
    .ok ((), t) from h]
  exact ⟨_, rfl⟩

/-- Whether a transaction is accepted can be computed. -/
theorem accepts_of_isOk (h : (chain.execute instruction passed).2.isOk = true) :
    chain.Accepts instruction passed := by
  cases hresult : (chain.execute instruction passed).2 with
  | ok receipt => exact ⟨receipt, hresult⟩
  | error failure =>
      rw [hresult] at h
      cases h

variable {start : Chain} {quantity : Call → Bank → Instruction → Nat}

/-- Transactions and settings of the clock may follow at any time. -/
theorem Run.extend {moves : List Move} (run : Run start moves chain) (more : List Move)
    (hallowed : ∀ move ∈ more, ∀ chain, move.Allowed chain) :
    Run start (moves ++ more) (more.foldl Chain.after chain) := by
  induction more generalizing moves chain with
  | nil =>
      rw [List.append_nil]
      exact run
  | cons move more ih =>
      have hrest := ih (run.snoc move (hallowed move List.mem_cons_self chain))
        fun later hlater => hallowed later (List.mem_cons_of_mem _ hlater)
      rw [List.append_assoc] at hrest
      exact hrest

/-! ## Counting over a run -/

/-- A quantity of a transaction, which counts when it goes through. -/
def whenAccepted (chain : Chain) (quantity : Call → Bank → Instruction → Nat) : Move → Nat
  | .transact instruction passed =>
    match (chain.execute instruction passed).2 with
    | .ok _ => quantity (chain.callOf instruction passed) chain.bank instruction
    | .error _ => 0
  | .outside _ | .clock _ => 0

theorem whenAccepted_of_accepts (h : chain.Accepts instruction passed) :
    chain.whenAccepted quantity (.transact instruction passed) =
      quantity (chain.callOf instruction passed) chain.bank instruction := by
  obtain ⟨receipt, hreceipt⟩ := h
  rw [whenAccepted, hreceipt]

theorem whenAccepted_of_refused (h : ¬ chain.Accepts instruction passed) :
    chain.whenAccepted quantity (.transact instruction passed) = 0 := by
  cases hresult : (chain.execute instruction passed).2 with
  | ok receipt => exact absurd ⟨receipt, hresult⟩ h
  | error failure => rw [whenAccepted, hresult]

/-- A quantity that moves add to, counted over a run. -/
def sumMoves (quantity : Chain → Move → Int) (chain : Chain) : List Move → Int
  | [] => 0
  | move :: moves => quantity chain move + sumMoves quantity (chain.after move) moves

/-- A run ends where its moves lead, one after the other. -/
theorem Run.eq_foldl {moves : List Move} (run : Run start moves chain) :
    moves.foldl Chain.after start = chain := by
  induction run with
  | nil => rfl
  | snoc run move allowed ih => rw [List.foldl_append, ih, List.foldl_cons, List.foldl_nil]

/-- What is counted over two runs in a row is the sum of both. -/
theorem sumMoves_append (quantity : Chain → Move → Int) (chain : Chain) (moves more : List Move) :
    sumMoves quantity chain (moves ++ more) =
      sumMoves quantity chain moves + sumMoves quantity (moves.foldl Chain.after chain) more := by
  induction moves generalizing chain with
  | nil => exact (Int.zero_add _).symm
  | cons move moves ih =>
      rw [List.cons_append, sumMoves, sumMoves, ih, List.foldl_cons, Int.add_assoc]

/-- The last move of a run is counted in the state that the others lead to. -/
theorem Run.sumMoves_snoc {moves : List Move} (run : Run start moves chain)
    (quantity : Chain → Move → Int) (move : Move) :
    sumMoves quantity start (moves ++ [move]) =
      sumMoves quantity start moves + quantity chain move := by
  rw [sumMoves_append, run.eq_foldl, sumMoves, sumMoves, Int.add_zero]

/-! ## What does not happen in a run -/

/-- No move is of this kind in the chain in which it is made. -/
def Never (kind : Chain → Move → Prop) (chain : Chain) : List Move → Prop
  | [] => True
  | move :: moves => ¬ kind chain move ∧ Never kind (chain.after move) moves

/-- What never happens in two runs in a row happens in neither. -/
theorem never_append (kind : Chain → Move → Prop) (chain : Chain) (moves more : List Move) :
    Never kind chain (moves ++ more) ↔
      Never kind chain moves ∧ Never kind (moves.foldl Chain.after chain) more := by
  induction moves generalizing chain with
  | nil => exact (iff_of_eq (true_and _)).symm
  | cons move moves ih => rw [List.cons_append, Never, Never, ih, List.foldl_cons, and_assoc]

/-- The last move of a run is judged in the state that the others lead to. -/
theorem Run.never_snoc {moves : List Move} (run : Run start moves chain)
    (kind : Chain → Move → Prop) (move : Move) :
    Never kind start (moves ++ [move]) ↔ Never kind start moves ∧ ¬ kind chain move := by
  rw [never_append, run.eq_foldl, Never, Never, and_true]

end Chain

/-! ## Where a run may start -/

namespace Bank

theorem fresh_empty : Fresh Table.empty where
  unused _ _ := ⟨rfl, rfl⟩
  unowned _ := rfl

/-- Accounts of others may be there from the start. -/
theorem Fresh.set {bank : Bank} (h : bank.Fresh) {address : Address} {account : Account}
    (haddress : address.isOwn = false) (howner : account.owner.isOwnProgram = false) :
    Fresh (bank.set address account) where
  unused a ha := by
    have hne : a ≠ address := by
      rintro rfl
      rw [ha] at haddress
      cases haddress
    rw [Table.get_set_of_ne hne]
    exact h.unused a ha
  unowned a := by
    rw [Table.get_set]
    split
    · exact howner
    · exact h.unowned a

/-- Accounts of other programs at other addresses leave a chain fresh. -/
theorem Fresh.forge {chain : Chain} (h : chain.bank.Fresh) {address : Address} {account : Account}
    (haddress : address.isOwn = false) (howner : account.owner.isOwnProgram = false) :
    Fresh (chain.forge address account).bank := h.set haddress howner

end Bank

/-- On the first chain there is no account of any program of this library. -/
theorem Chain.genesis_fresh : Chain.genesis.bank.Fresh := by
  have hprogram : Chain.programAccount.owner.isOwnProgram = false := rfl
  have hrent : Bank.Fresh (Table.set Table.empty .rentSysvar Chain.rentAccount) :=
    Bank.fresh_empty.set rfl rfl
  simp only [Chain.genesis, Address.programs, List.foldl_cons, List.foldl_nil]
  exact .set (.set (.set (.set (.set (hrent.set rfl hprogram) rfl hprogram) rfl hprogram) rfl
    hprogram) rfl hprogram) rfl hprogram

end CollateralLending
