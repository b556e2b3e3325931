/-
  CollateralLending.Proofs.Chain.Calls

  What calls to other programs do to the accounts, one account at a time.

    * `Paid`: the system program moves lamports and leaves all else alone.
    * `Made`: it makes an account out of one that nobody used.
    * `Retokened`: the token program touches only accounts that hold tokens or
      are mints, and those stay what they are.

  Each call has one lemma that yields one of these; nothing below unfolds a call.
-/
import CollateralLending.Proofs.Outcome
import CollateralLending.Proofs.Chain.Yields
import CollateralLending.Table.Lemmas

namespace CollateralLending

/-- Whether the content is a holding of tokens or a mint. -/
def Data.isTokens : Data → Bool
  | token _ | mint _ => true
  | raw _ | feed .. | vault .. | position .. | shareVault .. => false

namespace Bank

variable {before middle after bank : Bank} {source target payer program address : Address}

/-- `n` lamports moved from one account to another, and nothing else changed. They are added on both
sides of the equation, so that both may be the same account. -/
structure Paid (before after : Bank) (source target : Address) (n : Nat) : Prop where
  same : ∀ a, after.get a = { before.get a with lamports := (after.get a).lamports }
  lamports : ∀ a, (after.get a).lamports.toNat + (if a = source then n else 0) =
    (before.get a).lamports.toNat + if a = target then n else 0

/-- An account of `size` zero bytes was made for a program at an address that nobody used; the payer
added lamports to it. -/
structure Made (before after : Bank) (payer target : Address) (size : Nat) (program : Address) :
    Prop where
  unowned : (before.get target).owner = .systemProgram
  unused : (before.get target).data.size = 0
  owner : (after.get target).owner = program
  data : (after.get target).data = .zeros size
  others : ∀ a, a ≠ target → after.get a = { before.get a with lamports := (after.get a).lamports }
  lamports : ∃ n, ∀ a, (after.get a).lamports.toNat + (if a = payer then n else 0) =
    (before.get a).lamports.toNat + if a = target then n else 0

/-- Only holdings of tokens and mints changed, in what they hold and in their lamports. -/
structure Retokened (before after : Bank) : Prop where
  owner : ∀ a, (after.get a).owner = (before.get a).owner
  tokens : ∀ a, (before.get a).data.isTokens = true → (after.get a).data.isTokens = true
  others : ∀ a, (before.get a).data.isTokens = false → after.get a = before.get a

theorem get_write {α : Type} (bank : Bank) (kind : AccountKind α) (address other : Address)
    (value : α) : (bank.write kind address value).get other =
      if other = address then kind.save (bank.get address) value else bank.get other := by
  rw [write, Table.get_set]

/-! ## Lamports -/

/-- A payment in lamports changes no owner. -/
theorem Paid.owner {n : Nat} (h : Paid before after source target n) (a : Address) :
    (after.get a).owner = (before.get a).owner := by
  rw [h.same a]

/-- Nor does it change any data. -/
theorem Paid.data {n : Nat} (h : Paid before after source target n) (a : Address) :
    (after.get a).data = (before.get a).data := by
  rw [h.same a]

theorem Paid.get_of_ne {n : Nat} (h : Paid before after source target n) {a : Address}
    (hsource : a ≠ source) (htarget : a ≠ target) : after.get a = before.get a := by
  have hl := h.lamports a
  rw [if_neg hsource, if_neg htarget] at hl
  rw [h.same a, Word.ext hl]

/-- Paying nothing changes nothing, whoever is asked to. -/
theorem Paid.nothing (bank : Bank) (source target : Address) : Paid bank bank source target 0 where
  same a := rfl
  lamports a := by simp

/-- What a transfer checks, and that it moves exactly its amount. -/
theorem paid_of_transfer {signs : Address → Bool} {n : Nat}
    (h : System.transfer signs source target n bank = .ok after) :
    signs source = true ∧ (bank.get source).data.size = 0 ∧ Paid bank after source target n := by
  simp only [System.transfer, bind_eq_ok_iff, ensure_eq_ok_iff] at h
  obtain ⟨_, hsign, _, hdata, _, henough, h⟩ := h
  refine ⟨hsign, hdata, ?_⟩
  split at h
  · -- To oneself: only the checks are made.
    rename_i heq
    have hbank := pure_eq_ok_iff.1 h
    subst heq hbank
    exact ⟨fun a => rfl, fun a => rfl⟩
  · -- Between two accounts: what the receiver holds does not depend on the first write.
    rename_i hne
    simp only [System.debit, System.credit, bind_eq_ok_iff, someOr_eq_ok_iff, pure_eq_ok_iff] at h
    obtain ⟨_, ⟨rest, hrest, rfl⟩, sum, hsum, rfl⟩ := h
    rw [if_pos henough, Word.ofNat?_eq_some_iff] at hrest
    rw [Word.ofNat?_eq_some_iff, Table.get_set_of_ne (Ne.symm hne)] at hsum
    constructor
    · intro a
      rw [Table.get_set, Table.get_set_of_ne (Ne.symm hne), Table.get_set]
      by_cases hat : a = target
      · subst hat
        rw [if_pos rfl]
      · rw [if_neg hat]
        by_cases has : a = source
        · subst has
          rw [if_pos rfl]
        · rw [if_neg has]
    · intro a
      rw [Table.get_set, Table.get_set_of_ne (Ne.symm hne), Table.get_set]
      by_cases hat : a = target
      · subst hat
        rw [if_pos rfl, if_neg (Ne.symm hne), if_pos rfl]
        omega
      · rw [if_neg hat, if_neg hat]
        by_cases has : a = source
        · subst has
          rw [if_pos rfl, if_pos rfl]
          simp only
          omega
        · rw [if_neg has, if_neg has]

/-- A transfer that is signed for and covered goes through when the receiver has room for it. -/
theorem exists_transfer {signs : Address → Bool} {n : Nat} (hsigns : signs source = true)
    (hdata : (bank.get source).data.size = 0) (henough : n ≤ (bank.get source).lamports.toNat)
    (hroom : source ≠ target → (bank.get target).lamports.toNat + n < 2 ^ (64 : Nat)) :
    ∃ after, System.transfer signs source target n bank = .ok after := by
  simp only [System.transfer, bind_eq_ok_iff, ensure_eq_ok_iff]
  by_cases hself : source = target
  · exact ⟨bank, (), hsigns, (), hdata, (), henough, by rw [if_pos hself]; rfl⟩
  · have hrest : (bank.get source).lamports.toNat - n < 2 ^ (64 : Nat) :=
      Nat.lt_of_le_of_lt (Nat.sub_le _ _) (bank.get source).lamports.lt
    let debited := bank.set source { bank.get source with lamports := ⟨_, hrest⟩ }
    let received : Account := { bank.get target with lamports := ⟨_, hroom hself⟩ }
    refine ⟨debited.set target received, (), hsigns, (), hdata, (), henough, ?_⟩
    rw [if_neg hself]
    simp only [System.debit, System.credit, bind_eq_ok_iff, someOr_eq_ok_iff, pure_eq_ok_iff]
    refine ⟨debited, ⟨⟨_, hrest⟩, ?_, rfl⟩, ⟨_, hroom hself⟩, ?_, ?_⟩
    · rw [if_pos henough]
      exact Word.ofNat?_eq_some_iff.2 rfl
    · rw [Table.get_set_of_ne (Ne.symm hself)]
      exact Word.ofNat?_eq_some_iff.2 rfl
    · rw [Table.get_set_of_ne (Ne.symm hself)]

/-! ## New accounts -/

/-- The account at `target` was emptied of what it was and given to a program. -/
theorem get_assign_of_allocate {signs : Address → Bool} {size : Nat} (program : Address)
    (h : System.allocate signs target size bank = .ok after) :
    ((bank.get target).owner = .systemProgram ∧ (bank.get target).data.size = 0) ∧
      ∀ a, (System.assign target program after).get a =
        if a = target then
          { bank.get target with owner := program, data := .zeros size }
        else bank.get a := by
  simp only [System.allocate, bind_eq_ok_iff, ensure_eq_ok_iff, pure_eq_ok_iff] at h
  obtain ⟨_, -, _, ⟨hdata, howner⟩, rfl⟩ := h
  refine ⟨⟨howner, hdata⟩, ?_⟩
  intro a
  rw [System.assign, Table.get_set, Table.get_set_self]
  by_cases ha : a = target
  · rw [if_pos ha, if_pos ha]
  · rw [if_neg ha, if_neg ha, Table.get_set_of_ne ha]

/-- Lamports that come before an account is made do not matter to what is made. -/
theorem Made.after_paid {size n : Nat} (hpaid : Paid before middle payer target n)
    (hunused : (middle.get target).owner = .systemProgram ∧ (middle.get target).data.size = 0)
    (hget : ∀ a, after.get a =
      if a = target then
        { middle.get target with owner := program, data := .zeros size }
      else middle.get a) :
    Made before after payer target size program where
  unowned := by rw [← hpaid.owner]; exact hunused.1
  unused := by rw [← hpaid.data]; exact hunused.2
  owner := by rw [hget, if_pos rfl]
  data := by rw [hget, if_pos rfl]
  others a ha := by rw [hget, if_neg ha]; exact hpaid.same a
  lamports := by
    refine ⟨n, ?_⟩
    intro a
    have hl := hpaid.lamports a
    rw [hget]
    by_cases ha : a = target
    · subst ha
      rw [if_pos rfl]
      exact hl
    · rw [if_neg ha]
      exact hl

/-- Nor do lamports that come after it. -/
theorem Made.before_paid {size n : Nat} (hpaid : Paid middle after payer target n)
    (hunused : (before.get target).owner = .systemProgram ∧ (before.get target).data.size = 0)
    (hget : ∀ a, middle.get a =
      if a = target then
        { before.get target with owner := program, data := .zeros size }
      else before.get a) :
    Made before after payer target size program where
  unowned := hunused.1
  unused := hunused.2
  owner := by rw [hpaid.owner, hget, if_pos rfl]
  data := by rw [hpaid.data, hget, if_pos rfl]
  others a ha := by
    have hsame := hpaid.same a
    rw [hget, if_neg ha] at hsame
    exact hsame
  lamports := by
    refine ⟨n, ?_⟩
    intro a
    have hl := hpaid.lamports a
    rw [hget] at hl
    by_cases ha : a = target
    · subst ha
      rw [if_pos rfl] at hl
      exact hl
    · rw [if_neg ha] at hl
      exact hl

/-- Whatever the address holds already, what is made there is the same, and the payer adds what is
missing. -/
theorem made_of_establish {signs : Address → Bool} {size : Nat}
    (h : System.establish signs payer target size program bank = .ok after) :
    Made bank after payer target size program := by
  unfold System.establish at h
  simp only at h
  split at h
  · -- Nothing there: the account is made first and paid for after that.
    simp only [System.createAccount, bind_eq_ok_iff] at h
    obtain ⟨_, -, allocated, hallocate, hpay⟩ := h
    obtain ⟨hunused, hget⟩ := get_assign_of_allocate program hallocate
    exact .before_paid (paid_of_transfer hpay).2.2 hunused hget
  · -- Lamports there: the payer adds what is missing, and the account is made after that.
    have hfund : ∃ n funded, Paid bank funded payer target n ∧ ∃ allocated,
        System.allocate signs target size funded = .ok allocated ∧
          System.assign target program allocated = after := by
      split at h
      · simp only [bind_eq_ok_iff, pure_eq_ok_iff] at h
        obtain ⟨_, rfl, allocated, hallocate, hassign⟩ := h
        exact ⟨0, bank, .nothing bank payer target, allocated, hallocate, hassign⟩
      · simp only [bind_eq_ok_iff, pure_eq_ok_iff] at h
        obtain ⟨funded, hfund, allocated, hallocate, hassign⟩ := h
        exact ⟨_, funded, (paid_of_transfer hfund).2.2, allocated, hallocate, hassign⟩
    obtain ⟨n, funded, hpaid, allocated, hallocate, rfl⟩ := hfund
    obtain ⟨hunused, hget⟩ := get_assign_of_allocate program hallocate
    exact .after_paid hpaid hunused hget

theorem Made.owner_of_ne {size : Nat} (h : Made before after payer target size program)
    {a : Address} (htarget : a ≠ target) : (after.get a).owner = (before.get a).owner := by
  rw [h.others a htarget]

/-- Making an account concerns the payer and the account that is made, and nobody else. -/
theorem Made.get_of_ne {size : Nat} (h : Made before after payer target size program) {a : Address}
    (hpayer : a ≠ payer) (htarget : a ≠ target) : after.get a = before.get a := by
  obtain ⟨n, hlamports⟩ := h.lamports
  have hl := hlamports a
  rw [if_neg hpayer, if_neg htarget] at hl
  rw [h.others a htarget, Word.ext hl]

/-! ## Tokens -/

/-- Content that is put into an account does not change whose it is. -/
theorem owner_put (bank : Bank) (address : Address) (data : Data) (a : Address) :
    ((Tokens.put bank address data).get a).owner = (bank.get a).owner := by
  rw [Tokens.put, Table.get_set]
  split
  · rename_i ha
    rw [ha]
  · rfl

theorem Retokened.refl (bank : Bank) : Retokened bank bank where
  owner _ := rfl
  tokens _ h := h
  others _ _ := rfl

theorem Retokened.trans (h₁ : Retokened before middle) (h₂ : Retokened middle after) :
    Retokened before after where
  owner a := by rw [h₂.owner, h₁.owner]
  tokens a ha := h₂.tokens a (h₁.tokens a ha)
  others a ha := by
    have hmid := h₁.others a ha
    rw [h₂.others a (by rw [hmid]; exact ha), hmid]

/-- An account that holds tokens is replaced by one that does, for the same program. -/
theorem Retokened.of_set {account : Account} (hold : (bank.get address).data.isTokens = true)
    (howner : account.owner = (bank.get address).owner) (hnew : account.data.isTokens = true) :
    Retokened bank (bank.set address account) where
  owner a := by
    rw [Table.get_set]
    split
    · rename_i ha
      rw [ha]
      exact howner
    · rfl
  tokens a ha := by
    rw [Table.get_set]
    split
    · exact hnew
    · exact ha
  others a ha := by
    rw [Table.get_set_of_ne]
    rintro rfl
    rw [hold] at ha
    cases ha

/-- Content of the token program is put in the place of such content. -/
theorem Retokened.of_put {data : Data} (hold : (bank.get address).data.isTokens = true)
    (hnew : data.isTokens = true) : Retokened bank (Tokens.put bank address data) :=
  .of_set hold rfl hnew

/-- What is found as a token account is content of the token program. -/
theorem isTokens_of_tokenAt {account : TokenAccount}
    (h : Tokens.tokenAt bank address = .ok account) : (bank.get address).data.isTokens = true := by
  unfold Tokens.tokenAt at h
  split at h
  · rename_i hdata
    rw [hdata]
    rfl
  · cases h

theorem isTokens_of_mintAt {mint : Mint} (h : Tokens.mintAt bank address = .ok mint) :
    (bank.get address).data.isTokens = true := by
  unfold Tokens.mintAt at h
  split at h
  · rename_i hdata
    rw [hdata]
    rfl
  · cases h

/-- The lamports of a native account move between two accounts that hold tokens. -/
theorem retokened_of_moveLamports {amount : Amount}
    (hsource : (bank.get source).data.isTokens = true)
    (htarget : (bank.get target).data.isTokens = true)
    (h : Tokens.moveLamports source target amount bank = .ok after) : Retokened bank after := by
  simp only [Tokens.moveLamports, bind_eq_ok_iff, someOr_eq_ok_iff, pure_eq_ok_iff] at h
  obtain ⟨rest, -, sum, -, rfl⟩ := h
  -- The receiver may be the sender, so what is written to it is looked up after the first write.
  have hdebit : Retokened bank
      (bank.set source { bank.get source with lamports := rest }) := .of_set hsource rfl hsource
  exact hdebit.trans (.of_set (hdebit.tokens _ htarget) rfl (hdebit.tokens _ htarget))

/-- A transfer of tokens rewrites the two accounts, and for a native token moves their lamports. -/
theorem retokened_of_transfer {signs : Address → Bool} {authority : Address} {amount : Amount}
    (h : Tokens.transfer signs source target authority amount bank = .ok after) :
    Retokened bank after := by
  simp only [Tokens.transfer, bind_eq_ok_iff] at h
  obtain ⟨sender, hsender, receiver, hreceiver, _, -, rest, -, _, -, spent, -, h⟩ := h
  have hsource := isTokens_of_tokenAt hsender
  have htarget := isTokens_of_tokenAt hreceiver
  split at h
  · -- To oneself: only the checks are made.
    obtain rfl := pure_eq_ok_iff.1 h
    exact .refl _
  · simp only [bind_eq_ok_iff] at h
    obtain ⟨sum, -, h⟩ := h
    -- Wrapped lamports move along with the units that stand for them.
    have hmove : ∃ moved, Retokened bank moved ∧
        Tokens.put (Tokens.put moved source (.token { spent with amount := rest })) target
          (.token { receiver with amount := sum }) = after := by
      split at h
      · simp only [bind_eq_ok_iff, pure_eq_ok_iff] at h
        obtain ⟨moved, hmoved, hafter⟩ := h
        exact ⟨moved, retokened_of_moveLamports hsource htarget hmoved, hafter⟩
      · simp only [bind_eq_ok_iff, pure_eq_ok_iff] at h
        obtain ⟨_, rfl, hafter⟩ := h
        exact ⟨bank, .refl bank, hafter⟩
    obtain ⟨moved, hmove, rfl⟩ := hmove
    have hdebit : Retokened bank (Tokens.put moved source (.token { spent with amount := rest })) :=
      hmove.trans (.of_put (hmove.tokens _ hsource) rfl)
    exact hdebit.trans (.of_put (hdebit.tokens _ htarget) rfl)

/-- Minting rewrites the receiver and the mint. -/
theorem retokened_of_mintTo {signs : Address → Bool} {mint authority : Address} {amount : Amount}
    (h : Tokens.mintTo signs mint target authority amount bank = .ok after) :
    Retokened bank after := by
  simp only [Tokens.mintTo, bind_eq_ok_iff, pure_eq_ok_iff] at h
  obtain ⟨receiver, hreceiver, _, -, _, -, _, -, token, htoken, _, -, _, -, sum, -, supply, -,
    rfl⟩ := h
  have hcredit : Retokened bank (Tokens.put bank target (.token { receiver with amount := sum })) :=
    .of_put (isTokens_of_tokenAt hreceiver) rfl
  exact hcredit.trans (.of_put (hcredit.tokens _ (isTokens_of_mintAt htoken)) rfl)

/-- Burning rewrites the holder and the mint. -/
theorem retokened_of_burn {signs : Address → Bool} {mint authority : Address} {amount : Amount}
    (h : Tokens.burn signs mint source authority amount bank = .ok after) :
    Retokened bank after := by
  simp only [Tokens.burn, bind_eq_ok_iff] at h
  obtain ⟨holder, hholder, token, htoken, _, -, _, -, rest, -, _, -, h⟩ := h
  -- An owner and a delegate burn alike, but for what is left of the delegation.
  have hput : ∃ (spent : TokenAccount) (supply : Amount),
      Tokens.put (Tokens.put bank source (.token { spent with amount := rest })) mint
        (.mint { token with supply := supply }) = after := by
    split at h
    all_goals
      simp only [bind_eq_ok_iff, pure_eq_ok_iff] at h
      obtain ⟨spent, -, supply, -, hafter⟩ := h
      exact ⟨spent, supply, hafter⟩
  obtain ⟨spent, supply, rfl⟩ := hput
  have hdebit : Retokened bank (Tokens.put bank source (.token { spent with amount := rest })) :=
    .of_put (isTokens_of_tokenAt hholder) rfl
  exact hdebit.trans (.of_put (hdebit.tokens _ (isTokens_of_mintAt htoken)) rfl)

end Bank

end CollateralLending
