/-
  CollateralLending.Proofs.Token.Balances

  What the operations of a token ledger do to balances. A move that goes
  through brings its amount into the target and takes it out of the source,
  which may be the same account (`inflow`); an operation that is refused leaves
  the ledger as it was, minting apart.
-/
import CollateralLending.Table.Lemmas
import CollateralLending.Token.TokenLedger

namespace CollateralLending

variable {K : Type}

/-- What a move brings into an account, net of what it takes out. -/
def inflow [DecidableEq K] (account source target : K) (amount : Amount) : Int :=
  (if target = account then (amount.toNat : Int) else 0) -
    if source = account then (amount.toNat : Int) else 0

/-- A quantity that counts only when the operation went through. -/
def whenOk (result : Except LendingError Unit) (quantity : Int) : Int :=
  match result with
  | .ok () => quantity
  | .error _ => 0

@[simp] theorem whenOk_ok (quantity : Int) : whenOk (.ok ()) quantity = quantity := rfl

namespace TokenLedger

variable [Ord K] [Std.TransOrd K] [Std.LawfulEqOrd K] [DecidableEq K]
variable {token next : TokenLedger K} {source target : K} {amount : Amount}

/-- A move goes through when the source holds the amount and the target can take it. -/
theorem moved_eq_ok_iff :
    token.moved source target amount = .ok next ↔
      ∃ rest : Amount, (token.balanceOf source).toNat = rest.toNat + amount.toNat ∧
        if source = target then next = token
        else ∃ sum : Amount, sum.toNat = (token.balanceOf target).toNat + amount.toNat ∧
          next = { token with balances := (token.balances.set source rest).set target sum } := by
  unfold moved
  cases hrest : (token.balanceOf source).sub? amount with
  | none =>
      rw [Word.sub?_eq_none_iff] at hrest
      simp only [reduceCtorEq, false_iff, not_exists, not_and]
      intro rest hsum
      omega
  | some rest =>
      rw [Word.sub?_eq_some_iff] at hrest
      -- The rest is determined by what the source holds.
      have hunique : ∀ other : Amount,
          (token.balanceOf source).toNat = other.toNat + amount.toNat → other = rest := by
        intro other hother
        ext
        omega
      simp only
      split
      · constructor
        · intro h
          cases h
          exact ⟨rest, hrest, rfl⟩
        · rintro ⟨_, -, rfl⟩
          rfl
      · cases hsum : (token.balanceOf target).add? amount with
        | none =>
            rw [Word.add?_eq_none_iff] at hsum
            simp only [reduceCtorEq, false_iff, not_exists, not_and]
            intro _ _ sum hfits
            have hlt := sum.lt
            omega
        | some sum =>
            rw [Word.add?_eq_some_iff] at hsum
            constructor
            · intro h
              cases h
              exact ⟨rest, hrest, sum, hsum, rfl⟩
            · rintro ⟨other, hother, found, hfound, rfl⟩
              obtain rfl := hunique other hother
              have hsame : found = sum := Word.ext (hfound.trans hsum.symm)
              rw [hsame]

/-- Every balance changes by what the move brings in. -/
theorem balanceOf_moved (h : token.moved source target amount = .ok next) (account : K) :
    ((next.balanceOf account).toNat : Int) =
      (token.balanceOf account).toNat + inflow account source target amount := by
  obtain ⟨rest, hrest, hnext⟩ := moved_eq_ok_iff.1 h
  unfold inflow
  split at hnext
  · -- To oneself: what comes in has gone out.
    rename_i hself
    rw [hnext, hself]
    omega
  · rename_i hne
    obtain ⟨sum, hsum, rfl⟩ := hnext
    unfold balanceOf at hrest hsum ⊢
    simp only [Table.get_set]
    by_cases htarget : account = target
    · subst htarget
      rw [if_pos rfl, if_pos rfl, if_neg hne]
      omega
    · rw [if_neg htarget, if_neg (Ne.symm htarget)]
      by_cases hsource : account = source
      · subst hsource
        rw [if_pos rfl, if_pos rfl]
        omega
      · rw [if_neg hsource, if_neg (Ne.symm hsource)]
        omega

/-! ## Operations -/

/-- A transfer moves its amount or leaves the ledger alone. -/
theorem transfer_cases (token : TokenLedger K) (source target : K) (amount : Amount) :
    (∃ next, token.moved source target amount = .ok next ∧
      token.transfer source target amount = (next, .ok ())) ∨
    ∃ error, token.transfer source target amount = (token, .error error) := by
  unfold transfer commit
  cases hmoved : token.moved source target amount with
  | ok next => exact .inl ⟨next, rfl, rfl⟩
  | error error => exact .inr ⟨error, rfl⟩

/-- So does a transfer by a spender, which may also use up a part of an allowance. -/
theorem transferFrom_cases (token : TokenLedger K) (spender owner target : K) (amount : Amount) :
    (∃ next, token.moved owner target amount = .ok next ∧
      ∃ after : TokenLedger K, after.balances = next.balances ∧
        token.transferFrom spender owner target amount = (after, .ok ())) ∨
    ∃ error, token.transferFrom spender owner target amount = (token, .error error) := by
  unfold transferFrom
  split
  · rcases token.transfer_cases owner target amount with ⟨next, hmoved, heq⟩ | ⟨error, heq⟩
    · exact .inl ⟨next, hmoved, next, rfl, heq⟩
    · exact .inr ⟨error, heq⟩
  · cases (token.allowance owner spender).sub? amount with
    | none => exact .inr ⟨_, rfl⟩
    | some rest =>
        cases hmoved : token.moved owner target amount with
        | ok next => exact .inl ⟨next, rfl, next.approve owner spender rest, rfl, rfl⟩
        | error error => exact .inr ⟨error, rfl⟩

/-- An owner who spends makes a transfer. -/
theorem transferFrom_self (token : TokenLedger K) (owner target : K) (amount : Amount) :
    token.transferFrom owner owner target amount = token.transfer owner target amount :=
  if_pos rfl

/-- A transfer by another account moves the balance and uses up a part of the allowance. -/
theorem transferFrom_eq_ok_iff {spender owner : K} (hne : spender ≠ owner) :
    token.transferFrom spender owner target amount = (next, .ok ()) ↔
      ∃ rest : Amount, (token.allowance owner spender).toNat = rest.toNat + amount.toNat ∧
        ∃ moved, token.moved owner target amount = .ok moved ∧
          next = moved.approve owner spender rest := by
  unfold transferFrom
  rw [if_neg hne]
  cases hrest : (token.allowance owner spender).sub? amount with
  | none =>
      rw [Word.sub?_eq_none_iff] at hrest
      simp only [Prod.mk.injEq, reduceCtorEq, and_false, false_iff, not_exists, not_and]
      intro rest hsum
      omega
  | some rest =>
      rw [Word.sub?_eq_some_iff] at hrest
      cases hmoved : token.moved owner target amount with
      | error error => simp [commit, Except.map]
      | ok moved =>
          simp only [commit, Except.map, Prod.mk.injEq, and_true, Except.ok.injEq,
            exists_eq_left']
          constructor
          · rintro rfl
            exact ⟨rest, hrest, rfl⟩
          · rintro ⟨other, hother, rfl⟩
            -- What is left of the allowance is determined by what it was.
            have hsame : other = rest := Word.ext (by omega)
            rw [hsame]

/-- A transfer that fails leaves the ledger as it was. -/
theorem transfer_of_error {error : LendingError}
    (h : (token.transfer source target amount).2 = .error error) :
    (token.transfer source target amount).1 = token := by
  rcases token.transfer_cases source target amount with ⟨next, -, heq⟩ | ⟨other, heq⟩
  · rw [heq] at h
    cases h
  · rw [heq]

theorem transferFrom_of_error {spender owner : K} {error : LendingError}
    (h : (token.transferFrom spender owner target amount).2 = .error error) :
    (token.transferFrom spender owner target amount).1 = token := by
  rcases token.transferFrom_cases spender owner target amount with ⟨_, -, _, -, heq⟩ | ⟨other, heq⟩
  · rw [heq] at h
    cases h
  · rw [heq]

/-- Every balance after a transfer: it changes by the inflow of that account if the transfer
succeeds, and not at all if it fails. -/
theorem balanceOf_transfer (token : TokenLedger K) (source target : K) (amount : Amount)
    (account : K) :
    (((token.transfer source target amount).1.balanceOf account).toNat : Int) =
      (token.balanceOf account).toNat +
        whenOk (token.transfer source target amount).2 (inflow account source target amount) := by
  rcases token.transfer_cases source target amount with ⟨next, hmoved, heq⟩ | ⟨error, heq⟩
  · rw [heq]
    exact balanceOf_moved hmoved account
  · rw [heq]
    exact (Int.add_zero _).symm

/-- The same when a spender moves what the owner has. -/
theorem balanceOf_transferFrom (token : TokenLedger K) (spender owner target : K)
    (amount : Amount) (account : K) :
    (((token.transferFrom spender owner target amount).1.balanceOf account).toNat : Int) =
      (token.balanceOf account).toNat +
        whenOk (token.transferFrom spender owner target amount).2
          (inflow account owner target amount) := by
  rcases token.transferFrom_cases spender owner target amount with
    ⟨next, hmoved, after, hafter, heq⟩ | ⟨error, heq⟩
  · rw [heq]
    show ((after.balances.get account).toNat : Int) = _
    rw [hafter]
    exact balanceOf_moved hmoved account
  · rw [heq]
    exact (Int.add_zero _).symm

/-- Minting that is refused may have raised the supply, but no balance. -/
theorem balanceOf_mint (token : TokenLedger K) (receiver : K) (amount : Amount) (account : K) :
    (((token.mint receiver amount).1.balanceOf account).toNat : Int) =
      (token.balanceOf account).toNat +
        whenOk (token.mint receiver amount).2
          (if receiver = account then (amount.toNat : Int) else 0) := by
  unfold mint
  cases token.supply.add? amount with
  | none => exact (Int.add_zero _).symm
  | some supply =>
      simp only
      cases hbalance : ({ token with supply := supply }.balanceOf receiver).add? amount with
      | none => exact (Int.add_zero _).symm
      | some balance =>
          rw [Word.add?_eq_some_iff] at hbalance
          unfold balanceOf at hbalance ⊢
          simp only [Table.get_set, whenOk]
          by_cases haccount : account = receiver
          · subst haccount
            rw [if_pos rfl, if_pos rfl]
            simp only at hbalance
            omega
          · rw [if_neg haccount, if_neg (Ne.symm haccount)]
            exact (Int.add_zero _).symm

end TokenLedger

end CollateralLending
