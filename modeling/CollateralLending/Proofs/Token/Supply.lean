/-
  CollateralLending.Proofs.Token.Supply

  Every unit of a token ledger is held by somebody: the balances add up to the
  supply. The supply is a word, so two balances together are one too, and no
  balance that units are moved or minted to can overflow.

  Main statements: each operation keeps the sum (`Accounted.mint`,
  `Accounted.transfer`, `Accounted.transferFrom`), and therefore a move fails only
  when the source or the allowance is short (`Accounted.transfer_result` and
  `Accounted.transferFrom_result`), and a minting only when the supply has no
  room, with nothing raised (`Accounted.mint_cases`).
-/
import CollateralLending.Proofs.Sums
import CollateralLending.Proofs.Token.Balances

namespace CollateralLending.TokenLedger

variable {K : Type} [Ord K]

/-- What all accounts hold together. -/
def held (token : TokenLedger K) : Nat := token.balances.sum fun _ balance => balance.toNat

/-- All units in existence are held by somebody. -/
def Accounted (token : TokenLedger K) : Prop := token.held = token.supply.toNat

theorem accounted_empty : (empty : TokenLedger K).Accounted := rfl

variable [Std.TransOrd K] [Std.LawfulEqOrd K]
variable {token next : TokenLedger K} {source target owner spender : K} {amount : Amount}

/-- Setting a balance changes what is held by what the balance changes by. -/
theorem sum_balances_set (balances : Table K Amount) (account : K) (balance : Amount) :
    ((balances.set account balance).sum fun _ balance => balance.toNat) +
        (balances.get account).toNat =
      (balances.sum fun _ balance => balance.toNat) + balance.toNat :=
  Table.sum_set (fun _ balance => balance.toNat) (fun _ => rfl) balances account balance

variable [DecidableEq K]

/-! ## Room for credits -/

/-- No balance is more than the supply. -/
theorem Accounted.balance_le (h : token.Accounted) (account : K) :
    (token.balanceOf account).toNat ≤ token.supply.toNat := by
  rw [← h]
  exact Table.le_sum (fun _ (balance : Amount) => balance.toNat) (fun _ => rfl) token.balances
    account

/-- Two balances together are no more than the supply. -/
theorem Accounted.balances_le (h : token.Accounted) (hne : source ≠ target) :
    (token.balanceOf source).toNat + (token.balanceOf target).toNat ≤ token.supply.toNat := by
  rw [← h]
  exact Table.add_le_sum (fun _ (balance : Amount) => balance.toNat) (fun _ => rfl) token.balances
    hne

/-- What one account can pay, another one can take. -/
theorem Accounted.room (h : token.Accounted) (hne : source ≠ target)
    (henough : amount.toNat ≤ (token.balanceOf source).toNat) :
    (token.balanceOf target).toNat + amount.toNat < 2 ^ (64 : Nat) := by
  have hpair := h.balances_le hne
  have hsupply := token.supply.lt
  omega

/-- What the supply has room for, each account has. -/
theorem Accounted.room_for_minted (h : token.Accounted) (receiver : K)
    (hsupply : token.supply.toNat + amount.toNat < 2 ^ (64 : Nat)) :
    (token.balanceOf receiver).toNat + amount.toNat < 2 ^ (64 : Nat) := by
  have hle := h.balance_le receiver
  omega

/-! ## The sum is kept -/

/-- Moving tokens adds none and loses none. -/
theorem Accounted.moved (h : token.Accounted)
    (hmoved : token.moved source target amount = .ok next) : next.Accounted := by
  obtain ⟨rest, hrest, hnext⟩ := moved_eq_ok_iff.1 hmoved
  split at hnext
  · rw [hnext]
    exact h
  · rename_i hne
    obtain ⟨sum, hsum, rfl⟩ := hnext
    have hsource := sum_balances_set token.balances source rest
    have htarget := sum_balances_set (token.balances.set source rest) target sum
    rw [Table.get_set_of_ne (Ne.symm hne)] at htarget
    unfold Accounted held balanceOf at *
    simp only
    omega

/-- Minting is refused before it raises anything, or raises the supply by what it credits. -/
theorem Accounted.mint_cases (h : token.Accounted) (receiver : K) (amount : Amount) :
    token.mint receiver amount = (token, .error .mathOverflow) ∨
      ∃ supply balance : Amount, supply.toNat = token.supply.toNat + amount.toNat ∧
        balance.toNat = (token.balanceOf receiver).toNat + amount.toNat ∧
        token.mint receiver amount =
          (⟨token.balances.set receiver balance, token.allowances, supply⟩, .ok ()) := by
  unfold TokenLedger.mint
  cases hsupply : token.supply.add? amount with
  | none => exact .inl rfl
  | some supply =>
      rw [Word.add?_eq_some_iff] at hsupply
      have hfits : token.supply.toNat + amount.toNat < 2 ^ (64 : Nat) := by
        have hlt := supply.lt
        omega
      have hroom := h.room_for_minted receiver hfits
      simp only
      cases hbalance : ({ token with supply := supply }.balanceOf receiver).add? amount with
      | none =>
          -- The supply had room, so the balance has.
          rw [Word.add?_eq_none_iff] at hbalance
          unfold balanceOf at hbalance hroom
          simp only at hbalance
          omega
      | some balance =>
          rw [Word.add?_eq_some_iff] at hbalance
          exact .inr ⟨supply, balance, hsupply, hbalance, rfl⟩

/-- Minting adds to the supply what it adds to the receiver. -/
theorem Accounted.mint (h : token.Accounted) (receiver : K) (amount : Amount) :
    (token.mint receiver amount).1.Accounted := by
  rcases h.mint_cases receiver amount with heq | ⟨supply, balance, hsupply, hbalance, heq⟩
  · rw [heq]
    exact h
  · rw [heq]
    have hset := sum_balances_set token.balances receiver balance
    unfold Accounted held balanceOf at *
    simp only
    omega

theorem Accounted.mint_of_error (h : token.Accounted) {receiver : K} {error : LendingError}
    (hfail : (token.mint receiver amount).2 = .error error) :
    (token.mint receiver amount).1 = token := by
  rcases h.mint_cases receiver amount with heq | ⟨_, _, -, -, heq⟩
  · rw [heq]
  · rw [heq] at hfail
    cases hfail

theorem Accounted.approve (h : token.Accounted) (owner spender : K) (amount : Amount) :
    (token.approve owner spender amount).Accounted := h

theorem Accounted.transfer (h : token.Accounted) (source target : K) (amount : Amount) :
    (token.transfer source target amount).1.Accounted := by
  rcases token.transfer_cases source target amount with ⟨next, hmoved, heq⟩ | ⟨error, heq⟩
  · rw [heq]
    exact h.moved hmoved
  · rw [heq]
    exact h

theorem Accounted.transferFrom (h : token.Accounted) (spender owner target : K) (amount : Amount) :
    (token.transferFrom spender owner target amount).1.Accounted := by
  by_cases hself : spender = owner
  · rw [hself, transferFrom_self]
    exact h.transfer owner target amount
  · rcases token.transferFrom_cases spender owner target amount with
      ⟨_, -, after, -, heq⟩ | ⟨error, heq⟩
    · obtain ⟨rest, -, moved, hmoved, rfl⟩ := (transferFrom_eq_ok_iff hself).1 heq
      rw [heq]
      exact (h.moved hmoved).approve owner spender rest
    · rw [heq]
      exact h

/-! ## When a move fails -/

/-- A move of what the source holds goes through, and any other fails. -/
theorem Accounted.moved_eq (h : token.Accounted) (source target : K) (amount : Amount) :
    (∃ next, token.moved source target amount = .ok next ∧
        amount.toNat ≤ (token.balanceOf source).toNat) ∨
      token.moved source target amount = .error .transferFailed ∧
        (token.balanceOf source).toNat < amount.toNat := by
  unfold TokenLedger.moved
  cases hrest : (token.balanceOf source).sub? amount with
  | none =>
      rw [Word.sub?_eq_none_iff] at hrest
      exact .inr ⟨rfl, hrest⟩
  | some rest =>
      rw [Word.sub?_eq_some_iff] at hrest
      have henough : amount.toNat ≤ (token.balanceOf source).toNat := by omega
      left
      simp only
      split
      · exact ⟨token, rfl, henough⟩
      · rename_i hne
        have hroom := h.room hne henough
        cases hsum : (token.balanceOf target).add? amount with
        | none =>
            rw [Word.add?_eq_none_iff] at hsum
            omega
        | some sum => exact ⟨_, rfl, henough⟩

/-- A transfer fails when the source is short, and for no other reason. -/
theorem Accounted.transfer_result (h : token.Accounted) (source target : K) (amount : Amount) :
    (token.transfer source target amount).2 =
      if (token.balanceOf source).toNat < amount.toNat then .error .transferFailed else .ok () := by
  unfold TokenLedger.transfer
  rcases h.moved_eq source target amount with ⟨next, hmoved, henough⟩ | ⟨hmoved, hshort⟩
  · rw [hmoved, if_neg (Nat.not_lt.2 henough)]
    rfl
  · rw [hmoved, if_pos hshort]
    rfl

/-- A transfer by another account fails when the allowance or the owner is short. -/
theorem Accounted.transferFrom_result (h : token.Accounted) (hne : spender ≠ owner) (target : K)
    (amount : Amount) :
    (token.transferFrom spender owner target amount).2 =
      if (token.allowance owner spender).toNat < amount.toNat ∨
          (token.balanceOf owner).toNat < amount.toNat then .error .transferFailed
      else .ok () := by
  unfold TokenLedger.transferFrom
  rw [if_neg hne]
  cases hrest : (token.allowance owner spender).sub? amount with
  | none =>
      rw [Word.sub?_eq_none_iff] at hrest
      rw [if_pos (.inl hrest)]
  | some rest =>
      rw [Word.sub?_eq_some_iff] at hrest
      rcases h.moved_eq owner target amount with ⟨next, hmoved, henough⟩ | ⟨hmoved, hshort⟩
      · rw [hmoved, if_neg (by omega)]
        rfl
      · rw [hmoved, if_pos (.inr hshort)]
        rfl

end CollateralLending.TokenLedger
