/-
  CollateralLending.Proofs.Token.Flows

  What an operation changes in a token, apart from the token it changes: a flow
  into each account and what is spent of each allowance (`TokenLedger.Flows`).
  A token is what its balances, its allowances and its supply read, and flows
  add up in any order, so two operations with flows of their own lead to the
  same token whichever comes first (`Flows.comm`).
-/
import CollateralLending.Proofs.Token.Balances

namespace CollateralLending

variable {K : Type}

/-- Whoever is neither source nor target sees nothing of a transfer. -/
theorem inflow_of_ne [DecidableEq K] {account source target : K} (hsource : account ≠ source)
    (htarget : account ≠ target) (amount : Amount) : inflow account source target amount = 0 := by
  unfold inflow
  rw [if_neg (Ne.symm hsource), if_neg (Ne.symm htarget)]
  rfl

namespace TokenLedger

variable [Ord K]

/-- Balances changed by a flow, allowances shrank by what was spent, and no unit came or went. -/
structure Flows (token next : TokenLedger K) (flow : K → Int) (spent : K → K → Nat) : Prop where
  balance : ∀ account,
    ((next.balanceOf account).toNat : Int) = (token.balanceOf account).toNat + flow account
  allowance : ∀ owner spender,
    (token.allowance owner spender).toNat =
      (next.allowance owner spender).toNat + spent owner spender
  supply : next.supply = token.supply

/-- No allowance is spent. -/
def nothingSpent (_ _ : K) : Nat := 0

/-- Nothing flows. -/
def noFlow (_ : K) : Int := 0

theorem flows_refl (token : TokenLedger K) : token.Flows token noFlow nothingSpent where
  balance _ := (Int.add_zero _).symm
  allowance _ _ := (Nat.add_zero _).symm
  supply := rfl

variable [Std.TransOrd K] [Std.LawfulEqOrd K]
variable {token first second left right : TokenLedger K}

/-- Tokens with the same balances, allowances and supply are the same. -/
theorem ext_reads
    (hbalances : ∀ account, (left.balanceOf account).toNat = (right.balanceOf account).toNat)
    (hallowances : ∀ owner spender,
      (left.allowance owner spender).toNat = (right.allowance owner spender).toNat)
    (hsupply : left.supply = right.supply) : left = right := by
  refine TokenLedger.ext ?_ ?_ hsupply
  · apply Table.ext_get
    intro account
    exact Word.ext (hbalances account)
  · apply Table.ext_get
    intro owner
    apply Table.ext_get
    intro spender
    exact Word.ext (hallowances owner spender)

/-- Two flows lead to the same token in either order. -/
theorem Flows.comm {flow other : K → Int} {spent used : K → K → Nat}
    (hfirst : token.Flows first flow spent) (hleft : first.Flows left other used)
    (hsecond : token.Flows second other used) (hright : second.Flows right flow spent) :
    left = right := by
  apply ext_reads
  · intro account
    have h₁ := hfirst.balance account
    have h₂ := hleft.balance account
    have h₃ := hsecond.balance account
    have h₄ := hright.balance account
    omega
  · intro owner spender
    have h₁ := hfirst.allowance owner spender
    have h₂ := hleft.allowance owner spender
    have h₃ := hsecond.allowance owner spender
    have h₄ := hright.allowance owner spender
    omega
  · rw [hleft.supply, hfirst.supply, hright.supply, hsecond.supply]

variable [DecidableEq K] {next : TokenLedger K} {source target owner spender : K} {amount : Amount}

/-- An approval sets one allowance and no other. -/
theorem allowance_approve (token : TokenLedger K) (owner spender : K) (amount : Amount)
    (holder user : K) :
    (token.approve owner spender amount).allowance holder user =
      if holder = owner ∧ user = spender then amount else token.allowance holder user := by
  unfold allowance approve
  rw [Table.get_set]
  by_cases hholder : holder = owner
  · subst hholder
    rw [if_pos rfl, Table.get_set]
    simp only [true_and]
  · rw [if_neg hholder, if_neg fun h => hholder h.1]

/-- Moving tokens takes from the source what it gives to the target, and spends no allowance. -/
theorem flows_of_moved (h : token.moved source target amount = .ok next) :
    token.Flows next (inflow · source target amount) nothingSpent := by
  have hbalance := balanceOf_moved h
  obtain ⟨rest, -, hnext⟩ := moved_eq_ok_iff.1 h
  split at hnext
  · cases hnext
    exact ⟨hbalance, fun _ _ => rfl, rfl⟩
  · obtain ⟨sum, -, rfl⟩ := hnext
    exact ⟨hbalance, fun _ _ => rfl, rfl⟩

/-- A transfer that succeeds moves what it says, and spends no allowance. -/
theorem flows_of_transfer (h : (token.transfer source target amount).2 = .ok ()) :
    token.Flows (token.transfer source target amount).1 (inflow · source target amount)
      nothingSpent := by
  rcases token.transfer_cases source target amount with ⟨next, hmoved, heq⟩ | ⟨error, heq⟩
  · rw [heq]
    exact flows_of_moved hmoved
  · rw [heq] at h
    cases h

/-- What a spender moves is taken from its allowance and from no other. -/
theorem flows_of_transferFrom (hne : spender ≠ owner)
    (h : (token.transferFrom spender owner target amount).2 = .ok ()) :
    token.Flows (token.transferFrom spender owner target amount).1
      (inflow · owner target amount)
      (fun holder user => if holder = owner ∧ user = spender then amount.toNat else 0) := by
  rcases token.transferFrom_cases spender owner target amount with
    ⟨_, -, after, -, heq⟩ | ⟨error, heq⟩
  · obtain ⟨rest, hrest, moved, hmoved, rfl⟩ := (transferFrom_eq_ok_iff hne).1 heq
    have hflows := flows_of_moved hmoved
    rw [heq]
    refine ⟨hflows.balance, ?_, hflows.supply⟩
    -- The spender's allowance from the owner shrinks; every other one was kept by the move.
    intro holder user
    rw [allowance_approve]
    split
    · rename_i hsame
      obtain ⟨rfl, rfl⟩ := hsame
      exact hrest
    · exact hflows.allowance holder user
  · rw [heq] at h
    cases h

/-- The allowance of a spender who is not the owner is used up by its own moves, and by no others.
-/
theorem allowance_of_transferFrom {holder user : K} (hne : holder ≠ user)
    (h : (token.transferFrom spender owner target amount).2 = .ok ()) :
    (token.allowance holder user).toNat =
      ((token.transferFrom spender owner target amount).1.allowance holder user).toNat +
        if holder = owner ∧ user = spender then amount.toNat else 0 := by
  by_cases hself : spender = owner
  · subst hself
    rw [transferFrom_self] at h ⊢
    rw [if_neg fun hsame => hne (hsame.1.trans hsame.2.symm)]
    exact (flows_of_transfer h).allowance holder user
  · exact (flows_of_transferFrom hself h).allowance holder user

/-- Whoever asks for it, a move keeps the supply. -/
theorem supply_of_transferFrom (h : (token.transferFrom spender owner target amount).2 = .ok ()) :
    (token.transferFrom spender owner target amount).1.supply = token.supply := by
  by_cases hself : spender = owner
  · rw [hself, transferFrom_self] at h ⊢
    exact (flows_of_transfer h).supply
  · exact (flows_of_transferFrom hself h).supply

end TokenLedger

end CollateralLending
