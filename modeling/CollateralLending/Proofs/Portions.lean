/-
  CollateralLending.Proofs.Portions

  An amount in portions: what a list of amounts adds up to. The total is a
  number and need not be an amount. Where it is one, so is what is left of it
  after the first portion (`exists_remaining`).
-/
import CollateralLending.Word

namespace CollateralLending

/-- What the amounts add up to. -/
def totalOf : List Amount → Nat
  | [] => 0
  | amount :: rest => amount.toNat + totalOf rest

variable {amount part whole : Amount} {parts rest : List Amount}

/-- Each part is at most the total. -/
theorem le_totalOf (h : part ∈ parts) : part.toNat ≤ totalOf parts := by
  induction parts with
  | nil => cases h
  | cons first rest ih =>
      rw [totalOf]
      cases h with
      | head => exact Nat.le_add_right _ _
      | tail _ hmem => exact Nat.le_add_left_of_le (ih hmem)

theorem totalOf_pos (hne : parts ≠ []) (h : ∀ part ∈ parts, 0 < part.toNat) :
    0 < totalOf parts := by
  cases parts with
  | nil => exact absurd rfl hne
  | cons part rest =>
      have hpart := h part List.mem_cons_self
      rw [totalOf]
      omega

theorem eq_of_totalOf_single (h : totalOf [amount] = whole.toNat) : amount = whole := by
  rw [totalOf, totalOf, Nat.add_zero] at h
  exact Word.ext h

/-- All parts but the first make an amount of their own. -/
theorem exists_remaining (h : totalOf (amount :: rest) = whole.toNat) :
    ∃ remaining : Amount, totalOf rest = remaining.toNat ∧
      whole.toNat = amount.toNat + remaining.toNat := by
  rw [totalOf] at h
  have hwhole := whole.lt
  exact ⟨⟨totalOf rest, by omega⟩, rfl, h.symm⟩

/-- Equal parts add up to their number times one of them. -/
theorem totalOf_replicate (count : Nat) (amount : Amount) :
    totalOf (List.replicate count amount) = count * amount.toNat := by
  induction count with
  | zero => rw [List.replicate_zero, totalOf, Nat.zero_mul]
  | succ count ih => rw [List.replicate_succ, totalOf, ih, Nat.succ_mul, Nat.add_comm]

end CollateralLending
