/-
  CollateralLending.Proofs.Lending.Books

  The books of the lending program: the vaults and positions that its accounts
  hold. They are orderly when every vault and every position sits at the
  address derived for it, with the bump seeds that belong to it, and every
  position has its vault (`Bank.Orderly`).

  The books change in two ways: a vault is opened (`Opening`), and a record is
  posted to a position and to the vault's totals (`Posting`). Both keep them
  orderly.
-/
import CollateralLending.Proofs.Chain.LendingProgram
import CollateralLending.Proofs.Chain.Records

namespace CollateralLending

/-- The vault sits at its address and names what is derived from it. -/
structure Vault.Seated (vault : Vault Address Bump) (home : Address) : Prop where
  home_eq : home = .vault vault.debtMint
  debtVault : vault.debtVault = .debtVault home
  collateralVault : vault.collateralVault = .collateral home
  bump : vault.bump = .canonical
  collateralBump : vault.collateralBump = .canonical
  debtVaultBump : vault.debtVaultBump = .canonical

/-- No collateral pool is at the address of a vault. -/
theorem Vault.Seated.collateral_ne {vault : Vault Address Bump} {home : Address}
    (h : vault.Seated home) (other : Address) : .collateral other ≠ home := by
  rw [h.home_eq]
  simp

namespace Bank

variable {before middle after bank : Bank} {home owner : Address}
variable {vault next : Vault Address Bump} {new : Record}

/-- The record of an owner in a vault; zero when there is no position. -/
def record (bank : Bank) (home owner : Address) : Record :=
  ((bank.find? .position (.position home owner)).map (·.record)).getD .zero

/-- Vaults sit where they should, and positions are of vaults that exist. -/
structure Orderly (bank : Bank) : Prop where
  vaults : ∀ home vault, bank.find? .vault home = some vault → vault.Seated home
  positions : ∀ a position, bank.find? .position a = some position →
    a = .position position.vault position.owner ∧ position.bump = .canonical ∧
      ∃ vault, bank.find? .vault position.vault = some vault

/-- Vaults and positions are as they were. -/
structure SameBooks (before after : Bank) : Prop where
  vaults : ∀ a, after.find? .vault a = before.find? .vault a
  positions : ∀ a, after.find? .position a = before.find? .position a

/-- A vault is opened where there was none. -/
structure Opening (before after : Bank) (home : Address) (vault : Vault Address Bump) : Prop where
  free : before.find? .vault home = none
  opened : after.find? .vault home = some vault
  vaults : ∀ a, a ≠ home → after.find? .vault a = before.find? .vault a
  positions : ∀ a, after.find? .position a = before.find? .position a

/-- A vault and the record of one of its owners are written over. -/
structure Posting (before after : Bank) (home owner : Address) (vault next : Vault Address Bump)
    (new : Record) : Prop where
  vault_before : before.find? .vault home = some vault
  vault_after : after.find? .vault home = some next
  position_after : after.find? .position (.position home owner) =
    some ⟨owner, home, new, .canonical⟩
  vaults : ∀ a, a ≠ home → after.find? .vault a = before.find? .vault a
  positions : ∀ a, a ≠ .position home owner → after.find? .position a = before.find? .position a

/-! ## Books that stay as they are -/

theorem SameRecords.sameBooks (h : SameRecords before after) : SameBooks before after where
  vaults a := h.find? AccountKind.vault_lawful a
  positions a := h.find? AccountKind.position_lawful a

theorem SameBooks.refl (bank : Bank) : SameBooks bank bank := (SameRecords.refl bank).sameBooks

theorem SameBooks.trans (h₁ : SameBooks before middle) (h₂ : SameBooks middle after) :
    SameBooks before after where
  vaults a := by rw [h₂.vaults, h₁.vaults]
  positions a := by rw [h₂.positions, h₁.positions]

/-- Other programs write elsewhere. -/
theorem sameBooks_write {α : Type} {kind : AccountKind α} {address : Address} (value : α)
    (howner : (bank.get address).owner = kind.program)
    (hprogram : kind.program ≠ .lendingProgram) :
    SameBooks bank (bank.write kind address value) where
  vaults := find?_write_of_program AccountKind.vault_lawful value howner hprogram
  positions := find?_write_of_program AccountKind.position_lawful value howner hprogram

theorem SameBooks.record (h : SameBooks before after) (home owner : Address) :
    after.record home owner = before.record home owner := by
  unfold Bank.record
  rw [h.positions]

/-! ## Orderly books -/

/-- A position that is found anywhere has the record that its owner has in its vault. -/
theorem Orderly.record_eq (h : Orderly bank) {a : Address} {position : UserPosition Address Bump}
    (hposition : bank.find? .position a = some position) :
    bank.record position.vault position.owner = position.record := by
  obtain ⟨haddress, -, -⟩ := h.positions a position hposition
  rw [haddress] at hposition
  rw [Bank.record, hposition]
  rfl

/-- There are no books at a fresh start. -/
theorem Fresh.orderly (h : bank.Fresh) : Orderly bank where
  vaults home vault hvault := by
    have howner := h.unowned home
    rw [owner_of_find? AccountKind.vault_lawful hvault] at howner
    cases howner
  positions a position hposition := by
    have howner := h.unowned a
    rw [owner_of_find? AccountKind.position_lawful hposition] at howner
    cases howner

theorem SameBooks.orderly (h : SameBooks before after) (hbefore : Orderly before) :
    Orderly after where
  vaults home vault hvault := by
    rw [h.vaults] at hvault
    exact hbefore.vaults home vault hvault
  positions a position hposition := by
    rw [h.positions] at hposition
    obtain ⟨haddress, hbump, hhome⟩ := hbefore.positions a position hposition
    refine ⟨haddress, hbump, ?_⟩
    rw [h.vaults]
    exact hhome

/-- A vault that opens at its address leaves the books in order. -/
theorem Opening.orderly (h : Opening before after home vault) (hseat : vault.Seated home)
    (hbefore : Orderly before) : Orderly after where
  vaults a found hfound := by
    by_cases ha : a = home
    · subst ha
      rw [h.opened] at hfound
      cases hfound
      exact hseat
    · rw [h.vaults a ha] at hfound
      exact hbefore.vaults a found hfound
  positions a position hposition := by
    rw [h.positions] at hposition
    obtain ⟨haddress, hbump, hvault⟩ := hbefore.positions a position hposition
    refine ⟨haddress, hbump, ?_⟩
    by_cases hhome : position.vault = home
    · rw [hhome]
      exact ⟨vault, h.opened⟩
    · rw [h.vaults _ hhome]
      exact hvault

/-- A vault and a position written back at their addresses leave the books in order. -/
theorem Posting.orderly (h : Posting before after home owner vault next new)
    (hseat : next.Seated home) (hbefore : Orderly before) : Orderly after where
  vaults a found hfound := by
    by_cases ha : a = home
    · subst ha
      rw [h.vault_after] at hfound
      cases hfound
      exact hseat
    · rw [h.vaults a ha] at hfound
      exact hbefore.vaults a found hfound
  positions a position hposition := by
    by_cases ha : a = .position home owner
    · subst ha
      rw [h.position_after] at hposition
      cases hposition
      exact ⟨rfl, rfl, next, h.vault_after⟩
    · rw [h.positions a ha] at hposition
      obtain ⟨haddress, hbump, hvault⟩ := hbefore.positions a position hposition
      refine ⟨haddress, hbump, ?_⟩
      by_cases hhome : position.vault = home
      · rw [hhome]
        exact ⟨next, h.vault_after⟩
      · rw [h.vaults _ hhome]
        exact hvault

/-- A posting is two writes over books that were left alone up to then. The position's account may
be one that was only just made. -/
theorem posting_of_writes (horderly : Orderly before) (hsame : SameBooks before middle)
    (hvault : before.find? .vault home = some vault)
    (howner : (middle.get (.position home owner)).owner = .lendingProgram) :
    Posting before ((middle.write .vault home next).write .position (.position home owner)
      ⟨owner, home, new, .canonical⟩) home owner vault next new := by
  -- Vaults sit at vault addresses, so the second write leaves the first alone.
  have hne : home ≠ .position home owner := by
    rw [(horderly.vaults home vault hvault).home_eq]
    simp
  have hmiddle : middle.find? .vault home = some vault := by
    rw [hsame.vaults]
    exact hvault
  have hvaultAfter : ((middle.write .vault home next).write .position (.position home owner)
      ⟨owner, home, new, .canonical⟩).find? .vault home = some next := by
    rw [find?_write_of_ne .position _ hne]
    exact find?_write AccountKind.vault_lawful next hmiddle
  have hpositionAfter : ((middle.write .vault home next).write .position (.position home owner)
      ⟨owner, home, new, .canonical⟩).find? .position (.position home owner) =
        some ⟨owner, home, new, .canonical⟩ := by
    refine find?_write_of_owner AccountKind.position_lawful _ ?_
    rw [get_write, if_neg hne.symm]
    exact howner
  refine ⟨hvault, hvaultAfter, hpositionAfter, ?_, ?_⟩
  · intro a ha
    by_cases hat : a = .position home owner
    · -- No vault is lost where the position is written.
      subst hat
      have hnone : before.find? .vault (.position home owner) = none := by
        rw [Option.eq_none_iff_forall_ne_some]
        intro other hother
        cases (horderly.vaults _ _ hother).home_eq
      rw [hnone, find?_vault_of_position hpositionAfter]
    · rw [find?_write_of_ne .position _ hat, find?_write_of_ne .vault _ ha, hsame.vaults]
  · intro a ha
    by_cases hat : a = home
    · -- Nor is a position where the vault is.
      subst hat
      rw [find?_position_of_vault hvaultAfter, find?_position_of_vault hvault]
    · rw [find?_write_of_ne .position _ ha, find?_write_of_ne .vault _ hat, hsame.positions]

/-- A posting changes one record. -/
theorem Posting.record (h : Posting before after home owner vault next new) (a b : Address) :
    after.record a b = if a = home ∧ b = owner then new else before.record a b := by
  unfold Bank.record
  split
  · rename_i heq
    obtain ⟨rfl, rfl⟩ := heq
    rw [h.position_after]
    rfl
  · rename_i hne
    rw [h.positions]
    intro heq
    cases heq
    exact hne ⟨rfl, rfl⟩

theorem Posting.record_self (h : Posting before after home owner vault next new) :
    after.record home owner = new := by
  rw [h.record, if_pos (And.intro rfl rfl)]

end Bank

end CollateralLending
