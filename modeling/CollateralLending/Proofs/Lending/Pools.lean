/-
  CollateralLending.Proofs.Lending.Pools

  The collateral pools. A pool is an account of the system program without
  data, and its address is derived; so where only keys sign, nothing takes from
  it but the lending program itself, which signs for it with its seeds.

  An instruction of another program leaves all pools and all books alone
  (`Bank.Aside`).
-/
import CollateralLending.Proofs.Lending.Books

namespace CollateralLending

/-- No collateral pool signs where only keys do. -/
theorem Call.KeysSign.collateral_ne {call : Call} (h : call.KeysSign) {address : Address}
    (hsigns : call.signs address = true) (home : Address) : .collateral home ≠ address := by
  rintro rfl
  have hkey := h _ hsigns
  cases hkey

namespace Bank

variable {before middle after bank : Bank} {home payer target program : Address} {call : Call}

/-- No collateral pool was made an account of anybody, or given data. -/
def IdlePools (bank : Bank) : Prop :=
  ∀ home, (bank.get (.collateral home)).owner = .systemProgram ∧
    (bank.get (.collateral home)).data = .empty

/-- The lamports of the collateral pool of a vault. -/
def pooled (bank : Bank) (home : Address) : Nat := (bank.get (.collateral home)).lamports.toNat

/-- The collateral pools are the same accounts, lamports included. -/
def SamePools (before after : Bank) : Prop :=
  ∀ home, after.get (.collateral home) = before.get (.collateral home)

/-- The pool of one vault gained `added` lamports and lost `taken`; no other pool changed. -/
structure PoolMove (before after : Bank) (home : Address) (taken added : Nat) : Prop where
  others : ∀ other, other ≠ home → after.get (.collateral other) = before.get (.collateral other)
  owner : (after.get (.collateral home)).owner = (before.get (.collateral home)).owner
  data : (after.get (.collateral home)).data = (before.get (.collateral home)).data
  lamports : after.pooled home + taken = before.pooled home + added

/-! ## Pools that stay as they are -/

theorem SamePools.trans (h₁ : SamePools before middle) (h₂ : SamePools middle after) :
    SamePools before after := by
  intro home
  rw [h₂, h₁]

theorem SamePools.idlePools (h : SamePools before after) (hidle : before.IdlePools) :
    after.IdlePools := by
  intro home
  rw [h]
  exact hidle home

theorem SamePools.pooled (h : SamePools before after) (home : Address) :
    after.pooled home = before.pooled home := by
  unfold Bank.pooled
  rw [h]

theorem Fresh.idlePools (h : bank.Fresh) : bank.IdlePools :=
  fun home => h.unused (.collateral home) rfl

theorem samePools_set {account : Account} (h : ∀ home, .collateral home ≠ target) :
    SamePools bank (bank.set target account) := fun home => Table.get_set_of_ne (h home)

theorem samePools_write {α : Type} {kind : AccountKind α} {value : α}
    (h : ∀ home, .collateral home ≠ target) : SamePools bank (bank.write kind target value) :=
  samePools_set h

theorem Made.samePools {size : Nat} (h : Made before after payer target size program)
    (hpayer : ∀ home, .collateral home ≠ payer) (htarget : ∀ home, .collateral home ≠ target) :
    SamePools before after := fun home => h.get_of_ne (hpayer home) (htarget home)

/-- Idle pools are no token accounts, so token movements pass them by. -/
theorem Retokened.samePools (h : Retokened before after) (hidle : before.IdlePools) :
    SamePools before after := by
  intro home
  refine h.others _ ?_
  rw [(hidle home).2]
  rfl

/-! ## Pools that lamports move into or out of -/

theorem SamePools.poolMove (h : SamePools before after) (home : Address) (n : Nat) :
    PoolMove before after home n n where
  others other _ := h other
  owner := by rw [h]
  data := by rw [h]
  lamports := by rw [h.pooled]

theorem PoolMove.idlePools {taken added : Nat} (h : PoolMove before after home taken added)
    (hidle : before.IdlePools) : after.IdlePools := by
  intro other
  by_cases hother : other = home
  · subst hother
    rw [h.owner, h.data]
    exact hidle other
  · rw [h.others other hother]
    exact hidle other

/-- What comes before and after the move does not matter when it touches no pool. -/
theorem PoolMove.between {first last : Bank} {taken added : Nat} (h₁ : SamePools first before)
    (h : PoolMove before after home taken added) (h₂ : SamePools after last) :
    PoolMove first last home taken added where
  others other hother := by rw [h₂, h.others other hother, h₁]
  owner := by rw [h₂, h.owner, h₁]
  data := by rw [h₂, h.data, h₁]
  lamports := by
    have hmove := h.lamports
    rw [h₁.pooled] at hmove
    rw [h₂.pooled]
    exact hmove

theorem Paid.poolMove_into {source : Address} {n : Nat}
    (h : Paid before after source (.collateral home) n)
    (hsource : ∀ home, .collateral home ≠ source) : PoolMove before after home 0 n where
  others other hother := by
    refine h.get_of_ne (hsource other) ?_
    rintro ⟨⟩
    exact hother rfl
  owner := h.owner _
  data := h.data _
  lamports := by
    have hl := h.lamports (.collateral home)
    rw [if_neg (hsource home), if_pos rfl] at hl
    exact hl

theorem Paid.poolMove_from {n : Nat} (h : Paid before after (.collateral home) target n)
    (htarget : ∀ home, .collateral home ≠ target) : PoolMove before after home n 0 where
  others other hother := by
    refine h.get_of_ne ?_ (htarget other)
    rintro ⟨⟩
    exact hother rfl
  owner := h.owner _
  data := h.data _
  lamports := by
    have hl := h.lamports (.collateral home)
    rw [if_neg (htarget home), if_pos rfl] at hl
    exact hl

/-! ## Neither books nor pools -/

/-- Books stay as they are, and where only keys sign, pools do too. -/
structure Aside (call : Call) (before after : Bank) : Prop where
  books : SameBooks before after
  pools : call.KeysSign → before.IdlePools → SamePools before after

theorem Aside.refl (call : Call) (bank : Bank) : Aside call bank bank where
  books := .refl bank
  pools _ _ _ := rfl

theorem Aside.trans (h₁ : Aside call before middle) (h₂ : Aside call middle after) :
    Aside call before after where
  books := h₁.books.trans h₂.books
  pools hkeys hidle := by
    have hmiddle := h₁.pools hkeys hidle
    exact hmiddle.trans (h₂.pools hkeys (hmiddle.idlePools hidle))

/-- Making an account at the cost of a signer moves no books, and no pool where only keys sign. -/
theorem aside_of_makes {size : Nat} (h : call.Makes payer target size program before after)
    (hsigns : call.signs payer = true) (htarget : ∀ home, .collateral home ≠ target) :
    Aside call before after where
  books := (made_of_establish h).sameRecords.sameBooks
  pools hkeys _ := (made_of_establish h).samePools (hkeys.collateral_ne hsigns) htarget

/-- A token account or a mint is made and set up. -/
theorem aside_of_makes_put {size : Nat} {data : Data}
    (h : call.Makes payer target size .tokenProgram before middle)
    (hsigns : call.signs payer = true) (htarget : ∀ home, .collateral home ≠ target) :
    Aside call before (Tokens.put middle target data) :=
  (aside_of_makes h hsigns htarget).trans
    { books := (sameRecords_put (made_of_establish h).owner).sameBooks
      pools := fun _ _ => samePools_set htarget }

theorem Retokened.aside (h : Retokened before after) (call : Call) : Aside call before after where
  books := h.sameRecords.sameBooks
  pools _ hidle := h.samePools hidle

theorem aside_of_write {α : Type} {kind : AccountKind α} (hkind : kind.Lawful) {address : Address}
    {value : α} (howner : (bank.get address).owner = kind.program)
    (hprogram : kind.program ≠ .lendingProgram) :
    Aside call bank (bank.write kind address value) where
  books := sameBooks_write value howner hprogram
  pools _ hidle := by
    apply samePools_write
    intro home hhome
    -- A pool belongs to the system program, which is none of this library's.
    have hown := hkind.own
    rw [← howner, ← hhome, (hidle home).1] at hown
    cases hown

end Bank

end CollateralLending
