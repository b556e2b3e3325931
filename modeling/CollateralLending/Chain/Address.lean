/-
  CollateralLending.Chain.Address

  Addresses of accounts. An address is the one of a well-known program, a key
  with or without a name, or one that a program derives from seeds. Derived
  addresses are told apart by what they are derived for, so addresses of
  different seeds differ and a derived address is never a key of the other
  kinds.

  Addresses are ordered by a code, a list of numbers from which the address can
  be read back (`code_injective`).
-/
import CollateralLending.PublicKey
import CollateralLending.Word

namespace CollateralLending

/-- The address of an account. -/
inductive Address where
  /-- The system program, which owns every account nobody else owns. -/
  | systemProgram
  /-- The token program. -/
  | tokenProgram
  /-- The program of associated token accounts. -/
  | associatedTokenProgram
  /-- The program of lending vaults. -/
  | lendingProgram
  /-- The program of price feeds. -/
  | feedProgram
  /-- The program of share vaults. -/
  | shareProgram
  /-- The system variable that holds the rent rates. -/
  | rentSysvar
  /-- A key with a name. -/
  | named (name : String)
  /-- A key that spells no name and is none of those above. -/
  | unnamed (key : PublicKey)
  /-- The feed of an authority with this number. -/
  | feed (authority : Address) (feedId : Amount)
  /-- The lending vault of a debt token. -/
  | vault (debtMint : Address)
  /-- The debt pool of a lending vault. -/
  | debtVault (vault : Address)
  /-- The collateral pool of a lending vault. -/
  | collateral (vault : Address)
  /-- The position of an owner in a lending vault. -/
  | position (vault owner : Address)
  /-- The share vault of an underlying token. -/
  | shareVault (underlyingMint : Address)
  /-- The share token of a share vault. -/
  | shareMint (shareVault : Address)
  /-- The pool of underlying tokens of a share vault. -/
  | sharePool (shareVault : Address)
  /-- The associated token account of an owner for a token. -/
  | associated (owner mint : Address)
deriving DecidableEq

/-- The bump seed stored beside a derived address: the canonical one, with which the address can be
derived again, or any other. -/
inductive Bump where
  /-- The bump seed that belongs to the address. -/
  | canonical
  /-- Another number. -/
  | other
deriving DecidableEq

namespace Address

/-- The key of zero bytes is the address of the system program. -/
instance : Inhabited Address := ⟨systemProgram⟩

/-- The programs. -/
def programs : List Address :=
  [systemProgram, tokenProgram, associatedTokenProgram, lendingProgram, feedProgram, shareProgram]

/-- Whether an address is derived from seeds. -/
def isDerived : Address → Bool
  | systemProgram | tokenProgram | associatedTokenProgram | lendingProgram | feedProgram
  | shareProgram | rentSysvar | named _ | unnamed _ => false
  | feed .. | vault _ | debtVault _ | collateral _ | position .. | shareVault _ | shareMint _
  | sharePool _ | associated .. => true

/-! ## Order -/

/-- The code of an address: its kind, followed by the codes of its parts. -/
def code : Address → List Nat
  | systemProgram => [0]
  | tokenProgram => [1]
  | associatedTokenProgram => [2]
  | lendingProgram => [3]
  | feedProgram => [4]
  | shareProgram => [5]
  | rentSysvar => [6]
  | named name => 7 :: name.length :: name.toList.map Char.toNat
  | feed authority feedId => 8 :: (authority.code ++ [feedId.toNat])
  | vault mint => 9 :: mint.code
  | debtVault home => 10 :: home.code
  | collateral home => 11 :: home.code
  | position home owner => 12 :: (home.code ++ owner.code)
  | shareVault mint => 13 :: mint.code
  | shareMint home => 14 :: home.code
  | sharePool home => 15 :: home.code
  | associated owner mint => 16 :: (owner.code ++ mint.code)
  | unnamed key => 17 :: key.bytes.map UInt8.toNat

theorem toNat_injective {a b : Char} (h : a.toNat = b.toNat) : a = b :=
  Char.ext (UInt32.toNat_inj.1 h)

/-- No code of an address continues the code of another one. -/
theorem eq_of_code_append {a b : Address} {r s : List Nat} (h : a.code ++ r = b.code ++ s) :
    a = b ∧ r = s := by
  -- On the first address: each code begins with a number of its own, so the second one is built
  -- alike, and the parts are compared from the left.
  induction a generalizing b r s with
  | systemProgram | tokenProgram | associatedTokenProgram | lendingProgram | feedProgram
  | shareProgram | rentSysvar =>
    cases b <;> simp_all [code]
  | named name =>
    cases b with
    | named other =>
      simp only [code, List.cons_append, List.cons.injEq, true_and] at h
      obtain ⟨hlen, h⟩ := h
      -- The length that comes first says where the name ends.
      obtain ⟨hchars, hrest⟩ := List.append_inj h (by simpa [← String.length_toList] using hlen)
      have hlist := (List.map_inj_right fun _ _ => toNat_injective).1 hchars
      exact ⟨by rw [String.toList_inj.1 hlist], hrest⟩
    | _ => simp [code] at h
  | unnamed key =>
    cases b with
    | unnamed other =>
      simp only [code, List.cons_append, List.cons.injEq, true_and] at h
      obtain ⟨hbytes, hrest⟩ := List.append_inj h (by simp [key.length_eq, other.length_eq])
      have hlist := (List.map_inj_right fun _ _ => UInt8.toNat_inj.1).1 hbytes
      exact ⟨by rw [PublicKey.ext hlist], hrest⟩
    | _ => simp [code] at h
  | feed authority feedId ih =>
    cases b with
    | feed other otherId =>
      simp only [code, List.cons_append, List.append_assoc, List.cons.injEq, true_and] at h
      obtain ⟨rfl, hrest⟩ := ih h
      simp only [List.nil_append, List.cons.injEq] at hrest
      exact ⟨by rw [Word.ext hrest.1], hrest.2⟩
    | _ => simp [code] at h
  | position home owner ihHome ihOwner =>
    cases b with
    | position otherHome otherOwner =>
      simp only [code, List.cons_append, List.append_assoc, List.cons.injEq, true_and] at h
      obtain ⟨rfl, howner⟩ := ihHome h
      obtain ⟨rfl, hrest⟩ := ihOwner howner
      exact ⟨rfl, hrest⟩
    | _ => simp [code] at h
  | associated owner mint ihOwner ihMint =>
    cases b with
    | associated otherOwner otherMint =>
      simp only [code, List.cons_append, List.append_assoc, List.cons.injEq, true_and] at h
      obtain ⟨rfl, hmint⟩ := ihOwner h
      obtain ⟨rfl, hrest⟩ := ihMint hmint
      exact ⟨rfl, hrest⟩
    | _ => simp [code] at h
  | vault part ih | debtVault part ih | collateral part ih | shareVault part ih
  | shareMint part ih | sharePool part ih =>
    cases b <;> simp only [code, List.cons_append, List.cons.injEq, true_and] at h <;>
      first
      | exact ⟨by rw [(ih h).1], (ih h).2⟩
      | simp at h

/-- Different addresses have different codes. -/
theorem code_injective {a b : Address} (h : a.code = b.code) : a = b :=
  (eq_of_code_append (r := []) (s := []) (by simpa using h)).1

/-- Addresses are compared by their codes. -/
instance : Ord Address := ⟨fun a b => compare a.code b.code⟩

instance : Std.TransOrd Address where
  eq_swap := Std.OrientedOrd.eq_swap (α := List Nat)
  isLE_trans := Std.TransOrd.isLE_trans (α := List Nat)

instance : Std.LawfulEqOrd Address where
  compare_self := Std.ReflOrd.compare_self (α := List Nat)
  eq_of_compare h := code_injective (Std.LawfulEqOrd.eq_of_compare (α := List Nat) h)

end Address

end CollateralLending
