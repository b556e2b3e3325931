/-
  CollateralLending.Proofs.Chain.Records

  What the accounts of an account type hold. Only the program of a type writes
  to them, and it does so in one way: calls to other programs, accounts that
  are made, and whatever other programs do, leave every value where it was and
  bring none (`Bank.SameRecords`). So all that an instruction changes are the
  values it writes itself (`find?_write`, `find?_write_of_ne`).
-/
import CollateralLending.Proofs.Chain.Calls
import CollateralLending.Proofs.Chain.Run

namespace CollateralLending

variable {α β : Type}

/-! ## Content -/

/-- Whether the content is a value of an account type of this library. -/
def Data.isRecord : Data → Bool
  | feed .. | vault .. | position .. | shareVault .. => true
  | raw _ | token _ | mint _ => false

/-- Content of the token program is no record of a program of this library. -/
theorem Data.isRecord_of_isTokens {data : Data} (h : data.isTokens = true) :
    data.isRecord = false := by
  cases data <;> first | rfl | cases h

/-- Only holdings of tokens and mints are anything that others change. -/
theorem Data.Given.same_or_isTokens {before after : Data} (h : before.Given after) :
    after = before ∨ (before.isTokens = true ∧ after.isTokens = true) := by
  cases h with
  | same => exact .inl rfl
  | token => exact .inr ⟨rfl, rfl⟩
  | mint => exact .inr ⟨rfl, rfl⟩

/-! ## Account types of this library -/

/-- The type belongs to a program of this library, which reads back what it writes and takes nothing
else for a value. -/
structure AccountKind.Lawful (kind : AccountKind α) : Prop where
  own : kind.program.isOwnProgram = true
  read_build : ∀ value tail, kind.read (kind.build value tail) = .ok value
  isRecord_of_read : ∀ data value, kind.read data = .ok value → data.isRecord = true

namespace AccountKind

theorem feed_lawful : feed.Lawful where
  own := rfl
  read_build _ _ := rfl
  isRecord_of_read data value h := by cases data <;> first | rfl | cases h

theorem vault_lawful : vault.Lawful where
  own := rfl
  read_build _ _ := rfl
  isRecord_of_read data value h := by cases data <;> first | rfl | cases h

theorem position_lawful : position.Lawful where
  own := rfl
  read_build _ _ := rfl
  isRecord_of_read data value h := by cases data <;> first | rfl | cases h

theorem shareVault_lawful : shareVault.Lawful where
  own := rfl
  read_build _ _ := rfl
  isRecord_of_read data value h := by cases data <;> first | rfl | cases h

/-- What loads belongs to the program of its type. -/
theorem owner_of_load {kind : AccountKind α} {account : Account} {value : α}
    (h : kind.load account = .ok value) : account.owner = kind.program := by
  unfold load at h
  split at h
  · cases h
  · split at h
    · cases h
    · rename_i howner
      exact Decidable.not_not.1 howner

/-- An account loads when it belongs to the program of the type and its data reads as a value of it.
That it was never used, which loading asks about first, is then ruled out. -/
theorem load_eq_ok_iff {kind : AccountKind α} (hkind : kind.Lawful) {account : Account}
    {value : α} :
    kind.load account = .ok value ↔
      account.owner = kind.program ∧ kind.read account.data = .ok value := by
  constructor
  · intro h
    refine ⟨owner_of_load h, ?_⟩
    unfold load at h
    split at h
    · cases h
    · split at h
      · cases h
      · exact h
  · rintro ⟨howner, hread⟩
    unfold load
    -- An account that nobody used belongs to the system program, which has no account types.
    have hown := hkind.own
    rw [if_neg, if_neg (Decidable.not_not.2 howner), hread]
    rintro ⟨hsystem, -⟩
    rw [← howner, hsystem] at hown
    cases hown

end AccountKind

namespace Bank

variable {before middle after bank : Bank} {address payer target program : Address}
variable {kind : AccountKind α}

/-! ## Values -/

/-- The value of an account type at an address, if there is one. -/
def find? (bank : Bank) (kind : AccountKind α) (address : Address) : Option α :=
  (kind.load (bank.get address)).toOption

/-- What loads is found. -/
theorem find?_of_load {value : α} (h : kind.load (bank.get address) = .ok value) :
    bank.find? kind address = some value := by
  rw [find?, h]
  rfl

/-- What is found loads. -/
theorem load_of_find? {value : α} (h : bank.find? kind address = some value) :
    kind.load (bank.get address) = .ok value := by
  unfold find? at h
  cases hload : kind.load (bank.get address) with
  | error cause =>
      rw [hload] at h
      cases h
  | ok found =>
      rw [hload] at h
      cases h
      rfl

/-- A record is found where its owner and its data say so. -/
theorem find?_eq_some_iff (hkind : kind.Lawful) {value : α} :
    bank.find? kind address = some value ↔
      (bank.get address).owner = kind.program ∧ kind.read (bank.get address).data = .ok value := by
  rw [← AccountKind.load_eq_ok_iff hkind]
  exact ⟨load_of_find?, find?_of_load⟩

theorem owner_of_find? (hkind : kind.Lawful) {value : α}
    (h : bank.find? kind address = some value) : (bank.get address).owner = kind.program :=
  ((find?_eq_some_iff hkind).1 h).1

/-- Where a record is found there is one. -/
theorem isRecord_of_find? (hkind : kind.Lawful) {value : α}
    (h : bank.find? kind address = some value) : (bank.get address).data.isRecord = true :=
  hkind.isRecord_of_read _ _ ((find?_eq_some_iff hkind).1 h).2

/-- An account of another owner holds no record of the type. -/
theorem find?_eq_none_of_owner (hkind : kind.Lawful)
    (h : (bank.get address).owner ≠ kind.program) : bank.find? kind address = none := by
  rw [Option.eq_none_iff_forall_ne_some]
  intro value hvalue
  exact h (owner_of_find? hkind hvalue)

theorem find?_eq_none_of_isRecord (hkind : kind.Lawful)
    (h : (bank.get address).data.isRecord = false) : bank.find? kind address = none := by
  rw [Option.eq_none_iff_forall_ne_some]
  intro value hvalue
  rw [isRecord_of_find? hkind hvalue] at h
  cases h

/-- A vault is no position. -/
theorem find?_position_of_vault {vault : Vault Address Bump}
    (h : bank.find? .vault address = some vault) : bank.find? .position address = none := by
  have hread := ((find?_eq_some_iff AccountKind.vault_lawful).1 h).2
  rw [Option.eq_none_iff_forall_ne_some]
  intro position hposition
  have hother := ((find?_eq_some_iff AccountKind.position_lawful).1 hposition).2
  -- Each of the two contents rules out one of the types.
  cases hdata : (bank.get address).data with
  | vault _ _ => rw [hdata] at hother; cases hother
  | raw _ | feed _ _ | position _ _ | shareVault _ _ | token _ | mint _ =>
      rw [hdata] at hread; cases hread

/-- An account holds one record: a position is no vault. -/
theorem find?_vault_of_position {position : UserPosition Address Bump}
    (h : bank.find? .position address = some position) : bank.find? .vault address = none := by
  rw [Option.eq_none_iff_forall_ne_some]
  intro vault hvault
  rw [find?_position_of_vault hvault] at h
  cases h

/-! ## Writing a value -/

/-- A record that was written is found, when the account belongs to its program. -/
theorem find?_write_of_owner (hkind : kind.Lawful) (value : α)
    (h : (bank.get address).owner = kind.program) :
    (bank.write kind address value).find? kind address = some value := by
  rw [find?_eq_some_iff hkind, get_write, if_pos rfl]
  exact ⟨h, hkind.read_build _ _⟩

/-- A record that replaces one of its own type is found. -/
theorem find?_write (hkind : kind.Lawful) {old : α} (value : α)
    (h : bank.find? kind address = some old) :
    (bank.write kind address value).find? kind address = some value :=
  find?_write_of_owner hkind value (owner_of_find? hkind h)

/-- Writing a record concerns no other address. -/
theorem find?_write_of_ne {other : Address} (written : AccountKind β) (value : β)
    (h : other ≠ address) :
    (bank.write written address value).find? kind other = bank.find? kind other := by
  rw [find?, get_write, if_neg h, ← find?]

/-- A write changes no value of another program. -/
theorem find?_write_of_program (hkind : kind.Lawful) {written : AccountKind β} (value : β)
    (howner : (bank.get address).owner = written.program)
    (hprogram : written.program ≠ kind.program) (other : Address) :
    (bank.write written address value).find? kind other = bank.find? kind other := by
  by_cases h : other = address
  · subst h
    have hne : (bank.get other).owner ≠ kind.program := by
      rw [howner]
      exact hprogram
    rw [find?_eq_none_of_owner hkind hne, find?_eq_none_of_owner hkind]
    rw [get_write, if_pos rfl]
    exact hne
  · exact find?_write_of_ne written value h

/-! ## Everything else -/

/-- Every account holds the same values of account types of this library. -/
structure SameRecords (before after : Bank) : Prop where
  find? : ∀ {α : Type} {kind : AccountKind α}, kind.Lawful → ∀ a,
    after.find? kind a = before.find? kind a

theorem SameRecords.refl (bank : Bank) : SameRecords bank bank := ⟨fun _ _ => rfl⟩

theorem SameRecords.trans (h₁ : SameRecords before middle) (h₂ : SameRecords middle after) :
    SameRecords before after where
  find? hkind a := by rw [h₂.find? hkind, h₁.find? hkind]

/-- What an account has to keep in order to hold the same values: its owner and its data, unless it
holds no value before and after. -/
theorem SameRecords.of_accounts
    (h : ∀ a,
      ((after.get a).owner = (before.get a).owner ∧ (after.get a).data = (before.get a).data) ∨
      (((before.get a).owner.isOwnProgram = false ∨ (before.get a).data.isRecord = false) ∧
        ((after.get a).owner.isOwnProgram = false ∨ (after.get a).data.isRecord = false))) :
    SameRecords before after := by
  constructor
  intro α kind hkind a
  have hnone : ∀ bank : Bank, ((bank.get a).owner.isOwnProgram = false ∨
      (bank.get a).data.isRecord = false) → bank.find? kind a = none := by
    rintro bank (howner | hdata)
    · apply find?_eq_none_of_owner hkind
      intro heq
      rw [heq, hkind.own] at howner
      cases howner
    · exact find?_eq_none_of_isRecord hkind hdata
  rcases h a with ⟨howner, hdata⟩ | ⟨hbefore, hafter⟩
  · ext value
    rw [find?_eq_some_iff hkind, find?_eq_some_iff hkind, howner, hdata]
  · rw [hnone before hbefore, hnone after hafter]

/-- Payments leave all records alone. -/
theorem Paid.sameRecords {source : Address} {n : Nat} (h : Paid before after source target n) :
    SameRecords before after :=
  .of_accounts fun a => .inl ⟨h.owner a, h.data a⟩

/-- So does the token program: what it rewrites is its own. -/
theorem Retokened.sameRecords (h : Retokened before after) : SameRecords before after := by
  apply SameRecords.of_accounts
  intro a
  cases ha : (before.get a).data.isTokens with
  | false =>
      rw [h.others a ha]
      exact .inl ⟨rfl, rfl⟩
  | true =>
      exact .inr ⟨.inr (Data.isRecord_of_isTokens ha),
        .inr (Data.isRecord_of_isTokens (h.tokens a ha))⟩

/-- An account that is made holds zeros, and nothing was there before. -/
theorem Made.sameRecords {size : Nat} (h : Made before after payer target size program) :
    SameRecords before after := by
  apply SameRecords.of_accounts
  intro a
  by_cases ha : a = target
  · subst ha
    right
    rw [h.unowned, h.data]
    exact ⟨.inl rfl, .inr rfl⟩
  · rw [h.others a ha]
    exact .inl ⟨rfl, rfl⟩

/-- A token account or a mint is set up in an account of the token program. -/
theorem sameRecords_put {data : Data} (howner : (bank.get target).owner = .tokenProgram) :
    SameRecords bank (Tokens.put bank target data) := by
  apply SameRecords.of_accounts
  intro a
  rw [Tokens.put, Table.get_set]
  split
  · rename_i ha
    subst ha
    simp only [howner]
    exact .inr ⟨.inl rfl, .inl rfl⟩
  · exact .inl ⟨rfl, rfl⟩

/-- So do all other programs. -/
theorem Outside.sameRecords (h : Outside before after) : SameRecords before after := by
  apply SameRecords.of_accounts
  intro a
  by_cases hguard : before.Guarded a
  · have hgiven := h.given a hguard
    rcases hgiven.data.same_or_isTokens with hdata | ⟨hbefore, hafter⟩
    · exact .inl ⟨hgiven.owner, hdata⟩
    · exact .inr ⟨.inr (Data.isRecord_of_isTokens hbefore), .inr (Data.isRecord_of_isTokens hafter)⟩
  · -- Nothing of this library was there, and what was handed over since holds zeros.
    have hunowned : (before.get a).owner.isOwnProgram = false := by
      cases hown : (before.get a).owner.isOwnProgram with
      | false => rfl
      | true => exact absurd (.inr hown) hguard
    refine .inr ⟨.inl hunowned, ?_⟩
    cases hown : (after.get a).owner.isOwnProgram with
    | false => exact .inl rfl
    | true =>
        obtain ⟨size, hzeros⟩ := h.handed a hguard hown
        rw [hzeros]
        exact .inr rfl

end Bank

end CollateralLending
