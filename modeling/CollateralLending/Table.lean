/-
  CollateralLending.Table

  Finite tables from ordered keys to values that have a blank. Every key reads
  as the blank until something else is stored, and storing the blank removes
  the entry, so a table lists exactly the keys whose value is not blank, each
  once, in ascending order.

  The order and the absence of blanks are part of the type, so the
  representation is canonical: `CollateralLending.Table.Lemmas` shows that
  tables that read alike are equal.
-/

namespace CollateralLending

-- Where algebra is imported, a sum would begin with the zero of a monoid. All modules begin it with
-- the number zero, so that the same sum is the same term everywhere.
attribute [scoped instance (high)] Zero.ofOfNat0

variable {K V : Type}

/-- Keys of one list of entries ascend strictly. -/
def Ascending [Ord K] (entries : List (K × V)) : Prop :=
  entries.Pairwise fun a b => compare a.1 b.1 = .lt

namespace Entries

variable [Ord K]

/-- The value of a key in an ascending list of entries. -/
def find? (key : K) : List (K × V) → Option V
  | [] => none
  | (k, v) :: rest =>
    match compare key k with
    | .lt => none
    | .eq => some v
    | .gt => find? key rest

/-- Puts an entry in its place, over the entry that was there. -/
def insert (key : K) (value : V) : List (K × V) → List (K × V)
  | [] => [(key, value)]
  | (k, v) :: rest =>
    match compare key k with
    | .lt => (key, value) :: (k, v) :: rest
    | .eq => (key, value) :: rest
    | .gt => (k, v) :: insert key value rest

/-- Takes the entry of a key out. -/
def erase (key : K) : List (K × V) → List (K × V)
  | [] => []
  | (k, v) :: rest =>
    match compare key k with
    | .lt => (k, v) :: rest
    | .eq => rest
    | .gt => (k, v) :: erase key rest

/-- Nothing but the entry comes in. -/
theorem mem_insert {key : K} {value : V} {entries : List (K × V)} {e : K × V}
    (h : e ∈ insert key value entries) : e = (key, value) ∨ e ∈ entries := by
  induction entries with
  | nil => simpa [insert] using h
  | cons head rest ih =>
    obtain ⟨k, v⟩ := head
    unfold insert at h
    split at h
    · simpa using h
    · rcases List.mem_cons.1 h with rfl | h
      · exact .inl rfl
      · exact .inr (List.mem_cons_of_mem _ h)
    · rcases List.mem_cons.1 h with rfl | h
      · exact .inr List.mem_cons_self
      · exact (ih h).imp_right (List.mem_cons_of_mem _)

/-- Nothing comes in. -/
theorem mem_of_mem_erase {key : K} {entries : List (K × V)} {e : K × V}
    (h : e ∈ erase key entries) : e ∈ entries := by
  induction entries with
  | nil => simp [erase] at h
  | cons head rest ih =>
    obtain ⟨k, v⟩ := head
    unfold erase at h
    split at h
    · exact h
    · exact List.mem_cons_of_mem _ h
    · rcases List.mem_cons.1 h with rfl | h
      · exact List.mem_cons_self
      · exact List.mem_cons_of_mem _ (ih h)

variable [Std.TransOrd K] [Std.LawfulEqOrd K]

/-- An entry that is put in its place keeps the order. -/
theorem ascending_insert (key : K) (value : V) {entries : List (K × V)}
    (h : Ascending entries) : Ascending (insert key value entries) := by
  induction entries with
  | nil => simp [insert, Ascending]
  | cons head rest ih =>
    obtain ⟨k, v⟩ := head
    obtain ⟨hk, hr⟩ := List.pairwise_cons.1 h
    unfold insert
    split <;> rename_i hc
    · refine List.pairwise_cons.2 ⟨fun e he => ?_, h⟩
      rcases List.mem_cons.1 he with rfl | he
      · exact hc
      · exact Std.TransCmp.lt_trans hc (hk e he)
    · obtain rfl := Std.LawfulEqCmp.eq_of_compare hc
      exact List.pairwise_cons.2 ⟨hk, hr⟩
    · refine List.pairwise_cons.2 ⟨fun e he => ?_, ih hr⟩
      rcases mem_insert he with rfl | he
      · exact Std.OrientedCmp.gt_iff_lt.1 hc
      · exact hk e he

omit [Std.TransOrd K] [Std.LawfulEqOrd K] in
/-- An entry that is taken out leaves the order. -/
theorem ascending_erase (key : K) {entries : List (K × V)}
    (h : Ascending entries) : Ascending (erase key entries) := by
  induction entries with
  | nil => exact h
  | cons head rest ih =>
    obtain ⟨k, v⟩ := head
    obtain ⟨hk, hr⟩ := List.pairwise_cons.1 h
    unfold erase
    split
    · exact h
    · exact hr
    · exact List.pairwise_cons.2 ⟨fun e he => hk e (mem_of_mem_erase he), ih hr⟩

end Entries

/-- A finite table whose unlisted keys read as the blank `default`. -/
@[ext]
structure Table (K V : Type) [Ord K] [Inhabited V] where
  /-- The entries that are not blank. -/
  entries : List (K × V)
  /-- They are listed by ascending key, hence each key once. -/
  ascending : Ascending entries
  /-- No blank is listed. -/
  nonblank : ∀ e ∈ entries, e.2 ≠ default

namespace Table

section Operations

variable [Ord K] [Inhabited V]

/-- The table in which every key reads as the blank. -/
def empty : Table K V := ⟨[], List.Pairwise.nil, by simp⟩

instance : Inhabited (Table K V) := ⟨empty⟩

instance [DecidableEq K] [DecidableEq V] : DecidableEq (Table K V) := fun a b =>
  decidable_of_iff (a.entries = b.entries) Table.ext_iff.symm

/-- The value of a key: the stored one, or the blank. -/
def get (table : Table K V) (key : K) : V := (Entries.find? key table.entries).getD default

/-- The keys whose value is not blank, ascending. -/
def keys (table : Table K V) : List K := table.entries.map (·.1)

/-- The sum of a measure over all listed entries. -/
def sum (measure : K → V → Nat) (table : Table K V) : Nat :=
  (table.entries.map fun e => measure e.1 e.2).sum

/-- Stores a value under a key; storing the blank removes the entry. -/
def set [Std.TransOrd K] [Std.LawfulEqOrd K] [DecidableEq V]
    (table : Table K V) (key : K) (value : V) : Table K V :=
  if h : value = default then
    ⟨Entries.erase key table.entries, Entries.ascending_erase key table.ascending,
      fun e he => table.nonblank e (Entries.mem_of_mem_erase he)⟩
  else
    ⟨Entries.insert key value table.entries, Entries.ascending_insert key value table.ascending,
      fun e he => by
        rcases Entries.mem_insert he with rfl | he
        · exact h
        · exact table.nonblank e he⟩

/-- The keys, in no particular order, at which two tables read differently. -/
def differences [DecidableEq V] (before after : Table K V) : List K :=
  let changed := after.entries.filterMap fun e =>
    if before.get e.1 = e.2 then none else some e.1
  let removed := before.entries.filterMap fun e =>
    if after.get e.1 = default then some e.1 else none
  changed ++ removed

end Operations

end Table

end CollateralLending
