/-
  CollateralLending.Proofs.Sums

  Sums over a table depend on what its keys read as and on nothing else. The
  listed entries of two tables differ where one of them reads as the blank, so
  both are summed over one finite set of keys that has all of them.

  Main statements: `sum_congr` and `sum_update`; `sum_eq_sum_of_injective`
  compares tables with different keys.
-/
import CollateralLending.Table.Lemmas
import Mathlib.Algebra.BigOperators.Group.Finset.Basic
import Mathlib.Algebra.Order.BigOperators.Group.Finset
import Mathlib.Data.Finset.Preimage

namespace CollateralLending.Table

variable {K V : Type} [Ord K] [Std.TransOrd K] [Std.LawfulEqOrd K] [Inhabited V]
variable {measure : K → V → Nat}

/-- The keys of a table are those where it does not hold the default. -/
theorem mem_keys_iff {table : Table K V} {key : K} :
    key ∈ table.keys ↔ table.get key ≠ default := by
  simp only [keys, List.mem_map, Prod.exists, exists_and_right, exists_eq_right]
  constructor
  · rintro ⟨value, h⟩
    obtain ⟨rfl, hne⟩ := mem_entries_iff.1 h
    exact hne
  · intro hne
    exact ⟨_, mem_entries_iff.2 ⟨rfl, hne⟩⟩

omit [Std.TransOrd K] in
theorem nodup_keys (table : Table K V) : table.keys.Nodup := by
  have hasc : table.entries.Pairwise fun a b => a.1 ≠ b.1 := by
    apply table.ascending.imp
    intro a b hlt heq
    rw [heq, Std.ReflOrd.compare_self] at hlt
    cases hlt
  exact List.pairwise_map.2 hasc

/-- A sum over the table is one over its keys. -/
theorem sum_eq_sum_keys (measure : K → V → Nat) (table : Table K V) :
    table.sum measure = (table.keys.map fun key => measure key (table.get key)).sum := by
  unfold sum keys
  rw [List.map_map]
  congr 1
  apply List.map_congr_left
  intro e he
  have hget : table.get e.1 = e.2 := (mem_entries_iff.1 he).1
  simp only [Function.comp_apply, hget]

/-- Blanks count for nothing, so any set of keys that has the listed ones gives the same sum. -/
theorem sum_eq_sum_of_subset [DecidableEq K] (blank : ∀ key, measure key default = 0)
    (table : Table K V) {keys : Finset K} (h : table.keys.toFinset ⊆ keys) :
    table.sum measure = ∑ key ∈ keys, measure key (table.get key) := by
  rw [sum_eq_sum_keys, ← List.sum_toFinset _ table.nodup_keys]
  apply Finset.sum_subset h
  intro key _ hkey
  have hdefault : table.get key = default := by
    by_contra hne
    exact hkey (List.mem_toFinset.2 (mem_keys_iff.2 hne))
  rw [hdefault, blank]

/-- Tables that measure alike at every key have the same sum. -/
theorem sum_congr [DecidableEq K] (measure : K → V → Nat) (blank : ∀ key, measure key default = 0)
    {left right : Table K V}
    (h : ∀ key, measure key (left.get key) = measure key (right.get key)) :
    left.sum measure = right.sum measure := by
  rw [sum_eq_sum_of_subset blank left Finset.subset_union_left,
    sum_eq_sum_of_subset blank right Finset.subset_union_right]
  exact Finset.sum_congr rfl fun key _ => h key

/-- Tables that measure alike at every key but one differ by what that one measures. -/
theorem sum_update [DecidableEq K] [DecidableEq V] (measure : K → V → Nat)
    (blank : ∀ key, measure key default = 0) {before after : Table K V} (key : K)
    (h : ∀ other, other ≠ key →
      measure other (after.get other) = measure other (before.get other)) :
    after.sum measure + measure key (before.get key) =
      before.sum measure + measure key (after.get key) := by
  have hafter : after.sum measure = (before.set key (after.get key)).sum measure := by
    apply sum_congr measure blank
    intro other
    rw [get_set]
    split
    · rename_i heq
      rw [heq]
    · rename_i hne
      exact h other hne
  rw [hafter]
  exact sum_set measure blank before key (after.get key)

/-- Two keys at which tables differ count one after the other. -/
theorem sum_update_pair [DecidableEq K] [DecidableEq V] (measure : K → V → Nat)
    (blank : ∀ key, measure key default = 0) {before after : Table K V} {key other : K}
    (hne : key ≠ other)
    (h : ∀ third, third ≠ key → third ≠ other →
      measure third (after.get third) = measure third (before.get third)) :
    after.sum measure + measure key (before.get key) + measure other (before.get other) =
      before.sum measure + measure key (after.get key) + measure other (after.get other) := by
  -- The table in between has the one new value and not yet the other.
  have hfirst := sum_set measure blank before key (after.get key)
  have hsecond : after.sum measure + measure other ((before.set key (after.get key)).get other) =
      (before.set key (after.get key)).sum measure + measure other (after.get other) := by
    refine sum_update measure blank other fun third hthird => ?_
    rw [get_set]
    split
    · rename_i heq
      rw [heq]
    · rename_i hkey
      exact h third hkey hthird
  rw [get_set_of_ne hne.symm] at hsecond
  omega

/-- A table sums up like another one whose keys are some of its own, when the others count for
nothing. -/
theorem sum_eq_sum_of_injective {L W : Type} [Ord L] [Std.TransOrd L] [Std.LawfulEqOrd L]
    [Inhabited W] [DecidableEq K] [DecidableEq L] {part : L → W → Nat}
    (blank : ∀ key, measure key default = 0) (partBlank : ∀ key, part key default = 0)
    {left : Table K V} {right : Table L W} (place : L → K) (hplace : Function.Injective place)
    (h : ∀ key, measure (place key) (left.get (place key)) = part key (right.get key))
    (hother : ∀ key, key ∉ Set.range place → measure key (left.get key) = 0) :
    left.sum measure = right.sum part := by
  -- All keys of the second table, and all that stand for one of the first.
  let keys := right.keys.toFinset ∪ left.keys.toFinset.preimage place hplace.injOn
  have hright : right.sum part = ∑ key ∈ keys, part key (right.get key) :=
    sum_eq_sum_of_subset partBlank right Finset.subset_union_left
  have hleft : left.sum measure =
      ∑ key ∈ left.keys.toFinset ∪ keys.image place, measure key (left.get key) :=
    sum_eq_sum_of_subset blank left Finset.subset_union_left
  have himage : ∑ key ∈ left.keys.toFinset ∪ keys.image place, measure key (left.get key) =
      ∑ key ∈ keys.image place, measure key (left.get key) := by
    refine (Finset.sum_subset Finset.subset_union_right ?_).symm
    intro key hkey hnot
    apply hother
    rintro ⟨source, rfl⟩
    apply hnot
    have hlisted : place source ∈ left.keys.toFinset := by
      rcases Finset.mem_union.1 hkey with hlisted | hin
      · exact hlisted
      · exact absurd hin hnot
    have hsource : source ∈ left.keys.toFinset.preimage place hplace.injOn :=
      Finset.mem_preimage.2 hlisted
    exact Finset.mem_image_of_mem place (Finset.mem_union_right _ hsource)
  rw [hleft, himage, Finset.sum_image hplace.injOn, hright]
  exact Finset.sum_congr rfl fun key _ => h key

/-- No key measures more than all of them. -/
theorem le_sum [DecidableEq K] (measure : K → V → Nat) (blank : ∀ key, measure key default = 0)
    (table : Table K V) (key : K) : measure key (table.get key) ≤ table.sum measure := by
  rw [sum_eq_sum_of_subset blank table (Finset.subset_insert key _)]
  exact Finset.single_le_sum (f := fun key => measure key (table.get key))
    (fun _ _ => Nat.zero_le _) (Finset.mem_insert_self key _)

/-- Nor do two. -/
theorem add_le_sum [DecidableEq K] (measure : K → V → Nat)
    (blank : ∀ key, measure key default = 0) (table : Table K V) {key other : K} (h : key ≠ other) :
    measure key (table.get key) + measure other (table.get other) ≤ table.sum measure := by
  have hsubset : table.keys.toFinset ⊆ {key, other} ∪ table.keys.toFinset :=
    Finset.subset_union_right
  have hpair := Finset.sum_pair (f := fun key => measure key (table.get key)) h
  rw [sum_eq_sum_of_subset blank table hsubset, ← hpair]
  exact Finset.sum_le_sum_of_subset Finset.subset_union_left

end CollateralLending.Table
