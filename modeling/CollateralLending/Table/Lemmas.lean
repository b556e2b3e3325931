/-
  CollateralLending.Table.Lemmas

  The view of a table is the function `get` from keys to values. Main
  statements: `get_set` (a store changes one key), `ext_get` (tables that read
  alike are equal), `mem_entries_iff` (exactly the keys that do not read as the
  blank are listed) and `sum_set` (how one store changes a sum over the table).
-/
import CollateralLending.Table

namespace CollateralLending

variable {K V : Type} [Ord K] [Std.TransOrd K] [Std.LawfulEqOrd K]

namespace Entries

/-! ## Reading after an insertion or a removal -/

/-- An entry is found under its key, and covers what was there. -/
theorem find?_insert [DecidableEq K] (key other : K) (value : V) (entries : List (K × V)) :
    find? other (insert key value entries) =
      if other = key then some value else find? other entries := by
  induction entries with
  | nil =>
    by_cases h : other = key
    · subst h
      simp [insert, find?]
    · have hne : compare other key ≠ .eq := fun e => h (Std.LawfulEqCmp.eq_of_compare e)
      unfold insert find?
      split <;> simp_all [find?]
  | cons head rest ih =>
    obtain ⟨k, v⟩ := head
    unfold insert
    split <;> rename_i hc
    · -- The new entry goes in front: what is below it is below all others.
      by_cases h : other = key
      · subst h
        simp [find?]
      · rw [if_neg h]
        conv => lhs; unfold find?
        split <;> rename_i ho
        · unfold find?
          rw [Std.TransCmp.lt_trans ho hc]
        · exact absurd (Std.LawfulEqCmp.eq_of_compare ho) h
        · rfl
    · -- The new entry takes the place of the old one.
      obtain rfl := Std.LawfulEqCmp.eq_of_compare hc
      by_cases h : other = key
      · subst h
        simp [find?]
      · rw [if_neg h]
        unfold find?
        split <;> rename_i ho
        · rfl
        · exact absurd (Std.LawfulEqCmp.eq_of_compare ho) h
        · rfl
    · by_cases h : other = key
      · subst h
        simp [find?, hc, ih]
      · rw [if_neg h] at ih ⊢
        unfold find?
        split
        · rfl
        · rfl
        · exact ih

omit [Std.TransOrd K] [Std.LawfulEqOrd K] in
/-- A key below all others has no entry. -/
theorem find?_eq_none_of_lt {key : K} {entries : List (K × V)}
    (h : ∀ e ∈ entries, compare key e.1 = .lt) : find? key entries = none := by
  cases entries with
  | nil => rfl
  | cons head rest =>
    unfold find?
    rw [h head List.mem_cons_self]

/-- An erased key has no entry, and all others keep theirs. -/
theorem find?_erase [DecidableEq K] (key other : K) {entries : List (K × V)}
    (h : Ascending entries) :
    find? other (erase key entries) = if other = key then none else find? other entries := by
  induction entries with
  | nil => simp [erase, find?]
  | cons head rest ih =>
    obtain ⟨k, v⟩ := head
    obtain ⟨hk, hr⟩ := List.pairwise_cons.1 h
    unfold erase
    split <;> rename_i hc
    · by_cases ho : other = key
      · subst ho
        simp [find?, hc]
      · rw [if_neg ho]
    · obtain rfl := Std.LawfulEqCmp.eq_of_compare hc
      by_cases ho : other = key
      · subst ho
        -- The entry is taken out, and the keys behind it are all greater.
        simpa using find?_eq_none_of_lt hk
      · rw [if_neg ho]
        conv => rhs; unfold find?
        split <;> rename_i hoc
        · exact find?_eq_none_of_lt fun e he => Std.TransCmp.lt_trans hoc (hk e he)
        · exact absurd (Std.LawfulEqCmp.eq_of_compare hoc) ho
        · rfl
    · by_cases ho : other = key
      · subst ho
        simp [find?, hc, ih hr]
      · rw [if_neg ho] at ih ⊢
        unfold find?
        split
        · rfl
        · rfl
        · exact ih hr

/-! ## Listing and reading -/

/-- Looking up a key finds its entry, and nothing else is found. -/
theorem mem_iff_find? {key : K} {value : V} {entries : List (K × V)} (h : Ascending entries) :
    (key, value) ∈ entries ↔ find? key entries = some value := by
  -- On the entries: the head decides, or all that could hold the key is behind it.
  induction entries with
  | nil => simp [find?]
  | cons head rest ih =>
    obtain ⟨k, v⟩ := head
    obtain ⟨hk, hr⟩ := List.pairwise_cons.1 h
    unfold find?
    rw [List.mem_cons]
    split <;> rename_i hc
    · constructor
      · rintro (e | e)
        · cases e
          simp only [Std.ReflOrd.compare_self] at hc
          cases hc
        · have := Std.OrientedCmp.gt_iff_lt.2 (hk _ e)
          simp only at this
          rw [this] at hc
          cases hc
      · intro e
        cases e
    · obtain rfl := Std.LawfulEqCmp.eq_of_compare hc
      constructor
      · rintro (e | e)
        · cases e
          rfl
        · have := hk _ e
          simp only at this
          simp only [Std.ReflOrd.compare_self] at this
          cases this
      · intro e
        cases e
        exact .inl rfl
    · -- The key is greater than the head, so it can only be behind it.
      rw [← ih hr]
      constructor
      · rintro (e | e)
        · cases e
          simp only [Std.ReflOrd.compare_self] at hc
          cases hc
        · exact e
      · exact .inr

/-- Ascending lists in which every key has the same entry are equal. -/
theorem eq_of_find?_eq {left right : List (K × V)} (hl : Ascending left) (hr : Ascending right)
    (h : ∀ key, find? key left = find? key right) : left = right := by
  induction left generalizing right with
  | nil =>
    cases right with
    | nil => rfl
    | cons head rest =>
      have := h head.1
      simp [find?] at this
  | cons a as ih =>
    cases right with
    | nil =>
      have := h a.1
      simp [find?] at this
    | cons b bs =>
      obtain ⟨ka, va⟩ := a
      obtain ⟨kb, vb⟩ := b
      obtain ⟨ha, has⟩ := List.pairwise_cons.1 hl
      obtain ⟨hb, hbs⟩ := List.pairwise_cons.1 hr
      have hka := h ka
      have hkb := h kb
      simp only [find?, Std.ReflCmp.compare_self] at hka hkb
      -- Neither list can begin with a smaller key than the other: it would be found in one only.
      cases hc : compare ka kb with
      | lt =>
        simp [hc] at hka
      | gt =>
        simp [Std.OrientedCmp.gt_iff_lt.1 hc] at hkb
      | eq =>
        obtain rfl := Std.LawfulEqCmp.eq_of_compare hc
        simp only [Std.ReflCmp.compare_self, Option.some.injEq] at hka
        subst hka
        congr 1
        -- Behind equal heads the lists read alike too: a key found there is greater than the head.
        refine ih has hbs fun key => ?_
        have hkey := h key
        simp only [find?] at hkey
        cases hkc : compare key ka with
        | lt =>
          rw [find?_eq_none_of_lt fun e he => Std.TransCmp.lt_trans hkc (ha e he),
            find?_eq_none_of_lt fun e he => Std.TransCmp.lt_trans hkc (hb e he)]
        | eq =>
          obtain rfl := Std.LawfulEqCmp.eq_of_compare hkc
          rw [find?_eq_none_of_lt ha, find?_eq_none_of_lt hb]
        | gt =>
          simpa [hkc] using hkey

/-! ## Sums -/

omit [Std.TransOrd K] in
/-- A sum over the entries changes by what an entry changes. -/
theorem sum_insert (measure : K → V → Nat) (key : K) (value : V) (entries : List (K × V)) :
    ((insert key value entries).map fun e => measure e.1 e.2).sum +
        ((find? key entries).map (measure key)).getD 0 =
      (entries.map fun e => measure e.1 e.2).sum + measure key value := by
  induction entries with
  | nil => simp [insert, find?]
  | cons head rest ih =>
    obtain ⟨k, v⟩ := head
    unfold insert find?
    split <;> rename_i hc
    · simp only [List.map_cons, List.sum_cons, Option.map_none, Option.getD_none]
      omega
    · obtain rfl := Std.LawfulEqCmp.eq_of_compare hc
      simp only [List.map_cons, List.sum_cons, Option.map_some, Option.getD_some]
      omega
    · simp only [List.map_cons, List.sum_cons]
      omega

omit [Std.TransOrd K] in
theorem sum_erase (measure : K → V → Nat) (key : K) (entries : List (K × V)) :
    ((erase key entries).map fun e => measure e.1 e.2).sum +
        ((find? key entries).map (measure key)).getD 0 =
      (entries.map fun e => measure e.1 e.2).sum := by
  induction entries with
  | nil => simp [erase, find?]
  | cons head rest ih =>
    obtain ⟨k, v⟩ := head
    unfold erase find?
    split <;> rename_i hc
    · simp
    · obtain rfl := Std.LawfulEqCmp.eq_of_compare hc
      simp only [List.map_cons, List.sum_cons, Option.map_some, Option.getD_some]
      omega
    · simp only [List.map_cons, List.sum_cons]
      omega

end Entries

namespace Table

variable [Inhabited V]

/-! ## The view of a table -/

/-- A store changes the value of its own key and of no other. -/
theorem get_set [DecidableEq K] [DecidableEq V] (table : Table K V) (key other : K) (value : V) :
    (table.set key value).get other = if other = key then value else table.get other := by
  unfold set get
  split
  · rename_i h
    rw [Entries.find?_erase key other table.ascending]
    split <;> simp_all
  · rw [Entries.find?_insert]
    split <;> rfl

@[simp] theorem get_set_self [DecidableEq K] [DecidableEq V] (table : Table K V) (key : K)
    (value : V) : (table.set key value).get key = value := by
  simp [get_set]

theorem get_set_of_ne [DecidableEq K] [DecidableEq V] {table : Table K V} {key other : K}
    {value : V} (h : other ≠ key) : (table.set key value).get other = table.get other := by
  simp [get_set, h]

/-- Exactly the keys that do not read as the blank are listed, with their value. -/
theorem mem_entries_iff {table : Table K V} {key : K} {value : V} :
    (key, value) ∈ table.entries ↔ table.get key = value ∧ value ≠ default := by
  rw [Entries.mem_iff_find? table.ascending, get]
  constructor
  · intro h
    refine ⟨by rw [h]; rfl, ?_⟩
    exact table.nonblank _ ((Entries.mem_iff_find? table.ascending).2 h)
  · rintro ⟨h, hne⟩
    cases hf : Entries.find? key table.entries with
    | none =>
      rw [hf] at h
      exact absurd h.symm hne
    | some found =>
      rw [hf] at h
      cases h
      rfl

/-- Tables that read alike are equal. -/
theorem ext_get {left right : Table K V} (h : ∀ key, left.get key = right.get key) :
    left = right := by
  refine Table.ext (Entries.eq_of_find?_eq left.ascending right.ascending fun key => ?_)
  have hkey := h key
  have nonblank : ∀ {table : Table K V} {value : V},
      Entries.find? key table.entries = some value → value ≠ default := fun {table value} hf =>
    table.nonblank _ ((Entries.mem_iff_find? table.ascending).2 hf)
  unfold get at hkey
  cases hl : Entries.find? key left.entries <;> cases hr : Entries.find? key right.entries
  · rfl
  · rw [hl, hr] at hkey
    exact absurd hkey.symm (nonblank hr)
  · rw [hl, hr] at hkey
    exact absurd hkey (nonblank hl)
  · rw [hl, hr] at hkey
    simpa using hkey

/-- Stores at two keys can be made in either order. -/
theorem set_comm [DecidableEq K] [DecidableEq V] {key other : K} (hne : key ≠ other)
    (table : Table K V) (value next : V) :
    (table.set key value).set other next = (table.set other next).set key value := by
  apply ext_get
  intro third
  simp only [get_set]
  by_cases hkey : third = key
  · rw [if_neg (fun h => hne (hkey.symm.trans h)), if_pos hkey, if_pos hkey]
  · rw [if_neg hkey, if_neg hkey]

/-- Storing what was read before takes a store back. -/
theorem set_set_get [DecidableEq K] [DecidableEq V] (table : Table K V) (key : K) (value : V) :
    (table.set key value).set key (table.get key) = table := by
  apply ext_get
  intro other
  simp only [get_set]
  by_cases hkey : other = key
  · rw [if_pos hkey, hkey]
  · rw [if_neg hkey, if_neg hkey]

/-- A store changes a sum by the new measure minus the one it replaces. -/
theorem sum_set [DecidableEq V] (measure : K → V → Nat) (blank : ∀ key, measure key default = 0)
    (table : Table K V) (key : K) (value : V) :
    (table.set key value).sum measure + measure key (table.get key) =
      table.sum measure + measure key value := by
  have hget : ((Entries.find? key table.entries).map (measure key)).getD 0 =
      measure key (table.get key) := by
    unfold get
    cases Entries.find? key table.entries <;> simp [blank]
  unfold set sum
  rw [← hget]
  split
  · rename_i h
    subst h
    simpa [blank] using Entries.sum_erase measure key table.entries
  · exact Entries.sum_insert measure key value table.entries

end Table

end CollateralLending
