/-
  CollateralLending.Proofs.Outcome

  Opening a computation that went through: what its parts yielded. One
  equivalence for each way the checked operations are built. The second half
  opens a computation that failed: which part failed, and after which parts.
-/
import CollateralLending.Price.Oracle

namespace CollateralLending

variable {ε α β : Type}

/-- Two computations in a row succeed when the second does on what the first gives. -/
theorem bind_eq_ok_iff {first : Except ε α} {next : α → Except ε β} {b : β} :
    (first >>= next) = .ok b ↔ ∃ a, first = .ok a ∧ next a = .ok b := by
  cases first with
  | error e => simp [bind, Except.bind]
  | ok a => simp [bind, Except.bind]

theorem pure_eq_ok_iff {a b : α} : (pure a : Except ε α) = .ok b ↔ a = b := by
  simp [pure, Except.pure]

/-- A condition that is ensured holds. -/
theorem ensure_eq_ok_iff {p : Prop} [Decidable p] {error : ε} {u : Unit} :
    ensure p error = .ok u ↔ p := by
  unfold ensure
  split <;> simp_all

/-- An option with an error for nothing succeeds with what the option holds. -/
theorem someOr_eq_ok_iff {value : Option α} {error : ε} {a : α} :
    someOr value error = .ok a ↔ value = some a := by
  unfold someOr
  split <;> simp_all

/-- A mapped result succeeds when the result does. -/
theorem map_eq_ok_iff {result : Except ε α} {f : α → β} {b : β} :
    result.map f = .ok b ↔ ∃ a, result = .ok a ∧ f a = b := by
  cases result <;> simp [Except.map]

/-- Telling errors differently changes no success. -/
theorem mapError_eq_ok_iff {δ : Type} {result : Except ε α} {f : ε → δ} {a : α} :
    result.mapError f = .ok a ↔ result = .ok a := by
  cases result with
  | error e =>
    show Except.error (f e) = .ok a ↔ Except.error e = .ok a
    simp
  | ok b =>
    show Except.ok b = .ok a ↔ Except.ok b = .ok a
    simp

/-! ## One after another -/

variable {f : α → Except ε β} {a : α} {as : List α} {bs : List β}

/-- A list is worked through from the front. -/
theorem mapM_cons_eq_ok_iff :
    (a :: as).mapM f = .ok bs ↔
      ∃ b, f a = .ok b ∧ ∃ rest, as.mapM f = .ok rest ∧ b :: rest = bs := by
  rw [List.mapM_cons]
  simp only [bind_eq_ok_iff, pure_eq_ok_iff]

/-- Nothing stands in the way of all when nothing stands in the way of each. -/
theorem exists_mapM_eq_ok (h : ∀ a ∈ as, ∃ b, f a = .ok b) : ∃ bs, as.mapM f = .ok bs := by
  induction as with
  | nil => exact ⟨[], rfl⟩
  | cons a rest ih =>
      obtain ⟨b, hb⟩ := h a List.mem_cons_self
      obtain ⟨bs, hbs⟩ := ih fun other hmem => h other (List.mem_cons_of_mem a hmem)
      exact ⟨b :: bs, mapM_cons_eq_ok_iff.2 ⟨b, hb, bs, hbs, rfl⟩⟩

/-! ## Failures -/

variable {e : ε}

/-- What does not succeed fails with some error. -/
theorem exists_error_iff {result : Except ε α} :
    (∃ e, result = .error e) ↔ ¬ ∃ a, result = .ok a := by
  cases result <;> simp

/-- Two computations in a row fail in the first, or in the second after the first succeeded. -/
theorem bind_eq_error_iff {first : Except ε α} {next : α → Except ε β} :
    (first >>= next) = .error e ↔ first = .error e ∨ ∃ a, first = .ok a ∧ next a = .error e := by
  cases first with
  | error e => simp [bind, Except.bind]
  | ok a => simp [bind, Except.bind]

/-- Ensuring a condition that does not hold fails with the error it was given. -/
theorem ensure_eq_error_iff {p : Prop} [Decidable p] {error : ε} :
    ensure p error = .error e ↔ ¬ p ∧ error = e := by
  unfold ensure
  split <;> simp_all

theorem someOr_eq_error_iff {value : Option α} {error : ε} :
    someOr value error = .error e ↔ value = none ∧ error = e := by
  unfold someOr
  split <;> simp_all

theorem map_eq_error_iff {result : Except ε α} {f : α → β} :
    result.map f = .error e ↔ result = .error e := by
  cases result <;> simp [Except.map]

/-- An error told differently comes from an error. -/
theorem mapError_eq_error_iff {δ : Type} {result : Except ε α} {f : ε → δ} {d : δ} :
    result.mapError f = .error d ↔ ∃ e, result = .error e ∧ f e = d := by
  cases result with
  | error e =>
    show Except.error (f e) = .error d ↔ ∃ e', Except.error e = .error e' ∧ f e' = d
    simp
  | ok b =>
    show Except.ok b = .error d ↔ ∃ e', Except.ok b = .error e' ∧ f e' = d
    simp

end CollateralLending
