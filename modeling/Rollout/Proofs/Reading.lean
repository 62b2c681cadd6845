/-!
# Readings that may fail

What is read in two parts succeeds if both parts do (`bind_eq_ok_iff`), and fails if the first part
fails, or the second after it (`bind_eq_error_iff`). So readings one after another succeed exactly
if each of them does (`mapM_eq_ok_iff`), and fail with the error of the first that does not
(`mapM_eq_error_iff`). A check hands on what it accepts (`check_eq_ok_iff`), and errors may be given
another form on the way (`mapError_eq_ok_iff`, `mapError_eq_error_iff`).
-/

namespace Rollout

variable {α β ε : Type} {f : α → Except ε β} {x : α} {xs : List α} {e : ε}

/-- What is read in two parts succeeds if both do. -/
theorem bind_eq_ok_iff {first : Except ε α} {y : β} : first >>= f = .ok y ↔
    ∃ a, first = .ok a ∧ f a = .ok y := by
  cases first <;> simp [bind, Except.bind]

/-- What is read in two parts fails if the first does, or the second after it. -/
theorem bind_eq_error_iff {first : Except ε α} : first >>= f = .error e ↔
    first = .error e ∨ ∃ a, first = .ok a ∧ f a = .error e := by
  cases first <;> simp [bind, Except.bind]

/-- A success is not changed by what becomes of errors. -/
theorem mapError_eq_ok_iff {ε' : Type} {g : ε → ε'} {first : Except ε α} :
    first.mapError g = .ok x ↔ first = .ok x := by
  cases first with
  | error e =>
    show Except.error (g e) = Except.ok x ↔ _
    simp
  | ok a =>
    show Except.ok a = Except.ok x ↔ _
    simp

/-- An error is one that was mapped. -/
theorem mapError_eq_error_iff {ε' : Type} {g : ε → ε'} {first : Except ε α} {e : ε'} :
    first.mapError g = .error e ↔ ∃ cause, first = .error cause ∧ g cause = e := by
  cases first with
  | error cause =>
    show Except.error (g cause) = Except.error e ↔ _
    simp
  | ok a =>
    show Except.ok a = Except.error e ↔ _
    simp

/-- What is checked is passed on if the check accepts it. -/
theorem check_eq_ok_iff {check : Except ε Unit} {y : α} :
    (check >>= fun _ => pure x) = .ok y ↔ check = .ok () ∧ y = x := by
  rw [bind_eq_ok_iff]
  constructor
  · rintro ⟨⟨⟩, hcheck, hx⟩
    cases hx
    exact ⟨hcheck, rfl⟩
  · rintro ⟨hcheck, rfl⟩
    exact ⟨(), hcheck, rfl⟩

/-- What is refused in one case is read in the others. -/
theorem ite_error_eq_ok_iff {p : Prop} [Decidable p] {y : Except ε α} :
    (if p then .error e else y) = .ok x ↔ ¬p ∧ y = .ok x := by
  split <;> simp [*]

/-- The first reading fails, or a later one after it. -/
theorem mapM_cons_eq_error_iff : (x :: xs).mapM f = .error e ↔
    f x = .error e ∨ (∃ y, f x = .ok y) ∧ xs.mapM f = .error e := by
  simp [List.mapM_cons, bind_eq_error_iff, pure, Except.pure]

/-- One of the first readings fails, or one of the later ones after them. -/
theorem mapM_append_eq_error_iff {ys : List α} : (xs ++ ys).mapM f = .error e ↔
    xs.mapM f = .error e ∨ (∃ zs, xs.mapM f = .ok zs) ∧ ys.mapM f = .error e := by
  simp [List.mapM_append, bind_eq_error_iff, pure, Except.pure]

/-- Readings one after another succeed exactly if each of them does. -/
theorem mapM_eq_ok_iff {ys : List β} : xs.mapM f = .ok ys ↔ xs.map f = ys.map .ok := by
  induction xs generalizing ys with
  | nil => cases ys <;> simp [pure, Except.pure]
  | cons x xs ih =>
    rw [List.mapM_cons]
    simp only [bind_eq_ok_iff, ih]
    cases ys <;> simp [pure, Except.pure]

/-- Readings one after another fail with the error of the first that fails. -/
theorem mapM_eq_error_iff : xs.mapM f = .error e ↔
    ∃ before x after, xs = before ++ x :: after ∧ (∀ y ∈ before, ∃ z, f y = .ok z) ∧
      f x = .error e := by
  induction xs with
  | nil => simp [pure, Except.pure]
  | cons x xs ih =>
    rw [mapM_cons_eq_error_iff, ih]
    constructor
    · -- If it is a later one, the first reading stands before it.
      rintro (hx | ⟨hx, before, y, after, rfl, hbefore, hy⟩)
      · exact ⟨[], x, xs, rfl, by simp, hx⟩
      · exact ⟨x :: before, y, after, rfl, List.forall_mem_cons.2 ⟨hx, hbefore⟩, hy⟩
    · -- The one that fails is the first, or stands among the others behind the first.
      rintro ⟨_ | ⟨first, before⟩, y, after, hsplit, hbefore, hy⟩
      · obtain ⟨rfl, rfl⟩ := List.cons.inj hsplit
        exact .inl hy
      · obtain ⟨rfl, rfl⟩ := List.cons.inj hsplit
        obtain ⟨hx, hbefore⟩ := List.forall_mem_cons.1 hbefore
        exact .inr ⟨hx, before, y, after, rfl, hbefore, hy⟩

/-- Readings one after another fail if and only if one of them does. -/
theorem exists_mapM_eq_error_iff :
    (∃ e, xs.mapM f = .error e) ↔ ∃ x ∈ xs, ∃ e, f x = .error e := by
  induction xs with
  | nil => simp [pure, Except.pure]
  | cons x xs ih =>
    simp only [mapM_cons_eq_error_iff]
    cases hx : f x <;> simp [hx, ih]

end Rollout
