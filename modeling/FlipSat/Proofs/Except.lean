import Mathlib.Logic.Basic

/-
  FlipSat: chains of steps that may fail. A chain succeeds when each of its steps does.
-/
namespace FlipSat

variable {ε α β : Type}

/-- One step, then another that depends on it. -/
theorem bind_eq_ok_iff {x : Except ε α} {f : α → Except ε β} {b : β} :
    (do let a ← x; f a) = .ok b ↔ ∃ a, x = .ok a ∧ f a = .ok b := by
  cases x <;> simp [bind, Except.bind]

/-- A check, then a step. -/
theorem check_bind_eq_ok_iff {x : Except ε Unit} {y : Except ε β} {b : β} :
    (do x; y) = .ok b ↔ x = .ok () ∧ y = .ok b := by
  cases x <;> simp [bind, Except.bind]

/-- The first of two checks that fails is the fault of both. -/
theorem check_bind_eq_error_iff {x : Except ε Unit} {y : Except ε β} {e : ε} :
    (do x; y) = .error e ↔ x = .error e ∨ x = .ok () ∧ y = .error e := by
  cases x <;> simp [bind, Except.bind]

theorem map_eq_ok_iff {x : Except ε α} {f : α → β} {b : β} :
    x.map f = .ok b ↔ ∃ a, x = .ok a ∧ f a = b := by
  cases x <;> simp [Except.map]

theorem map_eq_error_iff {x : Except ε α} {f : α → β} {e : ε} :
    x.map f = .error e ↔ x = .error e := by
  cases x <;> simp [Except.map]

theorem toOption_eq_some_iff {x : Except ε α} {a : α} : x.toOption = some a ↔ x = .ok a := by
  cases x <;> simp [Except.toOption]

theorem mapError_eq_ok_iff {ε' : Type} {x : Except ε α} {f : ε → ε'} {a : α} :
    x.mapError f = .ok a ↔ x = .ok a := by
  cases x with
  | error e => exact ⟨nofun, nofun⟩
  | ok b => exact ⟨fun h => by cases h; rfl, fun h => by cases h; rfl⟩

/-- A chain whose fault is reported otherwise is a chain of steps whose faults are. -/
theorem mapError_bind {ε' : Type} (f : ε → ε') (x : Except ε α) (h : α → Except ε β) :
    (x >>= h).mapError f = x.mapError f >>= fun a => (h a).mapError f := by
  cases x <;> rfl

/-- Reading one thing and then others. -/
theorem read_cons_eq_ok_iff {x : Except ε α} {y : Except ε (List α)} {as : List α} :
    (do let a ← x; let rest ← y; Except.ok (a :: rest)) = .ok as ↔
      ∃ a rest, x = .ok a ∧ y = .ok rest ∧ as = a :: rest := by
  cases x with
  | error e => simp [bind, Except.bind]
  | ok a =>
    cases y with
    | error e => simp [bind, Except.bind]
    | ok rest => simp [bind, Except.bind, eq_comm]

end FlipSat
