import FlipSat.Search.Clock
import Mathlib.Algebra.Order.Ring.Int
import Mathlib.Tactic.Positivity

/-
  FlipSat: the order of floating point numbers, as far as deadlines need it.
  Finite numbers compare as integers once both are brought to one exponent (`le_finite_iff`); hence
  the order is transitive (`le_trans`), and a clock that does not go back stays behind a deadline
  that it has passed (`Clock.le_of_le`). Numbers are ordered one way or the other (`le_total`), and
  only what is no number is neither above zero nor zero or less (`le_zero_eq_false_iff`).
-/
namespace FlipSat

namespace Binary64

/-! ## Numbers of one exponent -/

/-- Two finite numbers compare as their significands, brought to any exponent that is not larger. -/
theorem le_finite_iff {s t : Bool} {m n : Nat} {e f g : Int} (he : g ≤ e) (hf : g ≤ f) :
    (finite s m e).le (finite t n f) = true ↔
      signed s m * 2 ^ (e - g).toNat ≤ signed t n * 2 ^ (f - g).toNat := by
  have hscale : ∀ h : Int, g ≤ min e f → min e f ≤ h →
      ((2 : Int) ^ (h - min e f).toNat) * 2 ^ (min e f - g).toNat = 2 ^ (h - g).toNat := by
    intro h h1 h2
    rw [← pow_add]
    congr 1
    omega
  have hpos : (0 : Int) < 2 ^ (min e f - g).toNat := by positivity
  rw [← hscale e (le_min he hf) (min_le_left e f), ← hscale f (le_min he hf) (min_le_right e f),
    ← mul_assoc, ← mul_assoc, mul_le_mul_iff_left₀ hpos]
  simp only [le, compare?, Bool.or_eq_true, beq_iff_eq, Option.some.injEq, compare_lt_iff_lt,
    compare_eq_iff_eq, ← le_iff_lt_or_eq]
  rfl

/-! ## The infinities -/

theorem le_infinity_iff {y : Binary64} {b : Bool} :
    y.le (.infinity b) = true ↔ if b then y = .infinity true else y.isNaN = false := by
  cases y with
  | nan => cases b <;> simp [le, compare?, isNaN]
  | infinity a => cases a <;> cases b <;> simp [le, compare?, isNaN]
  | finite s m e => cases b <;> simp [le, compare?, isNaN]

theorem infinity_le_iff {y : Binary64} {b : Bool} :
    (Binary64.infinity b).le y = true ↔ if b then y.isNaN = false else y = .infinity false := by
  cases y with
  | nan => cases b <;> simp [le, compare?, isNaN]
  | infinity a => cases a <;> cases b <;> simp [le, compare?, isNaN]
  | finite s m e => cases b <;> simp [le, compare?, isNaN]

/-- What compares with something is a number. -/
theorem isNaN_of_le {x y : Binary64} (h : x.le y = true) : x.isNaN = false ∧ y.isNaN = false := by
  cases x <;> cases y <;> simp_all [le, compare?, isNaN]

/-- The order is transitive, also where an infinity stands between numbers. -/
theorem le_trans {x y z : Binary64} (hxy : x.le y = true) (hyz : y.le z = true) :
    x.le z = true := by
  have hx := (isNaN_of_le hxy).1
  have hz := (isNaN_of_le hyz).2
  cases y with
  | nan => cases x <;> simp [le, compare?] at hxy
  | infinity b =>
    rw [le_infinity_iff] at hxy
    rw [infinity_le_iff] at hyz
    cases b with
    | true =>
      rw [if_pos rfl] at hxy
      rw [hxy, infinity_le_iff]
      exact hz
    | false =>
      rw [if_neg (by decide)] at hyz
      rw [hyz, le_infinity_iff]
      exact hx
  | finite t n f =>
    cases x with
    | nan => cases hx
    | infinity a =>
      rw [infinity_le_iff] at hxy ⊢
      cases a with
      | true => exact hz
      | false => cases hxy
    | finite s m e =>
      cases z with
      | nan => cases hz
      | infinity c =>
        rw [le_infinity_iff] at hyz ⊢
        cases c with
        | true => cases hyz
        | false => rfl
      | finite u k g =>
        have he : min e (min f g) ≤ e := min_le_left _ _
        have hf : min e (min f g) ≤ f := (min_le_right _ _).trans (min_le_left _ _)
        have hg : min e (min f g) ≤ g := (min_le_right _ _).trans (min_le_right _ _)
        rw [le_finite_iff he hf] at hxy
        rw [le_finite_iff hf hg] at hyz
        rw [le_finite_iff he hg]
        exact hxy.trans hyz

/-- Two numbers are ordered one way or the other. -/
theorem le_total {x y : Binary64} (hx : x.isNaN = false) (hy : y.isNaN = false) :
    x.le y = true ∨ y.le x = true := by
  cases x with
  | nan => cases hx
  | infinity b =>
    rw [infinity_le_iff, le_infinity_iff]
    cases b with
    | true => exact .inl hy
    | false => exact .inr hy
  | finite s m e =>
    cases y with
    | nan => cases hy
    | infinity b =>
      rw [infinity_le_iff, le_infinity_iff]
      cases b with
      | true => exact .inr rfl
      | false => exact .inl rfl
    | finite t n f =>
      rw [le_finite_iff (min_le_left e f) (min_le_right e f),
        le_finite_iff (min_le_right e f) (min_le_left e f)]
      exact Int.le_total _ _

/-- What is not zero or less is above zero or no number. -/
theorem le_zero_eq_false_iff {x : Binary64} : x.le (zero false) = false ↔
    (zero false).le x = true ∧ x.le (zero false) = false ∨ x = .nan := by
  constructor
  · intro h
    cases hx : x.isNaN with
    | true =>
      cases x with
      | nan => exact .inr rfl
      | infinity b => cases hx
      | finite s m e => cases hx
    | false =>
      rcases le_total hx (y := zero false) rfl with hle | hge
      · rw [h] at hle
        cases hle
      · exact .inl ⟨hge, h⟩
  · rintro (⟨-, h⟩ | rfl)
    · exact h
    · rfl

end Binary64

/-- What is reached at one reading of a clock that does not go back is reached at all later ones. -/
theorem Clock.le_of_le {c : Clock} {x : Binary64} {j k : Nat}
    (hmono : ∀ i, c.reads ≤ i → (c.reading i).le (c.reading (i + 1)) = true) (hj : c.reads ≤ j)
    (hjk : j ≤ k) (h : x.le (c.reading j) = true) : x.le (c.reading k) = true := by
  induction k, hjk using Nat.le_induction with
  | base => exact h
  | succ k hk ih => exact Binary64.le_trans ih (hmono k (hj.trans hk))

end FlipSat
