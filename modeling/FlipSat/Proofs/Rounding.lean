import FlipSat.Binary64.Basic
import FlipSat.Proofs.Nearest
import Mathlib.Tactic.Positivity

/-
  FlipSat: arithmetic is rounded once.
  A quotient of natural numbers is computed as its nearest number (`value?_ofQuotient`), since the
  bits of its last place are counted from the lengths of its parts (`unitExponent_eq`). Products and
  sums follow (`value?_mul`, `value?_add`), and the integer that is computed is the nearest one
  (`round?_eq`). All this is said of what is less than `2^53`, where nothing overflows.
-/
namespace FlipSat

namespace Binary64

/-- The value of a finite number. -/
def value? : Binary64 → Option ℚ
  | .finite s m e => some (signed s m * 2 ^ e)
  | _ => none

theorem value?_eq_some_iff {x : Binary64} {q : ℚ} :
    x.value? = some q ↔ ∃ s m e, x = .finite s m e ∧ signed s m * 2 ^ e = q := by
  cases x <;> simp [value?]

/-- A power of two as a quotient of natural numbers. -/
theorem zpow_eq_div (e : Int) : (2 : ℚ) ^ e = 2 ^ e.toNat / 2 ^ (-e).toNat := by
  rcases Int.le_total 0 e with h | h
  · have h0 : (-e).toNat = 0 := by omega
    rw [h0, pow_zero, div_one, ← zpow_natCast, Int.toNat_of_nonneg h]
  · have h0 : e.toNat = 0 := by omega
    rw [h0, pow_zero, one_div, ← zpow_natCast, Int.toNat_of_nonneg (by omega), zpow_neg, inv_inv]

theorem natLog2_bounds {n : ℕ} (h : 0 < n) : (2 : ℚ) ^ n.log2 ≤ n ∧ (n : ℚ) < 2 ^ (n.log2 + 1) :=
  ⟨by exact_mod_cast Nat.log2_self_le h.ne', by exact_mod_cast Nat.lt_log2_self⟩

/-- The logarithm of a quotient, by those of its parts. -/
theorem log_div_bounds {num den : ℕ} (hn : 0 < num) (hd : 0 < den) :
    (num.log2 : ℤ) - den.log2 - 1 ≤ Int.log 2 (num / den : ℚ) ∧
      Int.log 2 (num / den : ℚ) ≤ (num.log2 : ℤ) - den.log2 := by
  have hd' : (0 : ℚ) < den := by exact_mod_cast hd
  have hq : (0 : ℚ) < num / den := div_pos (by exact_mod_cast hn) hd'
  obtain ⟨hnlow, hnup⟩ := natLog2_bounds hn
  obtain ⟨hdlow, hdup⟩ := natLog2_bounds hd
  have hpow : ∀ (l : ℤ) (i j : ℕ), l + i = j → (2 : ℚ) ^ l * 2 ^ i = 2 ^ j := by
    intro l i j h
    rw [← zpow_natCast, ← zpow_natCast, ← zpow_add₀ (by norm_num), h]
  constructor
  · rw [← two_zpow_le_iff hq, le_div_iff₀ hd']
    calc (2 : ℚ) ^ ((num.log2 : ℤ) - den.log2 - 1) * den
        ≤ 2 ^ ((num.log2 : ℤ) - den.log2 - 1) * 2 ^ (den.log2 + 1) :=
          mul_le_mul_of_nonneg_left hdup.le (two_zpow_pos _).le
      _ = 2 ^ num.log2 := hpow _ _ _ (by push_cast; ring)
      _ ≤ num := hnlow
  · apply Int.lt_add_one_iff.mp
    rw [← lt_two_zpow_iff hq, div_lt_iff₀ hd']
    calc (num : ℚ) < 2 ^ (num.log2 + 1) := hnup
      _ = 2 ^ ((num.log2 : ℤ) - den.log2 + 1) * 2 ^ den.log2 :=
          (hpow _ _ _ (by push_cast; ring)).symm
      _ ≤ 2 ^ ((num.log2 : ℤ) - den.log2 + 1) * den :=
          mul_le_mul_of_nonneg_left hdlow (two_zpow_pos _).le

theorem unitExponent_eq (p : ℕ) {num den : ℕ} (hn : 0 < num) (hd : 0 < den) :
    unitExponent p num den = Int.log 2 (num / den : ℚ) + 1 - p := by
  have hd' : (0 : ℚ) < den := by exact_mod_cast hd
  have hq : (0 : ℚ) < num / den := div_pos (by exact_mod_cast hn) hd'
  have hlog := log_div_bounds hn hd
  unfold unitExponent
  dsimp only [Nat.pow_eq]
  generalize (num.log2 : ℤ) - den.log2 = l at hlog ⊢
  have hcond : den * 2 ^ l.toNat ≤ num * 2 ^ (-l).toNat ↔ l ≤ Int.log 2 (num / den : ℚ) := by
    rw [← two_zpow_le_iff hq, zpow_eq_div, div_le_div_iff₀ (by positivity) hd', mul_comm]
    exact_mod_cast Iff.rfl
  split <;> omega

/-- The mantissa that is computed for a last bit. -/
theorem roundDiv_scaled (num : ℕ) {den : ℕ} (hd : 0 < den) (e : ℤ) :
    (roundDiv (num * Nat.pow 2 (-e).toNat) (den * Nat.pow 2 e.toNat) : ℤ) =
      halfEven (num / den / 2 ^ e) := by
  have hpos : 0 < den * Nat.pow 2 e.toNat := Nat.mul_pos hd (Nat.two_pow_pos _)
  have hscale : (((num * Nat.pow 2 (-e).toNat : ℕ) : ℤ) : ℚ) / (den * Nat.pow 2 e.toNat : ℕ) =
      num / den / 2 ^ e := by
    rw [zpow_eq_div]
    simp only [Nat.pow_eq]
    push_cast
    field_simp
  rw [← hscale]
  exact (halfEven_eq (roundDiv_isNearest _ hpos)).symm

/-- A quotient is computed as its nearest number. -/
theorem exists_ofQuotient_eq (s : Bool) {num den : ℕ} (hd : 0 < den) (h : num < 2 ^ 53 * den) :
    ∃ m e, ofQuotient s num den = .finite s m e ∧ (m : ℚ) * 2 ^ e = nearest (num / den) := by
  have hd' : (0 : ℚ) < den := by exact_mod_cast hd
  unfold ofQuotient roundTo
  rcases Nat.eq_zero_or_pos num with rfl | hn
  · exact ⟨0, -1074, rfl, by simp [nearest_zero]⟩
  have hq : (0 : ℚ) < num / den := div_pos (by exact_mod_cast hn) hd'
  have hlast : max (unitExponent double.precision num den) double.minExponent =
      lastBit (num / den) := by
    rw [unitExponent_eq _ hn hd, lastBit, abs_of_pos hq]
    simp only [double]
    congr 1
    push_cast
    ring
  have he : lastBit (num / den) ≤ 0 := by
    apply lastBit_nonpos
    rw [abs_of_pos hq, div_lt_iff₀ hd']
    exact_mod_cast h
  have hm := roundDiv_scaled num hd (lastBit (num / den))
  rw [if_neg hn.ne', hlast, nearest, ← hm]
  dsimp only
  generalize lastBit (num / den) = e at he ⊢
  generalize roundDiv (num * Nat.pow 2 (-e).toNat) (den * Nat.pow 2 e.toNat) = m
  by_cases h0 : m = 0
  · rw [if_pos h0, h0]
    exact ⟨0, -1074, rfl, by simp⟩
  rw [if_neg h0]
  by_cases htop : m = Nat.pow 2 double.precision
  · -- The mantissa has one bit too many, which goes into the exponent.
    have hmax : ¬ double.maxExponent < e + 1 := by
      simp only [double]
      omega
    rw [if_pos htop]
    dsimp only
    rw [if_neg hmax]
    refine ⟨_, _, rfl, ?_⟩
    rw [htop, zpow_add_one₀ (by norm_num)]
    simp only [double, Nat.pow_eq]
    push_cast
    ring
  · have hmax : ¬ double.maxExponent < e := by
      simp only [double]
      omega
    rw [if_neg htop]
    dsimp only
    rw [if_neg hmax]
    exact ⟨m, e, rfl, rfl⟩

theorem signed_cast (s : Bool) (m : ℕ) : (signed s m : ℚ) = if s then -(m : ℚ) else m := by
  cases s <;> simp [signed]

theorem value?_ofQuotient (s : Bool) {num den : ℕ} (hd : 0 < den) (h : num < 2 ^ 53 * den) :
    (ofQuotient s num den).value? = some (nearest (signed s num / den)) := by
  obtain ⟨m, e, hx, hv⟩ := exists_ofQuotient_eq s hd h
  rw [hx, value?, signed_cast, signed_cast]
  cases s with
  | true => simp [neg_div, nearest_neg, hv]
  | false => simp [hv]

theorem value?_ofScaled (s : Bool) {m : ℕ} {e : ℤ} (h : (m : ℚ) * 2 ^ e < 2 ^ 53) :
    (ofScaled s m e).value? = some (nearest (signed s m * 2 ^ e)) := by
  have hpos : (0 : ℚ) < 2 ^ (-e).toNat := by positivity
  have hlt : m * 2 ^ e.toNat < 2 ^ 53 * 2 ^ (-e).toNat := by
    rw [zpow_eq_div, ← mul_div_assoc, div_lt_iff₀ hpos] at h
    exact_mod_cast h
  show (ofQuotient s (m * 2 ^ e.toNat) (2 ^ (-e).toNat)).value? = _
  have hcast : (signed s (m * 2 ^ e.toNat) : ℚ) = signed s m * 2 ^ e.toNat := by
    cases s <;> simp [signed_cast]
  rw [value?_ofQuotient s (Nat.two_pow_pos _) hlt, hcast, zpow_eq_div, mul_div_assoc]
  push_cast
  rfl

theorem signed_natAbs (n : ℤ) : signed (decide (n < 0)) n.natAbs = n := by
  unfold signed
  split_ifs with h
  · have := of_decide_eq_true h
    omega
  · have := of_decide_eq_false (Bool.eq_false_iff.mpr h)
    omega

/-- A small integer has its own value. -/
theorem ofInt?_eq {n : ℤ} (h : |n| < 2 ^ 53) :
    ∃ x, ofInt? n = some x ∧ x.value? = some (n : ℚ) := by
  have hlt : n.natAbs < 2 ^ 53 * 1 := by
    rw [Int.abs_eq_natAbs] at h
    omega
  have hv := value?_ofQuotient (decide (n < 0)) Nat.one_pos hlt
  rw [signed_natAbs, Nat.cast_one, div_one, nearest_intCast h] at hv
  obtain ⟨s, m, e, hx, hq⟩ := value?_eq_some_iff.mp hv
  exact ⟨.finite s m e, by rw [ofInt?, hx], by rw [value?, hq]⟩

/-- The quotient of two natural numbers. -/
theorem divInt?_eq {a b : ℕ} (hb : 0 < b) (h : a < 2 ^ 53 * b) :
    ∃ x, divInt? a b = some x ∧ x.value? = some (nearest (a / b)) := by
  have hv := value?_ofQuotient false hb h
  obtain ⟨s, m, e, hx, hq⟩ := value?_eq_some_iff.mp hv
  have ha : ¬ (a : ℤ) < 0 := by omega
  have hb' : ¬ (b : ℤ) < 0 := by omega
  have hs : (decide ((a : ℤ) < 0) != decide ((b : ℤ) < 0)) = false := by simp [ha, hb']
  refine ⟨.finite s m e, ?_, by simpa [value?, signed] using hq⟩
  rw [divInt?, hs, Int.natAbs_natCast, Int.natAbs_natCast, hx]

theorem value?_mul {x y : Binary64} {q r : ℚ} (hx : x.value? = some q) (hy : y.value? = some r)
    (h : |q * r| < 2 ^ 53) : (mul x y).value? = some (nearest (q * r)) := by
  obtain ⟨s, m, e, rfl, rfl⟩ := value?_eq_some_iff.mp hx
  obtain ⟨t, n, f, rfl, rfl⟩ := value?_eq_some_iff.mp hy
  have hsigned : (signed s m : ℚ) * signed t n = signed (s != t) (m * n) := by
    cases s <;> cases t <;> simp [signed_cast]
  have hprod : (signed s m * 2 ^ e : ℚ) * (signed t n * 2 ^ f) =
      signed (s != t) (m * n) * 2 ^ (e + f) := by
    rw [← hsigned, zpow_add₀ (by norm_num)]
    ring
  rw [hprod] at h ⊢
  have habs : |(signed (s != t) (m * n) : ℚ) * 2 ^ (e + f)| = (m * n : ℕ) * 2 ^ (e + f) := by
    rw [abs_mul, abs_of_pos (two_zpow_pos _), signed_cast]
    split_ifs <;> simp
  rw [habs] at h
  exact value?_ofScaled _ h

theorem value?_add {x y : Binary64} {q r : ℚ} (hx : x.value? = some q) (hy : y.value? = some r)
    (h : |q + r| < 2 ^ 53) : (add x y).value? = some (nearest (q + r)) := by
  obtain ⟨s, m, e, rfl, rfl⟩ := value?_eq_some_iff.mp hx
  obtain ⟨t, n, f, rfl, rfl⟩ := value?_eq_some_iff.mp hy
  have hshift : ∀ (a g k : ℤ), g ≤ k →
      (a : ℚ) * 2 ^ k = ((a * Nat.pow 2 (k - g).toNat : ℤ) : ℚ) * 2 ^ g := by
    intro a g k hg
    rw [two_zpow_eq_mul hg, ← mul_assoc]
    simp only [Nat.pow_eq]
    push_cast
    rfl
  have hsum : (signed s m : ℚ) * 2 ^ e + signed t n * 2 ^ f =
      ((signed s m * Nat.pow 2 (e - min e f).toNat +
        signed t n * Nat.pow 2 (f - min e f).toNat : ℤ) : ℚ) * 2 ^ (min e f) := by
    rw [hshift _ _ e (min_le_left e f), hshift _ _ f (min_le_right e f), ← add_mul]
    push_cast
    rfl
  rw [hsum] at h ⊢
  unfold add
  dsimp only
  generalize signed s m * Nat.pow 2 (e - min e f).toNat +
    signed t n * Nat.pow 2 (f - min e f).toNat = a at h ⊢
  by_cases ha : a = 0
  · subst ha
    simp [zero, value?, signed, nearest_zero]
  · rw [if_neg ha]
    have habs : |(a : ℚ) * 2 ^ min e f| = a.natAbs * 2 ^ min e f := by
      rw [abs_mul, abs_of_pos (two_zpow_pos _), Nat.cast_natAbs, Int.cast_abs]
    rw [habs] at h
    rw [value?_ofScaled _ h, signed_natAbs]

theorem round?_eq {x : Binary64} {q : ℚ} (hx : x.value? = some q) :
    x.round? = some (halfEven q) := by
  obtain ⟨s, m, e, rfl, rfl⟩ := value?_eq_some_iff.mp hx
  show some (roundDivInt (signed s m * (2 ^ e.toNat : ℕ)) (2 ^ (-e).toNat)) = _
  rw [roundDivInt_eq _ (Nat.two_pow_pos _), zpow_eq_div, ← mul_div_assoc]
  push_cast
  rfl

end Binary64

end FlipSat
