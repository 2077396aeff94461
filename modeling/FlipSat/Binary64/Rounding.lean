/-
  FlipSat: rounding an exact quotient, to an integer and to a binary floating point format.
  Everything is computed on integers, so a result is rounded exactly once.
-/
namespace FlipSat

/-- The integer nearest to `num / den`; a tie goes to the even one. -/
def roundDiv (num den : Nat) : Nat :=
  let q := num / den
  let r := num % den
  if 2 * r < den then q
  else if den < 2 * r then q + 1
  else if q % 2 = 0 then q else q + 1

/-- The integer nearest to `num / den`, for a numerator of any sign. -/
def roundDivInt (num : Int) (den : Nat) : Int :=
  match num with
  | .ofNat n => roundDiv n den
  | .negSucc n => -(roundDiv (n + 1) den : Int)

/-- A binary floating point number: no number at all, an infinity, or
    `± mantissa · 2^exponent`. -/
inductive Binary64 where
  | nan
  | infinity (negative : Bool)
  | finite (negative : Bool) (mantissa : Nat) (exponent : Int)
deriving DecidableEq, Repr, Inhabited

namespace Binary64

/-- A binary format: how many bits a mantissa has, and the exponents of its last bit. -/
structure Format where
  precision : Nat
  minExponent : Int
  maxExponent : Int

/-- The 64 bit format. -/
def double : Format := ⟨53, -1074, 971⟩

/-- The 32 bit format. -/
def single : Format := ⟨24, -149, 104⟩

/-- The 16 bit format. -/
def half : Format := ⟨11, -24, 5⟩

/-- The zero of the given sign. -/
def zero (negative : Bool) : Binary64 := .finite negative 0 (-1074)

/-- The exponent `e` of the last bit when `num / den` has `precision` bits:
    `2^(precision - 1) ≤ num / den / 2^e < 2^precision`. -/
def unitExponent (precision num den : Nat) : Int :=
  let l : Int := (num.log2 : Int) - den.log2
  if den * Nat.pow 2 l.toNat ≤ num * Nat.pow 2 (-l).toNat then l + 1 - precision
  else l - precision

/-- The number of the format nearest to `num / den`; a tie goes to the even mantissa, and what
    is too large becomes an infinity. -/
def roundTo (f : Format) (negative : Bool) (num den : Nat) : Binary64 :=
  if num = 0 then zero negative
  else
    let e := max (unitExponent f.precision num den) f.minExponent
    let m := roundDiv (num * Nat.pow 2 (-e).toNat) (den * Nat.pow 2 e.toNat)
    if m = 0 then zero negative
    else
      let (m, e) :=
        if m = Nat.pow 2 f.precision then (Nat.pow 2 (f.precision - 1), e + 1) else (m, e)
      if f.maxExponent < e then .infinity negative else .finite negative m e

/-- The 64 bit number nearest to `num / den`. -/
def ofQuotient (negative : Bool) (num den : Nat) : Binary64 := roundTo double negative num den

/-- The 64 bit number nearest to `± mantissa · 2^exponent`. -/
def ofScaled (negative : Bool) (mantissa : Nat) (exponent : Int) : Binary64 :=
  ofQuotient negative (mantissa * Nat.pow 2 exponent.toNat) (Nat.pow 2 (-exponent).toNat)

/-- The number rounded to a narrower format, as a 64 bit number again. -/
def narrow (f : Format) : Binary64 → Binary64
  | .finite s m e =>
    match roundTo f s (m * Nat.pow 2 e.toNat) (Nat.pow 2 (-e).toNat) with
    | .finite s' m' e' => ofScaled s' m' e'
    | x => x
  | x => x

end Binary64

end FlipSat
