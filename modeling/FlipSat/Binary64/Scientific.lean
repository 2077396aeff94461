import FlipSat.Binary64.Decimal

/-
  FlipSat: floating point numbers in decimal with a given number of digits: with an exponent, or in
  the shorter of the two layouts. The exact value is rounded half to even.
-/
namespace FlipSat.Binary64

/-- The first `count` digits of `m · 2^e`, and the exponent of the first of them. -/
def leadingDigits (count m : Nat) (e : Int) : Nat × Int :=
  if m = 0 then (0, 0)
  else
    let first := decimalScale m e - 1
    let last := first - count + 1
    let n := roundDiv (m * Nat.pow 2 e.toNat * Nat.pow 10 (-last).toNat)
      (Nat.pow 2 (-e).toNat * Nat.pow 10 last.toNat)
    if n = Nat.pow 10 count then (n / 10, first + 1) else (n, first)

/-- Digits filled up with zeros in front. -/
def digitsOf (count n : Nat) : List Char :=
  let ds := Nat.toDigits 10 n
  List.replicate (count - ds.length) '0' ++ ds

/-- A whole part and a fraction. The point between them may go if no fraction follows. -/
def joinFraction (keepsPoint : Bool) (whole part : List Char) : List Char :=
  if part.isEmpty && !keepsPoint then whole else whole ++ '.' :: part

/-- An exponent with its sign and at least two digits. -/
def exponentText (x : Int) : List Char :=
  'e' :: (if x < 0 then '-' else '+') :: digitsOf 2 x.natAbs

/-- The size of a number with one digit before the point, some places behind it, and an exponent. -/
def scientific (places : Nat) (keepsPoint : Bool) : Binary64 → List Char
  | .nan => "nan".toList
  | .infinity _ => "inf".toList
  | .finite _ m e =>
    let (n, x) := leadingDigits (places + 1) m e
    let ds := digitsOf (places + 1) n
    joinFraction keepsPoint (ds.take 1) (ds.drop 1) ++ exponentText x

/-- The size of a number with a fixed number of places. -/
def positional (places : Nat) (keepsPoint : Bool) : Binary64 → List Char
  | .nan => "nan".toList
  | .infinity _ => "inf".toList
  | .finite _ m e =>
    let text := (Binary64.fixed places (.finite false m e)).toList
    if places = 0 && keepsPoint then text ++ ['.'] else text

/-- The digits without the zeros at their end. -/
def withoutZeros (s : List Char) : List Char := (s.reverse.dropWhile (· == '0')).reverse

/-- The size of a number with a number of digits: with an exponent if it is very small or has more
    digits than that before its point. Zeros at the end of the fraction stay only if asked for. -/
def general (digits : Nat) (keepsZeros : Bool) : Binary64 → List Char
  | .nan => "nan".toList
  | .infinity _ => "inf".toList
  | .finite _ m e =>
    let count := max digits 1
    let (n, x) := leadingDigits count m e
    let ds := digitsOf count n
    let trim (s : List Char) : List Char := if keepsZeros then s else withoutZeros s
    if x < -4 || (count : Int) ≤ x then
      joinFraction keepsZeros (ds.take 1) (trim (ds.drop 1)) ++ exponentText x
    else if x < 0 then
      joinFraction keepsZeros ['0'] (trim (List.replicate (-x - 1).toNat '0' ++ ds))
    else joinFraction keepsZeros (ds.take (x.toNat + 1)) (trim (ds.drop (x.toNat + 1)))

end FlipSat.Binary64
