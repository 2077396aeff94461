import FlipSat.Binary64.Basic
import FlipSat.Text.Numeral

/-
  FlipSat: floating point numbers as decimal text.
  Three conversions: the fewest digits that read back to the number, a fixed number of places,
  and reading. The digits are found by exact comparison on integers.
-/
namespace FlipSat.Binary64

/-- The number `digits · 10^exponent`. -/
structure Decimal where
  digits : Nat
  exponent : Int
deriving DecidableEq, Repr

/-- Compares `a · 10^i` with `n · 2^j`. -/
def compareScaled (a : Nat) (i : Int) (n : Nat) (j : Int) : Ordering :=
  compare (a * Nat.pow 10 i.toNat * Nat.pow 2 (-j).toNat)
    (n * Nat.pow 2 j.toNat * Nat.pow 10 (-i).toNat)

/-- Does the decimal round to `m · 2^e`? The reals that do form an interval, which has its ends
    exactly when `m` is even, and which is shorter below a power of two. -/
def readsBack (m : Nat) (e : Int) (d : Decimal) : Bool :=
  let narrowBelow := m = Nat.pow 2 52 ∧ -1074 < e
  let lower := if narrowBelow then 4 * m - 1 else 4 * m - 2
  let belowLower := compareScaled d.digits d.exponent lower (e - 2)
  let aboveUpper := compareScaled d.digits d.exponent (4 * m + 2) (e - 2)
  let closed := m % 2 == 0
  (belowLower == .gt || (closed && belowLower == .eq)) &&
    (aboveUpper == .lt || (closed && aboveUpper == .eq))

/-- The least `k` with `m · 2^e < 10^k`. The binary logarithm gives it up to a few steps. -/
def decimalScale (m : Nat) (e : Int) : Int :=
  let guess : Int := ((m.log2 : Int) + e) * 30103 / 100000 - 1
  let above (k : Int) : Bool := compareScaled 1 k m e == .gt
  match [guess, guess + 1, guess + 2, guess + 3].find? above with
  | some k => k
  | none => guess + 4

/-- The value's neighbours on the grid of multiples of `10^exponent` that read back, the nearer
    one if both do; of two equally near the even one. -/
def onGrid? (m : Nat) (e : Int) (exponent : Int) : Option Decimal :=
  let num := m * Nat.pow 2 e.toNat * Nat.pow 10 (-exponent).toNat
  let den := Nat.pow 2 (-e).toNat * Nat.pow 10 exponent.toNat
  let q := num / den
  let below : Decimal := ⟨q, exponent⟩
  let above : Decimal := ⟨q + 1, exponent⟩
  match readsBack m e below, readsBack m e above with
  | true, true => some ⟨roundDiv num den, exponent⟩
  | true, false => some below
  | false, true => some above
  | false, false => none

/-- Trailing zeros of the digits move into the exponent; `fuel` bounds their number. -/
def stripZeros : Nat → Decimal → Decimal
  | 0, d => d
  | fuel + 1, d =>
    if d.digits % 10 = 0 ∧ d.digits ≠ 0 then stripZeros fuel ⟨d.digits / 10, d.exponent + 1⟩ else d

/-- The decimal with the fewest digits that reads back to `m · 2^e`. -/
def shortest (m : Nat) (e : Int) : Decimal :=
  let k := decimalScale m e
  let candidates := (List.range 17).map fun i : Nat => k - (i + 1 : Int)
  match candidates.findSome? (onGrid? m e) with
  | some d => stripZeros 20 d
  | none => ⟨m * Nat.pow 2 e.toNat * Nat.pow 5 (-e).toNat, -((-e).toNat : Int)⟩

/-- Lays decimal digits out: positionally while the leading digit stands for at least `10^-4`
    and less than `10^16`, otherwise with a signed exponent of at least two digits. -/
def layout (d : Decimal) : String :=
  let ds := Nat.toDigits 10 d.digits
  let point : Int := ds.length + d.exponent
  if -4 < point ∧ point ≤ 16 then
    if point ≤ 0 then
      String.ofList ('0' :: '.' :: List.replicate (-point).toNat '0' ++ ds)
    else if (ds.length : Int) ≤ point then
      String.ofList (ds ++ List.replicate (point - ds.length).toNat '0' ++ ['.', '0'])
    else
      String.ofList (ds.take point.toNat ++ '.' :: ds.drop point.toNat)
  else
    let lead := match ds with
      | [] => []
      | [c] => [c]
      | c :: cs => c :: '.' :: cs
    let x := point - 1
    let xs := Nat.toDigits 10 x.natAbs
    let mark := if x < 0 then '-' else '+'
    String.ofList (lead ++ 'e' :: mark :: List.replicate (2 - xs.length) '0' ++ xs)

/-- The shortest text that reads back to the number. -/
def toText : Binary64 → String
  | .nan => "nan"
  | .infinity s => if s then "-inf" else "inf"
  | .finite s m e =>
    (if s then "-" else "") ++ (if m = 0 then "0.0" else layout (shortest m e))

/-- The number with a fixed number of decimal places, its exact value rounded half to even. -/
def fixed (places : Nat) : Binary64 → String
  | .nan => "nan"
  | .infinity s => if s then "-inf" else "inf"
  | .finite s m e =>
    let n := roundDiv (m * Nat.pow 2 e.toNat * Nat.pow 10 places) (Nat.pow 2 (-e).toNat)
    let ds := Nat.toDigits 10 n
    let padded := List.replicate (places + 1 - ds.length) '0' ++ ds
    let whole := padded.take (padded.length - places)
    let part := padded.drop (padded.length - places)
    (if s then "-" else "") ++
      String.ofList (if places = 0 then whole else whole ++ '.' :: part)

/-- The number nearest to `± digits · 10^exponent`. A value far outside the range is settled by
    its size alone. -/
def ofDecimal (negative : Bool) (digits : Nat) (exponent : Int) : Binary64 :=
  if digits = 0 then zero negative
  else
    let size : Int := ((Nat.toDigits 10 digits).length : Int) + exponent
    if 400 < size then .infinity negative
    else if size < -400 then zero negative
    else ofQuotient negative (digits * Nat.pow 10 exponent.toNat) (Nat.pow 10 (-exponent).toNat)

/-- Splits the longest run of digits off, in which a single underscore may stand between two
    digits. -/
def takeDigits : List Char → List Nat × List Char
  | [] => ([], [])
  | c :: s =>
    match Text.digitValue? c with
    | none => ([], c :: s)
    | some d =>
      match s with
      | '_' :: c' :: s' =>
        if (Text.digitValue? c').isSome then
          let (ds, rest) := takeDigits (c' :: s')
          (d :: ds, rest)
        else ([d], s)
      | s =>
        let (ds, rest) := takeDigits s
        (d :: ds, rest)

/-- Reads what follows the digits of a number: nothing, or an exponent. -/
def readExponent? : List Char → Option Int
  | [] => some 0
  | c :: s =>
    if c == 'e' || c == 'E' then
      let (negative, body) := Text.splitSign s
      match takeDigits body with
      | ([], _) => none
      | (ds, []) =>
        let n : Int := Text.ofDigits ds
        some (if negative then -n else n)
      | _ => none
    else none

/-- The names of the values that are no finite number, in lower case. -/
def named? (negative : Bool) (s : List Char) : Option Binary64 :=
  let lower := String.ofList (s.map Char.toLower)
  if lower == "inf" || lower == "infinity" then some (.infinity negative)
  else if lower == "nan" then some .nan
  else none

/-- Reads a number: padding, at most one sign, digits with at most one point among them, and an
    exponent; or one of the names of the special values in any case. -/
def read? (text : List Char) : Option Binary64 :=
  let (negative, body) := Text.splitSign (Text.trimNumeral text)
  match named? negative body with
  | some x => some x
  | none =>
    let (whole, rest) := takeDigits body
    let (part, rest) := match rest with
      | '.' :: rest => takeDigits rest
      | rest => ([], rest)
    if whole.isEmpty && part.isEmpty then none
    else do
      let x ← readExponent? rest
      pure (ofDecimal negative (Text.ofDigits (whole ++ part)) (x - part.length))

end FlipSat.Binary64
