import FlipSat.Text.Blank

/-
  FlipSat: integers written in decimal.
  Reading accepts the decimal digits of every script, one sign, and single underscores between
  digits; writing uses ASCII digits.
-/
namespace FlipSat.Text

/-- The code points of the digit zero in every script that has decimal digits (Unicode 14.0);
    the other nine digits follow each of them. -/
def zeroDigits : List Nat := [
  0x30, 0x660, 0x6F0, 0x7C0, 0x966, 0x9E6, 0xA66, 0xAE6, 0xB66, 0xBE6, 0xC66, 0xCE6, 0xD66,
  0xDE6, 0xE50, 0xED0, 0xF20, 0x1040, 0x1090, 0x17E0, 0x1810, 0x1946, 0x19D0, 0x1A80, 0x1A90,
  0x1B50, 0x1BB0, 0x1C40, 0x1C50, 0xA620, 0xA8D0, 0xA900, 0xA9D0, 0xA9F0, 0xAA50, 0xABF0, 0xFF10,
  0x104A0, 0x10D30, 0x11066, 0x110F0, 0x11136, 0x111D0, 0x112F0, 0x11450, 0x114D0, 0x11650,
  0x116C0, 0x11730, 0x118E0, 0x11950, 0x11C50, 0x11D50, 0x11DA0, 0x16A60, 0x16AC0, 0x16B50,
  0x1D7CE, 0x1D7D8, 0x1D7E2, 0x1D7EC, 0x1D7F6, 0x1E140, 0x1E2F0, 0x1E950, 0x1FBF0]
/-- The value of a decimal digit of any script. -/
def digitValue? (c : Char) : Option Nat :=
  if c.toNat < 0x80 then
    if '0' ≤ c ∧ c ≤ '9' then some (c.toNat - 48) else none
  else (zeroDigits.find? fun z => z ≤ c.toNat && c.toNat ≤ z + 9).map (c.toNat - ·)

/-- A number may have blanks around it, the separators U+001C to U+001F excepted. -/
def isNumeralPadding (c : Char) : Bool :=
  isBlank c && !(0x1C ≤ c.toNat && c.toNat ≤ 0x1F)

/-- The text without the blanks that a number may have around it. -/
def trimNumeral (s : List Char) : List Char :=
  ((s.dropWhile isNumeralPadding).reverse.dropWhile isNumeralPadding).reverse

/-- The values of a run of digits in which a single underscore may stand between two digits. -/
def digitRun? : List Char → Option (List Nat)
  | [] => none
  | [c] => (digitValue? c).map ([·])
  | c :: '_' :: s => do
    let d ← digitValue? c
    let ds ← digitRun? s
    pure (d :: ds)
  | c :: s => do
    let d ← digitValue? c
    let ds ← digitRun? s
    pure (d :: ds)

/-- The number that a list of decimal digits stands for, the most significant first. -/
def ofDigits (ds : List Nat) : Nat := ds.foldl (fun n d => 10 * n + d) 0

/-- A numeral with more digits than this is refused. -/
def maxDigits : Nat := 4300

/-- Splits a leading sign off: is it a minus, and what follows. -/
def splitSign : List Char → Bool × List Char
  | '-' :: s => (true, s)
  | '+' :: s => (false, s)
  | s => (false, s)

/-- Reads an integer: padding, at most one sign, and a run of digits. -/
def readInt? (s : List Char) : Option Int := do
  let (negative, body) := splitSign (trimNumeral s)
  let ds ← digitRun? body
  if ds.length > maxDigits then none
  else pure (if negative then -(ofDigits ds : Int) else ofDigits ds)

/-- The value of a digit in a base of at most 16: a decimal digit of any script, or a letter. -/
def digitInBase? (base : Nat) (c : Char) : Option Nat :=
  let v? :=
    if 'a' ≤ c ∧ c ≤ 'f' then some (c.toNat - 87)
    else if 'A' ≤ c ∧ c ≤ 'F' then some (c.toNat - 55)
    else digitValue? c
  v?.filter (· < base)

/-- The letter that may stand after a zero in front of a number in some base. -/
def baseLetter : Nat → Char
  | 2 => 'b'
  | 8 => 'o'
  | _ => 'x'

/-- Digits without the mark of their base. -/
def withoutBaseMark (base : Nat) : List Char → List Char
  | '0' :: c :: s => if c.toLower == baseLetter base then s else '0' :: c :: s
  | s => s

/-- Reads an integer in base 2, 8 or 16: padding, at most one sign, the mark of the base if it is
    there, and digits. -/
def readIntInBase? (base : Nat) (s : List Char) : Option Int := do
  let (negative, body) := splitSign (trimNumeral s)
  let ds ← (withoutBaseMark base body).mapM (digitInBase? base)
  if ds.isEmpty then none
  else
    let n := ds.foldl (fun n d => base * n + d) 0
    pure (if negative then -(n : Int) else n)

/-- Writes an integer in ASCII digits. -/
def showInt : Int → String
  | .ofNat n => String.ofList (Nat.toDigits 10 n)
  | .negSucc n => String.ofList ('-' :: Nat.toDigits 10 (n + 1))

/-- Writes a natural number in ASCII digits. -/
def showNat (n : Nat) : String := String.ofList (Nat.toDigits 10 n)

end FlipSat.Text
