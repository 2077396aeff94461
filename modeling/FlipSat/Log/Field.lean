import FlipSat.Binary64.Scientific
import FlipSat.Value.Basic

/-
  FlipSat: how a field of a line is written: flags, a width, a precision and a letter for the sort.
  A width or a precision of `*` is taken from the field itself, which leaves nothing to write.
-/
namespace FlipSat

/-- A size in the form of a field. -/
inductive FieldSize where
  | absent
  | given (n : Nat)
  | own
deriving DecidableEq, Repr

/-- The form of a field. -/
structure FieldForm where
  flags : List Char := []
  width : FieldSize := .absent
  precision : FieldSize := .absent
  sort : Char := 's'
deriving DecidableEq, Repr

def FieldSize.number? : FieldSize → Option Nat
  | .given n => some n
  | _ => none

namespace FieldForm

def isDigit (c : Char) : Bool := '0' ≤ c && c ≤ '9'

def isFlag (c : Char) : Bool := c == '#' || c == '0' || c == '+' || c == ' ' || c == '-'

def numberOf (ds : List Char) : Nat := Text.ofDigits (ds.map fun c => c.toNat - 48)

/-! ## Reading -/

/-- Reads a size, if one stands here. -/
def readSize (s : List Char) : FieldSize × List Char :=
  match s with
  | '*' :: s => (.own, s)
  | s =>
    let ds := s.takeWhile isDigit
    (if ds.isEmpty then .absent else .given (numberOf ds), s.dropWhile isDigit)

/-- Reads a precision behind its point; without digits it is zero. -/
def readPrecision (s : List Char) : FieldSize × List Char :=
  match s with
  | '.' :: s =>
    match readSize s with
    | (.absent, s) => (.given 0, s)
    | r => r
  | s => (.absent, s)

/-- Passes over a letter for the length of a number, which means nothing. -/
def dropLength : List Char → List Char
  | 'h' :: s | 'l' :: s | 'L' :: s => s
  | s => s

/-- Reads the form behind the name of a field. -/
def read? (s : List Char) : Option (FieldForm × List Char) :=
  let flags := s.takeWhile isFlag
  let (width, s) := readSize (s.dropWhile isFlag)
  let (precision, s) := readPrecision s
  match dropLength s with
  | [] => none
  | c :: s => some (⟨flags, width, precision, c⟩, s)

/-! ## Writing -/

/-- How many characters a field has at least. -/
def minWidth (f : FieldForm) : Nat := f.width.number?.getD 0

/-- Fills a text up to the width. -/
def pad (f : FieldForm) (s : List Char) : List Char :=
  let blanks := List.replicate (f.minWidth - s.length) ' '
  if f.flags.contains '-' then s ++ blanks else blanks ++ s

/-- What stands before the digits of a number: a sign if there is one or a flag asks for one, and
    the mark of the base if a flag asks for it. -/
def front (f : FieldForm) (negative : Bool) (mark : List Char) : List Char :=
  let sign : List Char :=
    if negative then ['-'] else if f.flags.contains '+' then ['+']
    else if f.flags.contains ' ' then [' '] else []
  sign ++ (if f.flags.contains '#' then mark else [])

/-- Fills a number up to the width, with zeros behind its front if a flag asks for them. -/
def padNumber (f : FieldForm) (front digits : List Char) : List Char :=
  if f.flags.contains '0' && !f.flags.contains '-' then
    front ++ List.replicate (f.minWidth - front.length - digits.length) '0' ++ digits
  else f.pad (front ++ digits)

/-- Writes an integer in a base; the precision is the least number of digits. -/
def writeInt (f : FieldForm) (base : Nat) (mark : List Char) (n : Int) : List Char :=
  let ds := Nat.toDigits base n.natAbs
  let least := f.precision.number?.getD 0
  f.padNumber (f.front (n < 0) mark) (List.replicate (least - ds.length) '0' ++ ds)

/-- How many digits a real number is written with, unless the precision says otherwise. -/
def defaultPrecision : Nat := 6

/-- Writes an integer as a real number, whose size `layout` writes. One that is too large for a
    real number cannot be written. -/
def writeReal? (f : FieldForm) (layout : Nat → Bool → Binary64 → List Char) (n : Int) :
    Option (List Char) :=
  (Binary64.ofInt? n).map fun x =>
    let digits := layout (f.precision.number?.getD defaultPrecision) (f.flags.contains '#') x
    f.padNumber (f.front (n < 0) []) digits

/-- The character that a value stands for: one with its number, or a text of a single one. -/
def charOf? : Value → Option Char
  | .int n => if h : 0 ≤ n ∧ n.toNat.isValidChar then some (Char.ofNatAux n.toNat h.2) else none
  | .text s => match s.toList with
    | [c] => some c
    | _ => none
  | _ => none

/-- A value between quotes, in ASCII characters alone. -/
def asciiLiteral : Value → String
  | .text s => Text.quotedAscii s
  | v => v.literal

/-- Writes an integer by the letter of its sort. -/
def writeNumber? (f : FieldForm) (n : Int) : Option (List Char) :=
  let upper (s : List Char) : List Char := s.map Char.toUpper
  match f.sort with
  | 'd' | 'i' | 'u' => some (f.writeInt 10 [] n)
  | 'o' => some (f.writeInt 8 ['0', 'o'] n)
  | 'x' => some (f.writeInt 16 ['0', 'x'] n)
  | 'X' => some (upper (f.writeInt 16 ['0', 'x'] n))
  | 'f' | 'F' => f.writeReal? Binary64.positional n
  | 'e' => f.writeReal? Binary64.scientific n
  | 'E' => (f.writeReal? Binary64.scientific n).map upper
  | 'g' => f.writeReal? Binary64.general n
  | 'G' => (f.writeReal? Binary64.general n).map upper
  | _ => none

/-- Writes a text of any length up to the precision. -/
def writeText (f : FieldForm) (s : String) : List Char :=
  f.pad (match f.precision.number? with
    | some n => s.toList.take n
    | none => s.toList)

/-- Writes a value. Numbers of all sorts are written alike, and only numbers are. -/
def write? (f : FieldForm) (v : Value) : Option (List Char) :=
  if f.width == .own || f.precision == .own then none
  else match f.sort, v with
    | 's', v => some (f.writeText v.display)
    | 'r', v => some (f.writeText v.literal)
    | 'a', v => some (f.writeText (asciiLiteral v))
    | 'c', v => (charOf? v).map fun c => f.pad [c]
    | _, .int n => f.writeNumber? n
    | _, _ => none

end FieldForm

end FlipSat
