import FlipSat.Fault

/-
  FlipSat: arithmetic on values. Integers and truth values stay integers, which are exact, as long
  as no floating point number takes part; a quotient is always a floating point number. What is no
  number has no place in a sum, and what is too large for the format is a fault.
-/
namespace FlipSat

/-- The name of the sort of a value. -/
def Value.sort : Value → String
  | .null => "NoneType"
  | .int _ => "int"
  | .text _ => "str"
  | .bool _ => "bool"
  | .real _ => "float"
  | .bytes _ => "bytes"
  | .path _ => "PosixPath"
  | .list _ => "list"
  | .tuple _ => "tuple"
  | .table _ => "dict"
  | .foreign => "object"

/-- What is wrong with an operator between two values. -/
def unsupported (operator : String) (v w : Value) : Fault :=
  .mistyped ("unsupported operand type(s) for " ++ operator ++ ": '" ++ v.sort ++ "' and '" ++
    w.sort ++ "'")

/-- What is wrong with a comparison of two values. -/
def incomparable (operator : String) (v w : Value) : Fault :=
  .mistyped ("'" ++ operator ++ "' not supported between instances of '" ++ v.sort ++ "' and '" ++
    w.sort ++ "'")

/-- A number in the floating point format, unless it is too large. -/
def realOfNumber : Int ⊕ Binary64 → Except Fault Binary64
  | .inr x => .ok x
  | .inl n =>
    match Binary64.ofInt? n with
    | some x => .ok x
    | none => .error (.tooLarge "int too large to convert to float")

/-- An operation on two numbers: exact on integers, and on floating point numbers otherwise. -/
def Value.combine (operator : String) (exact : Int → Int → Int)
    (rounded : Binary64 → Binary64 → Binary64) (v w : Value) : Except Fault Value :=
  match v.number?, w.number? with
  | some (.inl a), some (.inl b) => .ok (.int (exact a b))
  | some m, some n => do
    let x ← realOfNumber m
    let y ← realOfNumber n
    pure (.real (rounded x y))
  | _, _ => .error (unsupported operator v w)

namespace Value

def plus : Value → Value → Except Fault Value := combine "+" (· + ·) Binary64.add

def minus : Value → Value → Except Fault Value := combine "-" (· - ·) Binary64.sub

def times : Value → Value → Except Fault Value := combine "*" (· * ·) Binary64.mul

/-- The quotient of two numbers. -/
def quotient (v w : Value) : Except Fault Binary64 :=
  match v.number?, w.number? with
  | some (.inl a), some (.inl b) =>
    if b = 0 then .error .zeroDivisor
    else match Binary64.divInt? a b with
      | some x => .ok x
      | none => .error (.tooLarge "integer division result too large for a float")
  | some m, some n => do
    let x ← realOfNumber m
    let y ← realOfNumber n
    if y.isZero then throw .zeroDivisor
    pure (x.div y)
  | _, _ => .error (unsupported "/" v w)

/-- How two numbers compare; nothing compares with no number. -/
def compareNumbers? : Int ⊕ Binary64 → Int ⊕ Binary64 → Option Ordering
  | .inl a, .inl b => some (compare a b)
  | .inl a, .inr y => (y.compareInt? a).map (·.swap)
  | .inr x, .inl b => x.compareInt? b
  | .inr x, .inr y => x.compare? y

/-- Is the first number less than the second? -/
def isLess (v w : Value) : Except Fault Bool :=
  match v.number?, w.number? with
  | some m, some n => .ok (compareNumbers? m n == some .lt)
  | _, _ => .error (incomparable "<" v w)

/-- The lesser of two numbers, the first unless the second is less. -/
def least (v w : Value) : Except Fault Value := do
  pure (if ← w.isLess v then w else v)

/-- The nearest integer to a number; a tie goes to the even one. -/
def nearest (v : Value) : Except Fault Int :=
  match v.number? with
  | some (.inl n) => .ok n
  | some (.inr x) =>
    match x.round?, x.isNaN with
    | some n, _ => .ok n
    | none, true => .error .badNumber
    | none, false => .error (.tooLarge "cannot convert float infinity to integer")
  | none => .error (.mistyped ("type " ++ v.sort ++ " doesn't define __round__ method"))

/-- A number with a fixed count of digits behind the point. -/
def fixed (places : Nat) (v : Value) : Except Fault String :=
  match v with
  | .text _ => .error .badNumber
  | v =>
    match v.number? with
    | some n => do
      let x ← realOfNumber n
      pure (x.fixed places)
    | none =>
      .error (.mistyped ("unsupported format string passed to " ++ v.sort ++ ".__format__"))

end Value

end FlipSat
