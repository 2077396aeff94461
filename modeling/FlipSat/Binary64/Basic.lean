import FlipSat.Binary64.Rounding

/-
  FlipSat: arithmetic and order of binary floating point numbers.
  Each operation computes the exact result on integers and rounds it once.
-/
namespace FlipSat.Binary64

def isNaN : Binary64 → Bool
  | .nan => true
  | _ => false

def isZero : Binary64 → Bool
  | .finite _ 0 _ => true
  | _ => false

def neg : Binary64 → Binary64
  | .nan => .nan
  | .infinity s => .infinity !s
  | .finite s m e => .finite (!s) m e

/-- A signed mantissa. -/
def signed (negative : Bool) (m : Nat) : Int := if negative then -(m : Int) else m

/-- The sum of two finite numbers is exact up to one rounding; an exact zero is positive unless
    both numbers are negative. -/
def add : Binary64 → Binary64 → Binary64
  | .nan, _ => .nan
  | _, .nan => .nan
  | .infinity s, .infinity t => if s = t then .infinity s else .nan
  | .infinity s, _ => .infinity s
  | _, .infinity t => .infinity t
  | .finite s m e, .finite t n f =>
    let g := min e f
    let sum := signed s m * Nat.pow 2 (e - g).toNat + signed t n * Nat.pow 2 (f - g).toNat
    if sum = 0 then zero (s && t) else ofScaled (sum < 0) sum.natAbs g

def sub (x y : Binary64) : Binary64 := add x (neg y)

def mul : Binary64 → Binary64 → Binary64
  | .nan, _ => .nan
  | _, .nan => .nan
  | .infinity s, .infinity t => .infinity (s != t)
  | .infinity s, .finite t n _ => if n = 0 then .nan else .infinity (s != t)
  | .finite s m _, .infinity t => if m = 0 then .nan else .infinity (s != t)
  | .finite s m e, .finite t n f => ofScaled (s != t) (m * n) (e + f)

/-- The quotient of two numbers, the second not zero. -/
def div : Binary64 → Binary64 → Binary64
  | .nan, _ => .nan
  | _, .nan => .nan
  | .infinity _, .infinity _ => .nan
  | .infinity s, .finite t _ _ => .infinity (s != t)
  | .finite s _ _, .infinity t => zero (s != t)
  | .finite s m e, .finite t n f =>
    ofQuotient (s != t) (m * Nat.pow 2 (e - f).toNat) (n * Nat.pow 2 (f - e).toNat)

/-- The nearest number to an integer, unless the integer is too large for the format. -/
def ofInt? (n : Int) : Option Binary64 :=
  match ofQuotient (n < 0) n.natAbs 1 with
  | .infinity _ => none
  | x => some x

/-- The nearest number to the quotient of two integers, the second not zero, unless it is too
    large for the format. -/
def divInt? (a b : Int) : Option Binary64 :=
  match ofQuotient ((a < 0) != (b < 0)) a.natAbs b.natAbs with
  | .infinity _ => none
  | x => some x

/-- How two numbers compare; nothing compares with no number. -/
def compare? : Binary64 → Binary64 → Option Ordering
  | .nan, _ => none
  | _, .nan => none
  | .infinity s, .infinity t =>
    some (if s = t then .eq else if s then .lt else .gt)
  | .infinity s, _ => some (if s then .lt else .gt)
  | _, .infinity t => some (if t then .gt else .lt)
  | .finite s m e, .finite t n f =>
    let g := min e f
    some (compare (signed s m * Nat.pow 2 (e - g).toNat) (signed t n * Nat.pow 2 (f - g).toNat))

/-- How a number compares with an integer, exactly. -/
def compareInt? (x : Binary64) (n : Int) : Option Ordering :=
  compare? x (.finite (n < 0) n.natAbs 0)

def le (x y : Binary64) : Bool := compare? x y == some .lt || compare? x y == some .eq

def eq (x y : Binary64) : Bool := compare? x y == some .eq

/-- The nearest integer to a finite number; a tie goes to the even one. -/
def round? : Binary64 → Option Int
  | .finite s m e => some (roundDivInt (signed s m * Nat.pow 2 e.toNat) (Nat.pow 2 (-e).toNat))
  | _ => none

/-- A finite number without what stands behind its point. -/
def truncate? : Binary64 → Option Int
  | .finite s m e => some (signed s (m * Nat.pow 2 e.toNat / Nat.pow 2 (-e).toNat))
  | _ => none

/-- The number `1`. -/
def one : Binary64 := .finite false (Nat.pow 2 52) (-52)

end FlipSat.Binary64
