import FlipSat.Fault

/-
  FlipSat: values as a store of numbers holds them: single numbers of a fixed format, and arrays of
  one shape whose members are all of one sort. What a value becomes here is what the store gives
  back of it.
-/
namespace FlipSat

/-- What a place of the store holds. Complex numbers, bytes and dates can be stored, but nothing that
    can be written comes back; of an abstract sort there are no values. -/
inductive StoredSort where
  | integer (signed : Bool) (bits : Nat)
  | real (format : Binary64.Format)
  | truth
  | text
  | any
  | span
  | date
  | unwritten
  | abstract

namespace StoredSort

/-- The sort with a name. -/
def ofName? (name : String) : Option StoredSort :=
  if ["int8", "byte"].contains name then some (.integer true 8)
  else if ["int16", "short"].contains name then some (.integer true 16)
  else if ["int32", "intc"].contains name then some (.integer true 32)
  else if ["int64", "int_", "intp", "long", "longlong"].contains name then some (.integer true 64)
  else if ["uint8", "ubyte"].contains name then some (.integer false 8)
  else if ["uint16", "ushort"].contains name then some (.integer false 16)
  else if ["uint32", "uintc"].contains name then some (.integer false 32)
  else if ["uint64", "uint", "uintp", "ulong", "ulonglong"].contains name then
    some (.integer false 64)
  else if ["float16", "half"].contains name then some (.real Binary64.half)
  else if ["float32", "single"].contains name then some (.real Binary64.single)
  else if ["float64", "double", "longdouble", "float128"].contains name then some (.real Binary64.double)
  else if ["bool_", "bool"].contains name then some .truth
  else if ["complex64", "csingle", "complex128", "cdouble", "clongdouble", "complex256"].contains
    name then some .unwritten
  else if name == "str_" then some .text
  else if name == "object_" then some .any
  else if name == "timedelta64" then some .span
  else if name == "datetime64" then some .date
  else if ["bytes_", "void"].contains name then some .unwritten
  else if ["generic", "number", "integer", "signedinteger", "unsignedinteger", "inexact", "floating",
    "complexfloating", "flexible", "character"].contains name then some .abstract
  else none

/-- The sort with a name, which has to be there. -/
def ofName (name : String) : Except Fault StoredSort :=
  match ofName? name with
  | some sort => .ok sort
  | none => .error (.noSuchSort name)

end StoredSort

/-- Does an integer fit into so many bits? -/
def fits (signed : Bool) (bits : Nat) (n : Int) : Bool :=
  if signed then -(Nat.pow 2 (bits - 1)) ≤ n && n < Nat.pow 2 (bits - 1)
  else 0 ≤ n && n < Nat.pow 2 bits

/-- The integer of so many bits that agrees with another in its last bits. -/
def wrapped (signed : Bool) (bits : Nat) (n : Int) : Int :=
  if signed then n.bmod (Nat.pow 2 bits) else n % Nat.pow 2 bits

/-- An integer that is no number of the caller's own, such as one read from a text, loses what does
    not fit, unless it does not even fit into a machine word. -/
def narrowed (signed : Bool) (bits : Nat) (n : Int) : Except Fault Value :=
  if fits true 64 n || (!signed && 32 ≤ bits && fits false 64 n) then
    .ok (.int (wrapped signed bits n))
  else .error (.tooLarge "int too large to convert")

/-- A single value as a stored integer. -/
def storeInteger (signed : Bool) (bits : Nat) (v : Value) : Except Fault Value :=
  match v with
  | .bool b => .ok (.int (if b then 1 else 0))
  | .int n => if fits signed bits n then .ok v else .error (.tooLarge "integer out of bounds")
  | .real x =>
    match x.truncate?, x.isNaN with
    | some n, _ => narrowed signed bits n
    | none, true => .error .badNumber
    | none, false => .error (.tooLarge "cannot convert float infinity to integer")
  | .text s =>
    match Text.readInt? s.toList with
    | some n => narrowed signed bits n
    | none => .error .badNumber
  | _ => .error (.mistyped "an integer is made of a number or a text")

/-- A single value as a stored real number; null is no number. -/
def storeReal (f : Binary64.Format) (v : Value) : Except Fault Value :=
  match v with
  | .null => .ok (.real .nan)
  | .text s =>
    match Binary64.read? s.toList with
    | some x => .ok (.real (x.narrow f))
    | none => .error .badNumber
  | v =>
    match v.number? with
    | some (.inr x) => .ok (.real (x.narrow f))
    | some (.inl n) =>
      match Binary64.ofInt? n with
      | some x => .ok (.real (x.narrow f))
      | none => .error (.tooLarge "int too large to convert to float")
    | none => .error (.mistyped "a real number is made of a number or a text")

/-- A single value as a stored span of time. Without a unit it is an integer. -/
def storeSpan (v : Value) : Except Fault Value :=
  match v with
  | .int _ | .bool _ => storeInteger true 64 v
  | .null => .ok .foreign
  | _ => .error .badNumber

/-- A single value as a stored date; a number needs a unit that it does not have. -/
def storeDate (v : Value) : Except Fault Value :=
  match v with
  | .text _ | .null => .ok .foreign
  | _ => .error .badNumber

/-- A single value, stored. -/
def StoredSort.storeSingle (sort : StoredSort) (v : Value) : Except Fault Value :=
  match sort with
  | .integer signed bits => storeInteger signed bits v
  | .real f => storeReal f v
  | .truth => .ok (.bool v.truth)
  | .text => .ok (.text v.display)
  | .any => .ok v
  | .span => storeSpan v
  | .date => storeDate v
  | .unwritten => .ok .foreign
  | .abstract => .error (.mistyped "there are no values of an abstract sort")

/-! ## Arrays -/

mutual

/-- The single values in nested lists. -/
def leaves : Value → List Value
  | .list items => leavesOfAll items
  | v => [v]

def leavesOfAll : List Value → List Value
  | [] => []
  | v :: vs => leaves v ++ leavesOfAll vs

end

mutual

/-- Changes every single value in nested lists, up to the first that cannot be changed. -/
def mapLeaves (f : Value → Except Fault Value) : Value → Except Fault Value
  | .list items => (mapAllLeaves f items).map .list
  | v => f v

def mapAllLeaves (f : Value → Except Fault Value) : List Value → Except Fault (List Value)
  | [] => .ok []
  | v :: vs => do
    let w ← mapLeaves f v
    let ws ← mapAllLeaves f vs
    pure (w :: ws)

end

/-- The shape that all values have, if it is one. -/
def sameShapes (shapes : List (Option (List Nat))) : Option (List Nat) :=
  match shapes with
  | [] => some []
  | shape :: rest => if rest.all (· == shape) then shape else none

mutual

/-- The lengths of nested lists, if they are all alike at every depth. -/
def shape? : Value → Option (List Nat)
  | .list items => (sameShapes (shapesOf items)).map (items.length :: ·)
  | _ => some []

def shapesOf : List Value → List (Option (List Nat))
  | [] => []
  | v :: vs => shape? v :: shapesOf vs

end

/-- Nested lists of one shape, with every single value changed. -/
def mapArray (f : Value → Except Fault Value) (v : Value) : Except Fault Value :=
  if (shape? v).isNone then .error .badNumber else mapLeaves f v

/-- A value or an array of values, stored. Only a text is made of a list as a whole. -/
def StoredSort.store (sort : StoredSort) (v : Value) : Except Fault Value :=
  match sort with
  | .text | .any | .span | .date | .abstract => sort.storeSingle v
  | sort => mapArray sort.storeSingle v

/-- What the members of an array are. -/
inductive MemberSort where
  | truth
  | signed
  | unsigned
  | real
  | text
  | any
deriving DecidableEq, Repr

namespace MemberSort

/-- The narrowest sort that holds a single value. -/
def ofValue : Value → MemberSort
  | .bool _ => .truth
  | .int n => if fits true 64 n then .signed else if fits false 64 n then .unsigned else .any
  | .real _ => .real
  | .text _ => .text
  | _ => .any

/-- The sort that holds what two sorts hold. No integers hold all signed and unsigned ones. -/
def join (s t : MemberSort) : MemberSort :=
  if s = t then s
  else match s, t with
    | .any, _ | _, .any => .any
    | .text, _ | _, .text => .text
    | .truth, t => t
    | s, .truth => s
    | _, _ => .real

/-- A text without zeros at its end, which a store cannot tell from what it is filled up with. -/
def withoutFill (s : String) : String :=
  String.ofList (s.toList.reverse.dropWhile (· == '\x00')).reverse

/-- A single value as a member of an array. -/
def put (s : MemberSort) (v : Value) : Except Fault Value :=
  match s with
  | .signed => storeInteger true 64 v
  | .unsigned => storeInteger false 64 v
  | .real => storeReal Binary64.double v
  | .text => .ok (.text (withoutFill v.display))
  | .truth | .any => .ok v

end MemberSort

/-- Nested lists as an array of the narrowest sort that holds all single values in them. -/
def arrayOf (v : Value) : Except Fault Value :=
  match (leaves v).map MemberSort.ofValue with
  | [] => mapArray .ok v
  | s :: ss => mapArray (ss.foldl MemberSort.join s).put v

end FlipSat
