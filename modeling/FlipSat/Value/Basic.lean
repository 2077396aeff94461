import FlipSat.Binary64.Decimal
import FlipSat.Text.Quoted

/-
  FlipSat: the values that settings, results and traces are made of.
  A value is a scalar, a list, or a table whose entries keep their order of arrival.
-/
namespace FlipSat

/-- What an entry of a table is found by. `foreign` is a key of a sort that has no other use here,
    such as a date. -/
inductive Key where
  | null
  | text (s : String)
  | int (n : Int)
  | real (x : Binary64)
  | bool (b : Bool)
  | bytes (bs : List UInt8)
  | foreign
deriving DecidableEq, Repr, Inhabited

/-- A dynamic value. A tuple is a list that never changes; `foreign` is a value of a sort that
    settings cannot hold, such as a date. -/
inductive Value where
  | null
  | bool (b : Bool)
  | int (n : Int)
  | real (x : Binary64)
  | text (s : String)
  | bytes (bs : List UInt8)
  | path (s : String)
  | list (items : List Value)
  | tuple (items : List Value)
  | table (entries : List (Key × Value))
  | foreign
deriving Repr, Inhabited

/-- The entries of a table in their order. -/
abbrev Entries := List (Key × Value)

namespace Key

/-- A key as a number, if it is one: truth values count as `0` and `1`. -/
def number? : Key → Option (Int ⊕ Binary64)
  | .null | .text _ | .bytes _ | .foreign => none
  | .int n => some (.inl n)
  | .bool b => some (.inl (if b then 1 else 0))
  | .real x => some (.inr x)

end Key

/-- Are two numbers equal as numbers? -/
def sameNumber : Int ⊕ Binary64 → Int ⊕ Binary64 → Bool
  | .inl m, .inl n => m == n
  | .inl m, .inr x => x.compareInt? m == some .eq
  | .inr x, .inl n => x.compareInt? n == some .eq
  | .inr x, .inr y => x.eq y

/-- Do two keys find the same setting? Texts by their characters, bytes and null as they are, and all
    else by its number. -/
def Key.same (k l : Key) : Bool :=
  match k, l with
  | .text s, .text t => s == t
  | .bytes bs, .bytes cs => bs == cs
  | .null, .null => true
  | k, l =>
    match k.number?, l.number? with
    | some m, some n => sameNumber m n
    | _, _ => false

namespace Entries

/-- The value of the entry with this key. -/
def get? (es : Entries) (k : Key) : Option Value :=
  (List.find? (fun e => e.1.same k) es).map (·.2)

/-- The table with the entry's value replaced, or with a new entry at the end. -/
def put (es : Entries) (k : Key) (v : Value) : Entries :=
  match es with
  | [] => [(k, v)]
  | e :: es => if e.1.same k then (e.1, v) :: es else e :: put es k v

/-- The table that a list of pairs stands for: of two pairs with one key the later value counts,
    at the earlier place. -/
def ofPairs (pairs : List (Key × Value)) : Entries :=
  pairs.foldl (fun es e => put es e.1 e.2) []

end Entries

namespace Value

/-- The integer, if the value is one; a truth value is not. -/
def toInt? : Value → Option Int
  | .int n => some n
  | _ => none

def isNull : Value → Bool
  | .null => true
  | _ => false

/-- Is the value a table, a list or a tuple? -/
def isContainer : Value → Bool
  | .table _ | .list _ | .tuple _ => true
  | _ => false

/-- What counts as true: all but null, false, zero and what is empty. -/
def truth : Value → Bool
  | .null => false
  | .bool b => b
  | .int n => n != 0
  | .real x => !x.isZero
  | .text s => s != ""
  | .bytes bs => !bs.isEmpty
  | .path _ => true
  | .list items | .tuple items => !items.isEmpty
  | .table entries => !entries.isEmpty
  | .foreign => true

/-- The value as a number, if it is one: truth values count as `0` and `1`. -/
def number? : Value → Option (Int ⊕ Binary64)
  | .int n => some (.inl n)
  | .bool b => some (.inl (if b then 1 else 0))
  | .real x => some (.inr x)
  | _ => none

end Value

/-- How bytes are written: as the characters with their numbers. -/
def bytesLiteral (bs : List UInt8) : String :=
  "b" ++ Text.quotedAscii (String.ofList (bs.map fun b => Char.ofNat b.toNat))

/-- How a key is written inside a table. -/
def Key.literal : Key → String
  | .null => "None"
  | .text s => Text.quoted s
  | .bytes bs => bytesLiteral bs
  | .int n => Text.showInt n
  | .real x => x.toText
  | .bool b => if b then "True" else "False"
  | .foreign => "?"

namespace Value

mutual

/-- How a value is written where its sort has to show: texts stand between quotes. -/
def literal : Value → String
  | .null => "None"
  | .bool b => if b then "True" else "False"
  | .int n => Text.showInt n
  | .real x => x.toText
  | .text s => Text.quoted s
  | .bytes bs => bytesLiteral bs
  | .path s => "PosixPath(" ++ Text.quoted s ++ ")"
  | .list items => "[" ++ ", ".intercalate (literals items) ++ "]"
  | .tuple items =>
    "(" ++ ", ".intercalate (literals items) ++ (if items.length == 1 then "," else "") ++ ")"
  | .table entries => "\x7b" ++ ", ".intercalate (entryLiterals entries) ++ "\x7d"
  | .foreign => "?"

def literals : List Value → List String
  | [] => []
  | v :: vs => v.literal :: literals vs

def entryLiterals : List (Key × Value) → List String
  | [] => []
  | (k, v) :: es => (k.literal ++ ": " ++ v.literal) :: entryLiterals es

end

mutual

/-- Can the value be written? Integers of more digits than are read are not written either. -/
def isWritable : Value → Bool
  | .int n => n.natAbs < Nat.pow 10 Text.maxDigits
  | .list items | .tuple items => areWritable items
  | .table entries => entriesAreWritable entries
  | _ => true

def areWritable : List Value → Bool
  | [] => true
  | v :: vs => v.isWritable && areWritable vs

def entriesAreWritable : List (Key × Value) → Bool
  | [] => true
  | (k, v) :: es =>
    (match k with
    | .int n => n.natAbs < Nat.pow 10 Text.maxDigits
    | _ => true) && v.isWritable && entriesAreWritable es

end

/-- How a value is written on its own: a text as it is. -/
def display : Value → String
  | .text s | .path s => s
  | v => v.literal

mutual

/-- Are two values equal? Numbers are compared as numbers, lists in order, and tables by their
    keys whatever the order. No number equals nothing, itself included. -/
def same : Value → Value → Bool
  | .null, .null => true
  | .text s, .text t => s == t
  | .bytes bs, .bytes cs => bs == cs
  | .path s, .path t => s == t
  | .list xs, .list ys | .tuple xs, .tuple ys => sameItems xs ys
  | .table es, .table fs => es.length == fs.length && sameEntries es fs
  | v, w =>
    match v.number?, w.number? with
    | some m, some n => sameNumber m n
    | _, _ => false

def sameItems : List Value → List Value → Bool
  | [], [] => true
  | v :: vs, w :: ws => v.same w && sameItems vs ws
  | _, _ => false

/-- Has every entry of the first table an equal one in the second? -/
def sameEntries : List (Key × Value) → List (Key × Value) → Bool
  | [], _ => true
  | (k, v) :: es, fs =>
    (match Entries.get? fs k with
    | some w => v.same w
    | none => false) && sameEntries es fs

end

end Value

end FlipSat
