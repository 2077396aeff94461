import FlipSat.Document.Fault
import FlipSat.Text.Blank

/-
  FlipSat: references between the values of a document. A text of the form `${section.key}` stands
  for the value at another key; it is looked up whenever the text is read. References inside longer
  texts, relative ones, and those that call a function are not available.
-/
namespace FlipSat

/-- What a text in a document says. -/
inductive Reference where
  | plain
  | toKey (parts : List String)
  | malformed
  | unavailable
deriving DecidableEq, Repr

namespace Reference

/-- What follows the first opening of a reference in a text. -/
def opened? : List Char → Option (List Char)
  | '$' :: '\x7b' :: s => some s
  | _ :: s => opened? s
  | [] => none

/-- The characters that no part of a referenced key holds. -/
def isReserved (c : Char) : Bool :=
  c == '\\' || c == '\x7b' || c == '\x7d' || c == '(' || c == ')' || c == '[' || c == ']' ||
    c == ':' || c == ' ' || c == '\t' || c == '\x27' || c == '\x22'

/-- A character that may stand around the key in a reference. -/
def isPadding (c : Char) : Bool := c == ' ' || c == '\t'

/-- The parts of a dotted key between the braces of a reference; spaces and tabs around the key do
    not count. -/
def keyParts? (body : List Char) : Option (List String) :=
  let key := ((body.dropWhile isPadding).reverse.dropWhile isPadding).reverse
  let parts := Text.splitOn '.' key
  if parts.all fun part => !part.isEmpty && !part.any isReserved then
    some (parts.map String.ofList)
  else none

/-- The text that marks a value as missing. -/
def missingMark : String := "???"

/-- Reads a text. A reference that is opened has to name something and to be closed. -/
def ofText (s : String) : Reference :=
  let cs := s.toList
  match opened? cs with
  | none => if s == missingMark then .unavailable else .plain
  | some rest =>
    if !rest.contains '\x7d' then .malformed
    else match cs with
      | '$' :: '\x7b' :: body =>
        match body.getLast?, keyParts? body.dropLast with
        | some '\x7d', some parts => .toKey parts
        | _, _ => if body.dropLast.all isPadding then .malformed else .unavailable
      | _ => .unavailable

end Reference

/-- The text that a dotted name has to be to find an entry. Only texts and integers are found. -/
def Key.name? : Key → Option String
  | .text s => some s
  | .int n => some (Text.showInt n)
  | _ => none

/-- Would an entry with a key be mixed up with an entry of a table? A number and its digits are
    different keys, but they are found by one name. -/
def Entries.clashes (es : Entries) (k : Key) : Bool :=
  k.name?.isSome && (es.any fun e => e.1.name? == k.name? && !e.1.same k)

mutual

/-- Why a value cannot be kept in a document, if it cannot: dates and the like have no place there,
    keys are texts, numbers, bytes or truth values that are not mixed up, and every reference is
    closed. -/
def Value.shapeFault? : Value → Option Raised
  | .text s =>
    match Reference.ofText s with
    | .malformed => some .malformedReference
    | .unavailable => some (.unavailable "a reference of this sort")
    | .plain | .toKey _ => none
  | .list items | .tuple items => shapeFaultOfItems? items
  | .table entries => shapeFaultOfEntries? entries
  | .foreign => some .foreignValue
  | _ => none

def shapeFaultOfItems? : List Value → Option Raised
  | [] => none
  | v :: vs => v.shapeFault?.or (shapeFaultOfItems? vs)

def shapeFaultOfEntries? : List (Key × Value) → Option Raised
  | [] => none
  | (k, v) :: es =>
    if k == .null || k == .foreign then some .badKey
    else if Entries.clashes es k then some .clashingKeys
    else v.shapeFault?.or (shapeFaultOfEntries? es)

end

end FlipSat
