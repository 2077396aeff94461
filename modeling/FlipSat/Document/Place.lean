import FlipSat.Document.Reference
import FlipSat.Pieces
import FlipSat.Text.Numeral

/-
  FlipSat: places inside a value, and what references in it lead to.
  A place is a list of steps from the root. Reading walks along the names of a dotted key and looks
  through every reference that it meets, so it can pass the same place twice, but a reference that
  leads back to itself is found out.
-/
namespace FlipSat

/-- One step into a value: to an entry of a table or to an item of a list. -/
inductive Step where
  | entry (k : Key)
  | item (i : Nat)
deriving DecidableEq, Repr

/-- The steps from the root to a value. -/
abbrev Place := List Step

/-- The value one step further. -/
def Value.child? (v : Value) (s : Step) : Option Value :=
  match v, s with
  | .table es, .entry k => Entries.get? es k
  | .list items, .item i | .tuple items, .item i => items[i]?
  | _, _ => none

/-- The value at a place. -/
def Value.at? (v : Value) : Place → Option Value
  | [] => some v
  | s :: place => (v.child? s).bind (·.at? place)

/-- The value with another one put at a place; a table that lacks the entry gets it, nothing else
    is made. -/
def Value.putAt (v : Value) (place : Place) (w : Value) : Value :=
  match place with
  | [] => w
  | s :: place =>
    match v, s with
    | .table es, .entry k =>
      .table (Entries.put es k (((Entries.get? es k).getD .null).putAt place w))
    | .list items, .item i => .list (items.modify i (·.putAt place w))
    | .tuple items, .item i => .tuple (items.modify i (·.putAt place w))
    | _, _ => v

/-- The items of a list or a tuple. -/
def Value.items? : Value → Option (List Value)
  | .list items | .tuple items => some items
  | _ => none

/-- The parts of a dotted key. -/
def dottedParts (key : String) : List String :=
  (Text.splitOn '.' key.toList).map String.ofList

/-- The key of the entry that a name finds: an integer by its digits, all else as a text. -/
def Entries.keyOf (es : Entries) (name : String) : Key :=
  match es.find? fun e => e.1.name? == some name with
  | some e => e.1
  | none => .text name

/-- The step that a name stands for at a value. -/
def stepTo (v : Value) (name : String) : Except ReferenceFault Step :=
  match v with
  | .table es => .ok (.entry (Entries.keyOf es name))
  | v =>
    match v.items?, Text.readInt? name.toList with
    | some items, some i =>
      match listPlace? items.length i with
      | some n => .ok (.item n)
      | none => .error .missing
    | _, _ => .error .unresolvable

/-- Walks from a place along names; `look` leads from a place to the one that it refers to. -/
def walk (root : Value) (look : Place → Except ReferenceFault Place) (place : Place) :
    List String → Except ReferenceFault Place
  | [] => .ok place
  | name :: names =>
    match root.at? place with
    | none => .error .missing
    | some v =>
      match stepTo v name with
      | .error e => .error e
      | .ok s =>
        if (v.child? s).isNone then .error .missing
        else match look (place ++ [s]) with
          | .error e => .error e
          | .ok next => walk root look next names

/-- The place that a place stands for: itself, unless a reference stands there. A reference may not
    lead to what contains it; `fuel` bounds the number of references on the way. -/
def lookThrough (root : Value) : Nat → Place → Except ReferenceFault Place
  | 0, _ => .error .unresolvable
  | fuel + 1, place =>
    match root.at? place with
    | some (.text s) =>
      match Reference.ofText s with
      | .toKey parts =>
        match walk root (lookThrough root fuel) [] parts with
        | .error .missing => .error .dangling
        | .error e => .error e
        | .ok target =>
          if target.isPrefixOf place.dropLast then .error .unresolvable else .ok target
      | _ => .ok place
    | _ => .ok place

mutual

/-- How many references a value holds. -/
def Value.referenceCount : Value → Nat
  | .text s => match Reference.ofText s with
    | .toKey _ => 1
    | _ => 0
  | .list items | .tuple items => referenceCountOfItems items
  | .table entries => referenceCountOfEntries entries
  | _ => 0

def referenceCountOfItems : List Value → Nat
  | [] => 0
  | v :: vs => v.referenceCount + referenceCountOfItems vs

def referenceCountOfEntries : List (Key × Value) → Nat
  | [] => 0
  | (_, v) :: es => v.referenceCount + referenceCountOfEntries es

end

/-- The place that a place stands for. A way through more references than there are leads through
    one of them twice, so this many are enough. -/
def Value.look (root : Value) (place : Place) : Except ReferenceFault Place :=
  lookThrough root (root.referenceCount + 1) place

/-- The place that the parts of a key lead to. -/
def Value.find (root : Value) (parts : List String) : Except ReferenceFault Place :=
  walk root root.look [] parts

mutual

/-- A value with every reference in it replaced by what it stands for; `jump` gives the values of
    other places. -/
def resolveWith (root : Value) (jump : Place → Except ReferenceFault Value) (place : Place) :
    Value → Except ReferenceFault Value
  | .text s =>
    match Reference.ofText s with
    | .toKey _ =>
      match root.look place with
      | .error e => .error e
      | .ok target => jump target
    | _ => .ok (.text s)
  | .list items => (resolveItems root jump place 0 items).map .list
  | .tuple items => (resolveItems root jump place 0 items).map .tuple
  | .table entries => (resolveEntries root jump place entries).map .table
  | v => .ok v

def resolveItems (root : Value) (jump : Place → Except ReferenceFault Value) (place : Place)
    (i : Nat) : List Value → Except ReferenceFault (List Value)
  | [] => .ok []
  | v :: vs => do
    let v ← resolveWith root jump (place ++ [.item i]) v
    let vs ← resolveItems root jump place (i + 1) vs
    pure (v :: vs)

def resolveEntries (root : Value) (jump : Place → Except ReferenceFault Value) (place : Place) :
    List (Key × Value) → Except ReferenceFault (List (Key × Value))
  | [] => .ok []
  | (k, v) :: es => do
    let v ← resolveWith root jump (place ++ [.entry k]) v
    let es ← resolveEntries root jump place es
    pure ((k, v) :: es)

end

/-- The value of a place with all references in it replaced, through at most `fuel` references one
    inside the other. -/
def resolveAt (root : Value) : Nat → Place → Except ReferenceFault Value
  | 0, _ => .error .endless
  | fuel + 1, place =>
    resolveWith root (resolveAt root fuel) place ((root.at? place).getD .null)

/-- The value of a place with all references in it replaced. -/
def Value.resolved (root : Value) (place : Place) : Except ReferenceFault Value :=
  resolveAt root (root.referenceCount + 1) place

end FlipSat
