import FlipSat.Yaml.Merge
import FlipSat.Yaml.Scalar

/-
  FlipSat: the value that a YAML text stands for. Values are made depth by depth: of several faults,
  the one that lies least deep shows, and of those at one depth the first.
-/
namespace FlipSat.Yaml

/-- Something made of a document, or a fault with the depth at which it lies. -/
abbrev Levelled (α : Type) := Except (Nat × Raised) α

namespace Levelled

variable {α β : Type}

/-- Something whose faults lie at some depth. -/
def atDepth (depth : Nat) (x : Except Raised α) : Levelled α := x.mapError (depth, ·)

/-- Two things, or the fault that shows. -/
def both (x : Levelled α) (y : Levelled β) : Levelled (α × β) :=
  match x, y with
  | .ok a, .ok b => .ok (a, b)
  | .error e, .ok _ => .error e
  | .ok _, .error e => .error e
  | .error e, .error f => .error (if f.1 < e.1 then f else e)

/-- All things of a list, or the fault that shows. -/
def all : List (Levelled α) → Levelled (List α)
  | [] => .ok []
  | x :: xs => (both x (all xs)).map fun (a, as) => a :: as

end Levelled

/-- Deeper than anything in a document: a value that contains itself is found out at last. -/
def endlessDepth : Nat := Nat.pow 2 64

/-- The fault of a node that contains itself. -/
def endless : Nat × Raised := (endlessDepth, .endless)

/-- Is the node one whose parts are made after it, so that it cannot be a key? -/
def isCollection (node : Node) : Bool :=
  match node.target with
  | .scalar tag _ | .sequence tag _ | .mapping tag _ => match tag with
    | .sequence | .mapping | .set | .orderedMap | .pairs => true
    | _ => false
  | _ => true

/-- Is the node a text that is not written as a scalar? -/
def isTextInParts (node : Node) : Bool :=
  match node.target with
  | .sequence tag _ | .mapping tag _ => tag == .text
  | _ => false

/-- An entry of a mapping once merging is done: what it is called, and what it holds. -/
structure Drawn where
  name : Option String
  entry : Levelled (Key × Value)

/-- The entries of a mapping that names some texts itself: those taken over, then its own. -/
def mergeDrawn (d : Dialect) (texts : List String) (taken own : List Drawn) : List Drawn :=
  taken.filter (fun e => isTaken d texts e.name) ++ own

mutual

/-- The value of a node at some depth. What a collection holds lies one deeper. -/
def Node.value (d : Dialect) (depth : Nat) : Node → Levelled Value
  | .reference _ node => node.value d depth
  | .cycle => .error endless
  | .scalar tag text =>
    if isCollection (.scalar tag text) then .error (depth + 1, .yaml)
    else .atDepth depth (scalarValue tag text)
  | .sequence tag items =>
    match tag with
    | .sequence => (Levelled.all (valuesOf d (depth + 1) items)).map .list
    | .orderedMap | .pairs => (Levelled.all (pairsOf d (depth + 1) items)).map .list
    | .mapping | .set => .error (depth + 1, .yaml)
    | .path | .otherPath =>
      if !d.paths then .error (depth, .yaml)
      else do
        let path ← .atDepth depth (pathOf (← Levelled.all (valuesOf d depth items)))
        if tag == .path then pure path
        else .atDepth depth (.error (.unavailable "paths of this sort are of another system"))
    | _ => .error (depth, .yaml)
  | .mapping tag entries =>
    match tag with
    | .mapping | .set =>
      if !d.repeatedKeys && entries.any (fun (key, _) => isTextInParts key) then
        .error (depth + 1, .mistyped "a key that is a text is a scalar")
      else if !mergesWell d entries then .error (depth + 1, .yaml)
      else
        let (taken, own) := entriesOf d (depth + 1) entries
        let drawn := mergeDrawn d (ownTexts entries) taken own
        (Levelled.all (drawn.map (·.entry))).map fun es =>
          if tag == .set then .foreign else .table (Entries.ofPairs es)
    | .sequence | .orderedMap | .pairs => .error (depth + 1, .yaml)
    | tag =>
      match Node.defaultText? entries with
      | none => .error (depth, .yaml)
      | some s =>
        .atDepth depth (if tag == .date then .error (.mistyped "a date is a scalar")
          else scalarValue tag s)

def valuesOf (d : Dialect) (depth : Nat) : List Node → List (Levelled Value)
  | [] => []
  | node :: nodes => node.value d depth :: valuesOf d depth nodes

/-- Items that are mappings of one entry each, as pairs of key and value. -/
def pairsOf (d : Dialect) (depth : Nat) : List Node → List (Levelled Value)
  | [] => []
  | node :: nodes => pairOf d depth node :: pairsOf d depth nodes

def pairOf (d : Dialect) (depth : Nat) : Node → Levelled Value
  | .reference _ node => pairOf d depth node
  | .mapping _ [(key, node)] =>
    (Levelled.both (key.value d depth) (node.value d depth)).map fun (k, v) => .tuple [k, v]
  | _ => .error (depth, .yaml)

/-- The entries that a mapping takes over from others, and its own. -/
def entriesOf (d : Dialect) (depth : Nat) : List (Node × Node) → List Drawn × List Drawn
  | [] => ([], [])
  | (key, node) :: es =>
    let (taken, own) := entriesOf d depth es
    if key.isMerge then (takenFrom d depth node ++ taken, own)
    else
      let k : Levelled Key :=
        if isCollection key then .error (depth, .yaml)
        else if key.isDefault then .ok (.text (key.name?.getD ""))
        else (key.value d depth).bind fun v => Levelled.atDepth depth (keyOfValue v)
      (taken, ⟨key.name?, Levelled.both k (node.value d depth)⟩ :: own)

/-- The entries that a mapping takes over from a mapping, or from several of which the first
    counts most. -/
def takenFrom (d : Dialect) (depth : Nat) : Node → List Drawn
  | .reference _ node => takenFrom d depth node
  | .mapping _ entries =>
    let (taken, own) := entriesOf d depth entries
    mergeDrawn d (ownTexts entries) taken own
  | .sequence _ nodes => takenFromAll d depth nodes
  | .cycle => [⟨none, .error endless⟩]
  | .scalar _ _ => []

def takenFromAll (d : Dialect) (depth : Nat) : List Node → List Drawn
  | [] => []
  | node :: nodes => takenFromAll d depth nodes ++ takenFrom d depth node

end

/-- Reads the value of a text; a text without a document stands for null. -/
def read (d : Dialect) (text : String) : Except Raised Value := do
  match ← Node.ofText d text.toList with
  | none => pure .null
  | some node => (node.value d 0).mapError (·.2)

end FlipSat.Yaml
