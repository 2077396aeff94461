import FlipSat.Document.Place

/-
  FlipSat: changing a value in place: merging tables into it, and opening the way to a dotted key.
-/
namespace FlipSat

/-- A reference that leads to a table or a list is replaced by a copy of what it leads to. -/
def Value.copyReferenced (root : Value) (place : Place) : Value :=
  match root.at? place, root.look place with
  | some (.text _), .ok target =>
    match root.at? target with
    | some v => if v.isContainer then root.putAt place v else root
    | none => root
  | _, _ => root

/-- Does a key that is new to the table at a place clash with one of its keys? -/
def Value.clashesAt (root : Value) (place : Place) (k : Key) : Bool :=
  match root.at? place with
  | some (.table es) => (Entries.get? es k).isNone && Entries.clashes es k
  | _ => false

mutual

/-- Merges a value into what stands at a place. Tables are merged entry by entry; a list replaces
    a list; a single value replaces anything, and anything replaces a single value. `clash` is
    the fault of merging a table and a list. -/
def mergeAt (clash : Raised) (root : Value) (place : Place) (v : Value) :
    Except Raised Value :=
  let root := root.copyReferenced place
  match v with
  | .table es =>
    match root.at? place with
    | some (.table _) => mergeEntries clash root place es
    | some (.list _) | some (.tuple _) => .error clash
    | _ => .ok (root.putAt place (.table es))
  | v =>
    match v.items?, root.at? place with
    | some _, some (.table _) => .error clash
    | _, _ => .ok (root.putAt place v)

/-- Merges entries in order into the table at a place; new entries go to its end. -/
def mergeEntries (clash : Raised) (root : Value) (place : Place) :
    List (Key × Value) → Except Raised Value
  | [] => .ok root
  | (k, v) :: es => do
    if root.clashesAt place k then throw .clashingKeys
    let root ← mergeAt clash root (place ++ [.entry k]) v
    mergeEntries clash root place es

end

/-- The table or list that a way leads into at a place, through a reference if one stands there. If
    there is neither, an empty table is put there. -/
def Value.enter (root : Value) (place : Place) : Value × Place :=
  match root.look place with
  | .ok target =>
    if ((root.at? target).map (·.isContainer)).getD false then (root, target)
    else (root.putAt place (.table []), place)
  | .error _ => (root.putAt place (.table []), place)

/-- The step from a place that a part of a key stands for. An index has to be in the list, and what
    is no index is a fault of its own. -/
def Value.stepFrom (root : Value) (place : Place) (name : String) (noIndex : Raised) :
    Except Raised Step :=
  match root.at? place with
  | some (.table es) => .ok (.entry (Entries.keyOf es name))
  | some v =>
    match v.items?, Text.readInt? name.toList with
    | none, _ => .ok (.entry (.text name))
    | some _, none => .error noIndex
    | some items, some i =>
      match listPlace? items.length i with
      | some n => .ok (.item n)
      | none => .error .noSuchIndex
  | none => .ok (.entry (.text name))

/-- Is there a tuple at a place? -/
def Value.isTupleAt (root : Value) (place : Place) : Bool :=
  match root.at? place with
  | some (.tuple _) => true
  | _ => false

/-- Walks along names from a place and puts an empty table wherever the way does not lead on
    through a table or a list. -/
def openWay (root : Value) (place : Place) :
    List String → Except Raised (Value × Place)
  | [] => .ok (root, place)
  | name :: names => do
    let s ← root.stepFrom place name (.mistyped "a list is indexed by integers")
    let child := place ++ [s]
    let (opened, next) := root.enter child
    if root.isTupleAt place && next == child && (root.at? child).all (!·.isContainer) then
      throw .fixedTuple
    openWay opened next names

/-- Puts a value at a dotted key. A table or a list is merged into a table or a list that stands
    there; anything else takes its place. -/
def Value.setKey (root : Value) (key : String) (v : Value) : Except Raised Value := do
  let parts := dottedParts key
  let (root, place) ← openWay root [] parts.dropLast
  let step ← root.stepFrom place (parts.getLast?.getD "") .badNumber
  let target := place ++ [step]
  if let some why := v.shapeFault? then throw why
  if root.isTupleAt place || root.isTupleAt target then throw .fixedTuple
  match v, root.at? target with
  | .table es, some (.table _) => mergeEntries .otherShape root target es
  | .table _, some (.list _) => throw .otherShape
  | v, some (.table _) =>
    if v.items?.isSome then throw .otherShape else pure (root.putAt target v)
  | v, _ => pure (root.putAt target v)

end FlipSat
