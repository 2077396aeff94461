import FlipSat.Text.Base64
import FlipSat.Text.Lower
import FlipSat.Text.PathName
import FlipSat.Value.Basic
import FlipSat.Yaml.Node
import FlipSat.Yaml.Number

/-
  FlipSat: the values of YAML scalars with a given sort, and of those sorts that are written as a
  sequence of scalars.
-/
namespace FlipSat.Yaml

/-- Is the text in ASCII? -/
def isAscii (s : String) : Bool := s.toList.all fun c => c.toNat < 0x80

/-- The bytes that a scalar stands for. -/
def readBytes (s : String) : Except Raised Value :=
  if !isAscii s then .error .yaml
  else match Text.Base64.decode? s.toList with
    | some bs => .ok (.bytes bs)
    | none => .error .yaml

/-- The truth value that a scalar stands for. -/
def readTruth (s : String) : Except Raised Value :=
  match truthOf? (Text.lower s) with
  | some b => .ok (.bool b)
  | none => .error (.noSuchName (Text.lower s))

/-- Reads a date. Settings cannot hold it, but there has to be such a day. -/
def readDate (s : String) : Except Raised Value :=
  match dateForm? (withoutLastBreak s).toList with
  | some d => if d.exists? then .ok .foreign else .error .badDate
  | none => .error .noDate

/-- Is the value of a sort that is read from one scalar? -/
def Tag.isSingle : Tag → Bool
  | .null | .bool | .int | .real | .date | .text | .binary => true
  | _ => false

/-- The value of a scalar. -/
def scalarValue (tag : Tag) (text : String) : Except Raised Value :=
  match tag with
  | .null => .ok .null
  | .bool => readTruth text
  | .int => (readInt text.toList).map .int
  | .real => (readReal text.toList).map .real
  | .date => readDate text
  | .text => .ok (.text text)
  | .binary => readBytes text
  | _ => .error .yaml

/-- The path that some values make one after the other. -/
def pathOf (pieces : List Value) : Except Raised Value := do
  let names ← pieces.mapM fun v => match v with
    | .text s | .path s => .ok s
    | _ => .error (.mistyped "a piece of a path is a text")
  pure (.path (Text.PathName.join names))

/-- The key that a value makes; lists, tables and sets are no keys. -/
def keyOfValue : Value → Except Raised Key
  | .text s => .ok (.text s)
  | .int n => .ok (.int n)
  | .real x => .ok (.real x)
  | .bool b => .ok (.bool b)
  | .bytes bs => .ok (.bytes bs)
  | .null => .ok .null
  | .list _ | .table _ => .error .yaml
  | _ => .ok .foreign

namespace Node

mutual

/-- The text of a node that has to be single: that of a scalar, or of what the first default entry
    of a mapping holds. -/
def singleText? : Node → Option String
  | .scalar _ s => some s
  | .mapping _ entries => defaultText? entries
  | .reference _ node => node.singleText?
  | _ => none

def defaultText? : List (Node × Node) → Option String
  | [] => none
  | (key, node) :: es => if key.isDefault then node.singleText? else defaultText? es

end

end Node

end FlipSat.Yaml
