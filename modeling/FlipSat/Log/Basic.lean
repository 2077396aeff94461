import FlipSat.Fault
import FlipSat.Log.Format

/-
  FlipSat: where log messages go. Messages below a level are dropped; the others become lines on
  the error stream, or at the end of a file.
-/
namespace FlipSat

/-- A log: the least level that it takes, the form of its lines, and its file if it has one. -/
structure Log where
  level : Int
  format : LogFormat
  file : Option String
deriving Repr

namespace Log

/-- The level that a value stands for: a name, or an integer. Null stands for that of warnings. -/
def levelOf (v : Value) : Except Fault Int :=
  match v with
  | .text name =>
    match Level.ofName? name with
    | some n => .ok n
    | none => .error (.unknownLevel (Text.upper name))
  | .null => .ok Level.warning
  | .int n => .ok n
  | .bool b => .ok (if b then 1 else 0)
  | _ => .error (.mistyped "a level is a name or an integer")

/-- The form of lines that a value stands for. What is false stands for the message alone. -/
def formatOf (v : Value) : Except Fault LogFormat :=
  if !v.truth then .ok (.ofText "")
  else match v with
    | .text s => if LogFormat.namesField s.toList then .ok (.ofText s) else .error .badLogFormat
    | _ => .error (.mistyped "the form of a line is a text")

/-- The file that a value stands for, made if it is not there. What is false stands for none. -/
def openFile (tree : FileTree) (v : Value) : Except Fault (Option String × FileTree) :=
  if !v.truth then .ok (none, tree)
  else match v with
    | .text path | .path path =>
      let path := FileTree.direct path
      match tree.append path "" with
      | .ok tree => .ok (some path, tree)
      | .error e => .error (.file e)
    | _ => .error (.mistyped "the path of a file is a text")

/-- Sets up a log. The file is made before the form and the level are looked at. -/
def configure (tree : FileTree) (level format file : Value) : FileTree × Except Fault Log :=
  match openFile tree file with
  | .error e => (tree, .error e)
  | .ok (path, tree) =>
    (tree, do
      let format ← formatOf format
      let level ← levelOf level
      pure ⟨level, format, path⟩)

/-- Does the log take messages of a level? Levels of zero and below are never taken. -/
def takes (l : Log) (level : Int) : Bool := decide (0 < level) && decide (l.level ≤ level)

/-- The lines of the messages that a log takes. -/
def lines (l : Log) (records : List LogRecord) : String :=
  String.join (((records.filter fun r => l.takes r.level).filterMap l.format.line?).map (· ++ "\n"))

/-- Writes messages: the result is the text for the error stream. -/
def write (l : Log) (tree : FileTree) (records : List LogRecord) : String × FileTree :=
  match l.file with
  | none => (l.lines records, tree)
  | some path => ("", (tree.append path (l.lines records)).toOption.getD tree)

end Log

end FlipSat
