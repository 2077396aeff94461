import FlipSat.Json.Printer
import FlipSat.Trace.Csv
import FlipSat.Trace.Record

/-
  FlipSat: the trace of a run in a directory: a file for each sort of record, and at the end a file
  about the run. A file that is opened again starts afresh, and so does its count.
-/
namespace FlipSat

/-- The two forms of a trace. -/
inductive TraceFormat where
  | json
  | csv
deriving DecidableEq, Repr

/-- The form with a name. -/
def TraceFormat.ofName (name : String) : Except Fault TraceFormat :=
  match name with
  | "json" => .ok .json
  | "csv" => .ok .csv
  | name => .error (.traceFormat name)

/-- Why a record has no text in a form, if it has none: JSON has no form for values of some sorts,
    and integers can be too long. -/
def TraceFormat.fault? (format : TraceFormat) (fields : List TraceField) : Option Fault :=
  fields.findSome? fun f =>
    if format = .json ∧ Json.holdsForeign f.value then some Json.noForm
    else if f.value.isWritable then none
    else some .tooManyDigits

/-- A trace: where it goes, when it was begun, which of its files are open, and what was written. -/
structure Trace where
  directory : String
  run : String
  format : TraceFormat
  begun : String
  opened : List String := []
  counts : List (String × Nat) := []
  paths : List (String × String) := []

namespace Trace

/-- The list with the value of a name replaced, or with a new entry at its end. -/
def putEntry {α : Type} (es : List (String × α)) (name : String) (a : α) : List (String × α) :=
  match es with
  | [] => [(name, a)]
  | e :: es => if e.1 == name then (name, a) :: es else e :: putEntry es name a

/-- A trace in a directory, which is made if it is not there; `now` is the time on the wall. -/
def create (tree : FileTree) (directory run format now : String) :
    Except Fault (Trace × FileTree) := do
  let format ← TraceFormat.ofName format
  let tree ← (tree.makeDirectories directory).mapError .file
  pure ({ directory := directory, run := run, format := format, begun := now }, tree)

/-- The file of a sort of records. -/
def pathOf (t : Trace) (event : String) : String :=
  let ending := match t.format with
    | .json => ".jsonl"
    | .csv => ".csv"
  FileTree.join t.directory (t.run ++ "_" ++ event ++ ending)

/-- What stands in a new file in front of its records: in rows, the names of their fields. -/
def headText (t : Trace) (names : List String) : String :=
  match t.format with
  | .json => ""
  | .csv => Csv.row (names.map fun n => Csv.field n.toList)

/-- The text of a record. -/
def textOf (t : Trace) (fields : List TraceField) : String :=
  match t.format with
  | .json => Json.compact (.table (fields.map fun f => (.text f.name, f.value))) ++ "\n"
  | .csv => Csv.row (fields.map fun f => Csv.field (Csv.fieldText f.value).toList)

/-- Opens the file of a sort of records, unless it is open. Was it opened now? -/
def openFile (t : Trace) (tree : FileTree) (event : String) :
    Trace × FileTree × Except Fault Bool :=
  if t.opened.contains event then (t, tree, .ok false)
  else
    let path := t.pathOf event
    let t := { t with paths := putEntry t.paths event path }
    match tree.write path .empty with
    | .error e => (t, tree, .error (.file e))
    | .ok tree =>
      ({ t with opened := event :: t.opened, counts := putEntry t.counts event 0 }, tree, .ok true)

/-- Adds a record to the open file of its sort; a file that was opened for it has the names of its
    fields first. -/
def addRecord (t : Trace) (tree : FileTree) (event : String) (fields : List TraceField)
    (isNew : Bool) : Trace × FileTree × Option Fault :=
  let path := t.pathOf event
  match tree.append path (if isNew then t.headText (fields.map (·.name)) else "") with
  | .error e => (t, tree, some (.file e))
  | .ok tree =>
    match t.format.fault? fields with
    | some e => (t, tree, some e)
    | none =>
      match tree.append path (t.textOf fields) with
      | .error e => (t, tree, some (.file e))
      | .ok tree =>
        let n := (t.counts.lookup event).getD 0
        ({ t with counts := putEntry t.counts event (n + 1) }, tree, none)

/-- Writes a record to the file of its sort; `now` is the time in seconds. -/
def log (t : Trace) (tree : FileTree) (r : TraceRecord) (now : Binary64) :
    Trace × FileTree × Option Fault :=
  match r.fields now with
  | .error e => (t, tree, some e)
  | .ok fields =>
    match t.openFile tree r.event with
    | (t, tree, .error e) => (t, tree, some e)
    | (t, tree, .ok isNew) => t.addRecord tree r.event fields isNew

/-- Writes records in order, each with the time at which it is written, up to the first that
    fails. -/
def logAll (t : Trace) (tree : FileTree) :
    List (TraceRecord × Binary64) → Trace × FileTree × Option Fault
  | [] => (t, tree, none)
  | (r, now) :: rs =>
    match t.log tree r now with
    | (t, tree, none) => logAll t tree rs
    | (t, tree, some e) => (t, tree, some e)

/-- Closes all files. -/
def close (t : Trace) : Trace := { t with opened := [] }

/-- What the file about the run says when the run ends. -/
def metadata (t : Trace) (now : String) : Value :=
  .table [
    (.text "run_name", .text t.run),
    (.text "start_time", .text t.begun),
    (.text "log_files", .table (t.paths.map fun e => (.text e.1, .text e.2))),
    (.text "end_time", .text now),
    (.text "record_counts", .table (t.counts.map fun e => (.text e.1, .int e.2)))]

/-- The file about the run. -/
def metadataPath (t : Trace) : String := FileTree.join t.directory (t.run ++ "_metadata.json")

/-- Closes all files and writes the file about the run. -/
def finalize (t : Trace) (tree : FileTree) (now : String) : Trace × FileTree × Option Fault :=
  let t := t.close
  match tree.write t.metadataPath (Json.pretty (t.metadata now)).toUTF8 with
  | .ok tree => (t, tree, none)
  | .error e => (t, tree, some (.file e))

end Trace

end FlipSat
