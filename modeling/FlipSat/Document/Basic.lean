import FlipSat.Document.Merge
import FlipSat.Settings.Library
import FlipSat.Text.Lines
import FlipSat.Text.Utf8
import FlipSat.Yaml.Document
import FlipSat.Yaml.Printer

/-
  FlipSat: documents that are plain values, and what a library of settings does with them. Keys with
  brackets, and references other than those of one key, are not available.
-/
namespace FlipSat

/-- A document: a table or a list, in which texts can be references. -/
structure Document where
  root : Value
deriving Repr

namespace Document

/-! ## Making documents -/

/-- The document that holds a value: a table or a list as it is, and nothing for null. A text is
    read as YAML; if it stays a text, it is a key without a value. -/
def ofValue (v : Value) : Except Raised Document :=
  let kept (v : Value) : Except Raised Document :=
    match v.shapeFault? with
    | some why => .error why
    | none => .ok ⟨v⟩
  match v with
  | .table es => kept (.table es)
  | .list items => kept (.list items)
  | .null => .ok ⟨.table []⟩
  | .text s => do
    match ← Yaml.read .settings s with
    | .table es => kept (.table es)
    | .list items => kept (.list items)
    | .null => .ok ⟨.table []⟩
    | .text t => kept (.table [(.text t, .null)])
    | _ => .error ⟨"AssertionError", [], "the text holds a value of an unexpected sort"⟩
  | _ => .error .notTable

/-- The text of a file; its line breaks become plain ones. -/
def readFile (tree : FileTree) (path : String) : Except Raised String := do
  let raised (e : FileFault) : Raised :=
    if e = .holdsNul then ⟨"ValueError", [.value], e.message⟩ else ⟨"OSError", [.system], e.message⟩
  let bytes ← (tree.read path).mapError raised
  let text ← (Text.ofUtf8 bytes).mapError fun _ => .badEncoding
  pure (String.ofList (Text.foldNewlines text.toList))

/-- The document in a YAML file. -/
def ofFile (tree : FileTree) (path : String) : Except Raised Document := do
  let text ← readFile tree path
  let v ← Yaml.read .settings text
  match v with
  | .table _ | .list _ | .null | .text _ => ofValue v
  | _ => .error .notDocument

/-! ## Merging -/

/-- The fault of merging a list into a table, or a table into a list. -/
def clash : Raised := .mistyped "a list and a table cannot be merged"

/-- The document with the entries of another one merged into it; their keys are taken as they are,
    dots and all. -/
def merge (d e : Document) : Except Raised Document :=
  match d.root, e.root with
  | .table _, .table es => (mergeEntries clash d.root [] es).map Document.mk
  | _, _ => .error clash

/-- The document with a value merged into it. -/
def mergeValue (d : Document) (v : Value) : Except Raised Document :=
  match v with
  | .table es => do d.merge (← ofValue (.table es))
  | .list items => do d.merge (← ofValue (.list items))
  | _ => .error .notTable

/-! ## Keys -/

/-- Does a key hold brackets? -/
def hasBrackets (key : String) : Bool := key.toList.any fun c => c == '[' || c == ']'

/-- The fault of a key that holds brackets. -/
def bracketed : Raised := .unavailable "a key with brackets"

/-- Puts a value at a dotted key. -/
def update (d : Document) (key : String) (v : Value) : Document × Option Raised :=
  if hasBrackets key then (d, some bracketed)
  else
    match d.root.setKey key v with
    | .ok root => (⟨root⟩, none)
    | .error r => (d, some r)

/-- The parts of a key to read. One dot in front is ignored; nothing lies above the root. -/
def keyParts? (key : String) : Option (List String) :=
  let rest := match key.toList with
    | '.' :: rest => rest
    | rest => rest
  match rest with
  | [] => some []
  | '.' :: _ => if key.startsWith "." then none else some (dottedParts key)
  | rest => some (dottedParts (String.ofList rest))

/-- The place that a key leads to. -/
def place (d : Document) (key : String) : Except ReferenceFault Place :=
  match keyParts? key with
  | some parts => d.root.find parts
  | none => .error .missing

/-- The value at a key; null if nothing stands there. -/
def select (d : Document) (key : String) : Except Raised Value :=
  if hasBrackets key then .error bracketed
  else
    match d.place key with
    | .ok place => .ok ((d.root.at? place).getD .null)
    | .error .missing => .ok .null
    | .error e => .error e.raised

/-! ## Contents -/

/-- What the document holds. -/
def toContainer (d : Document) (resolved : Bool) : Except Raised Value :=
  if resolved then (d.root.resolved []).mapError (·.raised) else .ok d.root

/-- The YAML text of the document. -/
def toYaml (d : Document) : Except Raised String :=
  if d.root.isWritable then .ok (Yaml.print d.root) else .error .tooManyDigits

end Document

instance : SettingsLibrary Document where
  create := Document.ofValue
  load := Document.ofFile
  merge := Document.merge
  mergeValue := Document.mergeValue
  update := Document.update
  select := Document.select
  toContainer := Document.toContainer
  toYaml := Document.toYaml
  safeLoad := Yaml.read .standard

end FlipSat
