import FlipSat.Log.Field
import FlipSat.Log.Level
import FlipSat.Text.Word

/-
  FlipSat: log messages and the forms of their lines. A form is a text with fields such as
  `%(levelname)-8s`: the name of a field in brackets, and how it is written. `%%` stands for a
  percent sign.
-/
namespace FlipSat

/-- Where in the program a message comes from. -/
structure LogOrigin where
  module : String
  function : String
  line : Nat
deriving DecidableEq, Repr

/-- A log message, with its origin if that is known. -/
structure LogRecord where
  logger : String
  level : Int
  message : String
  origin : Option LogOrigin := none
deriving DecidableEq, Repr

/-- The name under which a logger writes; the one without a name is called root. -/
def LogRecord.name (r : LogRecord) : String := if r.logger == "" then "root" else r.logger

/-- A piece of the form of a line. -/
inductive FormatPiece where
  | text (s : List Char)
  | field (name : String) (form : FieldForm)
  | malformed
deriving DecidableEq, Repr

/-- The form of a line. -/
abbrev LogFormat := List FormatPiece

namespace LogFormat

/-- Splits a name in brackets off, after the first of them; brackets inside it come in pairs. -/
def splitName (depth : Nat) : List Char → Option (List Char × List Char)
  | [] => none
  | ')' :: s =>
    match depth with
    | 0 => some ([], s)
    | n + 1 => (splitName n s).map fun (name, rest) => (')' :: name, rest)
  | c :: s =>
    (splitName (if c == '(' then depth + 1 else depth) s).map fun (name, rest) => (c :: name, rest)

/-- Reads the pieces of a form; `n` bounds their number. -/
def piecesOf : Nat → List Char → LogFormat
  | _, [] => []
  | 0, _ => []
  | n + 1, '%' :: '(' :: s =>
    match splitName 0 s with
    | none => [.malformed]
    | some (name, s) =>
      match FieldForm.read? s with
      | some (f, rest) => .field (String.ofList name) f :: piecesOf n rest
      | none => [.malformed]
  | n + 1, '%' :: '%' :: s => .text ['%'] :: piecesOf n s
  | _, '%' :: _ => [.malformed]
  | n + 1, c :: s => .text [c] :: piecesOf n s

/-- The form that a text describes; an empty one is the message alone. -/
def ofText (s : String) : LogFormat :=
  if s == "" then [.field "message" {}] else piecesOf s.length s.toList

/-- The letters for the sorts of fields, in both cases; a long s counts as an s, and an i may have
    its dot or not. -/
def isSortLetter (c : Char) : Bool :=
  "diouxefgcrsa%DIOUXEFGCRSA\u017f\u0130\u0131".toList.contains c

/-- Passes over a number or a star. -/
def dropSize : List Char → List Char
  | '*' :: s => s
  | s => s.dropWhile fun c => (Text.digitValue? c).isSome

/-- After the name of a field: flags, a width, a precision and a letter. -/
def endsField (s : List Char) : Bool :=
  let s := dropSize (s.dropWhile FieldForm.isFlag)
  let afterPoint := match s with
    | '.' :: t => if (dropSize t).length < t.length then some (dropSize t) else none
    | t => some t
  match afterPoint with
  | some (c :: _) => isSortLetter c
  | _ => false

/-- Does the text name any field of a record? -/
def namesField : List Char → Bool
  | [] => false
  | '%' :: '(' :: s =>
    let name := s.takeWhile Text.isWordChar
    (!name.isEmpty && (match s.dropWhile Text.isWordChar with
      | ')' :: t => endsField t
      | _ => false)) || namesField s
  | _ :: s => namesField s

/-- The fields of a record. -/
def fieldOf? (r : LogRecord) (name : String) : Option Value :=
  match name with
  | "name" => some (.text r.name)
  | "levelname" => some (.text (Level.text r.level))
  | "levelno" => some (.int r.level)
  | "message" | "msg" => some (.text r.message)
  | "asctime" => some (.text "<time>")
  | "threadName" => some (.text "MainThread")
  | "processName" => some (.text "MainProcess")
  | "args" => some (.tuple [])
  | "exc_info" | "exc_text" | "stack_info" => some .null
  | "module" => r.origin.map fun o => .text o.module
  | "filename" => r.origin.map fun o => .text (o.module ++ ".py")
  | "funcName" => r.origin.map fun o => .text o.function
  | "lineno" => r.origin.map fun o => .int o.line
  | _ => none

/-- The line of a record; there is none if the form does not fit. -/
def line? (f : LogFormat) (r : LogRecord) : Option String := do
  let pieces ← f.mapM fun p => match p with
    | .text s => some s
    | .field name form => (fieldOf? r name).bind form.write?
    | .malformed => none
  some (String.ofList pieces.flatten)

end LogFormat

end FlipSat
