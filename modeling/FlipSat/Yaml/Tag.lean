import FlipSat.Yaml.Cursor
import FlipSat.Yaml.Date

/-
  FlipSat: the sorts of YAML values, and which of them a plain scalar has by its form:
  `12` is an integer, `1:30` too, `1.5e+3` a real number, `yes` a truth value.
-/
namespace FlipSat.Yaml

/-- The sorts of values. -/
inductive Tag where
  | null
  | bool
  | int
  | real
  | date
  | text
  | sequence
  | mapping
  | set
  | orderedMap
  | pairs
  | binary
  | path
  | otherPath
  | merge
  | default
  | unknown
deriving DecidableEq

/-- The tag of a name; there is no telling what tags of other kinds mean. -/
def Tag.ofName (name : String) : Tag :=
  let start := "tag:yaml.org,2002:"
  if !name.startsWith start then .unknown
  else match String.ofList (name.toList.drop start.length) with
    | "null" => .null
    | "bool" => .bool
    | "int" => .int
    | "float" => .real
    | "timestamp" => .date
    | "str" => .text
    | "seq" => .sequence
    | "map" => .mapping
    | "set" => .set
    | "omap" => .orderedMap
    | "pairs" => .pairs
    | "binary" => .binary
    | "merge" => .merge
    | "value" => .default
    | "python/object/apply:pathlib.Path" | "python/object/apply:pathlib.PosixPath" => .path
    | "python/object/apply:pathlib.WindowsPath" => .otherPath
    | _ => .unknown

/-- A digit, or an underscore between digits. -/
def isDigitOrGap (c : Char) : Bool := isDigit c || c == '_'

/-- Without one leading sign. -/
def unsigned : List Char → List Char
  | '-' :: s | '+' :: s => s
  | s => s

/-- Groups of a colon and at most two digits, below 60, up to an end that satisfies `last`. -/
def sixtieths (last : List Char → Bool) : List Char → Bool
  | ':' :: a :: s =>
    isDigit a && ((sixtieths last s || last s) ||
      (a ≤ '5' && match s with
        | b :: t => isDigit b && (sixtieths last t || last t)
        | [] => false))
  | _ => false

/-- A digit, then digits and gaps, up to an end that satisfies `last`. -/
def digitsThen (last : List Char → Bool) : List Char → Bool
  | c :: s => isDigit c && last (s.dropWhile isDigitOrGap)
  | [] => false

/-- Is the scalar an integer by its form? -/
def isIntForm (s : List Char) : Bool :=
  match unsigned s with
  | '0' :: 'b' :: ds => !ds.isEmpty && ds.all fun c => c == '0' || c == '1' || c == '_'
  | '0' :: 'x' :: ds => !ds.isEmpty && ds.all fun c => isHexDigit c || c == '_'
  | '0' :: ds => ds.all fun c => ('0' ≤ c && c ≤ '7') || c == '_'
  | ds => digitsThen (fun t => t.isEmpty || sixtieths List.isEmpty t) ds

/-- An exponent, or nothing. -/
def isExponentForm (signed : Bool) (s : List Char) : Bool :=
  match s with
  | [] => true
  | e :: ds =>
    (e == 'e' || e == 'E') && (match ds with
      | '-' :: ds | '+' :: ds => !ds.isEmpty && ds.all isDigit
      | ds => !signed && !ds.isEmpty && ds.all isDigit)

/-- Digits in which a single underscore may stand between two of them. -/
def isTightRun : List Char → Bool
  | [] => false
  | [c] => isDigit c
  | c :: '_' :: s => isDigit c && isTightRun s
  | c :: s => isDigit c && isTightRun s

/-- Is the scalar a real number by its form? -/
def isRealForm (s : List Char) : Bool :=
  let body := unsigned s
  let afterPoint : List Char → Bool
    | '.' :: t => isExponentForm true (t.dropWhile isDigitOrGap)
    | _ => false
  let sixtiethsEnd : List Char → Bool
    | '.' :: t => t.all isDigitOrGap
    | _ => false
  digitsThen (fun t => afterPoint t || sixtieths sixtiethsEnd t) body ||
    (match s with
      | '.' :: c :: t => isDigit c && isExponentForm true (t.dropWhile isDigitOrGap)
      | _ => false) ||
    (match String.ofList body with
      | ".inf" | ".Inf" | ".INF" => true
      | _ => false) ||
    (match String.ofList s with
      | ".nan" | ".NaN" | ".NAN" => true
      | _ => false)

/-- Is the scalar a real number by a form that does without a point, or without the sign of its
    exponent? -/
def isLooseRealForm (s : List Char) : Bool :=
  let body := unsigned s
  isTightRun (body.takeWhile isDigitOrGap) &&
    match body.dropWhile isDigitOrGap with
    | '.' :: t => isExponentForm false (t.dropWhile isDigitOrGap)
    | t => !t.isEmpty && isExponentForm false t

/-- The spellings of truth values. -/
def truthOf? (s : String) : Option Bool :=
  match s with
  | "yes" | "true" | "on" => some true
  | "no" | "false" | "off" => some false
  | _ => none

def isTruthForm (s : String) : Bool :=
  ["yes", "Yes", "YES", "no", "No", "NO", "true", "True", "TRUE", "false", "False", "FALSE",
    "on", "On", "ON", "off", "Off", "OFF"].contains s

def isNullForm (s : String) : Bool := ["", "~", "null", "Null", "NULL"].contains s

/-- A text without the line break that may end it; forms do not depend on that one. -/
def withoutLastBreak (s : String) : String :=
  match s.toList.getLast? with
  | some '\n' => if s.length == 1 then s else String.ofList s.toList.dropLast
  | _ => s

/-- The sort that a scalar has by its form. -/
def Tag.ofForm (d : Dialect) (scalar : String) : Tag :=
  let text := withoutLastBreak scalar
  let s := text.toList
  if isNullForm text then .null
  else if isTruthForm text then .bool
  else if isRealForm s then .real
  else if isIntForm s then .int
  else if d.dates && isDateForm s then .date
  else if d.looseReals && isLooseRealForm s then .real
  else if text == "<<" then .merge
  else if text == "=" then .default
  else .text

end FlipSat.Yaml
