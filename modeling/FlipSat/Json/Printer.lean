import FlipSat.Fault

/-
  FlipSat: writing a value as JSON in ASCII. Texts escape everything else as UTF-16 units, and the
  three numbers that JSON has no form for are written as words.
-/
namespace FlipSat.Json

/-- Four hexadecimal digits. -/
def unit (n : Nat) : List Char := '\\' :: 'u' :: Text.hexDigits 4 n

/-- How a character is written between quotes. -/
def escape (c : Char) : List Char :=
  let n := c.toNat
  if c == '\x22' then ['\\', '\x22']
  else if c == '\\' then ['\\', '\\']
  else if c == '\n' then ['\\', 'n']
  else if c == '\r' then ['\\', 'r']
  else if c == '\t' then ['\\', 't']
  else if c == '\x08' then ['\\', 'b']
  else if c == '\x0c' then ['\\', 'f']
  else if 0x20 ≤ n && n ≤ 0x7E then [c]
  else if n < 0x10000 then unit n
  else unit (0xD800 + (n - 0x10000) / 0x400) ++ unit (0xDC00 + (n - 0x10000) % 0x400)

/-- A text between quotes. -/
def quote (s : String) : String :=
  String.ofList ('\x22' :: s.toList.flatMap escape ++ ['\x22'])

/-- A real number; the words for infinity and for no number are not standard. -/
def realText : Binary64 → String
  | .nan => "NaN"
  | .infinity false => "Infinity"
  | .infinity true => "-Infinity"
  | x => x.toText

/-- A single value. -/
def scalar : Value → String
  | .null => "null"
  | .bool b => if b then "true" else "false"
  | .int n => Text.showInt n
  | .real x => realText x
  | .text s => quote s
  | _ => ""

/-- A key; every key is written as a text. -/
def keyText : Key → String
  | .text s => quote s
  | .int n => quote (Text.showInt n)
  | .real x => quote (realText x)
  | .bool b => quote (if b then "true" else "false")
  | .null | .bytes _ | .foreign => quote "null"

mutual

/-- A value on one line. -/
def compact : Value → String
  | .list items | .tuple items => "[" ++ ", ".intercalate (compactItems items) ++ "]"
  | .table entries => "\x7b" ++ ", ".intercalate (compactEntries entries) ++ "\x7d"
  | v => scalar v

def compactItems : List Value → List String
  | [] => []
  | v :: vs => compact v :: compactItems vs

def compactEntries : List (Key × Value) → List String
  | [] => []
  | (k, v) :: es => (keyText k ++ ": " ++ compact v) :: compactEntries es

end

/-- The start of a line at some depth. -/
def newline (depth : Nat) : String := "\n" ++ String.ofList (List.replicate (2 * depth) ' ')

/-- Pieces between brackets, one a line; brackets around nothing stay on one line. -/
def enclose (left right : String) (depth : Nat) (pieces : List String) : String :=
  if pieces.isEmpty then left ++ right
  else left ++ newline (depth + 1) ++ ("," ++ newline (depth + 1)).intercalate pieces ++
    newline depth ++ right

mutual

/-- A value over several lines, each level indented by two more. -/
def indented (depth : Nat) : Value → String
  | .list items | .tuple items => enclose "[" "]" depth (indentedItems (depth + 1) items)
  | .table entries => enclose "\x7b" "\x7d" depth (indentedEntries (depth + 1) entries)
  | v => scalar v

def indentedItems (depth : Nat) : List Value → List String
  | [] => []
  | v :: vs => indented depth v :: indentedItems depth vs

def indentedEntries (depth : Nat) : List (Key × Value) → List String
  | [] => []
  | (k, v) :: es => (keyText k ++ ": " ++ indented depth v) :: indentedEntries depth es

end

/-- A value over several lines. -/
def pretty (v : Value) : String := indented 0 v

mutual

/-- Does the value hold something that JSON has no form for? -/
def holdsForeign : Value → Bool
  | .foreign | .bytes _ | .path _ => true
  | .list items | .tuple items => itemsHoldForeign items
  | .table entries => entriesHoldForeign entries
  | _ => false

def itemsHoldForeign : List Value → Bool
  | [] => false
  | v :: vs => holdsForeign v || itemsHoldForeign vs

def entriesHoldForeign : List (Key × Value) → Bool
  | [] => false
  | (k, v) :: es =>
    (match k with
    | .bytes _ | .foreign => true
    | _ => false) || holdsForeign v || entriesHoldForeign es

end

/-- The fault of a value that JSON has no form for. -/
def noForm : Fault := .mistyped "a value of this sort has no form in JSON"

/-- A value on one line, if every part of it has a form. -/
def encode (v : Value) : Except Fault String :=
  if holdsForeign v then .error noForm else .ok (compact v)

end FlipSat.Json
