import FlipSat.Value.Basic

/-
  FlipSat: rows of comma-separated values. A field stands between quotes where it holds a comma, a
  quote or a line break, and a quote inside it is written twice.
-/
namespace FlipSat.Csv

def needsQuotes (s : List Char) : Bool :=
  s.any fun c => c == ',' || c == '\x22' || c == '\r' || c == '\n'

/-- A text between quotes. -/
def quoted (s : List Char) : List Char :=
  '\x22' :: s.flatMap (fun c => if c == '\x22' then ['\x22', '\x22'] else [c]) ++ ['\x22']

/-- A text as a field. -/
def field (s : List Char) : List Char := if needsQuotes s then quoted s else s

/-- A value as the text of a field; null is an empty one. -/
def fieldText : Value → String
  | .null => ""
  | v => v.display

/-- A row of fields with its line break. -/
def row (fields : List (List Char)) : String :=
  ",".intercalate (fields.map String.ofList) ++ "\r\n"

end FlipSat.Csv
