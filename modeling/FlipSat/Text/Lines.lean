/-
  FlipSat: where a text breaks into lines.
  Two conventions meet. A file is read with `\r\n` and `\r` turned into `\n`; a text is then cut
  at every character that Unicode regards as a line break.
-/
namespace FlipSat.Text

/-- The characters that end a line. -/
def isLineBreak (c : Char) : Bool :=
  c == '\n' || c == '\r' || c == '\x0b' || c == '\x0c' || c == '\x1c' || c == '\x1d' ||
    c == '\x1e' || c == '\u0085' || c == '\u2028' || c == '\u2029'

/-- The lines of a text without their breaks. `\r\n` is one break, and a break at the very end
    starts no further line. -/
def splitLines : List Char → List (List Char)
  | [] => []
  | '\r' :: '\n' :: s => [] :: splitLines s
  | c :: s =>
    if isLineBreak c then [] :: splitLines s
    else match splitLines s with
      | [] => [[c]]
      | line :: rest => (c :: line) :: rest

/-- Every `\r\n` and every other `\r` becomes `\n`. -/
def foldNewlines : List Char → List Char
  | [] => []
  | '\r' :: '\n' :: s => '\n' :: foldNewlines s
  | c :: s => (if c == '\r' then '\n' else c) :: foldNewlines s

end FlipSat.Text
