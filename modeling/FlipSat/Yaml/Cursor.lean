import FlipSat.Yaml.Fault
import FlipSat.Yaml.Dialect

/-
  FlipSat: a place in a YAML text, with its line and column, and moving it forward.
-/
namespace FlipSat.Yaml

/-- What is left of a text, and where it starts. -/
structure Cursor where
  rest : List Char
  index : Nat := 0
  line : Nat := 0
  column : Nat := 0

/-- Reading at a cursor in some dialect. -/
abbrev Scan := ReaderT Dialect (StateT Cursor (Except Raised))

/-- The characters that end a line. -/
def isBreak (c : Char) : Bool :=
  c == '\n' || c == '\r' || c == '\u0085' || c == '\u2028' || c == '\u2029'

/-- The mark that may stand in front of a text. -/
def byteOrderMark : Char := '\uFEFF'

/-- The end of a line or of the text. -/
def isLineEnd (c : Char) : Bool := c == '\x00' || isBreak c

/-- The end of a line or of the text, or a space. -/
def isSpaceOrEnd (c : Char) : Bool := c == ' ' || isLineEnd c

/-- The end of a line or of the text, a space or a tab. -/
def isBlankOrEnd (c : Char) : Bool := c == '\t' || isSpaceOrEnd c

/-- The characters of anchors and of the names of tags and directives. -/
def isWord (c : Char) : Bool :=
  ('0' ≤ c && c ≤ '9') || ('A' ≤ c && c ≤ 'Z') || ('a' ≤ c && c ≤ 'z') || c == '-' || c == '_'

def isHexDigit (c : Char) : Bool :=
  ('0' ≤ c && c ≤ '9') || ('A' ≤ c && c ≤ 'F') || ('a' ≤ c && c ≤ 'f')

/-- The value of a hexadecimal digit. -/
def hexValue (c : Char) : Nat :=
  if c ≤ '9' then c.toNat - 48 else if c ≤ 'F' then c.toNat - 55 else c.toNat - 87

def ofHex (ds : List Char) : Nat := ds.foldl (fun n d => 16 * n + hexValue d) 0

namespace Cursor

/-- The character at the cursor, or one further on; NUL, which no YAML text holds, stands for the
    end. -/
def peek (c : Cursor) (ahead : Nat) : Char := c.rest.getD ahead '\x00'

/-- One character further. Both parts of `\r\n` make one line end, and a byte order mark takes a
    column only where it may start a line. -/
def next (d : Dialect) (c : Cursor) : Cursor :=
  match c.rest with
  | [] => c
  | ch :: rest =>
    if isBreak ch && !(ch == '\r' && rest.head? == some '\n') then
      ⟨rest, c.index + 1, c.line + 1, 0⟩
    else if ch == byteOrderMark && !d.marks then ⟨rest, c.index + 1, c.line, c.column⟩
    else ⟨rest, c.index + 1, c.line, c.column + 1⟩

/-- A number of characters further. -/
def forward (d : Dialect) (c : Cursor) : Nat → Cursor
  | 0 => c
  | n + 1 => (c.next d).forward d n

/-- Does a document separator stand at the cursor? -/
def atSeparator (c : Cursor) : Bool :=
  (c.rest.take 3 == ['-', '-', '-'] || c.rest.take 3 == ['.', '.', '.']) && isBlankOrEnd (c.peek 3)

end Cursor

/-- The character at the cursor. -/
def peek : Scan Char := return (← get).peek 0

/-- The character some places after the cursor. -/
def peekAt (ahead : Nat) : Scan Char := return (← get).peek ahead

/-- The dialect that is read. -/
def dialect : Scan Dialect := ReaderT.read

def forward (n : Nat) : Scan Unit := do
  let d ← dialect
  modify (·.forward d n)

/-- Takes the longest run of characters that satisfy a test. -/
def takeWhile (p : Char → Bool) : Scan (List Char) := do
  let run := (← get).rest.takeWhile p
  forward run.length
  return run

/-- The blanks that separate words on a line. -/
def isGap (d : Dialect) (c : Char) : Bool := c == ' ' || (d.tabs && c == '\t')

/-- The end of a word, of a line or of the text. -/
def isGapOrEnd (d : Dialect) (c : Char) : Bool := isGap d c || isLineEnd c

def skipGaps : Scan Unit := do
  let d ← dialect
  discard (takeWhile (isGap d))

/-- Skips a comment, if one starts here. -/
def skipComment : Scan Unit := do
  if (← peek) == '#' then discard (takeWhile fun c => !isLineEnd c)

/-- Takes a line break, if there is one, and says what it stands for. -/
def takeBreak : Scan (List Char) := do
  let c ← peek
  if c == '\r' || c == '\n' || c == '\u0085' then
    forward (if c == '\r' && (← peekAt 1) == '\n' then 2 else 1)
    return ['\n']
  else if c == '\u2028' || c == '\u2029' then
    forward 1
    return [c]
  else return []

/-- Fails unless a condition holds. -/
def require (b : Bool) : Scan Unit := if b then pure () else throw .yaml

/-- Fails unless the end of a word follows. -/
def requireGap : Scan Unit := do
  let d ← dialect
  require (isGapOrEnd d (← peek))

/-- Skips the rest of a line that may hold nothing but a comment. -/
def skipLineEnd : Scan Unit := do
  skipGaps
  skipComment
  require (isLineEnd (← peek))
  discard takeBreak

/-- A bound for everything that moves forward in each round. -/
def remaining : Scan Nat := return (← get).rest.length + 1

end FlipSat.Yaml
