import FlipSat.Text.Base64
import FlipSat.Text.PathName
import FlipSat.Value.Basic
import FlipSat.Yaml.Tag

/-
  FlipSat: writing a value as YAML: tables and lists as blocks, texts plainly where that reads back
  as the same text and between quotes where it does not, and long texts folded at blanks.
-/
namespace FlipSat.Yaml

/-- What has been written, and what the next thing to write depends on: the column, whether the
    last character is blank, and whether there is only indentation in the line so far. -/
structure Pen where
  out : String := ""
  column : Nat := 0
  blank : Bool := true
  fresh : Bool := true

namespace Pen

def write (p : Pen) (s : List Char) : Pen :=
  { p with out := p.out ++ String.ofList s, column := p.column + s.length }

/-- Writes a character of a scalar. -/
def put (p : Pen) (c : Char) : Pen := { p.write [c] with fresh := false }

/-- Writes a line break. -/
def breakLine (p : Pen) (c : Char) : Pen := ⟨p.out.push c, 0, true, true⟩

/-- Starts a line at a column, unless the pen is there already. -/
def indentTo (p : Pen) (column : Nat) : Pen :=
  let p :=
    if !p.fresh || p.column > column || (p.column == column && !p.blank) then p.breakLine '\n'
    else p
  if p.column < column then
    { p.write (List.replicate (column - p.column) ' ') with blank := true }
  else p

/-- Writes an indicator, after a blank if one is needed. -/
def indicator (p : Pen) (s : List Char) (apart blankAfter keepsFresh : Bool) : Pen :=
  let q := p.write (if p.blank || !apart then s else ' ' :: s)
  { q with blank := blankAfter, fresh := p.fresh && keepsFresh }

end Pen

/-- The column at which texts are folded. -/
def foldColumn : Nat := 80

/-! ## The forms of a scalar -/

/-- A character that only a scalar between double quotes can hold. -/
def isSpecial (c : Char) : Bool :=
  let n := c.toNat
  !(c == '\n' || (0x20 ≤ n && n ≤ 0x7E) || (0xA0 ≤ n && n ≤ 0xD7FF) ||
    (0xE000 ≤ n && n ≤ 0xFFFD && c != byteOrderMark))

/-- A character that means something else at the start of a plain scalar. -/
def isLeadingIndicator (c : Char) : Bool :=
  c == '#' || isFlowStart c || c == '&' || c == '*' || c == '!' || c == '|' || c == '>' ||
    c == '\x27' || c == '\x22' || c == '%' || c == '@' || c == '\u0060'
where
  isFlowStart (c : Char) : Bool :=
    c == ',' || c == '[' || c == ']' || c == '\x7b' || c == '\x7d'

/-- Does an indicator stand inside a text, behind its first character? -/
def hasInnerIndicator (before : Char) : List Char → Bool
  | [] => false
  | c :: s =>
    (c == ':' && isBlankOrEnd (s.headD '\x00')) || (c == '#' && isBlankOrEnd before) ||
      hasInnerIndicator c s

/-- Does an indicator keep a text from being plain? -/
def hasIndicator (s : List Char) : Bool :=
  s.take 3 == ['-', '-', '-'] || s.take 3 == ['.', '.', '.'] ||
    match s with
    | [] => false
    | c :: t =>
      isLeadingIndicator c ||
        ((c == '?' || c == ':' || c == '-') && isBlankOrEnd (t.headD '\x00')) ||
        hasInnerIndicator c t

/-- Do two characters of these kinds stand side by side? -/
def hasPair (p q : Char → Bool) : List Char → Bool
  | c :: d :: s => (p c && q d) || hasPair p q (d :: s)
  | _ => false

def isSpace (c : Char) : Bool := c == ' '

/-- Can a text be written plainly as far as its characters go? -/
def allowsPlain (s : List Char) : Bool :=
  !(s.head?.map isSpace).getD false && !(s.getLast?.map isSpace).getD false &&
    !s.any isBreak && !s.any isSpecial && !hasIndicator s

/-- Can a text be written between single quotes? -/
def allowsSingle (s : List Char) : Bool :=
  !hasPair isBreak isSpace s && !hasPair isSpace isBreak s && !s.any isSpecial

/-- Writes the characters of a plain scalar. Behind the fold column a single space becomes a line
    break; `spaced` says whether the last character was a space. -/
def plainFrom (p : Pen) (indent : Nat) (folds spaced : Bool) : List Char → Pen
  | [] => p
  | c :: s =>
    if isSpace c && folds && !spaced && foldColumn < p.column && s.head? != some ' ' then
      plainFrom (p.indentTo indent) indent folds true s
    else plainFrom (p.put c) indent folds (isSpace c) s

def writePlain (p : Pen) (indent : Nat) (folds : Bool) (s : List Char) : Pen :=
  if s.isEmpty then p
  else
    let p := if p.blank then p else p.write [' ']
    { plainFrom p indent folds false s with blank := false, fresh := false }

/-- Writes a break between single quotes; the first `\n` of a run of breaks counts twice. -/
def writeBreak (p : Pen) (broken : Bool) (c : Char) : Pen :=
  let p := if !broken && c == '\n' then p.breakLine '\n' else p
  p.breakLine c

/-- Writes the characters of a scalar between single quotes; `inside` says whether one stands before
    them, `broken` whether that is a break. -/
def singleFrom (p : Pen) (indent : Nat) (folds inside spaced broken : Bool) : List Char → Pen
  | [] => if broken then p.indentTo indent else p
  | c :: s =>
    if isSpace c then
      let next := s.headD ' '
      let p :=
        if folds && inside && !spaced && foldColumn < p.column && !isSpace next then p.indentTo indent
        else p.put c
      singleFrom p indent folds true true broken s
    else if isBreak c then singleFrom (writeBreak p broken c) indent folds true spaced true s
    else
      let p := if broken then p.indentTo indent else p
      let p := if c == '\x27' then p.put '\x27' else p
      singleFrom (p.put c) indent folds true false false s

def writeSingle (p : Pen) (indent : Nat) (folds : Bool) (s : List Char) : Pen :=
  let p := p.indicator ['\x27'] true false false
  (singleFrom p indent folds false false false s).indicator ['\x27'] false false false

/-- The escapes of single characters. -/
def escapeLetters : List (Char × Char) := [
  ('\x00', '0'), ('\x07', 'a'), ('\x08', 'b'), ('\t', 't'), ('\n', 'n'), ('\x0b', 'v'),
  ('\x0c', 'f'), ('\r', 'r'), ('\x1b', 'e'), ('\x22', '\x22'), ('\\', '\\'), ('\u0085', 'N'),
  ('\u2028', 'L'), ('\u2029', 'P')]

/-- The escape of a character. -/
def escapeOf (c : Char) : List Char :=
  let hex (width : Nat) : List Char := (Text.hexDigits width c.toNat).map Char.toUpper
  match escapeLetters.lookup c with
  | some l => ['\\', l]
  | none =>
    if c.toNat ≤ 0xFF then '\\' :: 'x' :: hex 2
    else if c.toNat ≤ 0xFFFF then '\\' :: 'u' :: hex 4
    else '\\' :: 'U' :: hex 8

/-- Is the character written as an escape between double quotes? -/
def isEscaped (c : Char) : Bool := isSpecial c || isBreak c || c == '\x22' || c == '\\'

/-- Writes the characters of a scalar between double quotes. Behind the fold column a space becomes
    a line break, with a backslash if another space follows. -/
def doubleFrom (p : Pen) (indent : Nat) (folds inside spaced : Bool) : List Char → Pen
  | [] => p
  | c :: s =>
    if isEscaped c then doubleFrom (p.write (escapeOf c)) indent folds true false s
    else if isSpace c && folds && inside && !spaced && foldColumn < p.column && !s.isEmpty then
      let p := p.indentTo indent
      let p := if s.head? == some ' ' then p.write ['\\'] else p
      doubleFrom p indent folds true true s
    else doubleFrom (p.put c) indent folds true (isSpace c) s

def writeDouble (p : Pen) (indent : Nat) (folds : Bool) (s : List Char) : Pen :=
  let p := p.indicator ['\x22'] true false false
  (doubleFrom p indent folds false false s).indicator ['\x22'] false false false

/-- Writes the lines of a block as they are. -/
def linesFrom (p : Pen) (indent : Nat) : List Char → Pen
  | [] => p
  | c :: s =>
    if c == '\n' then linesFrom (p.breakLine c) indent s
    else linesFrom ((if p.fresh then p.indentTo indent else p).put c) indent s

def writeLines (p : Pen) (indent : Nat) (s : List Char) : Pen :=
  linesFrom ((p.indicator ['|'] true false false).breakLine '\n') indent s

/-- Words that some readers take for truth values. -/
def isTruthWord (s : String) : Bool :=
  isTruthForm s || ["y", "Y", "n", "N"].contains s

/-- Would the text be taken for something else without quotes? -/
def needsQuotes (s : String) : Bool :=
  isTruthWord s || (Text.readInt? s.toList).isSome || (Binary64.read? s.toList).isSome

/-- A scalar to write: its characters, whether it can be plain as far as its sort goes, its tag if
    it needs one, and whether it consists of lines. -/
structure ScalarForm where
  text : List Char
  plain : Bool := true
  tag : Option String := none
  isLines : Bool := false

/-- The form of a text. -/
def ScalarForm.ofText (s : String) : ScalarForm :=
  { text := s.toList, plain := !needsQuotes s && Tag.ofForm .standard s == .text }

/-- The digits of a real number; there is always a point. -/
def realText (x : Binary64) : String :=
  match x with
  | .nan => ".nan"
  | .infinity false => ".inf"
  | .infinity true => "-.inf"
  | x =>
    let s := x.toText.toList
    if s.contains '.' || !s.contains 'e' then x.toText
    else String.ofList (s.takeWhile (· != 'e') ++ ['.', '0'] ++ s.dropWhile (· != 'e'))

/-- The form of bytes. -/
def ScalarForm.ofBytes (bs : List UInt8) : ScalarForm :=
  { text := Text.Base64.lines bs, plain := false, tag := some "!!binary", isLines := true }

/-- The form of a value that is no table and no list. -/
def ScalarForm.ofValue : Value → ScalarForm
  | .text s => ofText s
  | .bytes bs => ofBytes bs
  | .bool b => { text := (if b then "true" else "false").toList }
  | .int n => { text := (Text.showInt n).toList }
  | .real x => { text := (realText x).toList }
  | _ => { text := "null".toList }

/-- The form of a key. -/
def ScalarForm.ofKey : Key → ScalarForm
  | .text s => ofText s
  | .bytes bs => ofBytes bs
  | .int n => ofValue (.int n)
  | .real x => ofValue (.real x)
  | .bool b => ofValue (.bool b)
  | .null | .foreign => ofValue .null

/-- Writes a scalar, on one line if it is a short key. -/
def ScalarForm.write (f : ScalarForm) (p : Pen) (indent : Nat) (isKey : Bool) : Pen :=
  let p := match f.tag with
    | some tag => p.indicator tag.toList true false false
    | none => p
  if f.isLines then
    if f.text.isEmpty || isKey then writeDouble p indent (!isKey) f.text
    else writeLines p indent f.text
  else if f.plain && allowsPlain f.text then writePlain p indent (!isKey) f.text
  else if allowsSingle f.text then writeSingle p indent (!isKey) f.text
  else writeDouble p indent (!isKey) f.text

/-- The greatest length in bytes of a key that its value can stand beside. -/
def maxKeyBytes : Nat := 128

/-- Is the key short and on one line, so that its value can stand beside it? -/
def ScalarForm.isSimpleKey (f : ScalarForm) : Bool :=
  let tagBytes := (f.tag.map String.utf8ByteSize).getD 0
  !f.text.any isBreak && (String.ofList f.text).utf8ByteSize + tagBytes ≤ maxKeyBytes

/-! ## Values -/

/-- Writes a key and what stands between it and its value. -/
def writeKey (p : Pen) (indent : Nat) (k : Key) : Pen :=
  let f := ScalarForm.ofKey k
  let p := p.indentTo indent
  if f.isSimpleKey then (f.write p (indent + 2) true).indicator [':'] false false false
  else
    let p := f.write (p.indicator ['?'] true false true) (indent + 2) false
    (p.indentTo indent).indicator [':'] true false true

/-- The column of the items of a list; those of a list that follows its key stand at the column of
    the key. -/
def itemColumn (p : Pen) (indent : Option Nat) (inTable : Bool) : Nat :=
  match indent with
  | none => 0
  | some n => if inTable && !p.fresh then n else n + 2

def writeEmptyList (p : Pen) : Pen :=
  (p.indicator ['['] true true false).indicator [']'] false false false

/-- Writes the names of a path as a list with a tag. -/
def writePath (p : Pen) (indent : Option Nat) (inTable : Bool) (path : String) : Pen :=
  let tag := "!!python/object/apply:pathlib.PosixPath"
  let p := p.indicator tag.toList true false false
  let parts := Text.PathName.parts path
  let column := itemColumn p indent inTable
  if parts.isEmpty then writeEmptyList p
  else parts.foldl (fun p part =>
    let p := (p.indentTo column).indicator ['-'] true false true
    (ScalarForm.ofText part).write p (column + 2) false) p

mutual

/-- Writes a value below a column. -/
def writeValue (p : Pen) (indent : Option Nat) (inTable : Bool) : Value → Pen
  | .table [] => (p.indicator ['\x7b'] true true false).indicator ['\x7d'] false false false
  | .list [] | .tuple [] => writeEmptyList p
  | .table entries => writeEntries p ((indent.map (· + 2)).getD 0) entries
  | .list items | .tuple items => writeItems p (itemColumn p indent inTable) items
  | .path path => writePath p indent inTable path
  | v => (ScalarForm.ofValue v).write p ((indent.map (· + 2)).getD 2) false

def writeEntries (p : Pen) (indent : Nat) : List (Key × Value) → Pen
  | [] => p
  | (k, v) :: es => writeEntries (writeValue (writeKey p indent k) (some indent) true v) indent es

def writeItems (p : Pen) (indent : Nat) : List Value → Pen
  | [] => p
  | v :: vs =>
    let p := (p.indentTo indent).indicator ['-'] true false true
    writeItems (writeValue p (some indent) false v) indent vs

end

/-- A value as a YAML text. -/
def print (v : Value) : String := ((writeValue {} none false v).indentTo 0).out

end FlipSat.Yaml
