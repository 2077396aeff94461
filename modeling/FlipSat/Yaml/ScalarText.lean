import FlipSat.Yaml.Cursor

/-
  FlipSat: the three ways to write a YAML scalar: between quotes, as a block of indented lines, and
  plainly. Each function starts at the first character of the scalar and gives its text.
-/
namespace FlipSat.Yaml

/-! ## Between quotes -/

/-- The breaks of the empty lines inside a quoted scalar. -/
def quotedBreaks : Nat → Scan (List Char)
  | 0 => pure []
  | n + 1 => do
    require !(← get).atSeparator
    discard (takeWhile fun c => c == ' ' || c == '\t')
    if isBreak (← peek) then
      let b ← takeBreak
      return b ++ (← quotedBreaks n)
    else return []

/-- What an escape of one character stands for. -/
def simpleEscapes : List (Char × Char) := [
  ('0', '\x00'), ('a', '\x07'), ('b', '\x08'), ('t', '\t'), ('\t', '\t'), ('n', '\n'),
  ('v', '\x0b'), ('f', '\x0c'), ('r', '\r'), ('e', '\x1b'), (' ', ' '), ('\x22', '\x22'),
  ('\\', '\\'), ('/', '/'), ('N', '\u0085'), ('_', '\u00a0'), ('L', '\u2028'), ('P', '\u2029')]

/-- How many hexadecimal digits follow an escape. -/
def hexEscapes : List (Char × Nat) := [('x', 2), ('u', 4), ('U', 8)]

/-- An escape, after its backslash. -/
def takeEscape : Scan (List Char) := do
  let c ← peek
  match simpleEscapes.lookup c, hexEscapes.lookup c with
  | some d, _ =>
    forward 1
    return [d]
  | none, some width =>
    forward 1
    let ds := (← get).rest.take width
    require (ds.length == width && ds.all isHexDigit)
    let n := ofHex ds
    if (← dialect).strictEscapes then require (decide (n.isValidChar))
    if n > 0x10FFFF then throw .badNumber
    forward width
    return [Char.ofNat (ofHex ds)]
  | none, none =>
    require (isBreak c)
    discard takeBreak
    quotedBreaks (← remaining)

/-- Everything up to the next blank or the closing quote. -/
def quotedRun (double : Bool) : Nat → Scan (List Char)
  | 0 => pure []
  | n + 1 => do
    let run ← takeWhile fun c =>
      !(c == '\x27' || c == '\x22' || c == '\\' || isBlankOrEnd c)
    let c ← peek
    let more (piece : List Char) : Scan (List Char) := do
      return run ++ piece ++ (← quotedRun double n)
    if !double && c == '\x27' && (← peekAt 1) == '\x27' then
      forward 2
      more ['\x27']
    else if (double && c == '\x27') || (!double && (c == '\x22' || c == '\\')) then
      forward 1
      more [c]
    else if double && c == '\\' then
      forward 1
      more (← takeEscape)
    else return run

/-- Blanks inside quotes: a single line break is a space, empty lines are breaks. -/
def quotedBlanks : Scan (List Char) := do
  let blanks ← takeWhile fun c => c == ' ' || c == '\t'
  let c ← peek
  require (c != '\x00')
  if isBreak c then
    let b ← takeBreak
    let breaks ← quotedBreaks (← remaining)
    return (if b != ['\n'] then b else if breaks.isEmpty then [' '] else []) ++ breaks
  else return blanks

/-- Blanks and runs up to the closing quote. -/
def quotedPieces (double : Bool) (quote : Char) : Nat → Scan (List Char)
  | 0 => throw .yaml
  | n + 1 => do
    if (← peek) == quote then return []
    let blanks ← quotedBlanks
    let run ← quotedRun double (← remaining)
    return blanks ++ run ++ (← quotedPieces double quote n)

/-- A scalar between single or double quotes. -/
def quotedScalar : Scan (List Char) := do
  let quote ← peek
  let double := quote == '\x22'
  forward 1
  let run ← quotedRun double (← remaining)
  let pieces ← quotedPieces double quote (← remaining)
  forward 1
  return run ++ pieces

/-! ## Blocks -/

/-- What becomes of the line breaks at the end of a block. -/
inductive Chomping where
  | clip
  | strip
  | keep
deriving DecidableEq

/-- A sign for the end of a block, if there is one. -/
def takeChomping : Scan Chomping := do
  let c ← peek
  if c == '+' || c == '-' then
    forward 1
    return if c == '+' then .keep else .strip
  else return .clip

/-- An indentation given as a digit, if there is one. -/
def takeIndentation : Scan (Option Nat) := do
  let c ← peek
  if '0' ≤ c && c ≤ '9' then
    require (c != '0')
    forward 1
    return some (c.toNat - 48)
  else return none

/-- The sign and the digit after the indicator of a block, in either order. A comment may follow
    directly where tabs may stand. -/
def blockHeader : Scan (Chomping × Option Nat) := do
  let chomping ← takeChomping
  let indentation ← takeIndentation
  let chomping ← if chomping == .clip then takeChomping else pure chomping
  if !(← dialect).tabs then requireGap
  return (chomping, indentation)

/-- Fails at a tab that stands in the way of an indentation, where tabs are known. -/
def refuseTab : Scan Unit := do
  require !((← dialect).tabs && (← peek) == '\t')

/-- The breaks of the empty lines at the start of a block, and the deepest column that blanks
    reach on them. -/
def blockStart (deepest : Nat) : Nat → Scan (List Char × Nat)
  | 0 => pure ([], deepest)
  | n + 1 => do
    let c ← peek
    if isBreak c then
      let b ← takeBreak
      let (breaks, deepest) ← blockStart deepest n
      return (b ++ breaks, deepest)
    else if c == ' ' then
      forward 1
      blockStart (max deepest (← get).column) n
    else
      refuseTab
      return ([], deepest)

/-- Skips blanks up to a column. -/
def skipTo (column : Nat) : Scan Unit := do
  let c ← get
  forward ((c.rest.take (column - c.column)).takeWhile (· == ' ')).length

/-- The breaks of empty lines inside a block. -/
def blockBreaks (indent : Nat) : Nat → Scan (List Char)
  | 0 => pure []
  | n + 1 => do
    skipTo indent
    if (← get).column < indent then refuseTab
    if isBreak (← peek) then
      let b ← takeBreak
      return b ++ (← blockBreaks indent n)
    else return []

/-- The lines of a block; `breaks` are those of the empty lines before. The result is the text
    before the last line break, that break, and the breaks after it. -/
def blockLines (folded : Bool) (indent : Nat) (breaks lastBreak : List Char) :
    Nat → Scan (List Char × List Char × List Char)
  | 0 => pure ([], lastBreak, breaks)
  | n + 1 => do
    if !((← get).column == indent && (← peek) != '\x00') then return ([], lastBreak, breaks)
    let first ← peek
    let line ← takeWhile fun c => !isLineEnd c
    let b ← takeBreak
    let after ← blockBreaks indent (← remaining)
    let next ← peek
    if (← get).column == indent && next != '\x00' then
      let isBlank (c : Char) : Bool := c == ' ' || c == '\t'
      let joint :=
        if folded && b == ['\n'] && !isBlank first && !isBlank next then
          if after.isEmpty then [' '] else []
        else b
      let (lines, lastBreak, tail) ← blockLines folded indent after b n
      return (breaks ++ line ++ joint ++ lines, lastBreak, tail)
    else return (breaks ++ line, b, after)

/-- A scalar of indented lines; `parent` is the column that it has to be deeper than. -/
def blockScalar (folded : Bool) (parent : Int) : Scan (List Char) := do
  forward 1
  let (chomping, given) ← blockHeader
  skipLineEnd
  let least := (max (parent + 1) 1).toNat
  let (breaks, indent) ← match given with
    | none => do
      let (breaks, deepest) ← blockStart 0 (← remaining)
      pure (breaks, max least deepest)
    | some digit => do
      let indent := least + digit - 1
      pure (← blockBreaks indent (← remaining), indent)
  let (text, lastBreak, tail) ← blockLines folded indent breaks [] (← remaining)
  return text ++ (if chomping == .strip then [] else lastBreak) ++
    (if chomping == .keep then tail else [])

/-! ## Plain -/

/-- The breaks of empty lines inside a plain scalar, and whether the text goes on after them. A tab
    may not stand in front of the column that the scalar has to reach. -/
def plainBreaks (indent : Int) : Nat → Scan (List Char × Bool)
  | 0 => pure ([], true)
  | n + 1 => do
    let c ← peek
    if isGap (← dialect) c then
      require (c != '\t' || indent ≤ (← get).column)
      forward 1
      plainBreaks indent n
    else if isBreak c then
      let b ← takeBreak
      if (← get).atSeparator then return ([], false)
      let (breaks, more) ← plainBreaks indent n
      return (b ++ breaks, more)
    else return ([], true)

/-- Blanks inside a plain scalar: what they stand for if the scalar goes on after them, and
    whether there was a line break. -/
def plainBlanks (indent : Int) : Scan (List Char × Bool) := do
  let d ← dialect
  let blanks ← takeWhile (isGap d)
  if isBreak (← peek) then
    let b ← takeBreak
    if (← get).atSeparator then return ([], true)
    let (breaks, more) ← plainBreaks indent (← remaining)
    if !more then return ([], true)
    return ((if b != ['\n'] then b else if breaks.isEmpty then [' '] else []) ++ breaks, true)
  else return (blanks, false)

def isFlowIndicator (c : Char) : Bool :=
  c == ',' || c == '[' || c == ']' || c == '\x7b' || c == '\x7d'

/-- The characters of a plain scalar up to the next blank or indicator. -/
def plainRun (d : Dialect) (flow : Bool) : List Char → List Char
  | [] => []
  | c :: s =>
    let next := s.headD '\x00'
    let colonEnds :=
      isBlankOrEnd next || (flow && (isFlowIndicator next || (d.spacedColons && next == '?')))
    if isBlankOrEnd c || (c == ':' && colonEnds) ||
        (flow && (isFlowIndicator c || (!d.spacedColons && c == '?'))) then []
    else c :: plainRun d flow s

/-- The pieces of a plain scalar, and whether a line break follows the last one. -/
def plainPieces (flow : Bool) (indent : Int) (blanks : List Char) (broken : Bool) :
    Nat → Scan (List Char × Bool)
  | 0 => pure ([], broken)
  | n + 1 => do
    if (← peek) == '#' then return ([], broken)
    let d ← dialect
    let run := plainRun d flow (← get).rest
    forward run.length
    if d.spacedColons && flow then
      require ((← peek) != ':' || isBlankOrEnd (← peekAt 1))
    if run.isEmpty then return ([], broken)
    let (after, broken) ← plainBlanks indent
    if after.isEmpty || (← peek) == '#' || (!flow && ((← get).column : Int) < indent) then
      return (blanks ++ run, broken)
    let (pieces, broken) ← plainPieces flow indent after broken n
    return (blanks ++ run ++ pieces, broken)

/-- A plain scalar, and whether a line break follows it; outside of brackets it goes on only on
    lines that are deeper than `parent`. -/
def plainScalar (flow : Bool) (parent : Int) : Scan (List Char × Bool) := do
  plainPieces flow (parent + 1) [] false (← remaining)

end FlipSat.Yaml
