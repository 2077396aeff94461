import FlipSat.Text.Utf8
import FlipSat.Yaml.ScalarText

/-
  FlipSat: the tokens of a YAML text. Indentation turns into tokens of its own, and a key is only
  known as one when its colon is met, so the token that announces it is put in front afterwards.
-/
namespace FlipSat.Yaml

inductive Token where
  | version (major minor : Nat)
  | tagPrefix (handle start : String)
  | otherDirective
  | documentStart
  | documentEnd
  | streamEnd
  | sequenceStart
  | mappingStart
  | blockEnd
  | openBracket
  | closeBracket
  | openBrace
  | closeBrace
  | comma
  | entry
  | key
  | value
  | mention (name : String)
  | anchor (name : String)
  | tag (handle : Option String) (suffix : String)
  | scalar (text : String) (plain : Bool)
  | fault (e : Raised)

/-! ## Tags, anchors and directives -/

/-- The characters of a tag; commas and square brackets only where they cannot end it. -/
def isTagChar (commas : Bool) (c : Char) : Bool :=
  isWord c || c == ';' || c == '/' || c == '?' || c == ':' || c == '@' || c == '&' || c == '=' ||
    c == '+' || c == '$' || c == '.' || c == '!' || c == '~' || c == '*' || c == '\x27' ||
    c == '(' || c == ')' || (commas && (c == ',' || c == '[' || c == ']'))

/-- A run of at most `most` escaped bytes. -/
def escapedBytes : (most : Nat) → Scan (List UInt8)
  | 0 => pure []
  | n + 1 => do
    if (← peek) == '%' then
      let ds := (← get).rest.tail.take 2
      require (ds.length == 2 && ds.all isHexDigit)
      forward 3
      return UInt8.ofNat (ofHex ds) :: (← escapedBytes n)
    else return []

/-- How many bytes a character has that starts with this one. -/
def bytesFrom? (b : UInt8) : Option Nat :=
  if b < 0x80 then some 1
  else if b < 0xC0 then none
  else if b < 0xE0 then some 2
  else if b < 0xF0 then some 3
  else if b < 0xF8 then some 4
  else none

/-- Escaped bytes, which have to be the UTF-8 form of some text. Where tags are short they make one
    character, and a form that is not the shortest one for it is told apart. -/
def escapedText : Scan (List Char) := do
  let strict := (← dialect).shortTags
  let first ← escapedBytes 1
  let rest ←
    if strict then do
      let width := (first.head?.bind bytesFrom?).getD 0
      let rest ← escapedBytes (width - 1)
      require (width != 0 && rest.length + 1 == width && rest.all fun b => b &&& 0xC0 == 0x80)
      pure rest
    else do escapedBytes (← remaining)
  match Text.ofUtf8 ⟨(first ++ rest).toArray⟩ with
  | .ok s => return s.toList
  | .error _ => throw (if strict then .badEncoding else .yaml)

/-- The pieces of a tag: characters as they are, and escaped ones. -/
def tagPieces (commas : Bool) : Nat → Scan (List Char)
  | 0 => pure []
  | n + 1 => do
    let run ← takeWhile (isTagChar commas)
    if (← peek) == '%' then
      let text ← escapedText
      return run ++ text ++ (← tagPieces commas n)
    else return run

/-- The part of a tag after its handle. -/
def takeTagSuffix (commas : Bool) : Scan String := do
  let before ← remaining
  let text ← tagPieces commas before
  require ((← remaining) < before)
  return String.ofList text

/-- The handle of a tag: `!`, or a word between two of them. -/
def takeTagHandle : Scan String := do
  require ((← peek) == '!')
  forward 1
  if (← peek) == ' ' then return "!"
  let word ← takeWhile isWord
  if (← dialect).shortTags && word.isEmpty && (← peek) != '!' then return "!"
  require ((← peek) == '!')
  forward 1
  return String.ofList ('!' :: word ++ ['!'])

/-- Does a second `!` stand in the tag at the cursor? -/
def hasHandle (rest : List Char) : Bool :=
  (rest.tail.takeWhile fun c => !isSpaceOrEnd c).contains '!'

/-- A tag with an optional handle. -/
def takeTagParts : Scan Token := do
  let handle ← if hasHandle (← get).rest then takeTagHandle else do forward 1; pure "!"
  let suffix ← takeTagSuffix true
  return .tag (some handle) suffix

/-- A tag with an optional handle, which has to be one as far as it goes. -/
def takeShortTag : Scan Token := do
  forward 1
  let word ← takeWhile isWord
  if (← peek) == '!' then
    forward 1
    let suffix ← takeTagSuffix false
    return .tag (some (String.ofList ('!' :: word ++ ['!']))) suffix
  else
    let suffix := word ++ (← tagPieces false (← remaining))
    return if suffix.isEmpty then .tag none "!" else .tag (some "!") (String.ofList suffix)

/-- A tag. -/
def takeTag (flow : Bool) : Scan Token := do
  let short := (← dialect).shortTags
  let c ← peekAt 1
  let token ←
    if c == '<' then do
      forward 2
      let suffix ← takeTagSuffix true
      require ((← peek) == '>')
      forward 1
      pure (Token.tag none suffix)
    else if isBlankOrEnd c then do
      forward 1
      pure (Token.tag none "!")
    else if short then takeShortTag
    else takeTagParts
  if !(short && flow && (← peek) == ',') then requireGap
  return token

/-- The name of an anchor or of a reference to one, after its indicator. -/
def takeAnchorName : Scan String := do
  forward 1
  let word ← takeWhile isWord
  let c ← peek
  require (!word.isEmpty && (isBlankOrEnd c || c == '?' || c == ':' || c == ',' || c == ']' ||
    c == '\x7d' || c == '%' || c == '@' || c == '\u0060'))
  return String.ofList word

/-- A number in a directive. -/
def takeVersionPart : Scan Nat := do
  let ds ← takeWhile fun c => '0' ≤ c && c ≤ '9'
  require (!ds.isEmpty && !((← dialect).knownDirectives && 9 < ds.length))
  return Text.ofDigits (ds.map fun c => c.toNat - 48)

/-- The version of YAML in a directive. -/
def takeVersion : Scan Token := do
  skipGaps
  let major ← takeVersionPart
  require ((← peek) == '.')
  forward 1
  let minor ← takeVersionPart
  if !(← dialect).knownDirectives then requireGap
  return .version major minor

/-- What a handle of tags stands for, in a directive. -/
def takeTagPrefix : Scan Token := do
  let d ← dialect
  skipGaps
  let handle ← takeTagHandle
  require (isGap d (← peek))
  skipGaps
  let start ← takeTagSuffix true
  requireGap
  return .tagPrefix handle start

/-- A directive. -/
def takeDirective : Scan Token := do
  forward 1
  let name ← takeWhile isWord
  require !name.isEmpty
  requireGap
  let token ← match String.ofList name with
    | "YAML" => takeVersion
    | "TAG" => takeTagPrefix
    | _ => do
      require !(← dialect).knownDirectives
      discard (takeWhile fun c => !isLineEnd c)
      pure Token.otherDirective
  skipLineEnd
  return token

/-! ## Indentation and keys -/

/-- A token that turns out to be a key if a colon follows it: how many tokens were there before
    it, whether it has to be a key, and where it starts. -/
structure KeyCandidate where
  before : Nat
  required : Bool
  start : Cursor

/-- What is known between two tokens. There is at most one candidate for each depth of brackets;
    `indents` holds the columns of the collections around the current one. -/
structure Layout where
  dialect : Dialect
  cursor : Cursor
  tokens : Array Token := #[]
  depth : Nat := 0
  indent : Int := -1
  indents : List Int := []
  keyAllowed : Bool := true
  candidates : List (Nat × KeyCandidate) := []

abbrev Lay := StateT Layout (Except Raised)

namespace Layout

/-- Reads at the cursor. -/
def scan {α : Type} (s : Scan α) : Lay α := fun l =>
  match s l.dialect l.cursor with
  | .ok (a, cursor) => .ok (a, { l with cursor := cursor })
  | .error e => .error e

def emit (t : Token) : Lay Unit := modify fun l => { l with tokens := l.tokens.push t }

/-- Fails unless a condition holds. -/
def demand (b : Bool) : Lay Unit := if b then pure () else throw .yaml

def allowKey (b : Bool) : Lay Unit := modify fun l => { l with keyAllowed := b }

/-- Drops candidates that are too far away for a key, which is all on one line and short. -/
def dropStale : Lay Unit := do
  let l ← get
  let isStale (k : KeyCandidate) : Bool :=
    k.start.line != l.cursor.line || l.cursor.index > k.start.index + 1024
  demand !(l.candidates.any fun (_, k) => isStale k && k.required)
  set { l with candidates := l.candidates.filter fun (_, k) => !isStale k }

/-- Drops the candidate of the current depth. -/
def dropCandidate : Lay Unit := do
  let l ← get
  demand !(((l.candidates.lookup l.depth).map (·.required)).getD false)
  set { l with candidates := l.candidates.filter (·.1 != l.depth) }

/-- The next token may be a key. -/
def saveCandidate : Lay Unit := do
  let l ← get
  if l.keyAllowed then
    dropCandidate
    let required := l.depth == 0 && l.indent == (l.cursor.column : Int)
    modify fun l => { l with
      candidates := (l.depth, ⟨l.tokens.size, required, l.cursor⟩) :: l.candidates }

/-- Ends collections that are deeper than a column. -/
def unwindWith (column : Int) (tokens : Array Token) (indent : Int) :
    List Int → Array Token × Int × List Int
  | [] => (tokens, indent, [])
  | i :: is =>
    if column < indent then unwindWith column (tokens.push .blockEnd) i is
    else (tokens, indent, i :: is)

def unwind (column : Int) : Lay Unit := modify fun l =>
  if l.depth > 0 then l
  else
    let (tokens, indent, indents) := unwindWith column l.tokens l.indent l.indents
    { l with tokens := tokens, indent := indent, indents := indents }

/-- Starts a collection at a column, if it is deeper than the current one. -/
def addIndent (column : Nat) : Lay Bool := do
  let l ← get
  if l.indent < (column : Int) then
    set { l with indents := l.indent :: l.indents, indent := (column : Int) }
    return true
  else return false

/-- Skips blanks between tokens. Tabs count only where no key may start. -/
def skipBlanks : Lay Unit := do
  let l ← get
  let tabs := l.dialect.tabs && (l.depth > 0 || !l.keyAllowed)
  scan (discard (takeWhile fun c => c == ' ' || (tabs && c == '\t')))

/-- Skips a byte order mark at the start of a line, where one may stand there. -/
def skipMark : Lay Unit := do
  let l ← get
  if l.dialect.marks && l.cursor.column == 0 && l.cursor.peek 0 == byteOrderMark then
    scan (forward 1)

/-- Skips blanks, comments and line breaks. After a line break outside of brackets there may be a
    key. -/
def skipToToken : Nat → Lay Unit
  | 0 => pure ()
  | n + 1 => do
    skipMark
    skipBlanks
    scan skipComment
    let b ← scan takeBreak
    if !b.isEmpty then
      if (← get).depth == 0 then allowKey true
      skipToToken n

/-- An indicator that only ends a token. -/
def closeWith (t : Token) : Lay Unit := do
  dropCandidate
  scan (forward 1)
  emit t

/-- A document separator or a directive ends everything that is open. -/
def endDocument : Lay Unit := do
  unwind (-1)
  dropCandidate
  allowKey false

/-- One of `-`, `?` and `:` outside of brackets, where a new collection may start. -/
def openBlock (start : Token) : Lay Unit := do
  let l ← get
  if l.depth == 0 then
    demand l.keyAllowed
    if ← addIndent l.cursor.column then emit start

/-- A `:`; the candidate for a key, if there is one, becomes a key. -/
def takeValue : Lay Unit := do
  let l ← get
  match l.candidates.lookup l.depth with
  | some k =>
    set { l with
      candidates := l.candidates.filter (·.1 != l.depth)
      tokens := l.tokens.insertIdxIfInBounds k.before .key
      keyAllowed := false }
    if l.depth == 0 then
      if ← addIndent k.start.column then
        modify fun l => { l with tokens := l.tokens.insertIdxIfInBounds k.before .mappingStart }
  | none =>
    openBlock .mappingStart
    allowKey (l.depth == 0)
    dropCandidate
  scan (forward 1)
  emit .value

/-- A token that may be a key, read by `s`. -/
def takeKeyLike (s : Scan Token) : Lay Unit := do
  saveCandidate
  allowKey false
  emit (← scan s)

/-- May a plain scalar start at the cursor? -/
def startsPlain (l : Layout) : Bool :=
  let c := l.cursor.peek 0
  let isIndicator := c == '-' || c == '?' || c == ':' || isFlowIndicator c || c == '#' ||
    c == '&' || c == '*' || c == '!' || c == '|' || c == '>' || c == '\x27' || c == '\x22' ||
    c == '%' || c == '@' || c == '\u0060'
  (!isBlankOrEnd c && !isIndicator) ||
    (!isBlankOrEnd (l.cursor.peek 1) && (c == '-' || (l.depth == 0 && (c == '?' || c == ':'))))

/-- Reads the next token. Is there more after it? -/
def step : Lay Bool := do
  skipToToken ((← get).cursor.rest.length + 1)
  dropStale
  unwind (← get).cursor.column
  let l ← get
  let c := l.cursor.peek 0
  let flow := l.depth > 0
  let apart := isBlankOrEnd (l.cursor.peek 1)
  if l.cursor.rest.isEmpty then
    endDocument
    emit .streamEnd
    return false
  else if c == '%' && l.cursor.column == 0 then
    endDocument
    emit (← scan takeDirective)
  else if l.cursor.column == 0 && l.cursor.atSeparator then
    endDocument
    scan (forward 3)
    emit (if c == '-' then .documentStart else .documentEnd)
  else if c == '[' || c == '\x7b' then
    saveCandidate
    modify fun l => { l with depth := l.depth + 1, keyAllowed := true }
    scan (forward 1)
    emit (if c == '[' then .openBracket else .openBrace)
  else if c == ']' || c == '\x7d' then
    dropCandidate
    modify fun l => { l with depth := l.depth - 1, keyAllowed := false }
    scan (forward 1)
    emit (if c == ']' then .closeBracket else .closeBrace)
  else if c == ',' then
    allowKey true
    closeWith .comma
  else if c == '-' && apart then
    openBlock .sequenceStart
    allowKey true
    closeWith .entry
  else if c == '?' && (flow || apart) then
    openBlock .mappingStart
    allowKey !flow
    closeWith .key
  else if c == ':' && (flow || apart) then takeValue
  else if c == '*' then takeKeyLike do return .mention (← takeAnchorName)
  else if c == '&' then takeKeyLike do return .anchor (← takeAnchorName)
  else if c == '!' then takeKeyLike (takeTag flow)
  else if (c == '|' || c == '>') && !flow then
    allowKey true
    dropCandidate
    let text ← scan (blockScalar (c == '>') l.indent)
    emit (.scalar (String.ofList text) false)
  else if c == '\x27' || c == '\x22' then
    takeKeyLike do return .scalar (String.ofList (← quotedScalar)) false
  else
    demand l.startsPlain
    saveCandidate
    let (text, broken) ← scan (plainScalar flow l.indent)
    allowKey broken
    emit (.scalar (String.ofList text) true)
  return true

/-- Reads tokens up to the end, or up to a fault, which becomes the last token. -/
def run (l : Layout) : Nat → Array Token
  | 0 => l.tokens
  | n + 1 =>
    match step l with
    | .ok (true, l) => run l n
    | .ok (false, l) => l.tokens
    | .error e => l.tokens.push (.fault e)

end Layout

/-- The characters that a YAML text may hold. -/
def isYamlChar (c : Char) : Bool :=
  let n := c.toNat
  n == 0x09 || n == 0x0A || n == 0x0D || (0x20 ≤ n && n ≤ 0x7E) || n == 0x85 ||
    (0xA0 ≤ n && n ≤ 0xD7FF) || (0xE000 ≤ n && n ≤ 0xFFFD) || 0x10000 ≤ n

/-- The tokens of a text; a byte order mark at its start is skipped. -/
def tokens (d : Dialect) (text : List Char) : List Token :=
  if !text.all isYamlChar then [.fault .yaml]
  else
    let text := if text.head? == some byteOrderMark then text.tail else text
    (Layout.run { dialect := d, cursor := { rest := text } } (text.length + 1)).toList

end FlipSat.Yaml
