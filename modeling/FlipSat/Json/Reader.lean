import FlipSat.Text.Numeral

/-
  FlipSat: reading JSON. Characters are put together to tokens, one at a time and with no look at
  what is to come, and tokens to a tree in the same way. Numbers stay as they are written.
-/
namespace FlipSat.Json

/-- What a JSON text says. -/
inductive Tree where
  | null
  | bool (b : Bool)
  | number (word : String)
  | text (s : String)
  | list (items : List Tree)
  | table (entries : List (String × Tree))
deriving Repr, Inhabited

/-- The entry of a table with a name. -/
def Tree.get? (t : Tree) (name : String) : Option Tree :=
  match t with
  | .table entries => entries.lookup name
  | _ => none

inductive Token where
  | openList
  | closeList
  | openTable
  | closeTable
  | comma
  | colon
  | word (s : String)
  | text (s : String)
deriving DecidableEq, Repr

/-! ## Texts between quotes -/

/-- The UTF-16 units of a character. -/
def unitsOf (c : Char) : List Nat :=
  let n := c.toNat
  if n < 0x10000 then [n] else [0xD800 + (n - 0x10000) / 0x400, 0xDC00 + (n - 0x10000) % 0x400]

/-- The text with some UTF-16 units. Halves of pairs do not stand alone. -/
def ofUnits? : List Nat → Option (List Char)
  | [] => some []
  | [u] => if 0xD800 ≤ u && u < 0xE000 then none else some [Char.ofNat u]
  | u :: v :: us =>
    if 0xD800 ≤ u && u < 0xDC00 then
      if 0xDC00 ≤ v && v < 0xE000 then
        (ofUnits? us).map (Char.ofNat (0x10000 + (u - 0xD800) * 0x400 + (v - 0xDC00)) :: ·)
      else none
    else if 0xDC00 ≤ u && u < 0xE000 then none
    else (ofUnits? (v :: us)).map (Char.ofNat u :: ·)

/-- The character that a backslash and a letter stand for. -/
def escaped? (c : Char) : Option Char :=
  match c with
  | '\x22' => some '\x22'
  | '\\' => some '\\'
  | '/' => some '/'
  | 'b' => some '\x08'
  | 'f' => some '\x0c'
  | 'n' => some '\n'
  | 'r' => some '\r'
  | 't' => some '\t'
  | _ => none

/-- The value of a hexadecimal digit. -/
def hexDigit? (c : Char) : Option Nat :=
  if '0' ≤ c ∧ c ≤ '9' then some (c.toNat - 48)
  else if 'a' ≤ c ∧ c ≤ 'f' then some (c.toNat - 87)
  else if 'A' ≤ c ∧ c ≤ 'F' then some (c.toNat - 55)
  else none

/-! ## Tokens -/

/-- The token that a character is by itself. -/
def mark? (c : Char) : Option Token :=
  match c with
  | '[' => some .openList
  | ']' => some .closeList
  | '\x7b' => some .openTable
  | '\x7d' => some .closeTable
  | ',' => some .comma
  | ':' => some .colon
  | _ => none

def isBlank (c : Char) : Bool := c == ' ' || c == '\n' || c == '\r' || c == '\t'

/-- May the character stand in a word? -/
def inWord (c : Char) : Bool := c.isAlphanum || c == '-' || c == '+' || c == '.'

/-- What a reader of tokens is in the middle of. -/
inductive Stage where
  /-- Nothing. -/
  | between
  /-- A word, of which it has seen some characters. -/
  | word (cs : List Char)
  /-- A text between quotes, of which it has seen some units. -/
  | text (units : List Nat)
  /-- A backslash between quotes. -/
  | escaped (units : List Nat)
  /-- A unit between quotes that is written with hexadecimal digits, of which some are left. -/
  | unit (units : List Nat) (value left : Nat)
  /-- What no JSON text holds. -/
  | broken
deriving DecidableEq, Repr

/-- A reader of tokens: what it has read, and what it is in the middle of. -/
structure Lexer where
  tokens : List Token := []
  stage : Stage := .between
deriving DecidableEq, Repr

namespace Lexer

/-- Takes a token that has come to its end. -/
def emit (l : Lexer) (t : Token) : Lexer := { tokens := l.tokens ++ [t], stage := .between }

def readBetween (l : Lexer) (c : Char) : Lexer :=
  match mark? c with
  | some t => l.emit t
  | none =>
    if isBlank c then { l with stage := .between }
    else if c = '\x22' then { l with stage := .text [] }
    else if inWord c then { l with stage := .word [c] }
    else { l with stage := .broken }

/-- Reads a character between quotes. -/
def readText (l : Lexer) (units : List Nat) (c : Char) : Lexer :=
  if c = '\x22' then
    match ofUnits? units with
    | some s => l.emit (.text (String.ofList s))
    | none => { l with stage := .broken }
  else if c = '\\' then { l with stage := .escaped units }
  else if c.toNat < 0x20 then { l with stage := .broken }
  else { l with stage := .text (units ++ unitsOf c) }

def readEscaped (l : Lexer) (units : List Nat) (c : Char) : Lexer :=
  if c = 'u' then { l with stage := .unit units 0 4 }
  else
    match escaped? c with
    | some d => { l with stage := .text (units ++ unitsOf d) }
    | none => { l with stage := .broken }

def readUnit (l : Lexer) (units : List Nat) (value left : Nat) (c : Char) : Lexer :=
  match hexDigit? c with
  | none => { l with stage := .broken }
  | some d =>
    if left = 1 then { l with stage := .text (units ++ [16 * value + d]) }
    else { l with stage := .unit units (16 * value + d) (left - 1) }

/-- Reads a character. One that is in no word ends a word. -/
def read (l : Lexer) (c : Char) : Lexer :=
  match l.stage with
  | .between => l.readBetween c
  | .word cs =>
    if inWord c then { l with stage := .word (cs ++ [c]) }
    else (l.emit (.word (String.ofList cs))).readBetween c
  | .text units => l.readText units c
  | .escaped units => l.readEscaped units c
  | .unit units value left => l.readUnit units value left c
  | .broken => l

end Lexer

/-- The tokens of a text. A blank behind it ends its last word. -/
def tokens? (s : List Char) : Option (List Token) :=
  let l := (s ++ [' ']).foldl Lexer.read {}
  if l.stage = .between then some l.tokens else none

/-! ## Trees -/

/-- May the character stand in a number? -/
def inNumber (c : Char) : Bool :=
  c.isDigit || c == '-' || c == '+' || c == '.' || c == 'e' || c == 'E'

/-- The tree of a word: a number is made of digits and signs, or is one of three words that are not
    standard. -/
def wordTree? (w : String) : Option Tree :=
  match w with
  | "null" => some .null
  | "true" => some (.bool true)
  | "false" => some (.bool false)
  | "NaN" | "Infinity" | "-Infinity" => some (.number w)
  | w => if w.toList.all inNumber then some (.number w) else none

/-- A list or a table that is open: what was read of it, and the name of the value to come. -/
inductive Frame where
  | list (before : List Tree)
  | entry (before : List (String × Tree)) (name : String)

/-- What a reader of trees waits for inside of the lists and tables that are open. -/
inductive Parse where
  /-- A value. -/
  | value (frames : List Frame)
  /-- A value, or the end of the list that was just opened. -/
  | firstItem (frames : List Frame)
  /-- A name. -/
  | key (frames : List Frame) (before : List (String × Tree))
  /-- A name, or the end of the table that was just opened. -/
  | firstKey (frames : List Frame)
  /-- The colon behind a name. -/
  | colon (frames : List Frame) (before : List (String × Tree)) (name : String)
  /-- What comes behind a value. -/
  | done (frames : List Frame) (t : Tree)
  /-- Nothing any more. -/
  | broken

namespace Parse

/-- Reads the first token of a value. -/
def begin (frames : List Frame) (token : Token) : Parse :=
  match token with
  | .openList => .firstItem frames
  | .openTable => .firstKey frames
  | .text s => .done frames (.text s)
  | .word w =>
    match wordTree? w with
    | some t => .done frames t
    | none => .broken
  | _ => .broken

/-- Reads a name in a table. -/
def keyIn (frames : List Frame) (before : List (String × Tree)) (token : Token) : Parse :=
  match token with
  | .text s => .colon frames before s
  | _ => .broken

def step (p : Parse) (token : Token) : Parse :=
  match p with
  | .value frames => begin frames token
  | .firstItem frames =>
    if token = .closeList then .done frames (.list []) else begin (.list [] :: frames) token
  | .key frames before => keyIn frames before token
  | .firstKey frames =>
    if token = .closeTable then .done frames (.table []) else keyIn frames [] token
  | .colon frames before name =>
    if token = .colon then .value (.entry before name :: frames) else .broken
  | .done (.list before :: frames) t =>
    match token with
    | .comma => .value (.list (before ++ [t]) :: frames)
    | .closeList => .done frames (.list (before ++ [t]))
    | _ => .broken
  | .done (.entry before name :: frames) t =>
    match token with
    | .comma => .key frames (before ++ [(name, t)])
    | .closeTable => .done frames (.table (before ++ [(name, t)]))
    | _ => .broken
  | .done [] _ => .broken
  | .broken => .broken

end Parse

/-- What a text says, if it is a JSON text. -/
def read? (s : String) : Option Tree := do
  let tokens ← tokens? s.toList
  match tokens.foldl Parse.step (.value []) with
  | .done [] t => some t
  | _ => none

/-- A table inside of a list, with a pair of surrogates in it. -/
example : read? "[1, \x7b\x22a\x22: \x22\\ud83d\\ude00\x22\x7d]" |>.isSome := by decide +kernel

end FlipSat.Json
