import FlipSat.Formula.Basic
import FlipSat.Text.Blank

/-
  FlipSat: the line format. A line is a clause, `|` separates its literals, and a leading `!`
  negates a literal: `rain | !umbrella | wet`.
-/
namespace FlipSat

/-- Reads one literal: blanks around it and after its `!` do not count, the name is not empty and
    holds no further `!`. -/
def LiteralSpec.parse (line : Option Int) (text : List Char) : Except ParseFault LiteralSpec :=
  let piece := Text.trim text
  let fault (cause : ParseCause) : Except ParseFault LiteralSpec :=
    .error ⟨cause, line, some (String.ofList piece)⟩
  if piece.isEmpty then fault .emptyDisjunct
  else
    let negated := piece.head? == some '!'
    let name := if negated then Text.trim piece.tail else piece
    if name.isEmpty then fault .bareNegation
    else if name.contains '!' then fault .strayNegation
    else .ok ⟨String.ofList name, negated⟩

/-- Reads the literals of a clause from left to right. -/
def ClauseSpec.parsePieces (line : Option Int) : List (List Char) → Except ParseFault ClauseSpec
  | [] => .ok []
  | piece :: pieces => do
    let l ← LiteralSpec.parse line piece
    let ls ← parsePieces line pieces
    .ok (l :: ls)

/-- Reads a clause. -/
def ClauseSpec.parse (line : Option Int) (text : List Char) : Except ParseFault ClauseSpec :=
  ClauseSpec.parsePieces line (Text.splitOn '|' text)

/-- The lines without the blank ones at the end. -/
def dropBlankEnd (lines : List (List Char)) : List (List Char) :=
  (lines.reverse.dropWhile Text.allBlank).reverse

/-- Reads one clause a line; `n` is the number of the first line. -/
def Formula.parseFrom (n : Nat) : List (List Char) → Except ParseFault Formula
  | [] => .ok []
  | line :: lines => do
    let c ← ClauseSpec.parse (some n) line
    let cs ← parseFrom (n + 1) lines
    .ok (c :: cs)

/-- Reads a formula in the line format. Blank lines at the end do not count; any other blank line
    is an empty literal. -/
def Formula.parseLines (lines : List String) : Except ParseFault Formula :=
  Formula.parseFrom 1 (dropBlankEnd (lines.map String.toList))

end FlipSat
