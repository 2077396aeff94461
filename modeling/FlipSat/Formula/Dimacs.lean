import FlipSat.Formula.Basic
import FlipSat.Text.Blank

/-
  FlipSat: the DIMACS format. A header `p cnf V C` announces the numbers of variables and clauses,
  lines that start with `c` are comments, a line that starts with `%` ends the text, and all other
  lines hold one stream of integers in which every zero ends a clause.
-/
namespace FlipSat

/-- A formula in DIMACS with what its text says about it. -/
structure Dimacs where
  formula : Formula
  comments : List String
  variableCount : Int
  clauseCount : Int
deriving DecidableEq, Repr

namespace Dimacs

/-- The name of a variable: `x` and its number. -/
def variableName (v : Int) : String := "x" ++ Text.showNat v.natAbs

/-- The literal that a non-zero integer stands for. -/
def literalOf (v : Int) : LiteralSpec := ⟨variableName v, v < 0⟩

/-- What has been gathered from the lines so far; comments and integers with the last one first. -/
structure Gathered where
  header : Option (Int × Int) := none
  comments : List String := []
  stream : List Int := []

/-- Reads a header line. -/
def parseHeader (n : Nat) (line : List Char) : Except ParseFault (Int × Int) :=
  let fault (cause : ParseCause) : Except ParseFault (Int × Int) :=
    .error ⟨cause, some n, some (String.ofList line)⟩
  match Text.words line with
  | _ :: kind :: vars :: clauses :: _ =>
    if kind == "cnf".toList then
      match Text.readInt? vars, Text.readInt? clauses with
      | some v, some c => .ok (v, c)
      | _, _ => fault .badHeaderNumbers
    else fault .badHeader
  | _ => fault .badHeader

/-- Adds the integers of a line to the stream. -/
def parseTokens (n : Nat) : List (List Char) → List Int → Except ParseFault (List Int)
  | [], stream => .ok stream
  | token :: tokens, stream =>
    match Text.readInt? token with
    | some v => parseTokens n tokens (v :: stream)
    | none => .error ⟨.badLiteral, some n, some (String.ofList token)⟩

/-- Gathers the lines from number `n` on, up to the first one that starts with `%`. -/
def gather (n : Nat) (g : Gathered) : List (List Char) → Except ParseFault Gathered
  | [] => .ok g
  | raw :: rest =>
    let line := Text.trim raw
    match line with
    | [] => gather (n + 1) g rest
    | 'c' :: comment =>
      let comments := String.ofList (Text.trim comment) :: g.comments
      gather (n + 1) { g with comments := comments } rest
    | '%' :: _ => .ok g
    | 'p' :: _ =>
      if g.header.isSome then .error ⟨.repeatedHeader, some n, some (String.ofList line)⟩
      else do
        let h ← parseHeader n line
        gather (n + 1) { g with header := some h } rest
    | _ => do
      let stream ← parseTokens n (Text.words line) g.stream
      gather (n + 1) { g with stream := stream } rest

/-- The clauses of a stream of integers: what stands between its zeros. -/
def clausesOf (stream : List Int) : Formula :=
  (nonemptyPieces (· == 0) stream).map fun group => group.map literalOf

/-- The formula of what was gathered: there has to be a header, and it has to announce the number
    of clauses found. -/
def ofGathered (g : Gathered) : Except ParseFault Dimacs :=
  match g.header with
  | none => .error ⟨.noHeader, none, none⟩
  | some (vars, clauses) =>
    let formula := clausesOf g.stream.reverse
    if (formula.length : Int) = clauses then
      .ok ⟨formula, g.comments.reverse, vars, clauses⟩
    else .error ⟨.clauseCount clauses formula.length, none, none⟩

/-- Reads lines that are numbered from 1. -/
def parseLines (lines : List (List Char)) : Except ParseFault Dimacs := do
  let g ← gather 1 {} lines
  ofGathered g

/-- Reads a text as a whole; blanks at its start do not count as lines. -/
def parse (text : String) : Except ParseFault Dimacs :=
  parseLines (Text.splitOn '\n' (Text.trim text.toList))

/-- Reads a text line by line as it comes, blank lines at its start included. -/
def parseStream (text : String) : Except ParseFault Dimacs :=
  parseLines (Text.splitOn '\n' text.toList)

end Dimacs

end FlipSat
