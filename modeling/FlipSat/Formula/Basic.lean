import FlipSat.Value.Basic

/-
  FlipSat: formulas in conjunctive normal form as they are written down: a list of clauses, each
  a list of literals over names. The text form of a clause and the faults of reading one are here,
  and what it means for truth values to satisfy a formula.
-/
namespace FlipSat

/-- A literal as written: a name, and whether it is negated. -/
structure LiteralSpec where
  name : String
  negated : Bool
deriving DecidableEq, Repr, Inhabited

/-- A clause as written; the same literal may stand in it more than once. -/
abbrev ClauseSpec := List LiteralSpec

/-- A formula as written. -/
abbrev Formula := List ClauseSpec

/-- Truth values by name. -/
abbrev Valuation := List (String × Bool)

namespace LiteralSpec

/-- Is the literal true when the names have the values `v`? A name without a value makes it
    false. -/
def holds (v : String → Option Bool) (l : LiteralSpec) : Bool := v l.name == some (!l.negated)

def text (l : LiteralSpec) : String := if l.negated then "!" ++ l.name else l.name

end LiteralSpec

/-- A clause holds if one of its literals does. -/
def ClauseSpec.holds (v : String → Option Bool) (c : ClauseSpec) : Bool := c.any (·.holds v)

/-- A clause in the line format. -/
def ClauseSpec.text (c : ClauseSpec) : String := " | ".intercalate (c.map (·.text))

/-- How many clauses of the formula hold. -/
def Formula.countHolding (v : String → Option Bool) (f : Formula) : Nat := f.countP (·.holds v)

/-- A formula holds if all of its clauses do. -/
def Formula.holds (v : String → Option Bool) (f : Formula) : Bool := f.all (·.holds v)

/-- A formula in the line format, one clause a line. -/
def Formula.lines (f : Formula) : List String := f.map (·.text)

/-- Why a text is no formula. -/
inductive ParseCause where
  | emptyDisjunct
  | bareNegation
  | strayNegation
  | repeatedHeader
  | badHeader
  | badHeaderNumbers
  | badLiteral
  | noHeader
  | clauseCount (declared : Int) (found : Nat)
  | notUtf8 (path reason : String)
deriving DecidableEq, Repr

def ParseCause.message : ParseCause → String
  | .emptyDisjunct => "Empty disjunct"
  | .bareNegation => "Negation without a proposition name"
  | .strayNegation => "Proposition name contains '!'"
  | .repeatedHeader => "Multiple problem lines"
  | .badHeader => "Invalid problem line"
  | .badHeaderNumbers => "Invalid numbers in problem line"
  | .badLiteral => "Invalid literal"
  | .noHeader => "No problem line found"
  | .clauseCount declared found =>
    "Expected " ++ Text.showInt declared ++ " clauses, but found " ++ Text.showNat found
  | .notUtf8 path reason => path ++ " is not valid UTF-8 text: " ++ reason

/-- A message with details in brackets behind it. -/
def detailed (message : String) (details : List String) : String :=
  if details.isEmpty then message else message ++ " (" ++ ", ".intercalate details ++ ")"

/-- A message with what is known of the place: the line, and the text found there. -/
def located (message : String) (line : Option Int) (near : Option String) : String :=
  detailed message
    ((line.map fun n => "line " ++ Text.showInt n).toList ++
      (near.map fun s => "near " ++ Text.quoted s).toList)

/-- A fault found while reading a formula, with its place as far as it is known. -/
structure ParseFault where
  cause : ParseCause
  line : Option Int
  near : Option String
deriving DecidableEq, Repr

def ParseFault.message (e : ParseFault) : String := located e.cause.message e.line e.near

end FlipSat
