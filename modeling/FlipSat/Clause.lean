import FlipSat.Fault
import FlipSat.Proposition

/-
  FlipSat: clauses over propositions. A clause is a disjunction that is not empty and in which no
  literal stands twice.
-/
namespace FlipSat

/-- A disjunction of at least one literal, in the order in which they were written. -/
structure Clause where
  literals : List Literal
  literals_ne_nil : literals ≠ []
deriving DecidableEq, Repr

namespace Clause

theorem eraseDups_ne_nil {ls : List Literal} (h : ls ≠ []) : ls.eraseDups ≠ [] := by
  cases ls with
  | nil => exact absurd rfl h
  | cons l ls => simp [List.eraseDups_cons]

/-- The clause of the given literals, each kept where it stands first. -/
def ofLiterals? (ls : List Literal) : Option Clause :=
  if h : ls = [] then none else some ⟨ls.eraseDups, eraseDups_ne_nil h⟩

/-- The clause of the given literals, for the place `index` of a list of clauses. -/
def ofLiterals (index : Int) (ls : List Literal) : Except Fault Clause :=
  match ofLiterals? ls with
  | some c => .ok c
  | none => .error (.emptyClause index)

/-- The first literal. -/
def head (c : Clause) : Literal := c.literals.head c.literals_ne_nil

def size (c : Clause) : Nat := c.literals.length

theorem size_pos (c : Clause) : 0 < c.size := List.length_pos_iff.mpr c.literals_ne_nil

/-- The clause in the line format, as it is after repeated literals are gone. -/
def text (c : Clause) : String := " | ".intercalate (c.literals.map (·.text))

/-- The propositions of the clause, each once, in the order of its literals. -/
def propositions (c : Clause) : List Proposition := (c.literals.map (·.proposition)).eraseDups

def describe (index : Int) (c : Clause) : String :=
  "Clause(" ++ Text.showInt index ++ ": " ++ c.text ++ ")"

end Clause

end FlipSat
