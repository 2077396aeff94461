import Std.Data.HashMap
import FlipSat.Clause

/-
  FlipSat: the part of a problem that a search does not change: the vocabulary, the clauses, and
  for each proposition the clauses that mention it.
-/
namespace FlipSat

/-- Propositions in order of creation; the map finds a proposition's index by its name. -/
structure Vocabulary where
  propositions : Array Proposition := #[]
  places : Std.HashMap String Nat := {}

namespace Vocabulary

def size (v : Vocabulary) : Nat := v.propositions.size

/-- The proposition with the given name. -/
def find? (v : Vocabulary) (name : String) : Option Proposition :=
  v.places[name]?.bind fun i => v.propositions[i]?

/-- The proposition with the given name, made at the next free index if there is none. -/
def intern (v : Vocabulary) (name : String) : Proposition × Vocabulary :=
  match v.find? name with
  | some p => (p, v)
  | none =>
    let p : Proposition := ⟨name, v.size, 0⟩
    (p, { propositions := v.propositions.push p, places := v.places.insert name v.size })

/-- The literals that a clause is written with. -/
def internAll (v : Vocabulary) : ClauseSpec → List Literal × Vocabulary
  | [] => ([], v)
  | l :: ls =>
    let (p, v) := v.intern l.name
    let (rest, v) := internAll v ls
    (⟨p, !l.negated⟩ :: rest, v)

end Vocabulary

/-- A vocabulary with clauses over it and the occurrences of each proposition, by index. -/
structure Instance where
  vocabulary : Vocabulary := {}
  clauses : Array Clause := #[]
  occurrences : Array (Occurrences Nat) := #[]

namespace Instance

/-- Notes for each literal that clause `i` mentions its proposition. -/
def registerAll (i : Nat) (ls : List Literal) (occurrences : Array (Occurrences Nat)) :
    Array (Occurrences Nat) :=
  ls.foldl (fun os l => os.modify l.proposition.place (·.register i l.isPositive)) occurrences

/-- Adds empty occurrences until there are `n`. -/
def growTo (n : Nat) (occurrences : Array (Occurrences Nat)) : Array (Occurrences Nat) :=
  occurrences ++ Array.replicate (n - occurrences.size) ({} : Occurrences Nat)

/-- Adds a clause after the others. -/
def addClause (inst : Instance) (spec : ClauseSpec) : Except Fault Instance := do
  let (literals, vocabulary) := inst.vocabulary.internAll spec
  let clause ← Clause.ofLiterals inst.clauses.size literals
  pure
    { vocabulary := vocabulary
      clauses := inst.clauses.push clause
      occurrences :=
        registerAll inst.clauses.size clause.literals (growTo vocabulary.size inst.occurrences) }

/-- Adds clauses in order. -/
def addClauses (inst : Instance) : Formula → Except Fault Instance
  | [] => .ok inst
  | spec :: specs => do
    let inst ← inst.addClause spec
    addClauses inst specs

/-- The instance that a formula describes. No clause of it may be empty. -/
def ofFormula (f : Formula) : Except Fault Instance := addClauses {} f

end Instance

end FlipSat
