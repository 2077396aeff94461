import FlipSat.Assignment
import FlipSat.DenseSet
import FlipSat.Formula.Lines
import FlipSat.Problem.Instance

/-
  FlipSat: a problem with the assignment that is being turned into a solution.
  For every clause the number of its true literals is kept, and the clauses without a true literal
  stand in a set to draw from. After one full count both follow the flips: a flip visits only the
  clauses that mention the flipped proposition.
-/
namespace FlipSat

/-- A probability in percent. -/
structure Percent where
  val : Nat
  val_le : val ≤ 100
deriving DecidableEq, Repr

namespace Percent

/-- A whole number from 0 to 100; truth values are no numbers here. -/
def ofValue (v : Value) : Except Fault Percent :=
  match v with
  | .int n =>
    if h : 0 ≤ n ∧ n ≤ 100 then .ok ⟨n.toNat, Int.toNat_le.mpr h.2⟩
    else .error (.ofConfig (.noiseOutOfRange n))
  | v => .error (.ofConfig (.noiseNotInteger v))

/-- The noise of a search for which none is given. -/
def default : Percent := ⟨10, by decide⟩

end Percent

/-- The number of true literals of each clause, and the clauses that have none. -/
structure Tally where
  counts : Array Int := #[]
  unsatisfied : DenseSet Nat := {}

namespace Tally

def count (t : Tally) (i : Nat) : Int := t.counts.getD i 0

/-- Clause `i` has one more true literal. With its first one it leaves the set. -/
def gain (t : Tally) (i : Nat) : Except Tally Tally :=
  let n := t.count i + 1
  let counts := t.counts.setIfInBounds i n
  if n = 1 then
    match t.unsatisfied.erase? i with
    | some unsatisfied => .ok ⟨counts, unsatisfied⟩
    | none => .error ⟨counts, t.unsatisfied⟩
  else .ok ⟨counts, t.unsatisfied⟩

/-- Clause `i` has one true literal less. With its last one it enters the set. -/
def lose (t : Tally) (i : Nat) : Tally :=
  let n := t.count i - 1
  let counts := t.counts.setIfInBounds i n
  if n = 0 then ⟨counts, t.unsatisfied.insert i⟩ else ⟨counts, t.unsatisfied⟩

/-- Clauses gain in order, up to the first one that is missing from the set it should leave. -/
def gainAll (t : Tally) : List Nat → Tally × Option Fault
  | [] => (t, none)
  | i :: is =>
    match t.gain i with
    | .ok t => gainAll t is
    | .error t => (t, some (.notMember i))

def loseAll (t : Tally) (is : List Nat) : Tally := is.foldl lose t

/-- The tally of freshly counted clauses. -/
def ofCounts (counts : List Nat) : Tally :=
  { counts := (counts.map Int.ofNat).toArray
    unsatisfied := .ofList ((List.range counts.length).filter fun i => counts[i]? == some 0) }

end Tally

/-- A problem in the course of a search. -/
structure Problem where
  inst : Instance
  assignment : Assignment
  tally : Tally
  noise : Percent
  flips : Nat := 0

namespace Problem

/-- The clauses that mention a proposition. -/
def occurrencesOf (p : Problem) (x : Proposition) : Occurrences Nat :=
  p.inst.occurrences.getD x.place {}

/-- How many literals of each clause are true under an assignment. -/
def recount (a : Assignment) : List Clause → Except Fault (List Nat)
  | [] => .ok []
  | c :: cs => do
    let n ← a.trueLiteralCount c
    let ns ← recount a cs
    pure (n :: ns)

/-- The problem of a formula. -/
def build {σ : Type} [RandomSource σ] (f : Formula) (noise : Value) (given : Option Valuation)
    (source : σ) : Except Fault (Problem × σ) := do
  let noise ← Percent.ofValue noise
  let inst ← Instance.ofFormula f
  let (assignment, source) ← Assignment.initial inst.vocabulary.propositions given source
  let counts ← recount assignment inst.clauses.toList
  let p : Problem :=
    { inst := inst, assignment := assignment, tally := .ofCounts counts, noise := noise }
  pure (p, source)

/-- The problem of a list of lines. -/
def ofLines {σ : Type} [RandomSource σ] (lines : List String) (noise : Value)
    (given : Option Valuation) (source : σ) : Except Fault (Problem × σ) := do
  let f ← (Formula.parseLines lines).mapError .parse
  build f noise given source

def clauseCount (p : Problem) : Nat := p.inst.clauses.size

/-- Is every clause satisfied? -/
def isSolved (p : Problem) : Bool := p.tally.unsatisfied.isEmpty

def satisfiedCount (p : Problem) : Nat := p.clauseCount - p.tally.unsatisfied.size

/-- Is clause `i` satisfied by its count? -/
def satisfied (p : Problem) (i : Nat) : Bool := p.tally.count i > 0

/-- Is clause `i` unsatisfied by its count? -/
def unsatisfied (p : Problem) (i : Nat) : Bool := p.tally.count i = 0

/-- Sets the noise, if the value is a probability. -/
def setNoise (p : Problem) (v : Value) : Except Fault Problem := do
  let noise ← Percent.ofValue v
  pure { p with noise := noise }

/-- The proposition with the given name, made if there is none. The assignment has no value for a
    proposition that is made now. -/
def proposition (p : Problem) (name : String) : Proposition × Problem :=
  let (x, vocabulary) := p.inst.vocabulary.intern name
  (x, { p with inst := { p.inst with vocabulary := vocabulary } })

/-- The proposition with the given name. -/
def find (p : Problem) (name : String) : Except Fault Proposition :=
  match p.inst.vocabulary.find? name with
  | some x => .ok x
  | none => .error (.noSuchName name)

/-- Flips a proposition. The clauses that mention it with its new value gain a true literal, those
    that mention it with its old value lose one. A fault in the bookkeeping stops the flip where it
    is found. -/
def flip (p : Problem) (x : Proposition) : Problem × Option Fault :=
  match p.assignment.value x, p.assignment.flip x with
  | .ok before, .ok assignment =>
    let o := p.occurrencesOf x
    let (gaining, losing) := if before then (o.negative, o.positive) else (o.positive, o.negative)
    let (tally, fault) := p.tally.gainAll gaining.toList
    match fault with
    | some e => ({ p with assignment := assignment, tally := tally }, some e)
    | none =>
      ({ p with
          assignment := assignment
          tally := tally.loseAll losing.toList
          flips := p.flips + 1 }, none)
  | .error e, _ | _, .error e => (p, some e)

/-- By how much a flip of the proposition would change the number of satisfied clauses. A clause
    that mentions the proposition both ways is satisfied before and after. -/
def delta (p : Problem) (x : Proposition) : Except Fault Int := do
  let before ← p.assignment.value x
  let o := p.occurrencesOf x
  let (gaining, losing) := if before then (o.negative, o.positive) else (o.positive, o.negative)
  let newlySatisfied := gaining.toList.countP fun i => p.tally.count i == 0
  let newlyUnsatisfied := losing.toList.countP fun i => p.tally.count i == 1
  let kept := o.complementary.toList.countP fun i => p.tally.count i == 1
  pure ((newlySatisfied : Int) - ((newlyUnsatisfied : Int) - kept))

/-- Of a literal already found and the literals that follow, the first with the largest delta. -/
def greedyFrom (p : Problem) (best : Literal) (bestDelta : Int) :
    List Literal → Except Fault Literal
  | [] => .ok best
  | l :: ls => do
    let d ← p.delta l.proposition
    if bestDelta < d then greedyFrom p l d ls else greedyFrom p best bestDelta ls

/-- The first literal of a clause whose flip has the largest delta. -/
def greedy (p : Problem) (c : Clause) : Except Fault Literal := do
  let d ← p.delta c.head.proposition
  p.greedyFrom c.head d c.literals.tail

/-- The first place where two lists of the same length differ. -/
def firstDifference {α : Type} [DecidableEq α] : Nat → List α → List α → Option (Nat × α × α)
  | i, a :: as, b :: bs => if a = b then firstDifference (i + 1) as bs else some (i, a, b)
  | _, _, _ => none

/-- Compares counts and set with a recount, and reports the first clause that is wrong; a wrong
    count anywhere is reported before any wrong membership. -/
def check (p : Problem) : Except Fault Unit := do
  let expected ← recount p.assignment p.inst.clauses.toList
  match firstDifference 0 p.tally.counts.toList (expected.map Int.ofNat) with
  | some (i, stored, actual) => throw (.inconsistent i (.count stored actual))
  | none =>
    let places := List.range p.clauseCount
    let members := places.map p.tally.unsatisfied.contains
    let zeros := places.map p.unsatisfied
    match firstDifference 0 members zeros with
    | some (i, member, _) =>
      throw (.inconsistent i (if member then .surplusMember else .missingMember))
    | none => pure ()

/-- The values by name. -/
def valuation (p : Problem) : Valuation := p.assignment.toValuation

def describe (p : Problem) : String :=
  "Problem(clauses=" ++ Text.showNat p.clauseCount ++ ", propositions=" ++
    Text.showNat p.inst.vocabulary.size ++ ", unsatisfied=" ++
    Text.showNat p.tally.unsatisfied.size ++ ", noise_level=" ++ Text.showNat p.noise.val ++ ")"

/-- What is said about a problem that was just built. -/
def announcement (p : Problem) : String :=
  "Built problem with " ++ Text.showNat p.clauseCount ++ " clauses over " ++
    Text.showNat p.inst.vocabulary.size ++ " propositions, " ++
    Text.showNat p.tally.unsatisfied.size ++ " initially unsatisfied"

end Problem

end FlipSat
