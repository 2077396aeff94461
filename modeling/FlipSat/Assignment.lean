import FlipSat.Clause
import FlipSat.Pieces
import FlipSat.Random.Source

/-
  FlipSat: truth assignments, one value for each proposition of a vocabulary, by index.
-/
namespace FlipSat

/-- A truth value for each of some propositions; each proposition stands at its own index. -/
structure Assignment where
  propositions : Array Proposition
  values : Array Bool
  size_eq : values.size = propositions.size

namespace Assignment

/-- The assignment of the given values, of which there have to be as many as propositions. -/
def ofValues (propositions : Array Proposition) (values : Array Bool) : Except Fault Assignment :=
  if h : values.size = propositions.size then .ok ⟨propositions, values, h⟩
  else .error (.valueCount propositions.size values.size)

/-- Draws values for the propositions from number `i` on. -/
def drawFrom {σ : Type} [RandomSource σ] : List Proposition → σ → List Bool × σ
  | [], source => ([], source)
  | _ :: ps, source =>
    let (b, source) := randomBool source
    let (bs, source) := drawFrom ps source
    (b :: bs, source)

theorem length_drawFrom {σ : Type} [RandomSource σ] (ps : List Proposition) (source : σ) :
    (drawFrom ps source).1.length = ps.length := by
  induction ps generalizing source with
  | nil => rfl
  | cons p ps ih => simp [drawFrom, ih]

/-- Draws a value for each proposition, in order. -/
def random {σ : Type} [RandomSource σ] (propositions : Array Proposition) (source : σ) :
    Assignment × σ :=
  let drawn := drawFrom propositions.toList source
  (⟨propositions, drawn.1.toArray, by simp [drawn, length_drawFrom]⟩, drawn.2)

/-- The given value of each proposition, by its name; a proposition without one gets a random
    value if there is a source. -/
def givenFrom {σ : Type} [RandomSource σ] (given : Valuation) :
    List Proposition → Option σ → Except Fault (List Bool × Option σ)
  | [], source => .ok ([], source)
  | p :: ps, source => do
    let (b, source) ← match given.lookup p.name, source with
      | some b, source => pure (b, source)
      | none, some s => let (b, s) := randomBool s; pure (b, some s)
      | none, none => throw (.noValue p.name)
    let (bs, source) ← givenFrom given ps source
    pure (b :: bs, source)

/-- The assignment of given values by name, completed from a source if there is one. -/
def ofValuation {σ : Type} [RandomSource σ] (propositions : Array Proposition)
    (given : Valuation) (source : Option σ) : Except Fault (Assignment × Option σ) := do
  let (bs, source) ← givenFrom given propositions.toList source
  let a ← ofValues propositions bs.toArray
  pure (a, source)

/-- The assignment that a search starts with. Propositions without a given value start at random. -/
def initial {σ : Type} [RandomSource σ] (propositions : Array Proposition)
    (given : Option Valuation) (source : σ) : Except Fault (Assignment × σ) :=
  match given with
  | none => .ok (random propositions source)
  | some given => do
    let (a, s) ← ofValuation propositions given (some source)
    pure (a, s.getD source)

/-- The place of a proposition's value. The proposition has to be the very one that stands at its
    index. Indices are looked up as in any list: one below zero counts from the end, and one that
    is too far below zero is a fault of its own. -/
def slot (a : Assignment) (p : Proposition) : Except Fault (Fin a.values.size) :=
  if a.propositions.size ≤ p.index then .error (.unknownProposition p.name)
  else match listPlace? a.propositions.size p.index with
    | none => .error .noSuchPlace
    | some i =>
      if h : a.propositions[i]? = some p then
        .ok ⟨i, by rw [a.size_eq]; exact (Array.getElem?_eq_some_iff.mp h).1⟩
      else .error (.unknownProposition p.name)

def value (a : Assignment) (p : Proposition) : Except Fault Bool := do
  let i ← a.slot p
  pure a.values[i]

/-- Inverts the value in a slot. -/
def flipAt (a : Assignment) (i : Nat) (h : i < a.values.size) : Assignment :=
  ⟨a.propositions, a.values.set i (!a.values[i]) h, by simp [a.size_eq]⟩

/-- Inverts the value of a proposition. -/
def flip (a : Assignment) (p : Proposition) : Except Fault Assignment := do
  let i ← a.slot p
  pure (a.flipAt i.val i.isLt)

/-- How many literals of a list are true. -/
def countTrue (a : Assignment) : List Literal → Except Fault Nat
  | [] => .ok 0
  | l :: ls => do
    let b ← a.value l.proposition
    let n ← countTrue a ls
    pure (if l.isPositive = b then n + 1 else n)

/-- How many literals of a clause are true, by looking at each of them. -/
def trueLiteralCount (a : Assignment) (c : Clause) : Except Fault Nat := a.countTrue c.literals

/-- Sets a name to a value: in place if the name has one, at the end otherwise. -/
def putValue (v : Valuation) (name : String) (b : Bool) : Valuation :=
  match v with
  | [] => [(name, b)]
  | e :: v => if e.1 == name then (name, b) :: v else e :: putValue v name b

/-- The values by name. Of propositions with the same name the last one counts. -/
def toValuation (a : Assignment) : Valuation :=
  (a.propositions.toList.zip a.values.toList).foldl (fun v e => putValue v e.1.name e.2) []

/-- Do two assignments give the same names the same values? -/
def same (a b : Assignment) : Bool :=
  let v := a.toValuation
  let w := b.toValuation
  v.length == w.length && v.all fun e => w.lookup e.1 == some e.2

def describe (a : Assignment) : String :=
  "TruthAssignment(" ++
    ", ".intercalate (a.toValuation.map fun e => e.1 ++ "=" ++ (if e.2 then "True" else "False")) ++
    ")"

end Assignment

end FlipSat
