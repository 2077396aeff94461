import FlipSat.Problem.Basic

/-
  FlipSat: one step of the search. A step takes a random unsatisfied clause and flips one of its
  propositions: with the probability of the noise that of a random literal, otherwise the one
  whose flip satisfies most.
-/
namespace FlipSat.Problem

variable {σ : Type} [RandomSource σ]

/-- What a step did, and whether it left the problem solved. -/
structure Step (σ : Type) where
  problem : Problem
  source : σ
  solved : Bool := false
  flipped : Option Literal := none
  fault : Option Fault := none

/-- The literal of a clause that a step flips. -/
def pick (p : Problem) (c : Clause) (source : σ) : Except Fault Literal × σ :=
  let (random, source) := RandomSource.percent source p.noise.val
  if random then
    let (i, source) := RandomSource.choose source c.size c.size_pos
    (.ok (c.literals.get i), source)
  else (p.greedy c, source)

/-- One step. A solved problem is left as it is, and the source is not asked. -/
def step (p : Problem) (source : σ) : Step σ :=
  match p.tally.unsatisfied.choose source with
  | .error _ => { problem := p, source := source, solved := true }
  | .ok (i, source) =>
    match p.inst.clauses[i]? with
    | none => { problem := p, source := source, fault := some (.notMember i) }
    | some c =>
      match p.pick c source with
      | (.error e, source) => { problem := p, source := source, fault := some e }
      | (.ok l, source) =>
        let (problem, fault) := p.flip l.proposition
        { problem := problem, source := source, solved := problem.isSolved, flipped := some l,
          fault := fault }

/-- What a number of steps did: the problem reached, and the propositions flipped, the last one
    first. -/
structure Run (σ : Type) where
  problem : Problem
  source : σ
  flipped : List Proposition := []
  fault : Option Fault := none

/-- Steps until the problem is solved, at most `n` times. -/
def runFrom (r : Run σ) : Nat → Run σ
  | 0 => r
  | n + 1 =>
    if r.problem.isSolved then r
    else
      let s := r.problem.step r.source
      let r := ⟨s.problem, s.source, (s.flipped.map (·.proposition)).toList ++ r.flipped, s.fault⟩
      if s.fault.isSome then r else runFrom r n

def run (p : Problem) (source : σ) (n : Nat) : Run σ := runFrom ⟨p, source, [], none⟩ n

end FlipSat.Problem
