import FlipSat.Proofs.Dialogue
import FlipSat.Proofs.Operation

/-
  FlipSat: which questions a problem puts to its source, and when.
  The first values come from a dialogue (`Assignment.drawing`) and so does a step
  (`Problem.stepping`); nothing else asks. `calls_drawing` and `Reflects.calls_stepping` count the
  questions by the formula. From this `random_calls` gives the questions of every course of
  requests, and that sources which answer them alike lead to the same problems.
-/
namespace FlipSat

variable {σ τ : Type} [RandomSource σ] [RandomSource τ]

/-! ## First values -/

/-- Values for names in order: the given ones, and the next answers of a source for all others. -/
def startingValues (given : Valuation) : List String → σ → Valuation
  | [], _ => []
  | name :: names, s =>
    match given.lookup name with
    | some b => (name, b) :: startingValues given names s
    | none => (name, (randomBool s).1) :: startingValues given names (randomBool s).2

/-- One question for each name without a given value. -/
def startingCalls (given : Valuation) (names : List String) : List RandomCall :=
  (names.filter fun name => (given.lookup name).isNone).map fun _ => .choose 2

namespace Assignment

/-- The values to start with, as a dialogue. -/
def drawing (given : Valuation) : List Proposition → Dialogue (List Bool)
  | [] => .done []
  | x :: xs =>
    match given.lookup x.name with
    | some b => (drawing given xs).map (b :: ·)
    | none => .choose 2 Nat.two_pos fun i => (drawing given xs).map (decide (i.val = 0) :: ·)

theorem run_drawing (given : Valuation) (xs : List Proposition) (s : σ) :
    (drawing given xs).run s = fill given xs s := by
  induction xs generalizing s with
  | nil => rfl
  | cons x xs ih =>
    rw [drawing, fill]
    cases given.lookup x.name with
    | some b =>
      dsimp only
      rw [Dialogue.run_map, ih]
    | none =>
      dsimp only
      rw [Dialogue.run, Dialogue.run_map, ih]
      rfl

theorem calls_drawing (given : Valuation) (xs : List Proposition) (s : σ) :
    (drawing given xs).calls s = startingCalls given (xs.map (·.name)) := by
  induction xs generalizing s with
  | nil => rfl
  | cons x xs ih =>
    rw [drawing, startingCalls, List.map_cons, List.filter_cons]
    cases given.lookup x.name with
    | some b =>
      dsimp only
      rw [Dialogue.calls_map, ih]
      rfl
    | none =>
      dsimp only
      rw [Dialogue.calls, Dialogue.calls_map, ih]
      rfl

/-- To draw all values is to be given none. -/
theorem drawFrom_eq_fill (xs : List Proposition) (s : σ) : drawFrom xs s = fill [] xs s := by
  induction xs generalizing s with
  | nil => rfl
  | cons x xs ih =>
    rw [drawFrom, fill, List.lookup_nil]
    simp only [ih]

theorem eq_of_values {a b : Assignment} (hp : a.propositions = b.propositions)
    (hv : a.values.toList = b.values.toList) : a = b := by
  obtain ⟨xs, vs, ha⟩ := a
  obtain ⟨ys, ws, hb⟩ := b
  obtain rfl : xs = ys := hp
  obtain rfl : vs = ws := Array.toList_inj.mp hv
  rfl

theorem starting_eq_drawing (xs : Array Proposition) (given : Option Valuation) (s : σ) :
    (starting xs given s).1.values.toList = ((drawing (given.getD []) xs.toList).run s).1 ∧
      (starting xs given s).2 = ((drawing (given.getD []) xs.toList).run s).2 := by
  rw [run_drawing]
  cases given with
  | none => simp [starting, random, drawFrom_eq_fill]
  | some given => exact ⟨rfl, rfl⟩

theorem starting_recorded (xs : Array Proposition) (given : Option Valuation) (s : σ) :
    starting xs given (⟨s, []⟩ : Recorded σ) = ((starting xs given s).1,
      ⟨(starting xs given s).2,
        (startingCalls (given.getD []) (xs.toList.map (·.name))).reverse⟩) := by
  obtain ⟨hv, hs⟩ := starting_eq_drawing xs given s
  obtain ⟨hv', hr⟩ := starting_eq_drawing xs given (⟨s, []⟩ : Recorded σ)
  rw [Dialogue.run_recorded] at hv' hr
  refine Prod.ext (eq_of_values ?_ (hv'.trans hv.symm)) ?_
  · rw [propositions_starting, propositions_starting]
  · rw [hr, hs, calls_drawing, List.append_nil]

theorem starting_alike {xs : Array Proposition} {given : Option Valuation} {s : σ} {t : τ}
    {rest : List RandomCall}
    (h : Alike (startingCalls (given.getD []) (xs.toList.map (·.name)) ++ rest) s t) :
    (starting xs given t).1 = (starting xs given s).1 ∧
      Alike rest (starting xs given s).2 (starting xs given t).2 := by
  rw [← calls_drawing _ _ s] at h
  obtain ⟨hvalues, hrest⟩ := Dialogue.run_alike h
  obtain ⟨hv, hs⟩ := starting_eq_drawing xs given s
  obtain ⟨hv', ht⟩ := starting_eq_drawing xs given t
  refine ⟨eq_of_values ?_ (by rw [hv, hv', hvalues]), ?_⟩
  · rw [propositions_starting, propositions_starting]
  · rw [hs, ht]
    exact hrest

theorem zip_fill (given : Valuation) (xs : List Proposition) (s : σ) :
    (xs.map (·.name)).zip (fill given xs s).1 = startingValues given (xs.map (·.name)) s := by
  induction xs generalizing s with
  | nil => rfl
  | cons x xs ih =>
    rw [fill, List.map_cons, startingValues]
    cases given.lookup x.name with
    | some b => exact congrArg (_ :: ·) (ih s)
    | none => exact congrArg (_ :: ·) (ih _)

theorem toValuation_eq_zip {a : Assignment} (h : Enumerated a.propositions) :
    a.toValuation = (a.propositions.toList.map (·.name)).zip a.values.toList := by
  have hlen : a.propositions.toList.length ≤ a.values.toList.length := by simp [a.size_eq]
  have hnames : (a.propositions.toList.zip a.values.toList).map (·.1.name) =
      a.propositions.toList.map (·.name) := by
    have hfst := congrArg (List.map (·.name)) (List.map_fst_zip hlen)
    rwa [List.map_map] at hfst
  rw [toValuation, foldl_putValue (by simpa [hnames] using h.names_nodup), List.nil_append,
    List.zip_map_left]
  rfl

theorem toValuation_starting {xs : Array Proposition} (h : Enumerated xs)
    (given : Option Valuation) (s : σ) : (starting xs given s).1.toValuation =
      startingValues (given.getD []) (xs.toList.map (·.name)) s := by
  have hprops := propositions_starting xs given s
  rw [toValuation_eq_zip (by rw [hprops]; exact h), hprops, (starting_eq_drawing xs given s).1,
    run_drawing, zip_fill]

end Assignment

namespace Problem

variable {p : Problem} {f : Formula}

/-! ## Steps -/

/-- A step as it looks from a source. -/
def Step.onto (r : Step Unit) (s : σ) : Step σ := ⟨r.problem, s, r.solved, r.flipped, r.fault⟩

/-- What is left to do in a step when the literal is found, or a fault in its place. -/
def flipping (p : Problem) : Except Fault Literal → Step Unit
  | .error e => { problem := p, source := (), fault := some e }
  | .ok l =>
    let (problem, fault) := p.flip l.proposition
    { problem := problem, source := (), solved := problem.isSolved, flipped := some l,
      fault := fault }

/-- A step, as a dialogue. -/
def stepping (p : Problem) : Dialogue (Step Unit) :=
  if h : 0 < p.tally.unsatisfied.items.size then
    .choose _ h fun i =>
      let taken := getElem p.tally.unsatisfied.items i i.isLt
      match p.inst.clauses[taken]? with
      | none => .done { problem := p, source := (), fault := some (.notMember taken) }
      | some c => .percent p.noise.val fun random =>
        if random then
          .choose c.size c.size_pos fun j => .done (p.flipping (.ok (c.literals.get j)))
        else .done (p.flipping (p.greedy c))
  else .done { problem := p, source := (), solved := true }

theorem step_eq_stepping (p : Problem) (s : σ) :
    p.step s = (p.stepping.run s).1.onto (p.stepping.run s).2 := by
  unfold step stepping DenseSet.choose
  by_cases h : 0 < p.tally.unsatisfied.items.size
  · rw [dif_pos h, dif_pos h, Dialogue.run]
    dsimp only
    generalize RandomSource.choose s _ h = drawn
    obtain ⟨i, t⟩ := drawn
    cases p.inst.clauses[p.tally.unsatisfied.items[i]]? with
    | none => rfl
    | some c =>
      simp only [pick, Dialogue.run]
      generalize RandomSource.percent t _ = decided
      obtain ⟨b, u⟩ := decided
      cases b with
      | true => rfl
      | false => cases p.greedy c <;> rfl
  · rw [dif_neg h, dif_neg h]
    rfl

/-- How many clauses of the formula do not hold. -/
def failing (p : Problem) (f : Formula) : Nat := f.countP fun c => !c.holds p.valuation.valueOf

/-- The clause of the formula in a slot of the set to draw from. -/
def picked (p : Problem) (f : Formula) (i : Nat) : ClauseSpec :=
  ((p.tally.unsatisfied.toList[i]?).bind (f[·]?)).getD []

/-- The questions of a step: none if all clauses hold. Otherwise which of the clauses that do not
    hold to take, whether to walk at random, and if so, which of the different literals of the
    clause taken to flip. -/
def stepCalls (p : Problem) (f : Formula) (s : σ) : List RandomCall :=
  if h : 0 < p.failing f then
    let taken := RandomSource.choose s (p.failing f) h
    [.choose (p.failing f), .percent p.noise.val] ++
      if (RandomSource.percent taken.2 p.noise.val).1 then
        [.choose (p.picked f taken.1).eraseDups.length]
      else []
  else []

/-- The clause in a slot is one that does not hold. -/
theorem Reflects.picked_spec (h : p.Reflects f) {i : Nat}
    (hi : i < p.tally.unsatisfied.items.size) :
    ∃ c, p.inst.clauses[p.tally.unsatisfied.items[i]]? = some c ∧
      (p.picked f i).eraseDups = c.literals.map Literal.spec ∧
      (p.picked f i).holds p.valuation.valueOf = false := by
  have hzero := (h.consistent.tally.mem_iff _).mp (Array.mem_toList_iff.mpr
    (Array.getElem_mem hi))
  rw [h.counts_eq] at hzero
  obtain ⟨spec, hf, hcount⟩ := Option.map_eq_some_iff.mp hzero
  have hpicked : p.picked f i = spec := by
    simp [picked, DenseSet.toList, hi, hf]
  have hclause := h.getElem?_clauses p.tally.unsatisfied.items[i]
  rw [hf, Option.map_some] at hclause
  obtain ⟨c, hc, hspec⟩ := Option.map_eq_some_iff.mp hclause
  refine ⟨c, hc, by rw [hpicked, hspec], ?_⟩
  rw [hpicked, ← ClauseSpec.holds_eraseDups, ← ClauseSpec.countP_eq_zero_iff]
  exact Int.natCast_eq_zero.mp hcount

/-- The questions of a step, counted by the formula. -/
theorem Reflects.calls_stepping (h : p.Reflects f) (s : σ) :
    p.stepping.calls s = p.stepCalls f s := by
  have hsize : p.failing f = p.tally.unsatisfied.items.size := h.size_unsatisfied.symm
  unfold stepping stepCalls
  rw [hsize]
  by_cases hpos : 0 < p.tally.unsatisfied.items.size
  · rw [dif_pos hpos, dif_pos hpos, Dialogue.calls]
    dsimp only
    generalize RandomSource.choose s _ hpos = taken
    obtain ⟨c, hc, hspec, -⟩ := h.picked_spec taken.1.isLt
    have hlen : (p.picked f taken.1).eraseDups.length = c.size := by
      rw [hspec, List.length_map, Clause.size]
    simp only [Fin.getElem_fin, hc, hlen, Dialogue.calls]
    cases (RandomSource.percent taken.2 p.noise.val).1 <;> rfl
  · rw [dif_neg hpos, dif_neg hpos]
    rfl

/-- The literal that a step flips is one of the clause taken. -/
theorem Reflects.flipped_step (h : p.Reflects f) (s : σ) (hpos : 0 < p.failing f) :
    (p.picked f (RandomSource.choose s (p.failing f) hpos).1).holds p.valuation.valueOf = false ∧
      ∃ l, (p.step s).flipped = some l ∧
        l.spec ∈ p.picked f (RandomSource.choose s (p.failing f) hpos).1 := by
  have hsize : p.failing f = p.tally.unsatisfied.items.size := h.size_unsatisfied.symm
  revert hpos
  rw [hsize]
  intro hpos
  obtain ⟨c, hc, hspec, hfalse⟩ := h.picked_spec (RandomSource.choose s _ hpos).1.isLt
  refine ⟨hfalse, ?_⟩
  obtain ⟨l, t, hl, hmem⟩ := h.pick_spec (Array.mem_of_getElem? hc)
    (RandomSource.choose s _ hpos).2
  refine ⟨l, ?_, ?_⟩
  · rw [Problem.step, DenseSet.choose, dif_pos hpos]
    simp only [Fin.getElem_fin, hc, hl]
  · rw [← List.mem_eraseDups, hspec]
    exact List.mem_map_of_mem hmem

end Problem

/-! ## Requests -/

/-- What can be asked of a problem, its check included. -/
inductive Request where
  | operation (o : Operation)
  | check

namespace Problem

variable {p : Problem} {f : Formula}

/-- The questions of a request: those of a step, and none for anything else. -/
def callsOf (p : Problem) (f : Formula) (s : σ) : Request → List RandomCall
  | .operation .step => p.stepCalls f s
  | _ => []

/-- The response to a request, as a dialogue. -/
def responding (p : Problem) : Request → Dialogue (Problem × Option Fault)
  | .operation (.flip x) => .done (p.flip x)
  | .operation (.flipLiteral l) => .done (p.flip l.proposition)
  | .operation .step => p.stepping.map fun r => (r.problem, r.fault)
  | .operation (.setNoise v) =>
    .done (match p.setNoise v with
      | .ok q => (q, none)
      | .error e => (p, some e))
  | .operation (.proposition name) => .done ((p.proposition name).2, none)
  | .operation (.delta x) => .done (p, faultOf (p.delta x))
  | .operation (.greedy c) => .done (p, faultOf (p.greedy c))
  | .check => .done (p, faultOf p.check)

theorem Reflects.calls_responding (h : p.Reflects f) (s : σ) (r : Request) :
    (p.responding r).calls s = p.callsOf f s r := by
  cases r with
  | check => rfl
  | operation o =>
    cases o with
    | step => exact (Dialogue.calls_map _ _ s).trans (h.calls_stepping s)
    | _ => rfl

end Problem

namespace Session

variable {f : Formula} {p : Problem} {s : σ} {t : τ}

/-- The session after a request. A check only looks at the problem. -/
def respond (m : Session σ) : Request → Session σ
  | .operation o => m.perform o
  | .check => ⟨m.problem, m.source, faultOf m.problem.check⟩

/-- The session after a list of requests. -/
def respondAll (m : Session σ) (rs : List Request) : Session σ := rs.foldl respond m

/-- The problems on the way through a list of requests. -/
def trajectory (m : Session σ) : List Request → List Problem
  | [] => [m.problem]
  | r :: rs => m.problem :: (m.respond r).trajectory rs

/-- The questions of a list of requests. -/
def callsOfAll (m : Session σ) (f : Formula) : List Request → List RandomCall
  | [] => []
  | r :: rs => m.problem.callsOf f m.source r ++ (m.respond r).callsOfAll f rs

theorem respond_eq_responding (m : Session σ) (r : Request) :
    m.respond r = ⟨((m.problem.responding r).run m.source).1.1,
      ((m.problem.responding r).run m.source).2, ((m.problem.responding r).run m.source).1.2⟩ := by
  cases r with
  | check => rfl
  | operation o =>
    cases o with
    | step =>
      rw [respond, perform, Problem.responding, Dialogue.run_map, Problem.step_eq_stepping]
      rfl
    | setNoise v =>
      rw [respond, perform, Problem.responding, Dialogue.run]
      cases m.problem.setNoise v <;> rfl
    | _ => rfl

theorem reflects_respond {m : Session σ} (h : m.problem.Reflects f) (r : Request) :
    (m.respond r).problem.Reflects f := by
  cases r with
  | operation o => exact h.perform o
  | check => exact h

theorem reflects_respondAll {m : Session σ} (h : m.problem.Reflects f) (rs : List Request) :
    (m.respondAll rs).problem.Reflects f := by
  induction rs generalizing m with
  | nil => exact h
  | cons r rs ih => exact ih (reflects_respond h r)

/-- The same session with its source recorded. -/
def recorded (m : Session σ) (cs : List RandomCall) : Session (Recorded σ) :=
  ⟨m.problem, ⟨m.source, cs⟩, m.fault⟩

/-- With a recorded source the questions of a request are recorded, and nothing else changes. -/
theorem respond_recorded {m : Session σ} (h : m.problem.Reflects f) (cs : List RandomCall)
    (r : Request) : (m.recorded cs).respond r =
      (m.respond r).recorded ((m.problem.callsOf f m.source r).reverse ++ cs) := by
  rw [respond_eq_responding, respond_eq_responding m, recorded, Dialogue.run_recorded,
    h.calls_responding, recorded]

theorem respondAll_recorded {m : Session σ} (h : m.problem.Reflects f) (cs : List RandomCall)
    (rs : List Request) : (m.recorded cs).respondAll rs =
      (m.respondAll rs).recorded ((m.callsOfAll f rs).reverse ++ cs) := by
  induction rs generalizing m cs with
  | nil => rfl
  | cons r rs ih =>
    rw [respondAll, List.foldl_cons, respond_recorded h, callsOfAll, List.reverse_append,
      List.append_assoc]
    exact ih (reflects_respond h r) _

theorem trajectory_recorded {m : Session σ} (h : m.problem.Reflects f) (cs : List RandomCall)
    (rs : List Request) : (m.recorded cs).trajectory rs = m.trajectory rs := by
  induction rs generalizing m cs with
  | nil => rfl
  | cons r rs ih =>
    rw [trajectory, trajectory, respond_recorded h, ih (reflects_respond h r)]
    rfl

/-- Sources that answer the questions of a session alike lead it through the same problems. -/
theorem trajectory_alike (h : p.Reflects f) {rs : List Request} {e e' : Option Fault}
    (ha : Alike ((mk p s e).callsOfAll f rs) s t) :
    (mk p t e').trajectory rs = (mk p s e).trajectory rs := by
  induction rs generalizing p s t e e' with
  | nil => rfl
  | cons r rs ih =>
    rw [callsOfAll, ← h.calls_responding] at ha
    obtain ⟨hout, hrest⟩ := Dialogue.run_alike ha
    rw [trajectory, trajectory, respond_eq_responding, respond_eq_responding (mk p s e)]
    dsimp only
    rw [hout]
    have hr := reflects_respond (m := mk p s e) h r
    rw [respond_eq_responding] at hr hrest
    rw [ih hr hrest]

end Session

namespace Problem

variable {f : Formula}

/-- The questions that are put when a problem is made, and that the problem depends on their answers
    only. -/
theorem build_calls (hne : ∀ c ∈ f, c ≠ []) (noise : Percent) (given : Option Valuation)
    (source : σ) :
    let names := (f.flatten.map (·.name)).eraseDups
    let calls := startingCalls (given.getD []) names
    ∃ p s, p.Reflects f ∧
      build f (.int noise.val) given (⟨source, []⟩ : Recorded σ) = .ok (p, ⟨s, calls.reverse⟩) ∧
      p.valuation = startingValues (given.getD []) names source ∧
      ∀ {τ : Type} [RandomSource τ] {other : τ} {rest : List RandomCall},
        Alike (calls ++ rest) source other →
        ∃ t, build f (.int noise.val) given other = .ok (p, t) ∧ Alike rest s t := by
  intro names calls
  obtain ⟨inst, hinst, hsound, hnames, hspecs⟩ := Instance.ofFormula_spec hne
  have hbuild : ∀ {τ : Type} [RandomSource τ] (t : τ), build f (.int noise.val) given t = _ :=
    fun t => build_eq (Percent.ofValue_int noise) hinst hsound given t
  have hprops := Assignment.propositions_starting inst.vocabulary.propositions given source
  have hlist : inst.vocabulary.propositions.toList.map (·.name) = names := hnames
  refine ⟨ofInstance inst (Assignment.starting inst.vocabulary.propositions given source).1 noise,
    (Assignment.starting inst.vocabulary.propositions given source).2,
    reflects_ofInstance hsound hprops hnames hspecs noise, ?_, ?_, ?_⟩
  · rw [hbuild, Assignment.starting_recorded, hlist]
  · rw [← hlist]
    exact Assignment.toValuation_starting hsound.vocabulary.enumerated given source
  · intro τ _ other rest h
    have hcalls : calls = startingCalls (given.getD [])
        (inst.vocabulary.propositions.toList.map (·.name)) := by rw [hlist]
    rw [hcalls] at h
    obtain ⟨hsame, hrest⟩ := Assignment.starting_alike h
    exact ⟨_, (hbuild other).trans (by rw [hsame]), hrest⟩

/-- All questions that a problem puts to its source. When it is made it asks for one of two values
    for each name, in order of first occurrence, for which none is given. A request asks what
    `callsOf` says, whatever has been asked of the problem before. Sources that answer these
    questions alike give the same problems. -/
theorem random_calls (hne : ∀ c ∈ f, c ≠ []) (noise : Percent) (given : Option Valuation)
    (source : σ) :
    let names := (f.flatten.map (·.name)).eraseDups
    ∃ p s, build f (.int noise.val) given (⟨source, []⟩ : Recorded σ) = .ok (p, s) ∧
      s.calls.reverse = startingCalls (given.getD []) names ∧
      p.valuation = startingValues (given.getD []) names source ∧
      (∀ rs r, let m := Session.respondAll ⟨p, s, none⟩ rs
        (m.respond r).source.calls.reverse =
            m.source.calls.reverse ++ m.problem.callsOf f m.source.source r ∧
          ∀ h : 0 < m.problem.failing f,
            let taken := m.problem.picked f
              (RandomSource.choose m.source.source (m.problem.failing f) h).1
            taken.holds m.problem.valuation.valueOf = false ∧
              ∃ l, (m.problem.step m.source).flipped = some l ∧ l.spec ∈ taken) ∧
      ∀ {τ : Type} [RandomSource τ] (other : τ) (rs : List Request),
        Alike (Session.respondAll ⟨p, s, none⟩ rs).source.calls.reverse source other →
        ∃ t, build f (.int noise.val) given other = .ok (p, t) ∧
          Session.trajectory ⟨p, t, none⟩ rs = Session.trajectory ⟨p, s, none⟩ rs := by
  intro names
  obtain ⟨p, s, hp, hbuilt, hvalues, hother⟩ := build_calls hne noise given source
  let calls := startingCalls (given.getD []) names
  let start : Session σ := ⟨p, s, none⟩
  have hrecord : ∀ rs, Session.respondAll ⟨p, ⟨s, calls.reverse⟩, none⟩ rs =
      (start.respondAll rs).recorded ((start.callsOfAll f rs).reverse ++ calls.reverse) :=
    Session.respondAll_recorded (m := start) hp calls.reverse
  refine ⟨p, ⟨s, calls.reverse⟩, hbuilt, List.reverse_reverse calls, hvalues, ?_, ?_⟩
  · intro rs r m
    have hreflects := Session.reflects_respondAll (m := start) hp rs
    have hm : m = _ := hrecord rs
    rw [hm]
    refine ⟨?_, fun h => ?_⟩
    · rw [Session.respond_recorded hreflects]
      simp only [Session.recorded, List.reverse_append, List.reverse_reverse]
    · exact hreflects.flipped_step (Session.recorded (start.respondAll rs) _).source h
  · intro τ _ other rs h
    have hcalls : (Session.respondAll ⟨p, (⟨s, calls.reverse⟩ : Recorded σ), none⟩
        rs).source.calls.reverse =
        calls ++ start.callsOfAll f rs := by
      rw [hrecord, Session.recorded, List.reverse_append, List.reverse_reverse,
        List.reverse_reverse]
    rw [hcalls] at h
    obtain ⟨t, ht, hrest⟩ := hother h
    refine ⟨t, ht, ?_⟩
    exact (Session.trajectory_alike hp hrest).trans
      (Session.trajectory_recorded (m := start) hp calls.reverse rs).symm

/-- A name with a given value is not asked for, and an even number chooses the same of two as
    another. -/
theorem random_calls_of_two :
    let f : Formula := [[⟨"a", false⟩, ⟨"b", false⟩], [⟨"b", true⟩]]
    ∃ p s, build f (.int 100) (some [("b", false)]) (⟨Script.mk [4], []⟩ : Recorded Script) =
        .ok (p, s) ∧
      s.calls.reverse = [.choose 2] ∧ p.valuation = [("a", true), ("b", false)] ∧
      ∃ t, build f (.int 100) (some [("b", false)]) (Script.mk [6]) = .ok (p, t) := by
  intro f
  obtain ⟨p, s, hbuild, hcalls, hvalues, -, hother⟩ := random_calls (f := f) (by decide)
    ⟨100, by decide⟩ (some [("b", false)]) (Script.mk [4])
  have hcalls : s.calls.reverse = [.choose 2] := hcalls.trans (by decide)
  have halike : Alike s.calls.reverse (Script.mk [4]) (Script.mk [6]) := by
    rw [hcalls]
    exact fun _ => ⟨rfl, trivial⟩
  obtain ⟨t, ht, -⟩ := hother (Script.mk [6]) [] halike
  exact ⟨p, s, hbuild, hcalls, hvalues.trans (by decide), t, ht⟩

end Problem

end FlipSat
