import FlipSat.Proofs.Operation

/-
  FlipSat: the propositions of a problem and the clauses that mention them.
  The names of a problem are those of its formula in the order in which they are first met, and
  after them the names that were asked for later. Only asking for a name can add one
  (`names_perform`), so this holds after all operations (`names_performAll`). The lists of
  occurrences speak of the clauses as they are written (`Reflects.lists`), whatever repetitions
  these hold. `registered_performAll` puts both together for all reachable problems.
-/
namespace FlipSat

/-- The list is that of the places of the clauses with a property, in strictly ascending order. -/
structure Formula.Places (f : Formula) (holds : ClauseSpec → Prop) (is : List Nat) : Prop where
  ascending : is.Pairwise (· < ·)
  mem_iff : ∀ i, i ∈ is ↔ ∃ c, f[i]? = some c ∧ holds c

/-- The lists are those of the clauses that hold the name unnegated, negated and both ways. -/
structure Occurrences.Lists (o : Occurrences Nat) (f : Formula) (name : String) : Prop where
  positive : f.Places (fun c => ⟨name, false⟩ ∈ c) o.positive.toList
  negative : f.Places (fun c => ⟨name, true⟩ ∈ c) o.negative.toList
  complementary :
    f.Places (fun c => ⟨name, false⟩ ∈ c ∧ ⟨name, true⟩ ∈ c) o.complementary.toList

/-- The name that an operation asks for. -/
def Operation.name? : Operation → Option String
  | .proposition name => some name
  | _ => none

namespace Problem

variable {σ : Type} [RandomSource σ] {p : Problem} {f : Formula} {x : Proposition}

/-- What a problem of the formula knows of its propositions and clauses, when the names `later` have
    been asked for since it was built. -/
structure Registered (p : Problem) (f : Formula) (later : List String) : Prop where
  names_eq : p.inst.vocabulary.names = (f.flatten.map (·.name)).eraseDups ++
    (later.removeAll (f.flatten.map (·.name))).eraseDups
  names_nodup : p.inst.vocabulary.names.Nodup
  index_eq : ∀ (k : Nat) (x : Proposition),
    p.inst.vocabulary.propositions[k]? = some x → x.index = k
  clauses_eq : p.inst.clauses.toList.map (fun c => c.literals.map Literal.spec) =
    f.map List.eraseDups
  own : ∀ c ∈ p.inst.clauses, ∀ l ∈ c.literals, l.proposition ∈ p.inst.vocabulary.propositions
  lists : ∀ x ∈ p.inst.vocabulary.propositions, (p.occurrencesOf x).Lists f x.name

/-! ## Occurrences -/

theorem Reflects.places_holders (h : p.Reflects f) (hx : x ∈ p.inst.vocabulary.propositions)
    (b : Bool) :
    f.Places (fun c => ⟨x.name, !b⟩ ∈ c) (holders p.inst.clauses.toList ⟨x, b⟩) where
  ascending := List.pairwise_lt_range.filter _
  mem_iff _ := h.mem_holders hx b

theorem Reflects.places_bothHolders (h : p.Reflects f)
    (hx : x ∈ p.inst.vocabulary.propositions) :
    f.Places (fun c => ⟨x.name, false⟩ ∈ c ∧ ⟨x.name, true⟩ ∈ c)
      (bothHolders p.inst.clauses.toList x) where
  ascending := List.pairwise_lt_range.filter _
  mem_iff i := by
    rw [mem_bothHolders, h.mem_holders hx, h.mem_holders hx]
    constructor
    · intro ⟨⟨c, hc, hpos⟩, d, hd, hneg⟩
      obtain rfl : c = d := Option.some.inj (hc.symm.trans hd)
      exact ⟨c, hc, hpos, hneg⟩
    · intro ⟨c, hc, hpos, hneg⟩
      exact ⟨⟨c, hc, hpos⟩, c, hc, hneg⟩

/-- The occurrences of a proposition are those in the clauses as they are written. -/
theorem Reflects.lists (h : p.Reflects f) (hx : x ∈ p.inst.vocabulary.propositions) :
    (p.occurrencesOf x).Lists f x.name := by
  obtain ⟨hpos, hneg, hboth⟩ := h.consistent.inst.exact x hx
  refine ⟨?_, ?_, ?_⟩
  · rw [occurrencesOf, hpos]
    exact h.places_holders hx true
  · rw [occurrencesOf, hneg]
    exact h.places_holders hx false
  · rw [occurrencesOf, hboth]
    exact h.places_bothHolders hx

/-! ## Names -/

theorem Reflects.inst_flip (h : p.Reflects f) (x : Proposition) : (p.flip x).1.inst = p.inst := by
  rcases h.flip_cases x with ⟨-, hq⟩ | ⟨-, q, hq, -, hinst, -⟩
  · rw [hq]
  · rw [hq]
    exact hinst

theorem Reflects.inst_step (h : p.Reflects f) (source : σ) :
    (p.step source).problem.inst = p.inst := by
  rcases h.step_cases source with ⟨-, he⟩ | ⟨-, c, -, -, l, q, s, -, hq, he⟩
  · rw [he]
  · rw [he]
    exact (h.of_flip hq).2.2.1

theorem Reflects.names_eraseDups (h : p.Reflects f) :
    p.inst.vocabulary.names.eraseDups = p.inst.vocabulary.names :=
  eraseDups_of_nodup h.consistent.inst.vocabulary.enumerated.names_nodup

/-- An operation leaves the names, or adds the name that it asks for, at the end. -/
theorem Reflects.names_perform {s : Session σ} (h : s.problem.Reflects f) (o : Operation) :
    (s.perform o).problem.inst.vocabulary.names =
      (s.problem.inst.vocabulary.names ++ o.name?.toList).eraseDups := by
  have hkept : ∀ q : Problem, q.inst = s.problem.inst →
      q.inst.vocabulary.names = (s.problem.inst.vocabulary.names ++ []).eraseDups := by
    intro q hq
    rw [hq, List.append_nil, h.names_eraseDups]
  cases o with
  | flip x => exact hkept _ (h.inst_flip x)
  | flipLiteral l => exact hkept _ (h.inst_flip l.proposition)
  | step => exact hkept _ (h.inst_step s.source)
  | setNoise v =>
    rw [Session.perform]
    cases hv : s.problem.setNoise v with
    | ok q =>
      obtain ⟨n, rfl⟩ := setNoise_inv hv
      exact hkept _ rfl
    | error e => exact hkept _ rfl
  | proposition name => exact Vocabulary.names_intern h.consistent.inst.vocabulary name
  | delta x => exact hkept _ rfl
  | greedy c => exact hkept _ rfl

theorem Reflects.names_performAll {s : Session σ} (h : s.problem.Reflects f)
    (os : List Operation) :
    (s.performAll os).problem.inst.vocabulary.names =
      (s.problem.inst.vocabulary.names ++ os.filterMap Operation.name?).eraseDups := by
  induction os generalizing s with
  | nil =>
    rw [List.filterMap_nil, List.append_nil, h.names_eraseDups]
    rfl
  | cons o os ih =>
    have hstep : (o :: os).filterMap Operation.name? =
        o.name?.toList ++ os.filterMap Operation.name? := by
      rw [List.filterMap_cons]
      cases o.name? <;> rfl
    show ((s.perform o).performAll os).problem.inst.vocabulary.names = _
    rw [ih (h.perform o), h.names_perform o, eraseDups_eraseDups_append, hstep,
      List.append_assoc]

/-- The names of a problem that was just built are those of the formula. -/
theorem names_of_build (hne : ∀ c ∈ f, c ≠ []) (noise : Percent) (given : Option Valuation)
    {source s : σ} (h : build f (.int noise.val) given source = .ok (p, s)) :
    p.inst.vocabulary.names = (f.flatten.map (·.name)).eraseDups := by
  obtain ⟨inst, hinst, hsound, hnames, -⟩ := Instance.ofFormula_spec hne
  rw [build_eq (Percent.ofValue_int noise) hinst hsound] at h
  cases h
  exact hnames

/-- After any operations a problem of a formula has the formula's names, and the names that were
    asked for later behind them, each once and each proposition at its own index. Its clauses are
    those of the formula without repeated literals, and each proposition has the lists of the
    clauses that hold it unnegated, negated and both ways. -/
theorem registered_performAll (hne : ∀ c ∈ f, c ≠ []) (noise : Percent)
    (given : Option Valuation) (source : σ) :
    ∃ p s, build f (.int noise.val) given source = .ok (p, s) ∧ ∀ os : List Operation,
      (Session.performAll ⟨p, s, none⟩ os).problem.Registered f
        (os.filterMap Operation.name?) := by
  obtain ⟨p, s, hbuild, hp, -⟩ := build_spec hne (Percent.ofValue_int noise) given source
  refine ⟨p, s, hbuild, ?_⟩
  intro os
  have hq : (Session.performAll ⟨p, s, none⟩ os).problem.Reflects f :=
    Reflects.performAll (s := ⟨p, s, none⟩) hp os
  have hnames := Reflects.names_performAll (s := ⟨p, s, none⟩) hp os
  rw [names_of_build hne noise given hbuild, eraseDups_eraseDups_append,
    List.eraseDups_append] at hnames
  exact {
    names_eq := hnames
    names_nodup := hq.consistent.inst.vocabulary.enumerated.names_nodup
    index_eq := hq.consistent.inst.vocabulary.index_eq
    clauses_eq := hq.specs_eq
    own := hq.consistent.inst.own
    lists := fun x hx => hq.lists hx }

/-- The clauses repeat literals before and after they hold the proposition the other way, and of the
    names that are asked for only one is new. -/
theorem registered_performAll_of_repeated :
    let f : Formula := [[⟨"p", false⟩, ⟨"p", true⟩, ⟨"p", false⟩],
      [⟨"q", true⟩, ⟨"p", true⟩, ⟨"q", true⟩]]
    (∀ c ∈ f, c ≠ []) ∧
    ∃ p s, build f (.int 10) none (Script.mk [1, 0]) = .ok (p, s) ∧
      let q := (Session.performAll ⟨p, s, none⟩
        [.proposition "r", .flip ⟨"q", 1, 0⟩, .proposition "p", .step, .proposition "r"]).problem
      q.Registered f ["r", "p", "r"] ∧ q.inst.vocabulary.names = ["p", "q", "r"] := by
  intro f
  have hne : ∀ c ∈ f, c ≠ [] := by decide
  obtain ⟨p, s, hbuild, hall⟩ :=
    registered_performAll hne ⟨10, by decide⟩ none (Script.mk [1, 0])
  refine ⟨hne, p, s, hbuild, ?_⟩
  intro q
  have hq : q.Registered f ["r", "p", "r"] := hall _
  refine ⟨hq, ?_⟩
  rw [hq.names_eq]
  decide

end Problem

end FlipSat
