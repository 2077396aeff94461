import FlipSat.CommandLine.Check
import FlipSat.Proofs.LineBreaks
import FlipSat.Proofs.Operation

/-
  FlipSat: a problem is built again from the texts of its clauses.
  Repeated literals leave no trace in an instance (`Instance.ofFormula_map_eraseDups`): their names
  are known when they come, so every other name is met in the same order and gets the same index.
  The texts of the clauses are the lines of the formula without its repetitions
  (`Instance.texts_of_formula`), which can be written if the formula can. Hence they are read as a
  formula with the very same instance, and from equal values and equal sources everything that is
  done with the problem comes out the same (`Problem.Reflects.ofLines_texts`). What a check shows of
  a file can be put into a file and checked again (`CommandLine.loadFormula_lines`).
-/
namespace FlipSat

/-! ## Repeated literals -/

namespace Vocabulary

variable {v : Vocabulary} {name : String} {x : Proposition}

/-- A name that a proposition has is not added again. -/
theorem Sound.intern_of_mem (h : v.Sound) (hx : x ∈ v.propositions) :
    v.intern x.name = (x, v) := by
  unfold Vocabulary.intern
  rw [h.find?_eq_some_iff.mpr ⟨hx, rfl⟩]

theorem internAll_concat (v : Vocabulary) (c : ClauseSpec) (l : LiteralSpec) :
    v.internAll (c ++ [l]) =
      ((v.internAll c).1 ++ [⟨((v.internAll c).2.intern l.name).1, !l.negated⟩],
        ((v.internAll c).2.intern l.name).2) := by
  induction c generalizing v with
  | nil => rfl
  | cons m c ih => rw [List.cons_append, internAll_cons, ih, internAll_cons, List.cons_append]

/-- Repeated literals leave no trace: their names are known when they come. -/
theorem Sound.internAll_eraseDups (h : v.Sound) (c : ClauseSpec) :
    v.internAll c.eraseDups = ((v.internAll c).1.eraseDups, (v.internAll c).2) := by
  induction c using List.reverseRecOn with
  | nil => rfl
  | append_singleton c l ih =>
    have hc := h.internAll c
    have hspec := spec_internAll h c
    rw [eraseDups_concat, internAll_concat, eraseDups_concat]
    by_cases hl : l ∈ c
    · rw [← hspec] at hl
      obtain ⟨m, hm, rfl⟩ := List.mem_map.mp hl
      have hintern := hc.intern_of_mem (mem_internAll h c m hm)
      have hname : m.spec.name = m.proposition.name := rfl
      have hliteral : (⟨m.proposition, !m.spec.negated⟩ : Literal) = m := by simp [Literal.spec]
      rw [hspec] at hl
      rw [if_pos hl, ih, hname, hintern, hliteral, if_pos hm]
    · have hnew : (⟨((v.internAll c).2.intern l.name).1, !l.negated⟩ : Literal) ∉
          (v.internAll c).1 := by
        intro hm
        apply hl
        have hmem := List.mem_map_of_mem (f := Literal.spec) hm
        rw [hspec] at hmem
        simpa [Literal.spec, name_intern hc] using hmem
      rw [if_neg hl, internAll_concat, ih, if_neg hnew]

end Vocabulary

namespace Instance

variable {inst : Instance}

theorem Sound.addClause_eraseDups (h : inst.Sound) (c : ClauseSpec) :
    inst.addClause c.eraseDups = inst.addClause c := by
  have herase := h.vocabulary.internAll_eraseDups c
  have hclause : Clause.ofLiterals inst.clauses.size (inst.vocabulary.internAll c).1.eraseDups =
      Clause.ofLiterals inst.clauses.size (inst.vocabulary.internAll c).1 := by
    unfold Clause.ofLiterals Clause.ofLiterals?
    by_cases hnil : (inst.vocabulary.internAll c).1 = []
    · rw [hnil]
      rfl
    · rw [dif_neg hnil, dif_neg (Clause.eraseDups_ne_nil hnil)]
      simp only [eraseDups_of_nodup (nodup_eraseDups (inst.vocabulary.internAll c).1)]
  unfold addClause
  rw [herase]
  dsimp only
  rw [hclause]

theorem Sound.addClauses_map_eraseDups (h : inst.Sound) (f : Formula) :
    inst.addClauses (f.map List.eraseDups) = inst.addClauses f := by
  induction f generalizing inst with
  | nil => rfl
  | cons c f ih =>
    rw [List.map_cons, addClauses, addClauses, h.addClause_eraseDups c]
    cases c with
    | nil => rfl
    | cons l ls =>
      obtain ⟨next, hnext, hsound, -⟩ := addClause_spec h (List.cons_ne_nil l ls)
      rw [hnext]
      exact ih hsound

/-- Repeated literals make no difference to an instance. -/
theorem ofFormula_map_eraseDups (f : Formula) : ofFormula (f.map List.eraseDups) = ofFormula f :=
  sound_empty.addClauses_map_eraseDups f

end Instance

/-! ## The texts of the clauses -/

theorem Literal.text_spec (l : Literal) : l.spec.text = l.text := by
  obtain ⟨x, positive⟩ := l
  cases positive <;> rfl

theorem Clause.text_specs (c : Clause) :
    ClauseSpec.text (c.literals.map Literal.spec) = c.text := by
  unfold ClauseSpec.text Clause.text
  rw [List.map_map]
  congr 2
  funext l
  exact Literal.text_spec l

namespace Instance

/-- The clauses in the line format. -/
def texts (inst : Instance) : List String := inst.clauses.toList.map (·.text)

theorem texts_eq (inst : Instance) : inst.texts = inst.specs.lines := by
  unfold texts specs Formula.lines
  rw [List.map_map]
  congr 1
  funext c
  exact (Clause.text_specs c).symm

/-- The texts of the clauses are the lines of the formula without its repetitions. -/
theorem texts_of_formula {f : Formula} {inst : Instance} (hne : ∀ c ∈ f, c ≠ [])
    (hinst : ofFormula f = .ok inst) : inst.texts = Formula.lines (f.map List.eraseDups) := by
  obtain ⟨other, hother, -, -, hspecs⟩ := ofFormula_spec hne
  rw [hinst] at hother
  cases hother
  rw [texts_eq, hspecs]

end Instance

namespace Formula

variable {f : Formula}

theorem Writable.map_eraseDups (h : f.Writable) : Writable (f.map List.eraseDups) := by
  intro c hc
  obtain ⟨d, hd, rfl⟩ := List.mem_map.mp hc
  obtain ⟨hne, hnames⟩ := h d hd
  refine ⟨?_, fun l hl => hnames l (List.mem_eraseDups.mp hl)⟩
  obtain ⟨l, hl⟩ := List.exists_mem_of_ne_nil d hne
  exact List.ne_nil_of_mem (List.mem_eraseDups.mpr hl)

theorem Unbroken.map_eraseDups (h : f.Unbroken) : Unbroken (f.map List.eraseDups) := by
  intro c hc l hl
  obtain ⟨d, hd, rfl⟩ := List.mem_map.mp hc
  exact h d hd l (List.mem_eraseDups.mp hl)

end Formula

/-! ## Problems of lines -/

variable {σ : Type} [RandomSource σ]

/-- The session with the problem of a list of lines, after some operations. -/
def Session.ofLines (lines : List String) (noise : Value) (given : Option Valuation) (source : σ)
    (os : List Operation) : Except Fault (Session σ) := do
  let (p, s) ← Problem.ofLines lines noise given source
  pure (performAll ⟨p, s, none⟩ os)

namespace Problem

variable {p : Problem} {f : Formula} {lines : List String}

theorem ofLines_eq (h : Formula.parseLines lines = .ok f) (noise : Value)
    (given : Option Valuation) (source : σ) :
    ofLines lines noise given source = build f noise given source := by
  unfold ofLines
  rw [h]
  rfl

theorem build_map_eraseDups (f : Formula) (noise : Value) (given : Option Valuation) (source : σ) :
    build (f.map List.eraseDups) noise given source = build f noise given source := by
  unfold build
  rw [Instance.ofFormula_map_eraseDups]

/-- Whatever has become of a problem, the texts of its clauses build it from the start, with any
    noise, values and source. -/
theorem Reflects.ofLines_texts (h : p.Reflects f) (hf : Formula.parseLines lines = .ok f)
    (noise : Value) (given : Option Valuation) (source : σ) :
    ofLines p.inst.texts noise given source = ofLines lines noise given source := by
  have hread : Formula.parseLines p.inst.texts = .ok (f.map List.eraseDups) := by
    rw [Instance.texts_eq, h.specs_eq]
    have hw := (Formula.parseLines_eq_ok_iff.mp hf).writable
    exact Formula.parseLines_lines_iff.mpr hw.map_eraseDups
  rw [ofLines_eq hread, ofLines_eq hf, build_map_eraseDups]

end Problem

/-! ## Checking again -/

namespace CommandLine

variable {files : FileTree} {path : String} {dimacs : Bool} {f : Formula} {inst : Instance}

/-- What a check reads from a file can be written, and no name of it holds a line break. -/
theorem loadFormula_spec (h : loadFormula files path dimacs = .ok f) :
    f.Writable ∧ f.Unbroken := by
  cases dimacs with
  | false => exact Formula.load_spec h
  | true =>
    obtain ⟨d, hd, rfl⟩ := map_eq_ok_iff.mp h
    exact Dimacs.load_spec hd

/-- A file with the lines of a formula in it is read as the formula. -/
theorem loadFormula_lines (hw : f.Writable) (hu : f.Unbroken)
    (hread : files.read path = .ok (unlines f.lines).toUTF8) :
    loadFormula files path false = .ok f := by
  have hlines := hu.isLine_of_mem_lines
  refine Formula.load_eq_ok_iff.mpr ⟨_, readText_unlines hlines hread, ?_⟩
  rw [linesOf_unlines hlines]
  exact Formula.parseLines_lines_iff.mpr hw

theorem CheckArguments.run_eq {args : CheckArguments} {env : Environment}
    (hf : loadFormula env.files args.file args.dimacs = .ok f)
    (hinst : Instance.ofFormula f = .ok inst) :
    args.run env =
      { files := env.files, output := overviewOf inst, ending := .code ProgramEnd.solved } := by
  have hread : (loadFormula env.files args.file args.dimacs).bind Instance.ofFormula =
      .ok inst := by
    rw [hf]
    exact hinst
  unfold run
  rw [hread]

end CommandLine

open CommandLine

/-- Lines that are read have a problem, and whatever is done with it, the texts of its clauses can
    stand for the lines: with any noise, values and source, and after any operations, such as a
    number of steps, no part of the problem and of the source tells which of them it was built from.
    The lines that a check shows of a file of either format can stand for the file, and are shown
    again. -/
theorem Problem.rebuilt_from_texts :
    (∀ (lines : List String) (f : Formula), Formula.parseLines lines = .ok f →
      ∀ (noise : Percent) (given : Option Valuation) (source : σ) (os : List Operation),
        ∃ t, Session.ofLines lines (.int noise.val) given source os = .ok t ∧
          ∀ (noise' : Value) (given' : Option Valuation) (source' : σ) (os' : List Operation),
            Session.ofLines t.problem.inst.texts noise' given' source' os' =
              Session.ofLines lines noise' given' source' os') ∧
    ∀ (args : CheckArguments) (env : Environment) (f : Formula),
      loadFormula env.files args.file args.dimacs = .ok f →
      ∃ inst, Instance.ofFormula f = .ok inst ∧
        let shown := unlines inst.texts ++ Text.showNat inst.clauses.size ++ " clauses, " ++
          Text.showNat inst.vocabulary.size ++ " propositions\n"
        args.run env = { files := env.files, output := shown, ending := .code ProgramEnd.solved } ∧
        ∀ (env' : Environment) (path : String),
          env'.files.read path = .ok (unlines inst.texts).toUTF8 →
          CheckArguments.run ⟨path, false⟩ env' =
            { files := env'.files, output := shown, ending := .code ProgramEnd.solved } := by
  constructor
  · intro lines f hf noise given source os
    have hne : ∀ c ∈ f, c ≠ [] := fun c hc =>
      ((Formula.parseLines_eq_ok_iff.mp hf).writable c hc).1
    obtain ⟨p, s, hbuild, hall⟩ := build_performAll hne noise given source
    refine ⟨Session.performAll ⟨p, s, none⟩ os, ?_, ?_⟩
    · unfold Session.ofLines
      rw [ofLines_eq hf, hbuild]
      rfl
    · intro noise' given' source' os'
      unfold Session.ofLines
      rw [(hall os).ofLines_texts hf]
  · intro args env f hf
    obtain ⟨hw, hu⟩ := loadFormula_spec hf
    have hne : ∀ c ∈ f, c ≠ [] := fun c hc => (hw c hc).1
    obtain ⟨inst, hinst, -⟩ := Instance.ofFormula_spec hne
    refine ⟨inst, hinst, CheckArguments.run_eq hf hinst, ?_⟩
    intro env' path hread
    rw [Instance.texts_of_formula hne hinst] at hread
    have hagain := loadFormula_lines hw.map_eraseDups hu.map_eraseDups hread
    exact CheckArguments.run_eq hagain ((Instance.ofFormula_map_eraseDups f).trans hinst)

/-- Clauses that repeat literals and hold a proposition both ways, with blanks around the signs. -/
theorem Problem.rebuilt_from_texts_of_repeated :
    let lines := ["be | !be|be ", " ! to be|be |!to be", " "]
    let f : Formula := [[⟨"be", false⟩, ⟨"be", true⟩, ⟨"be", false⟩],
      [⟨"to be", true⟩, ⟨"be", false⟩, ⟨"to be", true⟩]]
    let env : Environment :=
      { files := ⟨[(["plan"], .file (unlines lines).toUTF8)]⟩, clock := .steady .nan,
        wall := ⟨fun _ => .one, fun _ => "now"⟩, traceback := Fault.message }
    Formula.parseLines lines = .ok f ∧
    (∃ t, Session.ofLines lines (.int 10) (some [("be", false)]) (Script.mk [1, 0, 7]) [.step] =
        .ok t ∧
      Session.ofLines t.problem.inst.texts (.int 10) none (Script.mk [1, 1, 0]) [.step, .step] =
        Session.ofLines lines (.int 10) none (Script.mk [1, 1, 0]) [.step, .step]) ∧
    loadFormula env.files "plan" false = .ok f ∧
    ∃ inst, Instance.ofFormula f = .ok inst ∧
      let again := { env with files := ⟨[(["again"], .file (unlines inst.texts).toUTF8)]⟩ }
      (CheckArguments.run ⟨"again", false⟩ again).output =
        (CheckArguments.run ⟨"plan", false⟩ env).output := by
  intro lines f env
  have hlines : Formula.parseLines lines = .ok f := by decide
  have hwhole : ∀ l ∈ lines, Text.IsLine l.toList := by decide
  have hread : env.files.read "plan" = .ok (unlines lines).toUTF8 := rfl
  have hload : loadFormula env.files "plan" false = .ok f := by
    refine Formula.load_eq_ok_iff.mpr ⟨_, readText_unlines hwhole hread, ?_⟩
    rw [linesOf_unlines hwhole]
    exact hlines
  obtain ⟨hsessions, hchecks⟩ := rebuilt_from_texts (σ := Script)
  refine ⟨hlines, ?_, hload, ?_⟩
  · obtain ⟨t, ht, hall⟩ := hsessions lines f hlines ⟨10, by decide⟩ (some [("be", false)])
      (Script.mk [1, 0, 7]) [.step]
    exact ⟨t, ht, hall _ _ _ _⟩
  · obtain ⟨inst, hinst, hrun, hagain⟩ := hchecks ⟨"plan", false⟩ env f hload
    refine ⟨inst, hinst, ?_⟩
    intro again
    rw [hrun, hagain again "again" rfl]

end FlipSat
