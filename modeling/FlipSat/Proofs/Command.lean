import FlipSat.CommandLine.Basic
import FlipSat.Proofs.Budget
import FlipSat.Proofs.Flags
import FlipSat.Proofs.JsonText
import FlipSat.Proofs.Options
import FlipSat.Proofs.Rebuild

/-
  FlipSat: what the commands answer, from the arguments to the exit code.
  A file is loaded exactly if it is UTF-8 and a parser accepts it (`loadFormula_eq_ok_iff`), and
  what is wrong with it otherwise is a refusal (`isRefusal_of_loadFormula`). Flags that can be gone
  by give a search that returns (`Flags.Admitted.search_returns`), and its result is a success
  exactly if it has come through a solution (`Solver.isSat_iff`). `SolveArguments.run_cases` puts
  these together, one way for each end of a run, and `run_exact` says what is seen of them, with any
  library of settings. What is printed as JSON is read back by `Json.read?`.
-/
namespace FlipSat

/-! ## Files -/

/-- Is there nothing at a path, or a file? -/
def FileTree.HoldsAtMostFile (tree : FileTree) (path : String) : Prop :=
  tree.exists? path = false ∨ ∃ bytes, tree.read path = .ok bytes

/-! ## Answers -/

namespace Solver

variable {σ : Type} {s : Solver σ}

theorem holdsForeign_statisticsOf (h : Json.entriesHoldForeign s.statistics = false)
    (x : Search σ) (runtime : Binary64) :
    Json.entriesHoldForeign (s.statisticsOf x runtime) = false := by
  have hflips := Json.entriesHoldForeign_put h "flips" (v := .int x.flips) rfl
  have htries := Json.entriesHoldForeign_put hflips "tries" (v := .int x.tries) rfl
  have hsatisfied := Json.entriesHoldForeign_put htries "satisfied_clauses"
    (v := .int ((x.best.map (·.satisfied)).getD 0)) rfl
  have hruntime := Json.entriesHoldForeign_put hsatisfied "runtime" (v := .real runtime) rfl
  unfold statisticsOf
  cases x.problem with
  | none => exact hruntime
  | some p => exact Json.entriesHoldForeign_put hruntime "propositions" rfl

variable [RandomSource σ] {timeout : Value} {r : SearchResult}

/-- A search is a success exactly if it has come through a problem that satisfies the formula. -/
theorem isSat_iff (hne : ∀ c ∈ s.formula, c ≠ []) (hr : (s.solve timeout).result = .ok r) :
    r.isSat = true ↔
      ∃ q ∈ (s.visited timeout).flatten, s.formula.holds q.valuation.valueOf = true := by
  obtain ⟨t, e, hseen, hsolved, hstatus, -⟩ := solve_seen hne hr
  have hsat : r.isSat = true ↔ e = .solved := by
    rw [SearchResult.isSat, hstatus]
    cases e <;> decide
  rw [hsat, hsolved]
  refine exists_congr fun q => and_congr_right fun hq => ?_
  rw [(hseen.reflects q hq).isSolved_eq]

/-- The assignment of a success has a value for every proposition and satisfies the formula. -/
theorem assignment_of_isSat (hne : ∀ c ∈ s.formula, c ≠ [])
    (hr : (s.solve timeout).result = .ok r) (hsat : r.isSat = true) :
    ∃ a, r.assignment = some a ∧ a.map (·.1) = (s.formula.flatten.map (·.name)).eraseDups ∧
      s.formula.holds a.valueOf = true := by
  obtain ⟨q, hq, hholds⟩ := (isSat_iff hne hr).mp hsat
  obtain ⟨t, -, hseen, -, -, hassign, -⟩ := solve_seen hne hr
  have hbest := hseen.best
  cases hb : t.best with
  | none =>
    rw [hb] at hbest
    exact absurd (hbest ▸ hq) List.not_mem_nil
  | some b =>
    rw [hb] at hbest
    obtain ⟨p, hp, rfl⟩ := hbest
    have hpr := hseen.reflects p hp.mem
    have hqr := hseen.reflects q hq
    refine ⟨p.valuation, by rw [hassign, hb]; rfl, ?_, ?_⟩
    · rw [Problem.valuation, Assignment.keys_toValuation hpr.consistent.enumerated, hpr.names_eq]
    · rw [← hqr.isSolved_eq, hqr.isSolved_iff] at hholds
      rw [← hpr.isSolved_eq, hpr.isSolved_iff]
      exact Nat.le_antisymm hpr.satisfiedCount_le (hholds ▸ hp.le hq)

/-- There is a form in JSON for the result of a search, if there is one for what its solver
    knows. -/
theorem holdsForeign_of_solve (h : Json.entriesHoldForeign s.statistics = false)
    (hr : (s.solve timeout).result = .ok r) : Json.holdsForeign r.toValue = false := by
  have hstatistics : Json.entriesHoldForeign r.statistics = false := by
    rcases hready : s.ready timeout with ⟨s', e | b⟩
    · rw [solve, hready] at hr
      cases hr
    · obtain ⟨-, -, -, -, -, hs'⟩ := ready_eq_ok_iff.mp hready
      have hkept : s'.statistics = s.statistics := by rw [hs']
      rcases htry : s'.tryUpTo b.deadline b.tries s'.opening with ⟨t, e | ending⟩
      · simp only [solve, hready, htry] at hr
        cases hr
      · rw [solve_of_tries hready htry] at hr
        obtain rfl := Except.ok.inj hr
        exact holdsForeign_statisticsOf (hkept ▸ h) _ _
  have hvaluation : ∀ a : Valuation, Json.holdsForeign a.toValue = false := fun a =>
    Json.entriesHoldForeign_map Prod.fst fun _ _ => rfl
  unfold SearchResult.toValue
  cases r.assignment <;> cases r.errorMessage <;>
    simp [Json.holdsForeign, Json.entriesHoldForeign, hvaluation, hstatistics]

end Solver

namespace CommandLine

/-- A file that is UTF-8 and that the parser of its format accepts, with the formula in it. -/
def Accepts (files : FileTree) (path : String) (dimacs : Bool) (f : Formula) : Prop :=
  ∃ bytes s, files.read path = .ok bytes ∧ Text.ofUtf8 bytes = .ok s ∧
    let text := String.ofList (Text.foldNewlines s.toList)
    if dimacs then ∃ d, Dimacs.parse text = .ok d ∧ d.formula = f
    else Formula.parseLines (linesOf text) = .ok f

variable {files : FileTree} {path : String} {dimacs : Bool} {f : Formula} {e : Fault}

theorem loadFormula_eq_ok_iff :
    loadFormula files path dimacs = .ok f ↔ Accepts files path dimacs f := by
  have hload : loadFormula files path dimacs = .ok f ↔ ∃ text, readText files path = .ok text ∧
      if dimacs then ∃ d, Dimacs.parse text = .ok d ∧ d.formula = f
      else Formula.parseLines (linesOf text) = .ok f := by
    cases dimacs with
    | false => exact Formula.load_eq_ok_iff
    | true =>
      unfold loadFormula
      simp only [if_true, map_eq_ok_iff, Dimacs.load_eq_ok_iff]
      constructor
      · rintro ⟨d, ⟨text, htext, hd⟩, rfl⟩
        exact ⟨text, htext, d, hd, rfl⟩
      · rintro ⟨text, htext, d, hd, rfl⟩
        exact ⟨d, ⟨text, htext, hd⟩, rfl⟩
  rw [hload]
  unfold Accepts
  constructor
  · rintro ⟨text, htext, hparse⟩
    obtain ⟨bytes, s, hread, hutf, rfl⟩ := readText_eq_ok_iff.mp htext
    exact ⟨bytes, s, hread, hutf, hparse⟩
  · rintro ⟨bytes, s, hread, hutf, hparse⟩
    exact ⟨_, readText_eq_ok_iff.mpr ⟨bytes, s, hread, hutf, rfl⟩, hparse⟩

theorem accepts_unique {g : Formula} (hf : Accepts files path dimacs f)
    (hg : Accepts files path dimacs g) : f = g :=
  Except.ok.inj ((loadFormula_eq_ok_iff.mpr hf).symm.trans (loadFormula_eq_ok_iff.mpr hg))

theorem not_accepts_of_loadFormula (h : loadFormula files path dimacs = .error e) (f : Formula) :
    ¬ Accepts files path dimacs f := by
  rw [← loadFormula_eq_ok_iff, h]
  exact nofun

/-- No clause of a file is empty. -/
theorem Accepts.ne_nil (hf : Accepts files path dimacs f) : ∀ c ∈ f, c ≠ [] := fun c hc =>
  ((loadFormula_spec (loadFormula_eq_ok_iff.mpr hf)).1 c hc).1

theorem fault_of_readText {tree : FileTree} {bytes : ByteArray} (hread : tree.read path = .ok bytes)
    (h : readText tree path = .error e) : ∃ why, e = .parse why := by
  unfold readText at h
  rw [hread] at h
  dsimp only at h
  split at h
  · exact ⟨_, (Except.error.inj h).symm⟩
  · cases h

/-- What can be wrong when something is loaded from a file. -/
theorem fault_of_loading {α : Type} {missing : Fault} {use : String → Except ParseFault α}
    (hfile : files.HoldsAtMostFile path)
    (h : (do
      if !files.exists? path then throw missing
      let text ← readText files path
      (use text).mapError .parse) = .error e) : e = missing ∨ ∃ why, e = .parse why := by
  rcases hfile with hmissing | ⟨bytes, hread⟩
  · rw [hmissing] at h
    exact .inl (Except.error.inj h).symm
  · rw [FileTree.exists?_of_read hread] at h
    refine .inr ?_
    cases htext : readText files path with
    | error x =>
      rw [htext] at h
      cases h
      exact fault_of_readText hread htext
    | ok text =>
      rw [htext] at h
      change (use text).mapError .parse = .error e at h
      cases huse : use text with
      | error why =>
        rw [huse] at h
        exact ⟨why, (Except.error.inj h).symm⟩
      | ok a =>
        rw [huse] at h
        cases h

/-- Whatever is wrong with a file, the commands have an answer to it. -/
theorem isRefusal_of_loadFormula (hfile : files.HoldsAtMostFile path)
    (h : loadFormula files path dimacs = .error e) : isRefusal e = true := by
  unfold loadFormula at h
  cases dimacs with
  | false =>
    rcases fault_of_loading hfile h with rfl | ⟨why, rfl⟩ <;> rfl
  | true =>
    rcases fault_of_loading hfile (map_eq_error_iff.mp h) with rfl | ⟨why, rfl⟩ <;> rfl

/-! ## Searches -/

/-- The search that flags stand for. -/
def Flags.search (v : Flags) (f : Formula) (env : Environment) : Solver Seeded :=
  { Solver.ofFormula f v.parameters none false
      { source := Seeded.ofSeed (.int (v.seed.getD env.entropy)) } env.clock with
    traceback := env.traceback }

variable {γ : Type} [SettingsLibrary γ] [LawfulLibrary γ] {v : Flags} {s : Settings γ}
  {args : SolveArguments} {env : Environment}

theorem Flags.HeldBy.search (h : v.HeldBy s.config) (files : FileTree) :
    CommandLine.search args s false files env = match loadFormula files args.file v.dimacs with
      | .error e => ([], .error e)
      | .ok f =>
        let answer := (v.search f env).solve .null
        (answer.events, answer.result) := by
  have hdimacs : (Value.text (if v.dimacs then "dimacs" else "lines")).same (.text "dimacs") =
      v.dimacs := by
    cases v.dimacs <;> rfl
  have hseed : (if ((v.seed.map Value.int).getD .null).isNull then .int env.entropy
      else (v.seed.map Value.int).getD .null) = Value.int (v.seed.getD env.entropy) := by
    cases v.seed <;> rfl
  unfold CommandLine.search Flags.search
  rw [h.get_format, h.get_seed, h.ofSettings]
  cases hload : loadFormula files args.file v.dimacs <;>
    simp [bind, Except.bind, pure, Except.pure, hdimacs, hload, hseed]

theorem Flags.Admitted.valid (h : v.Admitted) : v.parameters.Valid where
  noiseLevel := by
    obtain ⟨hlow, hhigh⟩ := h.noise
    exact ⟨⟨v.noise.toNat, by omega⟩, congrArg Value.int (Int.toNat_of_nonneg hlow).symm⟩
  noiseStart := .inl rfl
  annealFlips := ⟨0, rfl⟩
  maxFlips := ⟨v.maxFlips.toNat, Int.lt_toNat.mpr h.maxFlips,
    congrArg Value.int (Int.toNat_of_nonneg h.maxFlips.le).symm⟩
  maxTries := ⟨v.maxTries.toNat, Int.lt_toNat.mpr h.maxTries,
    congrArg Value.int (Int.toNat_of_nonneg h.maxTries.le).symm⟩
  timeout := .inr (.inr ⟨v.timeout, h.timeout, rfl⟩)
  progressInterval := ⟨1000, rfl⟩

/-- A search with flags returns. -/
theorem Flags.Admitted.search_returns (h : v.Admitted) (hv : v.Writable) (hne : ∀ c ∈ f, c ≠ [])
    (env : Environment) : ∃ r, ((v.search f env).solve .null).result = .ok r := by
  have hdeadline : ∃ d, Solver.deadlineOf env.clock.now (.real v.timeout) = .ok d := by
    unfold Solver.deadlineOf
    split
    · exact ⟨_, rfl⟩
    · exact ⟨_, rfl⟩
  obtain ⟨d, hd⟩ := hdeadline
  have hready : (v.search f env).ready .null = (_, .ok
      ⟨env.clock.now, .real v.timeout, d, v.maxTries.toNat⟩) :=
    Solver.ready_eq_ok_iff.mpr ⟨rfl, rfl, rfl, hd, rfl, rfl⟩
  exact Solver.solve_returns hne h.valid hv.maxTries hready

/-! ## Runs -/

/-- Nothing is put out, and one line says what the run was refused for. -/
def Outcome.Refuses (o : Outcome) : Prop :=
  o.output = "" ∧ ∃ message, o.errorText = "error: " ++ message ++ "\n"

/-- The output shows an assignment: a line for each value behind a first line, or a JSON table with
    the values in a table of their own. -/
def Shows (json : Bool) (a : Valuation) (output : String) : Prop :=
  if json then
    ∃ t, Json.read? output = some t ∧
      t.get? "assignment" = some (.table (a.map fun e => (e.1, .bool e.2)))
  else
    ∃ first, output = String.join
      ((first :: a.map fun e => e.1 ++ " = " ++ (if e.2 then "true" else "false")).map (· ++ "\n"))

theorem shows_printed {json : Bool} {r : SearchResult} {a : Valuation}
    (hform : Json.holdsForeign r.toValue = false) (hsat : r.isSat = true)
    (ha : r.assignment = some a) : Shows json a (printed json r) := by
  cases json with
  | true =>
    refine ⟨_, (Json.read?_pretty hform).2, ?_⟩
    have htree : Json.Tree.ofValue a.toValue = .table (a.map fun e => (e.1, .bool e.2)) := by
      rw [Valuation.toValue, Json.Tree.ofValue, Json.ofEntries_eq_map, List.map_map]
      rfl
    rw [← htree, SearchResult.toValue, ha]
    rfl
  | false =>
    refine ⟨r.summary, ?_⟩
    simp only [printed, Bool.false_eq_true, if_false, hsat, if_true, ha, Option.getD_some, unlines]

/-- All that a command line gives for the flags can be written. -/
theorem SolveArguments.flags_writable {argv : List String}
    (h : Request.ofArguments argv = .ok (.solve args)) : args.flags.Writable := by
  have hgetD : ∀ (o : Option Int) (n : Nat), n < 10 ^ 6 →
      (∀ m, o = some m → (Value.int m).isWritable = true) →
      (Value.int (o.getD n)).isWritable = true := by
    intro o n hn ho
    cases o with
    | none =>
      have hle : (10 : Nat) ^ 6 ≤ 10 ^ Text.maxDigits :=
        Nat.pow_le_pow_right (by decide) (by decide)
      exact (Value.isWritable_int n).mpr (lt_of_lt_of_le hn hle)
    | some m => exact ho m rfl
  exact {
    noise := hgetD args.noise 10 (by decide) fun n hn => isWritable_of_arguments h (.inl hn)
    maxFlips := hgetD args.maxFlips 100000 (by decide) fun n hn =>
      isWritable_of_arguments h (.inr (.inl hn))
    maxTries := hgetD args.maxTries 1 (by decide) fun n hn =>
      isWritable_of_arguments h (.inr (.inr hn)) }

theorem SolveArguments.run_of_fault {c : ConfigFault} (h : args.Plain)
    (hv : args.flags.Writable) (hfault : args.flags.fault? = some c) :
    args.run γ env = { files := env.files, ending := .refused (.config c) } := by
  have hsettings := yields_settings (γ := γ) h env.files
  unfold Flags.Yields at hsettings
  rw [hfault] at hsettings
  dsimp only at hsettings
  unfold run
  rw [hsettings, hv.ofConfig hfault]
  rfl

/-- The run of a search whose flags can be gone by: it changes no file, and what it says goes to the
    error stream. -/
theorem SolveArguments.run_of_admitted (h : args.Plain) (hfault : args.flags.fault? = none)
    (env : Environment) : ∃ (s : Settings γ) (log : Log), args.flags.HeldBy s.config ∧
    let (events, result) := search args s false env.files env
    let text := log.lines (SearchEvent.logs events)
    args.run γ env = match result with
      | .error e => { files := env.files, log := text, ending := .ofFault isSearchRefusal e }
      | .ok r =>
        { files := env.files
          log := text
          output := printed args.json r
          ending := .code (if r.isSat then ProgramEnd.solved else ProgramEnd.unsolved) } := by
  have hyields := yields_settings (γ := γ) h env.files
  unfold Flags.Yields at hyields
  rw [hfault] at hyields
  obtain ⟨s, hsettings, hs⟩ := hyields
  obtain ⟨log, hlog, hfile⟩ := hs.openLog env.files
  refine ⟨s, log, hs, ?_⟩
  have hwrite : ∀ records, log.write env.files records = (log.lines records, env.files) := by
    intro records
    unfold Log.write
    rw [hfile]
  unfold run
  rw [hsettings, h.debug]
  simp only [hlog, hs.openTrace]
  unfold runWith
  rcases hsearch : search args s false env.files env with ⟨events, result⟩
  simp only [Option.isSome_none, hsearch, hwrite, writeTrace]
  cases result <;> rfl

/-- A file that cannot be loaded is what the run is refused for. -/
theorem SolveArguments.run_of_unread (h : args.Plain) (hfault : args.flags.fault? = none)
    (hload : loadFormula env.files args.file args.dimacs = .error e)
    (hrefusal : isRefusal e = true) :
    args.run γ env = { files := env.files, ending := .refused e } := by
  obtain ⟨s, log, hs, hrun⟩ := run_of_admitted (γ := γ) h hfault env
  have hdimacs : args.flags.dimacs = args.dimacs := Bool.or_false _
  rw [hs.search, hdimacs, hload] at hrun
  have hsearch : isSearchRefusal e = true := by
    unfold isSearchRefusal
    rw [hrefusal, Bool.true_or]
  rw [hrun]
  dsimp only
  rw [ProgramEnd.ofFault, if_pos hsearch]
  rfl

theorem SolveArguments.run_of_result {r : SearchResult} (h : args.Plain)
    (hfault : args.flags.fault? = none)
    (hload : loadFormula env.files args.file args.dimacs = .ok f)
    (hr : ((args.flags.search f env).solve .null).result = .ok r) :
    (args.run γ env).output = printed args.json r ∧
      (args.run γ env).ending =
        .code (if r.isSat then ProgramEnd.solved else ProgramEnd.unsolved) := by
  obtain ⟨s, log, hs, hrun⟩ := run_of_admitted (γ := γ) h hfault env
  have hdimacs : args.flags.dimacs = args.dimacs := Bool.or_false _
  rw [hs.search, hdimacs, hload] at hrun
  dsimp only at hrun
  rw [hr] at hrun
  rw [hrun]
  exact ⟨rfl, rfl⟩

theorem CheckArguments.run_of_unread {args : CheckArguments}
    (hload : loadFormula env.files args.file args.dimacs = .error e)
    (hrefusal : isRefusal e = true) :
    args.run env = { files := env.files, ending := .refused e } := by
  unfold run
  rw [hload]
  dsimp only [Except.bind]
  rw [ProgramEnd.ofFault, if_pos hrefusal]

/-- What a check of a formula puts out: its clauses, each without repetitions and on a line of its
    own, and the numbers of its clauses and propositions. -/
theorem CheckArguments.run_of_formula {args : CheckArguments}
    (hload : loadFormula env.files args.file args.dimacs = .ok f) :
    args.run env =
      { files := env.files
        output := unlines (Formula.lines (f.map List.eraseDups)) ++
          Text.showNat f.length ++ " clauses, " ++
          Text.showNat (f.flatten.map (·.name)).eraseDups.length ++ " propositions\n"
        ending := .code ProgramEnd.solved } := by
  have hne := (loadFormula_eq_ok_iff.mp hload).ne_nil
  obtain ⟨inst, hinst, -, hnames, hspecs⟩ := Instance.ofFormula_spec hne
  have hclauses : inst.clauses.size = f.length := by
    have hlength := congrArg List.length hspecs
    simpa [Instance.specs] using hlength
  have hvocabulary : inst.vocabulary.size = (f.flatten.map (·.name)).eraseDups.length := by
    rw [← hnames]
    simp [Vocabulary.names, Vocabulary.size]
  rw [run_eq hload hinst, overviewOf, hclauses, hvocabulary, ← Instance.texts_of_formula hne hinst]
  rfl

/-- A run with flags only is refused, for a flag or for the file, or it has the result of a
    search. -/
theorem SolveArguments.run_cases {argv : List String}
    (hargs : Request.ofArguments argv = .ok (.solve args)) (h : args.Plain)
    (hfile : env.files.HoldsAtMostFile args.file) :
    ((¬ args.flags.Admitted ∨ ∀ f, ¬ Accepts env.files args.file args.dimacs f) ∧
      ∃ e, args.run γ env = { files := env.files, ending := .refused e }) ∨
    args.flags.Admitted ∧ ∃ f r, Accepts env.files args.file args.dimacs f ∧
      ((args.flags.search f env).solve .null).result = .ok r ∧
      (args.run γ env).output = printed args.json r ∧
      (args.run γ env).ending =
        .code (if r.isSat then ProgramEnd.solved else ProgramEnd.unsolved) := by
  have hwritable := flags_writable hargs
  cases hfault : args.flags.fault? with
  | some c =>
    have hnot : ¬ args.flags.Admitted := by
      rw [← Flags.fault?_eq_none_iff, hfault]
      exact nofun
    exact .inl ⟨.inl hnot, _, run_of_fault h hwritable hfault⟩
  | none =>
    have hadmitted := Flags.fault?_eq_none_iff.mp hfault
    cases hload : loadFormula env.files args.file args.dimacs with
    | error e =>
      have hrefusal := isRefusal_of_loadFormula hfile hload
      exact .inl ⟨.inr (not_accepts_of_loadFormula hload), _,
        run_of_unread h hfault hload hrefusal⟩
    | ok f =>
      have hf := loadFormula_eq_ok_iff.mp hload
      obtain ⟨r, hr⟩ := hadmitted.search_returns hwritable hf.ne_nil env
      obtain ⟨houtput, hending⟩ := run_of_result (γ := γ) h hfault hload hr
      exact .inr ⟨hadmitted, f, r, hf, hr, houtput, hending⟩

/-! ## Answers of the commands -/

/-- How a search with flags is answered by what a run leaves behind. -/
structure SolveArguments.Answered (args : SolveArguments) (env : Environment) (o : Outcome) :
    Prop where
  /-- The run is refused exactly if a flag cannot be gone by, or the file is not there, not UTF-8 or
      not accepted by the parser of its format. -/
  usage_iff : o.ending.code? = some ProgramEnd.usage ↔
    ¬ args.flags.Admitted ∨ ∀ f, ¬ Accepts env.files args.file args.dimacs f
  refuses : o.ending.code? = some ProgramEnd.usage → o.Refuses
  /-- It is a success exactly if the search has come through a problem that satisfies the formula of
      the file. -/
  solved_iff : o.ending.code? = some ProgramEnd.solved ↔
    args.flags.Admitted ∧ ∃ f, Accepts env.files args.file args.dimacs f ∧
      ∃ q ∈ ((args.flags.search f env).visited .null).flatten,
        f.holds q.valuation.valueOf = true
  /-- The assignment that is shown then has a value for each proposition, in the order in which the
      file mentions them first, and satisfies the formula. -/
  shows : o.ending.code? = some ProgramEnd.solved →
    ∀ f, Accepts env.files args.file args.dimacs f →
      ∃ a : Valuation, a.map (·.1) = (f.flatten.map (·.name)).eraseDups ∧
        f.holds a.valueOf = true ∧ Shows args.json a o.output
  unsolved : o.ending.code? ≠ some ProgramEnd.usage → o.ending.code? ≠ some ProgramEnd.solved →
    o.ending.code? = some ProgramEnd.unsolved

/-- How a check is answered by what a run leaves behind. -/
structure CheckArguments.Answered (args : CheckArguments) (env : Environment) (o : Outcome) :
    Prop where
  solved_iff : o.ending.code? = some ProgramEnd.solved ↔
    ∃ f, Accepts env.files args.file args.dimacs f
  /-- Each clause is shown on a line of its own, without repetitions, and then the numbers of the
      clauses and of the propositions. -/
  shows : ∀ f, Accepts env.files args.file args.dimacs f →
    let lines := Formula.lines (f.map List.eraseDups)
    o.output = String.join (lines.map (· ++ "\n")) ++ toString f.length ++ " clauses, " ++
        toString (f.flatten.map (·.name)).eraseDups.length ++ " propositions\n" ∧
      lines.length = f.length ∧ (∀ line ∈ lines, Text.IsLine line.toList) ∧
      Formula.parseLines lines = .ok (f.map List.eraseDups)
  refuses : (∀ f, ¬ Accepts env.files args.file args.dimacs f) →
    o.ending.code? = some ProgramEnd.usage ∧ o.Refuses

theorem refuses_of_refused : ({ files := files, ending := .refused e } : Outcome).Refuses :=
  ⟨rfl, e.message, String.empty_append⟩

theorem SolveArguments.answered_of_refused
    (hwhy : ¬ args.flags.Admitted ∨ ∀ f, ¬ Accepts env.files args.file args.dimacs f) (e : Fault) :
    args.Answered env { files := env.files, ending := .refused e } where
  usage_iff := ⟨fun _ => hwhy, fun _ => rfl⟩
  refuses := fun _ => refuses_of_refused
  solved_iff := by
    refine ⟨nofun, ?_⟩
    rintro ⟨hadmitted, f, hf, -⟩
    rcases hwhy with hnot | hnone
    · exact absurd hadmitted hnot
    · exact absurd hf (hnone f)
  shows := nofun
  unsolved := fun hne _ => absurd rfl hne

theorem SolveArguments.answered_of_result {r : SearchResult} {o : Outcome}
    (hadmitted : args.flags.Admitted) (hf : Accepts env.files args.file args.dimacs f)
    (hr : ((args.flags.search f env).solve .null).result = .ok r)
    (houtput : o.output = printed args.json r)
    (hending : o.ending = .code (if r.isSat then ProgramEnd.solved else ProgramEnd.unsolved)) :
    args.Answered env o := by
  have hsat := Solver.isSat_iff hf.ne_nil hr
  have hcode : o.ending.code? =
      some (if r.isSat then ProgramEnd.solved else ProgramEnd.unsolved) := by
    rw [hending]
    rfl
  have hsolved : o.ending.code? = some ProgramEnd.solved ↔ r.isSat = true := by
    rw [hcode]
    cases r.isSat <;> decide
  have husage : o.ending.code? ≠ some ProgramEnd.usage := by
    rw [hcode]
    cases r.isSat <;> decide
  exact {
    usage_iff := by
      refine ⟨fun hu => absurd hu husage, ?_⟩
      rintro (hnot | hnone)
      · exact absurd hadmitted hnot
      · exact absurd hf (hnone f)
    refuses := fun hu => absurd hu husage
    solved_iff := by
      rw [hsolved, hsat]
      constructor
      · exact fun hq => ⟨hadmitted, f, hf, hq⟩
      · rintro ⟨-, g, hg, hq⟩
        obtain rfl := accepts_unique hf hg
        exact hq
    shows := by
      intro hs g hg
      obtain rfl := accepts_unique hf hg
      have hs := hsolved.mp hs
      obtain ⟨a, ha, hnames, hholds⟩ := Solver.assignment_of_isSat hf.ne_nil hr hs
      exact ⟨a, hnames, hholds,
        houtput ▸ shows_printed (Solver.holdsForeign_of_solve rfl hr) hs ha⟩
    unsolved := by
      intro _ hu
      rw [Ne, hsolved, Bool.not_eq_true] at hu
      rw [hcode, hu]
      rfl }

theorem SolveArguments.answered {argv : List String}
    (hargs : Request.ofArguments argv = .ok (.solve args)) (h : args.Plain)
    (hfile : env.files.HoldsAtMostFile args.file) : args.Answered env (args.run γ env) := by
  rcases run_cases (γ := γ) hargs h hfile with
    ⟨hwhy, e, hrun⟩ | ⟨hadmitted, f, r, hf, hr, houtput, hending⟩
  · rw [hrun]
    exact answered_of_refused hwhy e
  · exact answered_of_result hadmitted hf hr houtput hending

theorem CheckArguments.answered {args : CheckArguments}
    (hfile : env.files.HoldsAtMostFile args.file) : args.Answered env (args.run env) := by
  cases hload : loadFormula env.files args.file args.dimacs with
  | error e =>
    have hnone := not_accepts_of_loadFormula hload
    rw [run_of_unread hload (isRefusal_of_loadFormula hfile hload)]
    exact {
      solved_iff := ⟨nofun, fun ⟨f, hf⟩ => absurd hf (hnone f)⟩
      shows := fun f hf => absurd hf (hnone f)
      refuses := fun _ => ⟨rfl, refuses_of_refused⟩ }
  | ok f =>
    have hf := loadFormula_eq_ok_iff.mp hload
    rw [run_of_formula hload]
    exact {
      solved_iff := ⟨fun _ => ⟨f, hf⟩, fun _ => rfl⟩
      shows := by
        intro g hg
        obtain rfl := accepts_unique hf hg
        obtain ⟨hwritable, hunbroken⟩ := loadFormula_spec hload
        exact ⟨rfl, by simp [Formula.lines], hunbroken.map_eraseDups.isLine_of_mem_lines,
          Formula.parseLines_lines_iff.mpr hwritable.map_eraseDups⟩
      refuses := fun hnone => absurd hf (hnone f) }

/-- The commands answer whatever a file holds and whatever flags they are given, with the codes and
    the output that `Answered` says. The flags that a search can go by are those that the checks of
    settings let pass. -/
theorem run_exact (γ : Type) [SettingsLibrary γ] [LawfulLibrary γ] (argv : List String)
    (env : Environment) :
    (∀ (d : γ) (v : Flags), v.HeldBy d → (Settings.validate d = .ok () ↔ v.Admitted)) ∧
    (∀ args, Request.ofArguments argv = .ok (.solve args) → args.Plain →
      env.files.HoldsAtMostFile args.file → args.Answered env (run γ argv env)) ∧
    ∀ args, Request.ofArguments argv = .ok (.check args) →
      env.files.HoldsAtMostFile args.file → args.Answered env (run γ argv env) := by
  refine ⟨fun d v hd => ?_, fun args hargs h hfile => ?_, fun args hargs hfile => ?_⟩
  · rw [hd.validate, ← Flags.fault?_eq_none_iff]
    cases v.fault? <;> simp [Flags.outcome]
  · have hrun : run γ argv env = args.run γ env := by simp only [run, hargs, Request.run]
    rw [hrun]
    exact SolveArguments.answered hargs h hfile
  · have hrun : run γ argv env = args.run env := by simp only [run, hargs, Request.run]
    rw [hrun]
    exact CheckArguments.answered hfile

/-- A file with one clause: a search with too much noise is refused, one with few flips is not, and
    a check shows the clause. -/
theorem run_exact_of_clause :
    let env : Environment :=
      { files := ⟨[(["u.txt"], .file "a | !b\n".toUTF8)]⟩
        clock := .steady .one
        wall := ⟨fun _ => .one, fun _ => "now"⟩
        traceback := Fault.message }
    (run Document ["solve", "u.txt", "--noise", "101"] env).ending.code? = some ProgramEnd.usage ∧
      (run Document ["solve", "u.txt", "--noise", "101"] env).Refuses ∧
      (run Document ["solve", "u.txt", "--max-flips=3"] env).ending.code? ≠ some ProgramEnd.usage ∧
      (run Document ["check", "u.txt"] env).output = "a | !b\n1 clauses, 2 propositions\n" := by
  intro env
  have hfile : env.files.HoldsAtMostFile "u.txt" := .inr ⟨_, rfl⟩
  have haccepts : Accepts env.files "u.txt" false [[⟨"a", false⟩, ⟨"b", true⟩]] :=
    loadFormula_eq_ok_iff.mp (toOption_eq_some_iff.mp (by decide +kernel))
  have hnoisy : Request.ofArguments ["solve", "u.txt", "--noise", "101"] =
      .ok (.solve { file := "u.txt", noise := some 101 }) :=
    toOption_eq_some_iff.mp (by decide +kernel)
  have hshort : Request.ofArguments ["solve", "u.txt", "--max-flips=3"] =
      .ok (.solve { file := "u.txt", maxFlips := some 3 }) :=
    toOption_eq_some_iff.mp (by decide +kernel)
  have hcheck : Request.ofArguments ["check", "u.txt"] = .ok (.check { file := "u.txt" }) :=
    toOption_eq_some_iff.mp (by decide +kernel)
  obtain ⟨-, hsolve, -⟩ := run_exact Document ["solve", "u.txt", "--noise", "101"] env
  obtain ⟨-, hsolve', -⟩ := run_exact Document ["solve", "u.txt", "--max-flips=3"] env
  obtain ⟨-, -, hshow⟩ := run_exact Document ["check", "u.txt"] env
  have hrefused := hsolve _ hnoisy ⟨rfl, rfl, rfl, rfl⟩ hfile
  have hsearched := hsolve' _ hshort ⟨rfl, rfl, rfl, rfl⟩ hfile
  have husage := hrefused.usage_iff.mpr (.inl fun h => absurd h.noise (by decide))
  refine ⟨husage, hrefused.refuses husage, ?_, ?_⟩
  · rw [Ne, hsearched.usage_iff]
    rintro (hnot | hnone)
    · exact hnot ⟨by decide, by decide, by decide, by decide +kernel⟩
    · exact hnone _ haccepts
  · rw [((hshow _ hcheck hfile).shows _ haccepts).1]
    decide +kernel

end CommandLine

end FlipSat
