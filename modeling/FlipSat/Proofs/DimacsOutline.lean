import FlipSat.Formula.Dimacs
import FlipSat.Proofs.Blank
import FlipSat.Proofs.Except
import Std.Data.String.ToNat

/-
  FlipSat: what a text in DIMACS says, whatever its layout.
  The `Outline` of a text keeps the words of its headers, its comments, and one stream of tokens;
  how tokens are spread over lines, and where blank lines, comments and headers stand among them, is
  forgotten. `Outline.Says` relates an outline to what is read from it. Reading goes through the
  lines with a clause that may be unfinished at the end of each: `Gathers` says how the outline of
  the lines still to come leads from what was gathered to what will be, and `gather_eq_ok_iff` that
  reading does just this. `parse_of_outline` follows for whole texts.
-/
namespace FlipSat.Dimacs

/-! ## Outlines -/

/-- Does the line start with the character? -/
def startsWith (c : Char) (line : List Char) : Bool := line.head? == some c

/-- The lines that count: trimmed, without the blank ones, up to the first that starts with `%`. -/
def content (lines : List (List Char)) : List (List Char) :=
  ((lines.map Text.trim).filter fun line => !line.isEmpty).takeWhile fun line =>
    !startsWith '%' line

/-- What is left of a text when its layout is forgotten. -/
structure Outline where
  headers : List (List (List Char))
  comments : List String
  tokens : List (List Char)
deriving DecidableEq

/-- The outline of lines that count: the words of the lines that start with `p`, what follows the
    `c` in those that start with it, and the words of all others. -/
def outline (lines : List (List Char)) : Outline where
  headers := (lines.filter (startsWith 'p')).map Text.words
  comments := (lines.filter (startsWith 'c')).map fun line =>
    String.ofList (Text.trim line.tail)
  tokens := (lines.filter fun line => !startsWith 'c' line && !startsWith 'p' line).flatMap
    Text.words

/-- The outline of a text. -/
def outlineOf (text : String) : Outline := outline (content (text.toList.splitOn '\n'))

/-- The words of a header announce so many variables and clauses. -/
def Announces (header : List (List Char)) (vars clauses : Int) : Prop :=
  ∃ mark v c rest, header = mark :: "cnf".toList :: v :: c :: rest ∧
    Text.readInt? v = some vars ∧ Text.readInt? c = some clauses

/-- The clauses of a stream of integers are the groups between its zeros that are not empty; the
    last group need not be ended by a zero. -/
def groupsOf (stream : List Int) : List (List Int) :=
  (stream.splitOn 0).filter fun group => !group.isEmpty

/-- The outline has one header, which announces as many clauses as there are groups in the stream of
    the tokens, and all tokens are integers. -/
structure Outline.Says (o : Outline) (d : Dimacs) : Prop where
  header : ∃ header, o.headers = [header] ∧ Announces header d.variableCount d.clauseCount
  formula : ∃ stream, o.tokens.mapM Text.readInt? = some stream ∧
    d.formula = (groupsOf stream).map fun group =>
      group.map fun v => ⟨"x" ++ toString v.natAbs, v < 0⟩
  count : (d.formula.length : Int) = d.clauseCount
  comments : d.comments = o.comments

/-! ## Variables and clauses -/

theorem variableName_eq (v : Int) : variableName v = "x" ++ toString v.natAbs := by
  rw [variableName, Text.showNat, ← Nat.repr_eq_ofList_toDigits]
  rfl

/-- Different variables have different names. -/
theorem variableName_inj {v w : Int} : variableName v = variableName w ↔ v.natAbs = w.natAbs := by
  rw [variableName_eq, variableName_eq, String.append_right_inj]
  exact Nat.repr_inj

theorem clausesOf_eq (stream : List Int) :
    clausesOf stream = (groupsOf stream).map fun group =>
      group.map fun v => ⟨"x" ++ toString v.natAbs, v < 0⟩ := by
  have hliteral : literalOf = fun v => ⟨"x" ++ toString v.natAbs, v < 0⟩ := by
    funext v
    rw [literalOf, variableName_eq]
  rw [clausesOf, nonemptyPieces_eq, groupsOf, List.splitOn_eq_splitOnP, hliteral]

/-! ## Single lines -/

theorem parseHeader_eq_ok_iff {n : Nat} {line : List Char} {h : Int × Int} :
    parseHeader n line = .ok h ↔ Announces (Text.words line) h.1 h.2 := by
  obtain ⟨x, y⟩ := h
  unfold parseHeader Announces
  dsimp only
  split
  · next mark kind v c rest hw =>
    rw [hw]
    cases hv : Text.readInt? v with
    | none =>
      split <;> simp_all
    | some x' =>
      cases hc : Text.readInt? c with
      | none => split <;> simp_all
      | some y' =>
        by_cases hk : kind = "cnf".toList
        · simp [hk, hv, hc]
        · simp only [List.cons.injEq, hk, beq_iff_eq, if_false, reduceCtorEq, false_iff]
          rintro ⟨_, _, _, _, ⟨-, h, -⟩, -⟩
          exact h
  · next hw =>
    simp only [reduceCtorEq, false_iff]
    rintro ⟨mark, v, c, rest, hline, -, -⟩
    exact hw _ _ _ _ _ hline

theorem parseTokens_eq_ok_iff {n : Nat} {tokens : List (List Char)} {stream stream' : List Int} :
    parseTokens n tokens stream = .ok stream' ↔
      ∃ ints, tokens.mapM Text.readInt? = some ints ∧ stream' = ints.reverse ++ stream := by
  induction tokens generalizing stream with
  | nil => simp [parseTokens, eq_comm]
  | cons token tokens ih =>
    rw [parseTokens, List.mapM_cons]
    cases hv : Text.readInt? token with
    | none => simp
    | some v =>
      cases hvs : tokens.mapM Text.readInt? with
      | none => simp [ih, hvs]
      | some vs => simp [ih, hvs]

/-! ## Lines in order -/

theorem startsWith_cons (c a : Char) (rest : List Char) :
    startsWith c (a :: rest) = decide (a = c) := rfl

theorem outline_comment (comment : List Char) (lines : List (List Char)) :
    outline (('c' :: comment) :: lines) = { outline lines with
      comments := String.ofList (Text.trim comment) :: (outline lines).comments } := by
  simp [outline, startsWith_cons]

theorem outline_header (header : List Char) (lines : List (List Char)) :
    outline (('p' :: header) :: lines) = { outline lines with
      headers := Text.words ('p' :: header) :: (outline lines).headers } := by
  simp [outline, startsWith_cons]

theorem outline_tokens {c : Char} (hc : c ≠ 'c') (hp : c ≠ 'p') (rest : List Char)
    (lines : List (List Char)) :
    outline ((c :: rest) :: lines) = { outline lines with
      tokens := Text.words (c :: rest) ++ (outline lines).tokens } := by
  simp [outline, startsWith_cons, hc, hp]

variable {raw : List Char}

theorem content_blank (h : Text.trim raw = []) (lines : List (List Char)) :
    content (raw :: lines) = content lines := by
  simp [content, h]

theorem content_end {rest : List Char} (h : Text.trim raw = '%' :: rest)
    (lines : List (List Char)) : content (raw :: lines) = [] := by
  simp [content, h, startsWith_cons]

theorem content_cons {c : Char} {rest : List Char} (h : Text.trim raw = c :: rest) (hc : c ≠ '%')
    (lines : List (List Char)) : content (raw :: lines) = (c :: rest) :: content lines := by
  simp [content, h, startsWith_cons, hc]

/-- Lines with an outline lead from what was gathered before them to what is gathered after. -/
structure Gathers (g : Gathered) (o : Outline) (g' : Gathered) : Prop where
  header : (o.headers = [] ∧ g'.header = g.header) ∨
    g.header = none ∧ ∃ header v c, o.headers = [header] ∧ Announces header v c ∧
      g'.header = some (v, c)
  comments : g'.comments = o.comments.reverse ++ g.comments
  stream : ∃ ints, o.tokens.mapM Text.readInt? = some ints ∧ g'.stream = ints.reverse ++ g.stream

variable {g g' : Gathered} {o : Outline}

theorem gathers_empty : Gathers g ⟨[], [], []⟩ g' ↔ g' = g := by
  constructor
  · rintro ⟨⟨-, hh⟩ | ⟨-, _, _, _, hn, -⟩, hc, ints, hi, hs⟩
    · obtain rfl : [] = ints := by simpa using hi
      obtain ⟨h', c', s'⟩ := g'
      simp_all
    · cases hn
  · rintro rfl
    exact ⟨.inl ⟨rfl, rfl⟩, rfl, [], rfl, rfl⟩

theorem gathers_comment {comment : String} :
    Gathers g { o with comments := comment :: o.comments } g' ↔
      Gathers { g with comments := comment :: g.comments } o g' := by
  constructor
  · rintro ⟨hh, hc, hs⟩
    exact ⟨hh, by simpa using hc, hs⟩
  · rintro ⟨hh, hc, hs⟩
    exact ⟨hh, by simpa using hc, hs⟩

/-- There may be one header only. -/
theorem gathers_header {header : List (List Char)} :
    Gathers g { o with headers := header :: o.headers } g' ↔
      g.header = none ∧ ∃ v c, Announces header v c ∧
        Gathers { g with header := some (v, c) } o g' := by
  constructor
  · rintro ⟨⟨hn, -⟩ | ⟨hnone, header', v, c, hone, ha, hh⟩, hc, hs⟩
    · cases hn
    · obtain ⟨rfl, hnil⟩ := List.cons.inj hone
      exact ⟨hnone, v, c, ha, .inl ⟨hnil, hh⟩, hc, hs⟩
  · rintro ⟨hnone, v, c, ha, ⟨hnil, hh⟩ | ⟨hn, -⟩, hc, hs⟩
    · exact ⟨.inr ⟨hnone, header, v, c, by rw [hnil], ha, hh⟩, hc, hs⟩
    · cases hn

theorem gathers_tokens {tokens : List (List Char)} :
    Gathers g { o with tokens := tokens ++ o.tokens } g' ↔
      ∃ ints, tokens.mapM Text.readInt? = some ints ∧
        Gathers { g with stream := ints.reverse ++ g.stream } o g' := by
  constructor
  · rintro ⟨hh, hc, ints, hi, hs⟩
    rw [List.mapM_append] at hi
    cases hfirst : tokens.mapM Text.readInt? with
    | none => simp [hfirst] at hi
    | some first =>
      cases hrest : o.tokens.mapM Text.readInt? with
      | none => simp [hfirst, hrest] at hi
      | some rest =>
        obtain rfl : first ++ rest = ints := by simpa [hfirst, hrest] using hi
        exact ⟨first, rfl, hh, hc, rest, hrest, by simpa using hs⟩
  · rintro ⟨first, hfirst, hh, hc, rest, hrest, hs⟩
    refine ⟨hh, hc, first ++ rest, ?_, by simpa using hs⟩
    rw [List.mapM_append, hfirst, hrest]
    rfl

/-- Reading lines gathers what their outline holds. -/
theorem gather_eq_ok_iff {n : Nat} {lines : List (List Char)} :
    gather n g lines = .ok g' ↔ Gathers g (outline (content lines)) g' := by
  induction lines generalizing n g with
  | nil =>
    rw [gather, Except.ok.injEq, eq_comm]
    exact gathers_empty.symm
  | cons raw lines ih =>
    rw [gather]
    dsimp only
    split
    · next h => rw [content_blank h, ih]
    · next comment h =>
      rw [content_cons h (by decide), outline_comment, gathers_comment, ih]
    · next rest h =>
      rw [content_end h, Except.ok.injEq, eq_comm]
      exact gathers_empty.symm
    · next header h =>
      rw [content_cons h (by decide), outline_header, gathers_header]
      cases hg : g.header with
      | some x => simp
      | none =>
        simp only [Option.isSome_none, Bool.false_eq_true, if_false, bind_eq_ok_iff,
          parseHeader_eq_ok_iff, ih, true_and, Prod.exists, h]
    · next hnil hc hend hp =>
      obtain ⟨c, rest, h⟩ := List.exists_cons_of_ne_nil hnil
      have hc' : c ≠ 'c' := fun heq => hc rest (heq ▸ h)
      have hend' : c ≠ '%' := fun heq => hend rest (heq ▸ h)
      have hp' : c ≠ 'p' := fun heq => hp rest (heq ▸ h)
      rw [content_cons h hend', outline_tokens hc' hp', gathers_tokens, bind_eq_ok_iff, h]
      simp only [parseTokens_eq_ok_iff, ih]
      constructor
      · rintro ⟨_, ⟨ints, hi, rfl⟩, hg⟩
        exact ⟨ints, hi, hg⟩
      · rintro ⟨ints, hi, hg⟩
        exact ⟨_, ⟨ints, hi, rfl⟩, hg⟩

/-! ## Texts -/

theorem ofGathered_eq_ok_iff {d : Dimacs} :
    ofGathered g = .ok d ↔ g.header = some (d.variableCount, d.clauseCount) ∧
      d.formula = clausesOf g.stream.reverse ∧ (d.formula.length : Int) = d.clauseCount ∧
      d.comments = g.comments.reverse := by
  obtain ⟨formula, comments, vars, clauses⟩ := d
  unfold ofGathered
  split
  · next h => simp [h]
  · next vars' clauses' h =>
    dsimp only
    rw [h]
    split
    · next hcount =>
      simp only [Except.ok.injEq, Dimacs.mk.injEq, Option.some.injEq, Prod.mk.injEq]
      constructor
      · rintro ⟨rfl, rfl, rfl, rfl⟩
        exact ⟨⟨rfl, rfl⟩, rfl, hcount, rfl⟩
      · rintro ⟨⟨rfl, rfl⟩, rfl, -, rfl⟩
        exact ⟨rfl, rfl, rfl, rfl⟩
    · next hcount =>
      simp only [reduceCtorEq, Option.some.injEq, Prod.mk.injEq, false_iff]
      rintro ⟨⟨rfl, rfl⟩, rfl, h, -⟩
      exact hcount h

theorem parseLines_eq_ok_iff {lines : List (List Char)} {d : Dimacs} :
    parseLines lines = .ok d ↔ (outline (content lines)).Says d := by
  rw [parseLines, bind_eq_ok_iff]
  simp only [gather_eq_ok_iff, ofGathered_eq_ok_iff]
  constructor
  · rintro ⟨g, ⟨⟨-, hnone⟩ | ⟨-, header, v, c, hone, ha, hh⟩, hc, ints, hi, hs⟩,
      hd, hf, hcount, hcm⟩
    · rw [hd] at hnone
      cases hnone
    · rw [hd, Option.some.injEq, Prod.mk.injEq] at hh
      obtain ⟨rfl, rfl⟩ := hh
      refine ⟨⟨header, hone, ha⟩, ⟨ints, hi, ?_⟩, hcount, ?_⟩
      · rw [hf, hs, clausesOf_eq, List.append_nil, List.reverse_reverse]
      · rw [hcm, hc, List.append_nil, List.reverse_reverse]
  · rintro ⟨⟨header, hone, ha⟩, ⟨ints, hi, hf⟩, hcount, hcm⟩
    refine ⟨⟨some (d.variableCount, d.clauseCount), _, _⟩,
      ⟨.inr ⟨rfl, header, _, _, hone, ha, rfl⟩, rfl, ints, hi, rfl⟩, rfl, ?_, hcount, ?_⟩
    · dsimp only
      rw [hf, clausesOf_eq, List.append_nil, List.reverse_reverse]
    · dsimp only
      rw [hcm, List.append_nil, List.reverse_reverse]

/-! ## Blanks around a text -/

theorem content_eq (s : List Char) :
    content (s.splitOn '\n') =
      ((Text.rows s).filter fun line => !line.isEmpty).takeWhile fun line =>
        !startsWith '%' line := rfl

/-- Blank lines around a text do not count. -/
theorem content_trim (s : List Char) :
    content ((Text.trim s).splitOn '\n') = content (s.splitOn '\n') := by
  obtain ⟨k, hs⟩ := Text.rows_trim s
  have hblank : ∀ n, (List.replicate n ([] : List Char)).filter (fun line => !line.isEmpty) = [] :=
    fun n => List.filter_replicate_of_neg (by decide)
  rw [content_eq, content_eq, hs, List.filter_append, List.filter_append, hblank, hblank,
    List.nil_append, List.append_nil]

/-! ## What is read -/

theorem parse_eq_ok_iff {text : String} {d : Dimacs} :
    parse text = .ok d ↔ (outlineOf text).Says d := by
  rw [parse, Text.splitOn_eq, parseLines_eq_ok_iff, content_trim, outlineOf]

/-- Blank lines at the start change line numbers in faults, and nothing else. -/
theorem parseStream_eq_ok_iff {text : String} {d : Dimacs} :
    parseStream text = .ok d ↔ (outlineOf text).Says d := by
  rw [parseStream, Text.splitOn_eq, parseLines_eq_ok_iff, outlineOf]

/-- The outline has one header, which announces as many clauses as there are groups in the stream of
    the tokens, and all tokens are integers. -/
def Outline.IsProper (o : Outline) : Prop :=
  ∃ header vars clauses stream, o.headers = [header] ∧ Announces header vars clauses ∧
    o.tokens.mapM Text.readInt? = some stream ∧ ((groupsOf stream).length : Int) = clauses

theorem Outline.isProper_iff : o.IsProper ↔ ∃ d, o.Says d := by
  constructor
  · rintro ⟨header, vars, clauses, stream, hone, ha, hs, hcount⟩
    refine ⟨⟨_, o.comments, vars, clauses⟩, ⟨header, hone, ha⟩, ⟨stream, hs, rfl⟩, ?_, rfl⟩
    dsimp only
    rw [List.length_map]
    exact hcount
  · rintro ⟨d, ⟨header, hone, ha⟩, ⟨stream, hs, hf⟩, hcount, -⟩
    rw [hf, List.length_map] at hcount
    exact ⟨header, _, _, stream, hone, ha, hs, hcount⟩

/-- A text is read as what its outline says, and is faulty if its outline is not proper. So how its
    tokens are spread over lines, and where its comments, its blank lines and its header stand, does
    not matter. Different variables get different names. -/
theorem parse_of_outline (text : String) :
    (∀ d, parse text = .ok d ↔ (outlineOf text).Says d) ∧
    ((∃ d, parse text = .ok d) ↔ (outlineOf text).IsProper) ∧
    (¬(outlineOf text).IsProper → ∃ fault, parse text = .error fault) ∧
    (∀ other, outlineOf other = outlineOf text →
      ∀ d, parse other = .ok d ↔ parse text = .ok d) ∧
    ∀ v w, variableName v = variableName w ↔ v.natAbs = w.natAbs := by
  have hproper : (∃ d, parse text = .ok d) ↔ (outlineOf text).IsProper := by
    rw [Outline.isProper_iff]
    exact exists_congr fun d => parse_eq_ok_iff
  refine ⟨fun d => parse_eq_ok_iff, hproper, ?_, ?_, fun v w => variableName_inj⟩
  · intro h
    cases hp : parse text with
    | error fault => exact ⟨fault, rfl⟩
    | ok d => exact absurd (hproper.mp ⟨d, hp⟩) h
  · intro other h d
    rw [parse_eq_ok_iff, parse_eq_ok_iff, h]

/-- Two layouts of one formula, the second with its header at the end. -/
theorem parse_of_outline_reordered :
    outlineOf "1\n\nc two\n-2 0 2\np cnf 2 2" = outlineOf "c two\np cnf 2 2\n1 -2 0\n2" ∧
    parse "1\n\nc two\n-2 0 2\np cnf 2 2" =
      .ok ⟨[[⟨"x1", false⟩, ⟨"x2", true⟩], [⟨"x2", false⟩]], ["two"], 2, 2⟩ := by
  have hlayout : outlineOf "1\n\nc two\n-2 0 2\np cnf 2 2" =
      outlineOf "c two\np cnf 2 2\n1 -2 0\n2" := by decide
  refine ⟨hlayout, ?_⟩
  rw [(parse_of_outline "c two\np cnf 2 2\n1 -2 0\n2").2.2.2.1 _ hlayout]
  decide

end FlipSat.Dimacs
