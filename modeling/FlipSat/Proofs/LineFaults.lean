import FlipSat.Proofs.LineFormat

/-
  FlipSat: the grammar of the line format, and the fault of what is not in it.
  `LiteralSpec.Spells` is the grammar of one piece of a line: it says how the piece is put together,
  where `Written` takes it apart (`spells_iff_written`). A piece that spells no literal has a fault
  that depends only on what is between the blanks around it (`parse_of_bad`), and reading stops at
  the first such piece (`parsePieces_of_bad`, `parseFrom_of_bad`). `parseLines_exact` says of all
  lists of lines when they are read, as what, and which fault is found where if they are not.
-/
namespace FlipSat

/-- The first element of a list without some property, if there is one. -/
theorem exists_first {α : Type} {as : List α} {q : α → Prop} (h : ¬ ∀ a ∈ as, q a) :
    ∃ before a after, as = before ++ a :: after ∧ (∀ b ∈ before, q b) ∧ ¬ q a := by
  induction as with
  | nil => simp at h
  | cons a as ih =>
    by_cases ha : q a
    · have hrest : ¬ ∀ b ∈ as, q b := fun hall => h (List.forall_mem_cons.mpr ⟨ha, hall⟩)
      obtain ⟨before, b, after, has, hbefore, hb⟩ := ih hrest
      exact ⟨a :: before, b, after, by rw [has, List.cons_append],
        List.forall_mem_cons.mpr ⟨ha, hbefore⟩, hb⟩
    · exact ⟨[], a, as, rfl, by simp, ha⟩

/-- A list has a partner if each of its elements has one. -/
theorem exists_forall₂_iff {α β : Type} {as : List α} {R : α → β → Prop} :
    (∃ bs, List.Forall₂ R as bs) ↔ ∀ a ∈ as, ∃ b, R a b := by
  induction as with
  | nil => exact ⟨fun _ => by simp, fun _ => ⟨[], .nil⟩⟩
  | cons a as ih =>
    rw [List.forall_mem_cons, ← ih]
    constructor
    · rintro ⟨_, hab⟩
      cases hab with
      | cons h hs => exact ⟨⟨_, h⟩, _, hs⟩
    · rintro ⟨⟨b, h⟩, bs, hs⟩
      exact ⟨b :: bs, .cons h hs⟩

/-- A trimmed text does not end in a blank. -/
theorem Text.not_blank_of_trim_eq {s t u : List Char} (h : trim s = t ++ u) (hu : u ≠ []) :
    ¬ ∀ c ∈ u, isBlank c = true := by
  intro hb
  have hlast : u.getLast hu ∈ (trim s).getLast? := by
    rw [h, List.getLast?_append_of_ne_nil t hu, List.getLast?_eq_some_getLast hu]
    rfl
  have hnot := (trim_eq_self_iff.mp (trim_trim s)).2 _ hlast
  rw [hb _ (List.getLast_mem hu)] at hnot
  cases hnot

namespace LiteralSpec

variable {piece : List Char} {l : LiteralSpec}

/-- Without the blanks around it the piece is an optional negation sign, optional blanks, and a text
    that is not empty and holds no negation sign. The name is this text without the blanks around
    it. -/
def Spells (piece : List Char) (l : LiteralSpec) : Prop :=
  ∃ blanks text : List Char, (∀ c ∈ blanks, Text.isBlank c = true) ∧ text ≠ [] ∧ '!' ∉ text ∧
    Text.trim piece = (if l.negated then ['!'] else []) ++ (blanks ++ text) ∧
    l.name.toList = Text.trim text

/-- Is the piece in the grammar? -/
def IsSpelled (piece : List Char) : Prop := ∃ l, Spells piece l

/-- Why a piece is not in the grammar. -/
def causeOf (piece : List Char) : ParseCause :=
  if Text.trim piece = [] then .emptyDisjunct
  else if Text.trim piece = ['!'] then .bareNegation
  else .strayNegation

theorem Spells.written (h : Spells piece l) : Written piece l := by
  obtain ⟨blanks, text, hblanks, hne, hbang, htrim, hname⟩ := h
  have hinner : Text.trim (blanks ++ text) = l.name.toList := by
    rw [Text.trim_blank_append hblanks, hname]
  refine ⟨?_, ?_, ?_⟩
  · cases hneg : l.negated with
    | true =>
      rw [hneg] at htrim
      exact ⟨blanks ++ text, htrim, hinner⟩
    | false =>
      rw [hneg] at htrim
      have hself := Text.trim_trim piece
      rw [htrim] at hself
      exact htrim.trans (hself.symm.trans hinner)
  · rw [hname]
    intro hnil
    rw [← List.append_assoc] at htrim
    exact Text.not_blank_of_trim_eq htrim hne (Text.trim_eq_nil_iff.mp hnil)
  · rw [hname]
    intro hm
    exact hbang (Text.mem_of_mem_trim hm)

theorem Written.spells (h : Written piece l) : Spells piece l := by
  obtain ⟨hbody, hne, hbang⟩ := h
  cases hneg : l.negated with
  | true =>
    rw [hneg] at hbody
    obtain ⟨r, htrim, hr⟩ := hbody
    obtain ⟨u, hr', hu⟩ := Text.exists_trim r
    have ht : ∀ c ∈ r.takeWhile Text.isBlank, Text.isBlank c = true :=
      fun c hc => List.mem_takeWhile_imp hc
    -- Blanks after the name would be blanks at the end of the piece.
    have hnil : u = [] := by
      by_contra hu0
      have hend : Text.trim piece = ('!' :: (r.takeWhile Text.isBlank ++ Text.trim r)) ++ u :=
        htrim.trans (congrArg ('!' :: ·) hr')
      exact Text.not_blank_of_trim_eq hend hu0 hu
    refine ⟨r.takeWhile Text.isBlank, Text.trim r, ht, hr ▸ hne, hr ▸ hbang, ?_, ?_⟩
    · rw [hnil, List.append_nil] at hr'
      rw [hneg]
      exact htrim.trans (congrArg ('!' :: ·) hr')
    · rw [Text.trim_trim, hr]
  | false =>
    rw [hneg] at hbody
    refine ⟨[], l.name.toList, by simp, hne, hbang, ?_, ?_⟩
    · rw [hneg]
      exact hbody
    · rw [← show Text.trim piece = l.name.toList from hbody, Text.trim_trim]

theorem spells_iff_written : Spells piece l ↔ Written piece l := ⟨Spells.written, Written.spells⟩

/-- What is not in the grammar is not read, and the fault shows the piece without the blanks around
    it. -/
theorem parse_of_bad (h : ¬ IsSpelled piece) (line : Option Int) : parse line piece =
    .error ⟨causeOf piece, line, some (String.ofList (Text.trim piece))⟩ := by
  have hread : ∀ l, parse line piece ≠ .ok l := fun l hl => h ⟨l, (parse_eq_ok_iff.mp hl).spells⟩
  unfold parse at hread ⊢
  unfold causeOf
  dsimp only at hread ⊢
  rcases hs : Text.trim piece with _ | ⟨c, r⟩
  · rfl
  · rw [hs] at hread
    by_cases hc : c = '!'
    · subst hc
      have hbare : Text.trim r = [] ↔ r = [] := by
        constructor
        · intro hnil
          by_contra hr
          have hend : Text.trim piece = ['!'] ++ r := hs
          exact Text.not_blank_of_trim_eq hend hr (Text.trim_eq_nil_iff.mp hnil)
        · rintro rfl
          rfl
      by_cases hr : r = []
      · subst hr
        rfl
      · have hname : (Text.trim r).isEmpty = false := by simpa [hbare] using hr
        simp only [List.isEmpty_cons, List.head?_cons, List.tail_cons, beq_self_eq_true, if_true,
          Bool.false_eq_true, if_false, hname] at hread ⊢
        cases hstray : (Text.trim r).contains '!' with
        | true => simp [hr]
        | false =>
          rw [hstray] at hread
          exact absurd rfl (hread _)
    · have hhead : (some c == some '!') = false := by simpa using hc
      simp only [List.isEmpty_cons, List.head?_cons, hhead, Bool.false_eq_true, if_false]
        at hread ⊢
      cases hstray : (c :: r).contains '!' with
      | true => simp [hc]
      | false =>
        rw [hstray] at hread
        exact absurd rfl (hread _)

end LiteralSpec

namespace ClauseSpec

variable {line : Option Int} {bad : List Char} {good rest pieces : List (List Char)}

/-- Reading stops at the first piece that is not in the grammar. -/
theorem parsePieces_of_bad (hgood : ∀ piece ∈ good, LiteralSpec.IsSpelled piece)
    (hbad : ¬ LiteralSpec.IsSpelled bad) : parsePieces line (good ++ bad :: rest) =
    .error ⟨LiteralSpec.causeOf bad, line, some (String.ofList (Text.trim bad))⟩ := by
  induction good with
  | nil =>
    rw [List.nil_append, parsePieces, LiteralSpec.parse_of_bad hbad]
    rfl
  | cons piece good ih =>
    obtain ⟨l, hl⟩ := hgood piece List.mem_cons_self
    have hread : LiteralSpec.parse line piece = .ok l := LiteralSpec.parse_eq_ok_iff.mpr hl.written
    have hrest := ih fun p hp => hgood p (List.mem_cons_of_mem piece hp)
    rw [List.cons_append, parsePieces, hread, hrest]
    rfl

end ClauseSpec

namespace Formula

/-- Are all pieces of the line in the grammar? -/
def IsSpelled (line : List Char) : Prop := ∀ piece ∈ line.splitOn '|', LiteralSpec.IsSpelled piece

/-- The lines spell the formula: one clause for each line, and one literal for each piece. -/
def Spells (lines : List (List Char)) (f : Formula) : Prop :=
  List.Forall₂ (fun line c => List.Forall₂ LiteralSpec.Spells (line.splitOn '|') c) lines f

/-- Line `n` is the first one with a piece that is not in the grammar, and `bad` is its first such
    piece. -/
def FirstBad (lines : List (List Char)) (n : Nat) (bad : List Char) : Prop :=
  ∃ before line after good rest, lines = before ++ line :: after ∧ n = before.length + 1 ∧
    (∀ earlier ∈ before, IsSpelled earlier) ∧ line.splitOn '|' = good ++ bad :: rest ∧
    (∀ piece ∈ good, LiteralSpec.IsSpelled piece) ∧ ¬ LiteralSpec.IsSpelled bad

theorem isSpelled_iff {line : List Char} : IsSpelled line ↔ ∃ c, ClauseSpec.Written line c := by
  rw [IsSpelled]
  simp only [LiteralSpec.IsSpelled, LiteralSpec.spells_iff_written]
  exact exists_forall₂_iff.symm

theorem spells_iff {lines : List (List Char)} {f : Formula} :
    Spells lines f ↔ parseFrom 1 lines = .ok f := by
  have hsame : LiteralSpec.Spells = LiteralSpec.Written :=
    funext fun piece => funext fun l => propext LiteralSpec.spells_iff_written
  rw [parseFrom_eq_ok_iff, Spells, hsame]
  rfl

/-- Reading stops at the first line with a piece that is not in the grammar. -/
theorem parseFrom_of_bad {before after : List (List Char)} {line : List Char} {e : ParseFault}
    (hbefore : ∀ earlier ∈ before, IsSpelled earlier) {n : Nat}
    (he : ClauseSpec.parse (some ↑(n + before.length)) line = .error e) :
    parseFrom n (before ++ line :: after) = .error e := by
  induction before generalizing n with
  | nil =>
    rw [List.nil_append, parseFrom, show (n : Int) = ↑(n + ([] : List (List Char)).length) from rfl,
      he]
    rfl
  | cons first before ih =>
    obtain ⟨c, hc⟩ := isSpelled_iff.mp (hbefore first List.mem_cons_self)
    have hread : ClauseSpec.parse (some ↑n) first = .ok c := ClauseSpec.parse_eq_ok_iff.mpr hc
    have hnext : n + (first :: before).length = n + 1 + before.length := by
      rw [List.length_cons]
      omega
    rw [hnext] at he
    have hrest := ih (fun l hl => hbefore l (List.mem_cons_of_mem first hl)) he
    rw [List.cons_append, parseFrom, hread, hrest]
    rfl

/-- The fault of lines that are not in the grammar. -/
theorem parseFrom_of_firstBad {lines : List (List Char)} {n : Nat} {bad : List Char}
    (h : FirstBad lines n bad) : parseFrom 1 lines =
      .error ⟨LiteralSpec.causeOf bad, some n, some (String.ofList (Text.trim bad))⟩ := by
  obtain ⟨before, line, after, good, rest, rfl, rfl, hbefore, hline, hgood, hbad⟩ := h
  refine parseFrom_of_bad hbefore ?_
  rw [ClauseSpec.parse, Text.splitOn_eq, hline, ClauseSpec.parsePieces_of_bad hgood hbad,
    Nat.add_comm]

/-- If not all lines are in the grammar, there is a first one and in it a first piece. -/
theorem exists_firstBad {lines : List (List Char)} (h : ¬ ∀ line ∈ lines, IsSpelled line) :
    ∃ n bad, FirstBad lines n bad := by
  obtain ⟨before, line, after, hlines, hbefore, hline⟩ := exists_first h
  obtain ⟨good, bad, rest, hpieces, hgood, hbad⟩ := exists_first hline
  exact ⟨_, bad, before, line, after, good, rest, hlines, rfl, hbefore, hpieces, hgood, hbad⟩

/-- A blank line is one piece, with nothing between its blanks. -/
theorem not_isSpelled_blank {line : List Char} (h : Text.allBlank line = true) :
    line.splitOn '|' = [line] ∧ Text.trim line = [] ∧ ¬ LiteralSpec.IsSpelled line := by
  have hblank : ∀ c ∈ line, Text.isBlank c = true := List.all_eq_true.mp h
  have hbar : '|' ∉ line := fun hm => absurd (hblank _ hm) (by decide)
  refine ⟨List.splitOn_eq_singleton hbar, Text.trim_eq_nil_iff.mpr hblank, ?_⟩
  rintro ⟨l, hl⟩
  exact hl.written.not_blank hblank

/-- Let `kept` be the lines without the blank ones at the end. They are read exactly if all their
    pieces are in the grammar, and then as what they spell. Otherwise the fault is that of the first
    piece that is not: it names the number of its line, and shows it without the blanks around it. A
    blank line before the end is a piece of this kind. -/
theorem parseLines_exact (lines : List String) :
    ∃ kept blank : List (List Char), lines.map String.toList = kept ++ blank ∧
      (∀ line ∈ blank, Text.allBlank line = true) ∧
      (∀ line ∈ kept.getLast?, Text.allBlank line = false) ∧
      ((∃ f, parseLines lines = .ok f) ↔ ∀ line ∈ kept, IsSpelled line) ∧
      (∀ f, parseLines lines = .ok f ↔ Spells kept f) ∧
      (∀ e, parseLines lines = .error e ↔ ∃ n bad, FirstBad kept n bad ∧
        e = ⟨LiteralSpec.causeOf bad, some n, some (String.ofList (Text.trim bad))⟩) ∧
      ∀ line ∈ kept, Text.allBlank line = true →
        line.splitOn '|' = [line] ∧ Text.trim line = [] ∧ ¬ LiteralSpec.IsSpelled line := by
  let texts := lines.map String.toList
  have hread : parseLines lines = parseFrom 1 (texts.rdropWhile Text.allBlank) := rfl
  have hok : (∃ f, parseLines lines = .ok f) ↔
      ∀ line ∈ texts.rdropWhile Text.allBlank, IsSpelled line := by
    rw [hread]
    simp only [parseFrom_eq_ok_iff, isSpelled_iff]
    exact exists_forall₂_iff
  refine ⟨texts.rdropWhile Text.allBlank, texts.rtakeWhile Text.allBlank,
    List.rdropWhile_append_rtakeWhile.symm, fun line hl => List.mem_rtakeWhile_imp hl, ?_, hok,
    fun f => spells_iff.symm, ?_, fun line _ => not_isSpelled_blank⟩
  · exact dropBlankEnd_eq_self_iff.mp (List.rdropWhile_idempotent _ _)
  · intro e
    constructor
    · intro he
      have hnot : ¬ ∀ line ∈ texts.rdropWhile Text.allBlank, IsSpelled line := by
        rw [← hok]
        rintro ⟨f, hf⟩
        rw [hf] at he
        cases he
      obtain ⟨n, bad, hbad⟩ := exists_firstBad hnot
      rw [hread, parseFrom_of_firstBad hbad] at he
      exact ⟨n, bad, hbad, (Except.error.inj he).symm⟩
    · rintro ⟨n, bad, hbad, rfl⟩
      exact parseFrom_of_firstBad hbad

/-- The blank line in the middle is the first fault, and the one at the end is none. -/
example : parseLines ["a | ! b", " ", "c !", "\t"] = .error ⟨.emptyDisjunct, some 2, some ""⟩ := by
  rfl

end Formula

end FlipSat
