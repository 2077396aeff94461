import FlipSat.Formula.Lines
import FlipSat.Proofs.Blank
import FlipSat.Proofs.Except
import Mathlib.Data.List.Forall2

/-
  FlipSat: which texts the line format reads as which formulas.
  `LiteralSpec.Written`, `ClauseSpec.Written` and `Formula.Written` say it without regard to the
  faults that are reported: reading succeeds exactly on what is written so (`parse_eq_ok_iff`,
  `parseLines_eq_ok_iff`). A formula is writable if its clauses are not empty and its names are
  proper: only such formulas are read (`Written.writable`), and the lines of each of them are read
  as the formula itself (`written_lines`).
-/
namespace FlipSat

/-- Can the text stand for a name in a line? It is not empty, neither starts nor ends with a blank,
    and holds neither of the two signs of the format. -/
def IsName (name : String) : Prop :=
  name ≠ "" ∧ Text.trimmed name = name ∧ '|' ∉ name.toList ∧ '!' ∉ name.toList

instance (name : String) : Decidable (IsName name) := inferInstanceAs (Decidable (_ ∧ _))

theorem exists_of_forall₂ {α β : Type} {R : α → β → Prop} {as : List α} {bs : List β}
    (h : List.Forall₂ R as bs) {b : β} (hb : b ∈ bs) : ∃ a ∈ as, R a b := by
  induction h with
  | nil => simp at hb
  | cons hr _ ih =>
    rcases List.mem_cons.mp hb with rfl | hb
    · exact ⟨_, List.mem_cons_self, hr⟩
    · obtain ⟨a, ha, hab⟩ := ih hb
      exact ⟨a, List.mem_cons_of_mem _ ha, hab⟩

theorem Text.trimmed_eq_self_iff (s : String) : trimmed s = s ↔ trim s.toList = s.toList := by
  rw [trimmed, ← String.toList_inj, String.toList_ofList]

namespace IsName

variable {name : String}

theorem toList_ne_nil (h : IsName name) : name.toList ≠ [] := by
  rw [ne_eq, String.toList_eq_nil_iff]
  exact h.1

theorem trim_toList (h : IsName name) : Text.trim name.toList = name.toList :=
  (Text.trimmed_eq_self_iff name).mp h.2.1

end IsName

/-! ## Literals -/

namespace LiteralSpec

variable {s t : List Char} {l : LiteralSpec} {line : Option Int}

/-- A piece of a line is the literal: up to blanks it is the name, or the negation sign and, up to
    blanks, the name. -/
structure Written (s : List Char) (l : LiteralSpec) : Prop where
  body : if l.negated then ∃ r, Text.trim s = '!' :: r ∧ Text.trim r = l.name.toList
    else Text.trim s = l.name.toList
  ne_nil : l.name.toList ≠ []
  no_bang : '!' ∉ l.name.toList

theorem Written.congr (h : Written s l) (ht : Text.trim t = Text.trim s) : Written t l where
  body := by
    rw [ht]
    exact h.body
  ne_nil := h.ne_nil
  no_bang := h.no_bang

/-- A name is taken as it is, unless it is empty or holds a negation sign. -/
theorem named_eq_ok_iff {ε : Type} {e e' : ε} {name : List Char} {negated : Bool} :
    (if name.isEmpty then Except.error e
      else if name.contains '!' then Except.error e'
      else Except.ok (⟨String.ofList name, negated⟩ : LiteralSpec)) = .ok l ↔
      name ≠ [] ∧ '!' ∉ name ∧ l.name.toList = name ∧ l.negated = negated := by
  obtain ⟨other, b⟩ := l
  have hname : String.ofList name = other ∧ negated = b ↔ other.toList = name ∧ b = negated := by
    rw [← String.toList_inj, String.toList_ofList, eq_comm, eq_comm (a := negated)]
  cases hne : name.isEmpty with
  | true => simp [List.isEmpty_iff.mp hne]
  | false =>
    have hne' : name ≠ [] := by simpa using hne
    simp only [Bool.false_eq_true, if_false]
    cases hno : name.contains '!' with
    | true =>
      have hmem : '!' ∈ name := by simpa using hno
      simp [hmem]
    | false =>
      have hmem : '!' ∉ name := by simpa using hno
      simpa [hmem, hne'] using hname

/-- Reading a literal does not depend on the line that it stands in. -/
theorem parse_eq_ok_iff : parse line s = .ok l ↔ Written s l := by
  unfold parse
  dsimp only
  rcases hs : Text.trim s with _ | ⟨c, r⟩
  · simp only [List.isEmpty_nil, if_true, reduceCtorEq, false_iff]
    rintro ⟨hbody, hne, -⟩
    rw [hs] at hbody
    split at hbody
    · obtain ⟨r, hr, -⟩ := hbody
      cases hr
    · exact hne hbody.symm
  · by_cases hc : c = '!'
    · subst hc
      simp only [List.isEmpty_cons, List.head?_cons, List.tail_cons, beq_self_eq_true, if_true,
        Bool.false_eq_true, if_false, named_eq_ok_iff]
      constructor
      · rintro ⟨hne, hno, hname, hneg⟩
        exact ⟨by rw [hneg, if_pos rfl]; exact ⟨r, hs, hname.symm⟩, hname ▸ hne, hname ▸ hno⟩
      · rintro ⟨hbody, hne, hno⟩
        rw [hs] at hbody
        split at hbody
        · next hneg =>
          obtain ⟨r', hr, hname⟩ := hbody
          cases hr
          exact ⟨hname ▸ hne, hname ▸ hno, hname.symm, hneg⟩
        · exact absurd (hbody ▸ List.mem_cons_self) hno
    · have hhead : (some c == some '!') = false := by simpa using hc
      simp only [List.head?_cons, hhead, Bool.false_eq_true, if_false]
      rw [if_neg (by simp), named_eq_ok_iff]
      constructor
      · rintro ⟨hne, hno, hname, hneg⟩
        exact ⟨by rw [hneg, hs, hname]; rfl, hname ▸ hne, hname ▸ hno⟩
      · rintro ⟨hbody, hne, hno⟩
        rw [hs] at hbody
        split at hbody
        · obtain ⟨r', hr, -⟩ := hbody
          cases hr
          exact absurd rfl hc
        · next hneg => exact ⟨hbody ▸ hne, hbody ▸ hno, hbody.symm, by simpa using hneg⟩

/-- The literal is read from its text. -/
theorem written_text (h : IsName l.name) : Written l.text.toList l := by
  have hne := h.toList_ne_nil
  have htrim := h.trim_toList
  refine ⟨?_, hne, h.2.2.2⟩
  obtain ⟨name, negated⟩ := l
  cases negated with
  | false => exact htrim
  | true =>
    refine ⟨name.toList, ?_, htrim⟩
    obtain ⟨-, hlast⟩ := Text.trim_eq_self_iff.mp htrim
    have htext : (LiteralSpec.mk name true).text.toList = '!' :: name.toList := by
      simp [text]
    rw [htext, Text.trim_eq_self_iff]
    refine ⟨by simp; decide, fun c hc => hlast c ?_⟩
    rwa [List.getLast?_cons_of_ne_nil hne] at hc

theorem Written.isName (h : Written s l) (hs : '|' ∉ s) : IsName l.name := by
  have hbody := h.body
  refine ⟨fun he => h.ne_nil (by simp [he]), ?_, ?_, h.no_bang⟩
  · rw [Text.trimmed_eq_self_iff]
    split at hbody
    · obtain ⟨r, -, hr⟩ := hbody
      rw [← hr, Text.trim_trim]
    · rw [← hbody, Text.trim_trim]
  · intro hc
    refine hs (Text.mem_of_mem_trim ?_)
    split at hbody
    · obtain ⟨r, ht, hr⟩ := hbody
      rw [← hr] at hc
      rw [ht]
      exact List.mem_cons_of_mem _ (Text.mem_of_mem_trim hc)
    · rwa [hbody]

/-- A blank text is no literal. -/
theorem Written.not_blank (h : Written s l) : ¬ ∀ c ∈ s, Text.isBlank c = true := by
  intro hb
  have hbody := h.body
  rw [Text.trim_eq_nil_iff.mpr hb] at hbody
  split at hbody
  · obtain ⟨r, hr, -⟩ := hbody
    cases hr
  · exact h.ne_nil hbody.symm

end LiteralSpec

/-! ## Clauses -/

namespace ClauseSpec

variable {s : List Char} {c : ClauseSpec} {line : Option Int}

/-- A line is the clause: cut at its bars, it is the literals in order. -/
def Written (s : List Char) (c : ClauseSpec) : Prop :=
  List.Forall₂ LiteralSpec.Written (s.splitOn '|') c

theorem parsePieces_eq_ok_iff {pieces : List (List Char)} :
    parsePieces line pieces = .ok c ↔ List.Forall₂ LiteralSpec.Written pieces c := by
  induction pieces generalizing c with
  | nil =>
    rw [parsePieces, List.forall₂_nil_left_iff]
    constructor
    · intro h
      exact (Except.ok.inj h).symm
    · rintro rfl
      rfl
  | cons piece pieces ih =>
    rw [parsePieces, List.forall₂_cons_left_iff, read_cons_eq_ok_iff]
    simp only [LiteralSpec.parse_eq_ok_iff, ih]

theorem parse_eq_ok_iff : parse line s = .ok c ↔ Written s c := by
  rw [parse, Text.splitOn_eq, parsePieces_eq_ok_iff]
  rfl

theorem Written.isName (h : Written s c) : c ≠ [] ∧ ∀ l ∈ c, IsName l.name := by
  constructor
  · rintro rfl
    exact List.splitOn_ne_nil '|' s (List.forall₂_nil_right_iff.mp h)
  · intro l hl
    obtain ⟨piece, hpiece, hw⟩ := exists_of_forall₂ h hl
    refine hw.isName fun hc => ?_
    rw [List.splitOn_eq_splitOnP] at hpiece
    simpa using not_of_mem_splitOnP hpiece _ hc

/-- A blank line is no clause. -/
theorem Written.not_blank (h : Written s c) : Text.allBlank s = false := by
  rw [Text.allBlank, List.all_eq_false]
  by_contra hb
  have hblank : ∀ d ∈ s, Text.isBlank d = true := by simpa using hb
  have hbar : '|' ∉ s := fun hm => absurd (hblank _ hm) (by decide)
  rw [Written, List.splitOn_eq_singleton hbar, List.forall₂_cons_left_iff] at h
  obtain ⟨l, -, hw, -⟩ := h
  exact hw.not_blank hblank

/-- The clause is read from its text, and from its text after blanks. -/
theorem written_text (hne : c ≠ []) (hn : ∀ l ∈ c, IsName l.name) {pad : List Char}
    (hpad : ∀ d ∈ pad, Text.isBlank d = true) : Written (pad ++ c.text.toList) c := by
  -- By induction on the clause; the blank after a bar becomes padding of what follows.
  induction c generalizing pad with
  | nil => exact absurd rfl hne
  | cons l ls ih =>
    have hl := hn l List.mem_cons_self
    have hbar : '|' ∉ pad ++ l.text.toList := by
      have hp : '|' ∉ pad := fun hm => absurd (hpad _ hm) (by decide)
      have ht : '|' ∉ l.text.toList := by
        have hname := hl.2.2.1
        rw [LiteralSpec.text]
        split <;> simp [hname]
      simp [hp, ht]
    have hpiece : ∀ t, (∀ d ∈ t, Text.isBlank d = true) →
        LiteralSpec.Written (pad ++ l.text.toList ++ t) l := by
      intro t ht
      refine (LiteralSpec.written_text hl).congr ?_
      rw [Text.trim_append _ ht, Text.trim_blank_append hpad]
    cases ls with
    | nil =>
      have htext : ClauseSpec.text [l] = l.text := String.intercalate_singleton
      rw [Written, htext, List.splitOn_eq_singleton hbar]
      refine .cons ?_ .nil
      simpa using hpiece [] (by simp)
    | cons m ms =>
      have htext : pad ++ (ClauseSpec.text (l :: m :: ms)).toList =
          (pad ++ l.text.toList ++ [' ']) ++
            '|' :: ([' '] ++ (ClauseSpec.text (m :: ms)).toList) := by
        simp [ClauseSpec.text, String.toList_intercalate]
      have hbar' : '|' ∉ pad ++ l.text.toList ++ [' '] := by
        rw [List.mem_append, not_or]
        exact ⟨hbar, by decide⟩
      have hblank : ∀ d ∈ [' '], Text.isBlank d = true := List.forall_mem_singleton.mpr (by decide)
      rw [Written, htext, List.splitOn_append_cons_self_of_not_mem hbar']
      refine .cons (hpiece [' '] hblank) ?_
      exact ih (by simp) (fun k hk => hn k (List.mem_cons_of_mem _ hk)) hblank

end ClauseSpec

/-! ## Formulas -/

/-- Only blank lines at the end are dropped. -/
theorem dropBlankEnd_eq_self_iff {lines : List (List Char)} :
    dropBlankEnd lines = lines ↔ ∀ line ∈ lines.getLast?, Text.allBlank line = false := by
  have hdrop : dropBlankEnd lines = lines.rdropWhile Text.allBlank := rfl
  rw [hdrop, List.rdropWhile_eq_self_iff]
  constructor
  · intro h line hline
    have hne : lines ≠ [] := by
      rintro rfl
      simp at hline
    rw [List.getLast?_eq_some_getLast hne, Option.mem_some] at hline
    rw [← hline]
    simpa using h hne
  · intro h hne
    simpa using h _ (List.getLast?_eq_some_getLast hne)

namespace Formula

variable {f : Formula}

/-- Can the formula be written down in the line format? -/
def Writable (f : Formula) : Prop := ∀ c ∈ f, c ≠ [] ∧ ∀ l ∈ c, IsName l.name

instance (f : Formula) : Decidable f.Writable :=
  inferInstanceAs (Decidable (∀ c ∈ f, c ≠ [] ∧ ∀ l ∈ c, IsName l.name))

/-- The lines are the formula: up to blank ones at the end, they are its clauses in order. -/
def Written (lines : List String) (f : Formula) : Prop :=
  List.Forall₂ ClauseSpec.Written (dropBlankEnd (lines.map String.toList)) f

theorem parseFrom_eq_ok_iff {n : Nat} {lines : List (List Char)} :
    parseFrom n lines = .ok f ↔ List.Forall₂ ClauseSpec.Written lines f := by
  induction lines generalizing n f with
  | nil =>
    rw [parseFrom, List.forall₂_nil_left_iff]
    constructor
    · intro h
      exact (Except.ok.inj h).symm
    · rintro rfl
      rfl
  | cons line lines ih =>
    rw [parseFrom, List.forall₂_cons_left_iff, read_cons_eq_ok_iff]
    simp only [ClauseSpec.parse_eq_ok_iff, ih]

theorem parseLines_eq_ok_iff {lines : List String} :
    parseLines lines = .ok f ↔ Written lines f := parseFrom_eq_ok_iff

theorem Written.writable {lines : List String} (h : Written lines f) : f.Writable := by
  intro c hc
  obtain ⟨line, -, hw⟩ := exists_of_forall₂ h hc
  exact hw.isName

/-- A formula that can be written is read from its lines. -/
theorem written_lines (h : f.Writable) : Written f.lines f := by
  have hclause : ∀ c ∈ f, ClauseSpec.Written c.text.toList c := fun c hc =>
    ClauseSpec.written_text (h c hc).1 (h c hc).2 (List.forall_mem_nil _)
  have hkept : dropBlankEnd (f.lines.map String.toList) = f.lines.map String.toList := by
    rw [dropBlankEnd_eq_self_iff]
    intro line hline
    obtain ⟨text, htext, rfl⟩ := List.mem_map.mp (List.mem_of_getLast? hline)
    obtain ⟨c, hc, rfl⟩ := List.mem_map.mp htext
    exact (hclause c hc).not_blank
  rw [Written, hkept, lines, List.map_map, List.forall₂_map_left_iff, List.forall₂_same]
  exact hclause

end Formula

end FlipSat
