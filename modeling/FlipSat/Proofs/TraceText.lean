import FlipSat.Proofs.JsonText
import FlipSat.Proofs.LineBreaks
import FlipSat.Trace.Basic

/-
  FlipSat: the texts that records of a trace are written as, read back.
  Rows of comma-separated values are read by a machine that takes one character at a time, with no
  look at what is to come (`Csv.readRows`). From the start of a row it reads any written row as the
  fields of that row, whether they stand between quotes or not (`Csv.read_row`), so commas, quotes
  and line breaks inside of a field are told from those around it. A value written as JSON has
  characters of plain ASCII alone (`Json.isShown_compact`); hence it is one line.
-/
namespace FlipSat

/-! ## Rows -/

namespace Csv

/-- What a reader of rows has seen of a field. -/
inductive Stage where
  /-- Nothing. -/
  | start
  /-- Characters that stand for themselves. -/
  | plain
  /-- A quote, and no end of what it opens. -/
  | quoted
  /-- A quote between quotes: their end, or the first half of a quote. -/
  | closed
  /-- The first half of the break that ends a row. -/
  | ended
  /-- What no row holds. -/
  | broken
deriving DecidableEq, Repr

/-- A reader of rows: what was read, and what of the field that is being read. -/
structure Reader where
  rows : List (List (List Char)) := []
  row : List (List Char) := []
  field : List Char := []
  stage : Stage := .start
deriving DecidableEq, Repr

namespace Reader

def keep (r : Reader) (c : Char) (stage : Stage) : Reader :=
  { r with field := r.field ++ [c], stage := stage }

def endField (r : Reader) (stage : Stage) : Reader :=
  { r with row := r.row ++ [r.field], field := [], stage := stage }

def endRow (r : Reader) : Reader :=
  { r with rows := r.rows ++ [r.row], row := [], stage := .start }

def fail (r : Reader) : Reader := { r with stage := .broken }

/-- Reads a character behind a field or inside of one that has no quotes. -/
def readPlain (r : Reader) (c : Char) : Reader :=
  if c = ',' then r.endField .start
  else if c = '\r' then r.endField .ended
  else if c = '\n' ∨ c = '\x22' ∨ r.stage = .closed then r.fail
  else r.keep c .plain

def read (r : Reader) (c : Char) : Reader :=
  match r.stage with
  | .start => if c = '\x22' then { r with stage := .quoted } else r.readPlain c
  | .plain => r.readPlain c
  | .quoted => if c = '\x22' then { r with stage := .closed } else r.keep c .quoted
  | .closed => if c = '\x22' then r.keep c .quoted else r.readPlain c
  | .ended => if c = '\n' then r.endRow else r.fail
  | .broken => r

end Reader

/-- The rows of a text, if it is made of whole rows. -/
def readRows (s : List Char) : Option (List (List (List Char))) :=
  let r := s.foldl Reader.read {}
  if r.row = [] ∧ r.stage = .start then some r.rows else none

variable {r : Reader} {s w : List Char} {c : Char} {stage : Stage}

/-- What ends a field, and where the reader stands then. -/
inductive Ends : Char → Stage → Prop
  | comma : Ends ',' .start
  | lineEnd : Ends '\r' .ended

theorem Reader.read_end (hc : Ends c stage)
    (hr : r.stage = .start ∨ r.stage = .plain ∨ r.stage = .closed) :
    r.read c = r.endField stage := by
  unfold Reader.read
  rcases hr with hr | hr | hr
  all_goals
    rw [hr]
    cases hc with
    | comma => rfl
    | lineEnd => rfl

/-- A text without quotes is read as it stands. -/
theorem read_plain (hs : needsQuotes s = false) (hr : r.stage = .start ∨ r.stage = .plain) :
    ∃ stage, (stage = .start ∨ stage = .plain) ∧
      s.foldl Reader.read r = { r with field := r.field ++ s, stage := stage } := by
  induction s generalizing r with
  | nil => exact ⟨r.stage, hr, by simp⟩
  | cons c s ih =>
    simp only [needsQuotes, List.any_cons, Bool.or_eq_false_iff, beq_eq_false_iff_ne] at hs
    obtain ⟨⟨⟨⟨hcomma, hquote⟩, hreturn⟩, hfeed⟩, hrest⟩ := hs
    have hread : r.read c = r.keep c .plain := by
      unfold Reader.read Reader.readPlain
      rcases hr with hr | hr <;> simp [hr, hcomma, hquote, hreturn, hfeed]
    obtain ⟨stage, hstage, hfold⟩ := ih (r := r.keep c .plain) hrest (.inr rfl)
    refine ⟨stage, hstage, ?_⟩
    rw [List.foldl_cons, hread, hfold]
    simp [Reader.keep]

/-- Between quotes every character is kept, and a quote is kept of two. -/
theorem read_between (hr : r.stage = .quoted) :
    (s.flatMap fun c => if c == '\x22' then ['\x22', '\x22'] else [c]).foldl Reader.read r =
      { r with field := r.field ++ s } := by
  induction s generalizing r with
  | nil => simp
  | cons c s ih =>
    have hread : (if c == '\x22' then ['\x22', '\x22'] else [c]).foldl Reader.read r =
        r.keep c .quoted := by
      by_cases hc : c = '\x22'
      · subst hc
        simp [Reader.read, Reader.keep, hr]
      · simp [Reader.read, hr, hc]
    rw [List.flatMap_cons, List.foldl_append, hread, ih rfl]
    simp [Reader.keep, hr]

/-- A field and what ends it are read as the field. -/
theorem read_field (s : List Char) (hc : Ends c stage) (hr : r.stage = .start)
    (hfield : r.field = []) :
    (field s ++ [c]).foldl Reader.read r =
      { r with row := r.row ++ [s], field := [], stage := stage } := by
  unfold field
  split
  · have hopen : r.read '\x22' = { r with stage := .quoted } := by simp [Reader.read, hr]
    rw [quoted, List.cons_append, List.cons_append, List.foldl_cons, hopen, List.append_assoc,
      List.foldl_append, read_between rfl, List.singleton_append, List.foldl_cons,
      List.foldl_cons, List.foldl_nil, Reader.read_end hc (.inr (.inr (by simp [Reader.read])))]
    simp [Reader.read, Reader.endField, hfield]
  · next hneeds =>
    obtain ⟨last, hlast, hfold⟩ := read_plain (r := r) (by simpa using hneeds) (.inl hr)
    have hends : last = .start ∨ last = .plain ∨ last = .closed := by tauto
    rw [List.foldl_append, hfold, List.foldl_cons, List.foldl_nil, Reader.read_end hc hends]
    simp [Reader.endField, hfield]

/-- A row is read as the texts in it. -/
theorem read_row {texts : List (List Char)} (hne : texts ≠ []) (rows : List (List (List Char))) :
    (row (texts.map field)).toList.foldl Reader.read { rows := rows } =
      { rows := rows ++ [texts] } := by
  have hrow : ∀ front : List (List Char),
      (List.intercalate [','] (texts.map field) ++ ['\r']).foldl Reader.read
        { rows := rows, row := front } =
          { rows := rows, row := front ++ texts, stage := .ended } := by
    induction texts with
    | nil => exact absurd rfl hne
    | cons s texts ih =>
      intro front
      cases texts with
      | nil => simpa using read_field s .lineEnd (r := { rows := rows, row := front }) rfl rfl
      | cons u texts =>
        have hfirst := read_field s .comma (r := { rows := rows, row := front }) rfl rfl
        rw [List.map_cons, List.map_cons, List.intercalate_cons_cons, ← List.map_cons,
          List.append_assoc, List.foldl_append, hfirst, ih (List.cons_ne_nil _ _) (front ++ [s]),
          List.append_assoc, List.singleton_append]
  have htext : (row (texts.map field)).toList =
      (List.intercalate [','] (texts.map field) ++ ['\r']) ++ ['\n'] := by
    simp [row, String.toList_intercalate, List.map_map, Function.comp_def]
  rw [htext, List.foldl_append, hrow []]
  rfl

end Csv

/-! ## Lines of ASCII -/

namespace Text

/-- Is the character one of ASCII that can be seen, or a space? -/
def shown (c : Char) : Bool := 0x20 ≤ c.toNat && c.toNat ≤ 0x7E

/-- Is every character of the text one of those? -/
def IsShown (s : List Char) : Prop := ∀ c ∈ s, shown c = true

instance : DecidablePred IsShown :=
  fun s => List.decidableBAll (fun c => shown c = true) s

variable {s t : List Char} {c : Char}

theorem isShown_append_iff : IsShown (s ++ t) ↔ IsShown s ∧ IsShown t := by
  unfold IsShown
  simp [or_imp, forall_and]

theorem isShown_cons_iff : IsShown (c :: s) ↔ shown c = true ∧ IsShown s := by
  unfold IsShown
  simp

theorem isShown_replicate {n : Nat} (h : shown c = true) : IsShown (List.replicate n c) := by
  intro d hd
  rw [(List.mem_replicate.mp hd).2]
  exact h

theorem isLine_of_isShown (h : IsShown s) : IsLine s := by
  intro c hc
  have hshown := h c hc
  cases hbreak : isLineBreak c with
  | false => rfl
  | true =>
    simp only [isLineBreak, Bool.or_eq_true, beq_iff_eq, or_assoc] at hbreak
    rcases hbreak with rfl | rfl | rfl | rfl | rfl | rfl | rfl | rfl | rfl | rfl
    all_goals exact absurd hshown (by decide)

theorem isShown_intercalate {sep : String} {pieces : List String} (hsep : IsShown sep.toList)
    (h : ∀ piece ∈ pieces, IsShown piece.toList) : IsShown (sep.intercalate pieces).toList := by
  rw [String.toList_intercalate]
  intro c hc
  rcases mem_of_mem_intercalate hc with hc | ⟨piece, hpiece, hc⟩
  · exact hsep c hc
  · obtain ⟨piece, hmem, rfl⟩ := List.mem_map.mp hpiece
    exact h piece hmem c hc

theorem shown_digitChar {d : Nat} (h : d < 16) : shown (Nat.digitChar d) = true := by
  revert d
  decide

theorem isShown_toDigits {base : Nat} (hbase : 1 < base) (hmax : base ≤ 16) (n : Nat) :
    IsShown (Nat.toDigits base n) := by
  induction n using Nat.strong_induction_on with
  | _ n ih =>
    rw [Nat.toDigits_eq_if hbase]
    split
    · next hn => simpa [IsShown] using shown_digitChar (by omega : n < 16)
    · next hn =>
      rw [isShown_append_iff]
      have hdigit : n % base < 16 := (Nat.mod_lt n (by omega)).trans_le hmax
      exact ⟨ih _ (Nat.div_lt_self (by omega) hbase),
        by simpa [IsShown] using shown_digitChar hdigit⟩

/-- Numbers are written with characters that can be seen. -/
theorem isShown_of_isNumeral (h : Json.IsNumeral s) : IsShown s := by
  intro c hc
  have hnumber := h c hc
  simp only [Json.inNumber, Bool.or_eq_true, beq_iff_eq, or_assoc] at hnumber
  rcases hnumber with hdigit | rfl | rfl | rfl | rfl | rfl
  · simp only [Char.isDigit, Bool.and_eq_true, decide_eq_true_eq] at hdigit
    simp only [shown, Bool.and_eq_true, decide_eq_true_eq]
    constructor
    · exact le_trans (by decide) hdigit.1
    · exact le_trans hdigit.2 (by decide)
  all_goals decide

end Text

open Text

namespace Json

theorem isShown_unit (n : Nat) : IsShown (unit n) := by
  unfold unit hexDigits
  rw [isShown_cons_iff, isShown_cons_iff, isShown_append_iff]
  exact ⟨by decide, by decide, isShown_replicate (by decide),
    isShown_toDigits (by decide) (by decide) n⟩

theorem isShown_escape (c : Char) : IsShown (escape c) := by
  unfold escape
  dsimp only
  repeat' split
  all_goals first
    | decide
    | exact isShown_unit _
    | exact isShown_append_iff.mpr ⟨isShown_unit _, isShown_unit _⟩
    | simp_all [IsShown, shown]

theorem isShown_quote (s : String) : IsShown (quote s).toList := by
  rw [quote, String.toList_ofList, isShown_append_iff, isShown_cons_iff]
  refine ⟨⟨by decide, fun c hc => ?_⟩, by decide⟩
  obtain ⟨d, -, hd⟩ := List.mem_flatMap.mp hc
  exact isShown_escape d c hd

theorem isShown_realText (x : Binary64) : IsShown (realText x).toList := by
  cases x with
  | nan => decide
  | infinity s => cases s <;> decide
  | finite s m e => exact isShown_of_isNumeral (isNumeral_toText s m e)

theorem isShown_scalar (v : Value) : IsShown (scalar v).toList := by
  cases v with
  | bool b => cases b <;> decide
  | int n => exact isShown_of_isNumeral (isNumeral_showInt n)
  | real x => exact isShown_realText x
  | text s => exact isShown_quote s
  | null => decide
  | bytes | path | list | tuple | table | foreign => exact (by decide : IsShown "".toList)

theorem isShown_keyText (k : Key) : IsShown (keyText k).toList := by
  unfold keyText
  split <;> exact isShown_quote _

mutual

/-- A value on one line is made of characters of ASCII that can be seen. -/
theorem isShown_compact (v : Value) : IsShown (compact v).toList := by
  cases v with
  | list items =>
    rw [compact, String.toList_append, String.toList_append, isShown_append_iff, isShown_append_iff]
    exact ⟨⟨by decide, isShown_intercalate (by decide) (isShown_compactItems items)⟩, by decide⟩
  | tuple items =>
    rw [compact, String.toList_append, String.toList_append, isShown_append_iff, isShown_append_iff]
    exact ⟨⟨by decide, isShown_intercalate (by decide) (isShown_compactItems items)⟩, by decide⟩
  | table entries =>
    rw [compact, String.toList_append, String.toList_append, isShown_append_iff, isShown_append_iff]
    exact ⟨⟨by decide, isShown_intercalate (by decide) (isShown_compactEntries entries)⟩, by decide⟩
  | null | bool | int | real | text | bytes | path | foreign => exact isShown_scalar _

theorem isShown_compactItems (items : List Value) :
    ∀ piece ∈ compactItems items, IsShown piece.toList := by
  cases items with
  | nil => simp [compactItems]
  | cons v vs =>
    rw [compactItems, List.forall_mem_cons]
    exact ⟨isShown_compact v, isShown_compactItems vs⟩

theorem isShown_compactEntries (entries : List (Key × Value)) :
    ∀ piece ∈ compactEntries entries, IsShown piece.toList := by
  cases entries with
  | nil => simp [compactEntries]
  | cons e es =>
    obtain ⟨k, v⟩ := e
    rw [compactEntries, List.forall_mem_cons, String.toList_append, String.toList_append,
      isShown_append_iff, isShown_append_iff]
    exact ⟨⟨⟨isShown_keyText k, by decide⟩, isShown_compact v⟩, isShown_compactEntries es⟩

end

end Json

/-! ## Files of records -/

namespace TraceRecord

variable {r : TraceRecord} {now : Binary64} {fields : List TraceField}

/-- The names of the fields that records of a sort have. -/
def columns : String → List String
  | "progress" => ["try", "flips", "unsatisfied_count", "satisfied_count", "total_count",
      "satisfaction_ratio", "noise_level", "timestamp"]
  | "try_result" => ["try", "flips", "solved", "satisfied_count", "runtime", "timestamp"]
  | _ => ["try", "exception_type", "exception_message", "stack_trace", "timestamp"]

theorem columns_ne_nil (event : String) : columns event ≠ [] := by
  unfold columns
  split <;> exact List.cons_ne_nil _ _

/-- What a record holds does not change the names of its fields. -/
theorem names_of_fields (h : r.fields now = .ok fields) :
    fields.map (·.name) = columns r.event := by
  cases r with
  | progress tryIndex flips unsatisfied total noise =>
    obtain ⟨satisfied, -, h⟩ := bind_eq_ok_iff.mp h
    obtain ⟨ratio, -, h⟩ := bind_eq_ok_iff.mp h
    cases h
    rfl
  | tryResult tryIndex flips solved satisfied runtime =>
    cases h
    rfl
  | exception tryIndex kind message stack =>
    cases h
    rfl

end TraceRecord

namespace TraceFormat

/-- The rows in the text of a file, if it is made of whole rows: what each line says as JSON, or
    what stands between commas. -/
def rows? (format : TraceFormat) (text : String) : Option (List Json.Tree) :=
  match format with
  | .json => (linesOf text).mapM Json.read?
  | .csv => (Csv.readRows text.toList).map
      (·.map fun row => .list (row.map fun s => .text (String.ofList s)))

/-- The rows in front of the records. -/
def heading (format : TraceFormat) (names : List String) : List Json.Tree :=
  match format with
  | .json => []
  | .csv => [.list (names.map .text)]

/-- The row of a record: its values by name, or their texts. -/
def entry (format : TraceFormat) (fields : List TraceField) : Json.Tree :=
  match format with
  | .json => .table (fields.map fun f => (f.name, .ofValue f.value))
  | .csv => .list (fields.map fun f => .text (Csv.fieldText f.value))

variable {fields : List TraceField}

theorem holdsForeign_of_fault? (h : TraceFormat.json.fault? fields = none) :
    ∀ f ∈ fields, Json.holdsForeign f.value = false := by
  intro f hf
  have hnone := List.findSome?_eq_none_iff.mp h f hf
  by_contra hforeign
  rw [if_pos ⟨rfl, by simpa using hforeign⟩] at hnone
  cases hnone

end TraceFormat

namespace Trace

variable {t : Trace} {records : List (List TraceField)} {names : List String}

/-- The text of a file with the records in it. -/
def fileText (t : Trace) (names : List String) (records : List (List TraceField)) : String :=
  t.headText names ++ String.join (records.map t.textOf)

theorem fileText_nil (t : Trace) (names : List String) :
    t.fileText names [] = t.headText names := by
  simp [fileText]

theorem fileText_concat (t : Trace) (names : List String) (records : List (List TraceField))
    (fields : List TraceField) :
    t.fileText names (records ++ [fields]) = t.fileText names records ++ t.textOf fields := by
  simp [fileText, String.join_append, String.append_assoc]

theorem fileText_json (hformat : t.format = .json) : t.fileText names records =
    CommandLine.unlines (records.map fun fields =>
      Json.compact (.table (fields.map fun f => (.text f.name, f.value)))) := by
  induction records using List.reverseRecOn with
  | nil => simp [fileText_nil, headText, hformat, CommandLine.unlines]
  | append_singleton records fields ih =>
    rw [fileText_concat, ih, textOf, hformat]
    simp [CommandLine.unlines, String.join_append]

/-- A line of JSON is read as the values of its fields by their names. -/
theorem read?_line {fields : List TraceField} (h : TraceFormat.json.fault? fields = none) :
    Json.read? (Json.compact (.table (fields.map fun f => (.text f.name, f.value)))) =
      some (TraceFormat.json.entry fields) := by
  have hhold : Json.holdsForeign (.table (fields.map fun f => (.text f.name, f.value))) = false :=
    Json.entriesHoldForeign_map TraceField.name (TraceFormat.holdsForeign_of_fault? h)
  rw [Json.read?_compact hhold, Json.Tree.ofValue, Json.ofEntries_eq_map, List.map_map]
  rfl

theorem mapM_read?_lines (h : ∀ fields ∈ records, TraceFormat.json.fault? fields = none) :
    (records.map fun fields =>
      Json.compact (.table (fields.map fun f => (.text f.name, f.value)))).mapM Json.read? =
        some (records.map TraceFormat.json.entry) := by
  induction records with
  | nil => rfl
  | cons fields records ih =>
    rw [List.forall_mem_cons] at h
    rw [List.map_cons, List.mapM_cons, read?_line h.1, ih h.2]
    rfl

/-- The file of records of one sort is read as the names of their fields, in rows, and then one row
    for each record. -/
theorem rows?_fileText (hnames : names ≠ []) (h : ∀ fields ∈ records,
    fields.map (·.name) = names ∧ t.format.fault? fields = none) :
    t.format.rows? (t.fileText names records) =
      some (t.format.heading names ++ records.map t.format.entry) := by
  cases hformat : t.format with
  | json =>
    rw [hformat] at h
    unfold TraceFormat.rows?
    dsimp only
    rw [fileText_json hformat, linesOf_unlines]
    · exact mapM_read?_lines fun fields hfields => (h fields hfields).2
    · intro line hline
      obtain ⟨fields, -, rfl⟩ := List.mem_map.mp hline
      exact isLine_of_isShown (Json.isShown_compact _)
  | csv =>
    have hread : (t.fileText names records).toList.foldl Csv.Reader.read {} =
        { rows := names.map String.toList ::
            records.map fun fields => fields.map fun f => (Csv.fieldText f.value).toList } := by
      induction records using List.reverseRecOn with
      | nil =>
        have hhead : t.headText names = Csv.row ((names.map String.toList).map Csv.field) := by
          rw [headText, hformat, List.map_map]
          rfl
        rw [fileText_nil, hhead, Csv.read_row (by simpa using hnames)]
        rfl
      | append_singleton records fields ih =>
        have hfields : fields.map (·.name) = names := (h fields (by simp)).1
        have hfull : fields ≠ [] := by
          rintro rfl
          exact hnames hfields.symm
        have htext : t.textOf fields =
            Csv.row ((fields.map fun f => (Csv.fieldText f.value).toList).map Csv.field) := by
          rw [textOf, hformat, List.map_map]
          rfl
        rw [fileText_concat, String.toList_append, List.foldl_append,
          ih fun fs hfs => h fs (by simp [hfs]), htext, Csv.read_row (by simpa using hfull)]
        simp
    unfold TraceFormat.rows? Csv.readRows
    dsimp only
    rw [hread]
    simp [TraceFormat.heading, TraceFormat.entry, List.map_map, Function.comp_def]

end Trace

end FlipSat
