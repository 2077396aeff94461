import FlipSat.Proofs.FileTree
import FlipSat.Proofs.TraceCalls
import FlipSat.Proofs.TraceText

/-
  FlipSat: what the files of a trace hold after any calls on it.
  `Kept` says that each file of records holds what the calls say (`held`), what the counts and the
  paths are, and that nothing else in the tree has changed. Each call keeps it: for a record there
  is a lemma for each part of `Kept` (`counts_reached`, `paths_reached`, `mem_opened_reached`,
  `read_wrote`, `node?_wrote`), put together in `Kept.log`; hence so does every sequence of calls.
-/
namespace FlipSat.Trace

variable {t t' : Trace} {tree tree' : FileTree} {os : List Operation} {o : Operation}
  {r : TraceRecord} {now : Binary64} {fields : List TraceField} {event name : String}
  {format : TraceFormat}

/-! ## Entries -/

section Entries

variable {α : Type} {names : List String} {f : String → α} {a : α}

/-- Replacing an entry, or adding it at the end. -/
theorem putEntry_map (h : names.Nodup) :
    putEntry (names.map fun n => (n, f n)) name a =
      (if name ∈ names then names else names ++ [name]).map
        fun n => (n, if n = name then a else f n) := by
  induction names with
  | nil => simp [putEntry]
  | cons n names ih =>
    rw [List.nodup_cons] at h
    rw [List.map_cons, putEntry]
    by_cases hn : n = name
    · subst hn
      have hrest : ∀ m ∈ names, (m, if m = n then a else f m) = (m, f m) := by
        intro m hm
        rw [if_neg (by rintro rfl; exact h.1 hm)]
      rw [if_pos (by simp), if_pos List.mem_cons_self, List.map_cons, List.map_congr_left hrest]
      simp
    · rw [if_neg (by simpa using hn), ih h.2]
      by_cases hmem : name ∈ names <;> simp [hmem, hn, Ne.symm hn]

theorem lookup_map : (names.map fun n => (n, f n)).lookup name =
    if name ∈ names then some (f name) else none := by
  induction names with
  | nil => rfl
  | cons n names ih =>
    rw [List.map_cons, List.lookup_cons, ih]
    by_cases hn : name = n
    · simp [hn]
    · have hne : (name == n) = false := beq_eq_false_iff_ne.mpr hn
      simp [hne, hn]

end Entries

/-! ## Paths -/

/-- The names of the sorts of records. -/
def events : List String := ["progress", "try_result", "exception"]

theorem event_mem_events (r : TraceRecord) : r.event ∈ events := by
  cases r with
  | progress => exact List.mem_cons_self
  | tryResult => exact List.mem_cons_of_mem _ List.mem_cons_self
  | exception => exact List.mem_cons_of_mem _ (List.mem_cons_of_mem _ List.mem_cons_self)

theorem mem_events_of_mem_sorts (h : event ∈ sorts os) : event ∈ events := by
  unfold sorts at h
  rw [List.mem_eraseDups, List.mem_filterMap] at h
  obtain ⟨o, -, ho⟩ := h
  cases o with
  | log r now =>
    obtain ⟨fields, -, rfl⟩ := Option.map_eq_some_iff.mp ho
    exact event_mem_events r
  | close | finalize => cases ho

/-- What the name of a file has behind the name of the run. -/
def ending (format : TraceFormat) (event : String) : String :=
  "_" ++ event ++ match format with
    | .json => ".jsonl"
    | .csv => ".csv"

theorem pathOf_eq (t : Trace) (event : String) :
    t.pathOf event = FileTree.join t.directory (t.run ++ ending t.format event) := by
  cases hformat : t.format <;> simp only [pathOf, ending, hformat, String.append_assoc]

/-- An ending can be told from all others, and from that of the file about the run. -/
theorem ending_spec (format : TraceFormat) : ∀ event ∈ events,
    '/' ∉ (ending format event).toList ∧ 2 < (ending format event).length ∧
      ending format event ≠ "_metadata.json" ∧
      ∀ other ∈ events, ending format other = ending format event → other = event := by
  cases format <;> decide

theorem wayOf_pathOf_ne {other : String} (h : event ∈ events) (hother : other ∈ events)
    (hne : other ≠ event) :
    FileTree.wayOf (t.pathOf other) ≠ FileTree.wayOf (t.pathOf event) := by
  obtain ⟨hs, hlength, -, hinj⟩ := ending_spec t.format event h
  obtain ⟨hu, hulength, -⟩ := ending_spec t.format other hother
  rw [pathOf_eq, pathOf_eq]
  exact FileTree.wayOf_join_ne hu hs hulength hlength (mt (hinj other hother) hne)

theorem wayOf_pathOf_ne_metadata (h : event ∈ events) :
    FileTree.wayOf (t.pathOf event) ≠ FileTree.wayOf t.metadataPath := by
  obtain ⟨hs, hlength, hne, -⟩ := ending_spec t.format event h
  rw [pathOf_eq]
  exact FileTree.wayOf_join_ne hs (by decide) hlength (by decide) hne

/-! ## Writing a record -/

/-- The trace after a file was opened. -/
def opening (t : Trace) (event : String) : Trace :=
  { t with
    opened := event :: t.opened
    counts := putEntry t.counts event 0
    paths := putEntry t.paths event (t.pathOf event) }

/-- The trace after a record was added to an open file. -/
def counting (t : Trace) (event : String) : Trace :=
  { t with counts := putEntry t.counts event ((t.counts.lookup event).getD 0 + 1) }

/-- The trace after a record was to be added to its file, and whether it had a text. -/
def reached (t : Trace) (event : String) (hasText : Bool) : Trace :=
  let t := if event ∈ t.opened then t else t.opening event
  if hasText then t.counting event else t

/-- A file that is open stays as it is, and any other one is empty when it is opened. -/
theorem openFile_cases {opening : Except Fault Bool}
    (h : t.openFile tree event = (t', tree', opening)) (hfault : ∀ e, opening ≠ .error (.file e)) :
    (event ∈ t.opened ∧ t' = t ∧ tree' = tree ∧ opening = .ok false) ∨
      event ∉ t.opened ∧ t' = t.opening event ∧
        tree.Wrote (t.pathOf event) "".toUTF8 tree' ∧ opening = .ok true := by
  unfold openFile at h
  by_cases hopen : event ∈ t.opened
  · rw [if_pos (by simpa using hopen)] at h
    cases h
    exact .inl ⟨hopen, rfl, rfl, rfl⟩
  · rw [if_neg (by simpa using hopen)] at h
    dsimp only at h
    cases hwrite : tree.write (t.pathOf event) .empty with
    | error e =>
      rw [hwrite] at h
      cases h
      exact absurd rfl (hfault e)
    | ok tree₁ =>
      rw [hwrite] at h
      cases h
      exact .inr ⟨hopen, rfl, FileTree.write_eq_ok_iff.mp hwrite, rfl⟩

theorem wrote_of_append_text {path s text : String} (h : tree.append path text = .ok tree')
    (hread : tree.read path = .ok s.toUTF8) : tree.Wrote path (s ++ text).toUTF8 tree' := by
  have hwrote := FileTree.wrote_of_append h hread
  rw [String.toUTF8_eq_toByteArray, String.toUTF8_eq_toByteArray,
    ← String.toByteArray_append] at hwrote
  exact hwrote

/-- What a record adds to the text of its file, and to the counts if it has a text. -/
theorem addRecord_spec {fault : Option Fault} {s : String} {isNew : Bool}
    (h : t.addRecord tree event fields isNew = (t', tree', fault))
    (hfault : ∀ e, fault ≠ some (.file e))
    (hread : tree.read (t.pathOf event) = .ok s.toUTF8) :
    t' = (if (t.format.fault? fields).isNone then t.counting event else t) ∧
      tree.Wrote (t.pathOf event)
        (s ++ (if isNew then t.headText (fields.map (·.name)) else "") ++
          if (t.format.fault? fields).isNone then t.textOf fields else "").toUTF8 tree' := by
  unfold addRecord at h
  dsimp only at h
  split at h
  · next e _ =>
    cases h
    exact absurd rfl (hfault e)
  · next tree₁ hhead =>
    have hwrote := wrote_of_append_text hhead hread
    cases hnone : t.format.fault? fields with
    | some e =>
      rw [hnone] at h
      cases h
      exact ⟨rfl, by simpa using hwrote⟩
    | none =>
      rw [hnone] at h
      dsimp only at h
      split at h
      · next e _ =>
        cases h
        exact absurd rfl (hfault e)
      · next happend =>
        cases h
        exact ⟨rfl, hwrote.trans (wrote_of_append_text happend hwrote.read)⟩

/-- A record that has its fields goes behind the text of its file if that is open, and else behind
    the names of its fields; if it has no text, nothing does. -/
theorem log_cases {fault : Option Fault} {s : String}
    (h : t.log tree r now = (t', tree', fault)) (hfault : ∀ e, fault ≠ some (.file e))
    (hread : r.event ∈ t.opened → tree.read (t.pathOf r.event) = .ok s.toUTF8) :
    ((r.fields now).toOption = none ∧ t' = t ∧ tree' = tree) ∨
    ∃ fields, r.fields now = .ok fields ∧
      t' = t.reached r.event (t.format.fault? fields).isNone ∧
      tree.Wrote (t.pathOf r.event)
        ((if r.event ∈ t.opened then s else t.headText (fields.map (·.name))) ++
          if (t.format.fault? fields).isNone then t.textOf fields else "").toUTF8 tree' := by
  unfold log at h
  split at h
  · next e he =>
    cases h
    exact .inl ⟨by rw [he]; rfl, rfl, rfl⟩
  · next fields hfields =>
    refine .inr ⟨fields, hfields, ?_⟩
    rcases hopening : t.openFile tree r.event with ⟨t₁, tree₁, opening⟩
    have hfile : ∀ e, opening ≠ .error (.file e) := by
      rintro e rfl
      rw [hopening] at h
      cases h
      exact hfault e rfl
    rcases openFile_cases hopening hfile with
      ⟨hopen, rfl, rfl, rfl⟩ | ⟨hopen, rfl, hempty, rfl⟩
    · rw [hopening] at h
      obtain ⟨rfl, hwrote⟩ := addRecord_spec h hfault (hread hopen)
      rw [reached, if_pos hopen, if_pos hopen]
      exact ⟨rfl, by simpa using hwrote⟩
    · rw [hopening] at h
      obtain ⟨rfl, hwrote⟩ := addRecord_spec h hfault hempty.read
      have hall := hempty.trans hwrote
      rw [String.empty_append] at hall
      rw [reached, if_neg hopen, if_neg hopen]
      exact ⟨rfl, hall⟩

/-! ## What is kept -/

/-- Do two traces write texts of one form to the same place, with the same beginning? -/
structure Alike (t t₀ : Trace) : Prop where
  directory : t.directory = t₀.directory
  run : t.run = t₀.run
  format : t.format = t₀.format
  begun : t.begun = t₀.begun

theorem Alike.pathOf {t t₀ : Trace} (h : Alike t t₀) : t.pathOf event = t₀.pathOf event := by
  unfold Trace.pathOf
  rw [h.directory, h.run, h.format]

theorem Alike.metadataPath {t t₀ : Trace} (h : Alike t t₀) : t.metadataPath = t₀.metadataPath := by
  unfold Trace.metadataPath
  rw [h.directory, h.run]

theorem Alike.textOf {t t₀ : Trace} (h : Alike t t₀) : t.textOf fields = t₀.textOf fields := by
  unfold Trace.textOf
  rw [h.format]

theorem Alike.headText {t t₀ : Trace} (h : Alike t t₀) : t.headText = t₀.headText := by
  funext names
  unfold Trace.headText
  rw [h.format]

theorem Alike.reached {t t₀ : Trace} (h : Alike t t₀) (event : String) (b : Bool) :
    Alike (t.reached event b) t₀ := by
  unfold Trace.reached
  split <;> split <;> exact ⟨h.directory, h.run, h.format, h.begun⟩

/-- What the file about the run says when it is written after the calls. -/
def about (t₀ : Trace) (os : List Operation) (now : String) : Value :=
  metadata { t₀ with
    counts := (sorts os).map fun event => (event, (held t₀.format event os).length)
    paths := (sorts os).map fun event => (event, t₀.pathOf event) } now

/-- The text of the file of a sort of records after the calls. -/
def textAfter (t₀ : Trace) (event : String) (os : List Operation) : String :=
  t₀.fileText (TraceRecord.columns event) (held t₀.format event os)

/-- The trace, its files and the rest of the tree are what the calls say. -/
structure Kept (t₀ : Trace) (tree₀ : FileTree) (os : List Operation) (t : Trace)
    (tree : FileTree) : Prop where
  alike : Alike t t₀
  counts_eq : t.counts = (sorts os).map fun event => (event, (held t₀.format event os).length)
  paths_eq : t.paths = (sorts os).map fun event => (event, t₀.pathOf event)
  mem_opened_iff : ∀ event, event ∈ t.opened ↔ current event os ≠ []
  read : ∀ event ∈ sorts os, tree.read (t₀.pathOf event) = .ok (t₀.textAfter event os).toUTF8
  node?_eq : ∀ way, (∀ event ∈ sorts os, way ≠ FileTree.wayOf (t₀.pathOf event)) →
    way ≠ FileTree.wayOf t₀.metadataPath → tree.node? way = tree₀.node? way
  read_metadata : ∀ before now, os = before ++ [.finalize now] →
    tree.read t₀.metadataPath = .ok (Json.pretty (t₀.about before now)).toUTF8

variable {t₀ : Trace} {tree₀ : FileTree} {fault : Option Fault}

namespace Kept

/-! ### A record that has its fields -/

theorem fields?_of_fields (h : r.fields now = .ok fields) :
    (Operation.log r now).fields? event = if event = r.event then some fields else none := by
  unfold Operation.fields?
  by_cases he : r.event = event
  · simp [he, h, Except.toOption]
  · simp [he, Ne.symm he]

theorem sorts_log (h : r.fields now = .ok fields) : sorts (os ++ [.log r now]) =
    if r.event ∈ sorts os then sorts os else sorts os ++ [r.event] := by
  refine sorts_concat_of_some (Operation.event?_eq_some_iff.mpr ⟨fields, ?_⟩)
  rw [fields?_of_fields h, if_pos rfl]

theorem mem_sorts_log (h : r.fields now = .ok fields) :
    event ∈ sorts (os ++ [.log r now]) ↔ event = r.event ∨ event ∈ sorts os := by
  rw [sorts_log h]
  split
  · next hmem =>
    constructor
    · exact .inr
    · rintro (rfl | he)
      · exact hmem
      · exact he
  · rw [List.mem_append, List.mem_singleton, or_comm]

theorem held_log (h : r.fields now = .ok fields) : held format event (os ++ [.log r now]) =
    if event = r.event then writable format (current event os) ++ writable format [fields]
    else held format event os := by
  split
  · next he => exact held_concat_of_some (by rw [fields?_of_fields h, if_pos he])
  · next he => exact held_concat_of_none (by rw [fields?_of_fields h, if_neg he])

variable {b : Bool}

/-- The file of a record is among the files that are open after it. -/
theorem mem_opened_reached (h : Kept t₀ tree₀ os t tree) (hfields : r.fields now = .ok fields) :
    event ∈ (t.reached r.event b).opened ↔ current event (os ++ [.log r now]) ≠ [] := by
  have hopened : event ∈ (t.reached r.event b).opened ↔ event = r.event ∨ event ∈ t.opened := by
    by_cases hopen : r.event ∈ t.opened
    · have hsame : (t.reached r.event b).opened = t.opened := by
        rw [reached, if_pos hopen]
        cases b <;> rfl
      rw [hsame, iff_or_self]
      rintro rfl
      exact hopen
    · have hnew : (t.reached r.event b).opened = r.event :: t.opened := by
        rw [reached, if_neg hopen]
        cases b <;> rfl
      rw [hnew, List.mem_cons]
  rw [hopened, h.mem_opened_iff, current_concat, fields?_of_fields hfields]
  by_cases he : event = r.event <;> simp [he, Operation.closes]

theorem paths_reached (h : Kept t₀ tree₀ os t tree) (hfields : r.fields now = .ok fields) :
    (t.reached r.event b).paths =
      (sorts (os ++ [.log r now])).map fun event => (event, t₀.pathOf event) := by
  rw [sorts_log hfields]
  by_cases hopen : r.event ∈ t.opened
  · have hsame : (t.reached r.event b).paths = t.paths := by
      rw [reached, if_pos hopen]
      cases b <;> rfl
    rw [hsame, if_pos (mem_sorts_of_current ((h.mem_opened_iff _).mp hopen)), h.paths_eq]
  · have hnew : (t.reached r.event b).paths = putEntry t.paths r.event (t.pathOf r.event) := by
      rw [reached, if_neg hopen]
      cases b <;> rfl
    rw [hnew, h.paths_eq, putEntry_map (nodup_sorts os), h.alike.pathOf]
    refine List.map_congr_left fun event _ => ?_
    by_cases he : event = r.event <;> simp [he]

/-- Before its record is added, an open file counts what is held since the files were closed. -/
theorem counts_opening (h : Kept t₀ tree₀ os t tree) (hfields : r.fields now = .ok fields) :
    (if r.event ∈ t.opened then t else t.opening r.event).counts =
      (sorts (os ++ [.log r now])).map fun event => (event,
        if event = r.event then (writable t₀.format (current event os)).length
        else (held t₀.format event os).length) := by
  rw [sorts_log hfields]
  by_cases hopen : r.event ∈ t.opened
  · have hcurrent := (h.mem_opened_iff _).mp hopen
    rw [if_pos hopen, if_pos (mem_sorts_of_current hcurrent), h.counts_eq]
    refine List.map_congr_left fun event _ => ?_
    by_cases he : event = r.event
    · rw [he, if_pos rfl, held_eq_current hcurrent]
    · rw [if_neg he]
  · have hcurrent : current r.event os = [] := by simpa [h.mem_opened_iff] using hopen
    rw [if_neg hopen]
    unfold opening
    dsimp only
    rw [h.counts_eq, putEntry_map (nodup_sorts os)]
    refine List.map_congr_left fun event _ => ?_
    by_cases he : event = r.event
    · rw [he, if_pos rfl, if_pos rfl, hcurrent]
      rfl
    · rw [if_neg he, if_neg he]

theorem counts_reached (h : Kept t₀ tree₀ os t tree) (hfields : r.fields now = .ok fields) :
    (t.reached r.event (t₀.format.fault? fields).isNone).counts =
      (sorts (os ++ [.log r now])).map fun event =>
        (event, (held t₀.format event (os ++ [.log r now])).length) := by
  have hopening := h.counts_opening hfields
  have hmem : r.event ∈ sorts (os ++ [.log r now]) := (mem_sorts_log hfields).mpr (.inl rfl)
  have hlength : ∀ event, (held t₀.format event (os ++ [.log r now])).length =
      if event = r.event then (writable t₀.format (current r.event os)).length +
        (if (t₀.format.fault? fields).isNone then 1 else 0)
      else (held t₀.format event os).length := by
    intro event
    rw [held_log hfields]
    split
    · next he =>
      rw [he, List.length_append]
      cases hnone : t₀.format.fault? fields <;> simp [writable, hnone]
    · rfl
  rw [reached]
  cases hnone : (t₀.format.fault? fields).isNone with
  | false =>
    rw [if_neg Bool.false_ne_true, hopening]
    refine List.map_congr_left fun event _ => ?_
    rw [hlength, hnone]
    by_cases he : event = r.event <;> simp [he]
  | true =>
    rw [if_pos rfl, counting]
    dsimp only
    rw [hopening, lookup_map, if_pos hmem, putEntry_map (nodup_sorts _), if_pos hmem]
    refine List.map_congr_left fun event _ => ?_
    rw [hlength, hnone]
    by_cases he : event = r.event <;> simp [he]

/-- What is written for a record is the text of its file after it. -/
theorem textAfter_log (h : Kept t₀ tree₀ os t tree) (hfields : r.fields now = .ok fields) :
    (if r.event ∈ t.opened then t₀.textAfter r.event os
      else t₀.headText (fields.map (·.name))) ++
        (if (t₀.format.fault? fields).isNone then t₀.textOf fields else "") =
      t₀.textAfter r.event (os ++ [.log r now]) := by
  have hbefore : (if r.event ∈ t.opened then t₀.textAfter r.event os
      else t₀.headText (fields.map (·.name))) = t₀.fileText (TraceRecord.columns r.event)
        (writable t₀.format (current r.event os)) := by
    split
    · next hopen =>
      unfold textAfter
      rw [held_eq_current ((h.mem_opened_iff _).mp hopen)]
    · next hopen =>
      have hcurrent : current r.event os = [] := by simpa [h.mem_opened_iff] using hopen
      rw [hcurrent, TraceRecord.names_of_fields hfields]
      exact (fileText_nil t₀ _).symm
  rw [hbefore, textAfter, held_log hfields, if_pos rfl]
  cases hnone : t₀.format.fault? fields with
  | none => simp [writable, hnone, fileText_concat]
  | some e => simp [writable, hnone]

theorem read_wrote (h : Kept t₀ tree₀ os t tree) (hfields : r.fields now = .ok fields)
    (hwrote : tree.Wrote (t₀.pathOf r.event)
      (t₀.textAfter r.event (os ++ [.log r now])).toUTF8 tree')
    (hmem : event ∈ sorts (os ++ [.log r now])) :
    tree'.read (t₀.pathOf event) = .ok (t₀.textAfter event (os ++ [.log r now])).toUTF8 := by
  by_cases he : event = r.event
  · rw [he]
    exact hwrote.read
  · have hbefore : event ∈ sorts os := ((mem_sorts_log hfields).mp hmem).resolve_left he
    have hsame : t₀.textAfter event (os ++ [.log r now]) = t₀.textAfter event os := by
      unfold textAfter
      rw [held_log hfields, if_neg he]
    rw [hsame]
    exact hwrote.read_other
      (wayOf_pathOf_ne (event_mem_events r) (mem_events_of_mem_sorts hbefore) he)
      (h.read event hbefore)

theorem node?_wrote (h : Kept t₀ tree₀ os t tree) (hfields : r.fields now = .ok fields)
    {contents : ByteArray} (hwrote : tree.Wrote (t₀.pathOf r.event) contents tree')
    {way : List String}
    (hway : ∀ event ∈ sorts (os ++ [.log r now]), way ≠ FileTree.wayOf (t₀.pathOf event))
    (hmeta : way ≠ FileTree.wayOf t₀.metadataPath) : tree'.node? way = tree₀.node? way := by
  rw [hwrote.node?_eq (hway _ ((mem_sorts_log hfields).mpr (.inl rfl)))]
  exact h.node?_eq way (fun event he => hway event ((mem_sorts_log hfields).mpr (.inr he))) hmeta

/-! ### Calls -/

/-- A call that is to write no record and closes no file changes nothing. -/
theorem concat_of_none (h : Kept t₀ tree₀ os t tree) (hnone : o.event? = none)
    (hopen : o.closes = false) : Kept t₀ tree₀ (os ++ [o]) t tree := by
  have hfields : ∀ event, o.fields? event = none := by
    intro event
    rw [Option.eq_none_iff_forall_ne_some]
    intro fields hfields
    have hsome := Operation.event?_eq_some_iff.mpr ⟨fields, hfields⟩
    rw [hnone] at hsome
    cases hsome
  have hheld : ∀ event, held t₀.format event (os ++ [o]) = held t₀.format event os :=
    fun event => held_concat_of_none (hfields event)
  have hsorts : sorts (os ++ [o]) = sorts os := sorts_concat_of_none hnone
  refine ⟨h.alike, ?_, by rw [hsorts, h.paths_eq], fun event => ?_, ?_, ?_, ?_⟩
  · simpa only [hsorts, hheld] using h.counts_eq
  · rw [h.mem_opened_iff, current_concat, hopen, hfields]
    simp
  · simpa only [hsorts, textAfter, hheld] using h.read
  · simpa only [hsorts] using h.node?_eq
  · intro before now hbefore
    obtain ⟨-, hcall⟩ := List.append_inj' hbefore rfl
    cases hcall
    cases hopen

/-- Closing the files changes no file; what is written beside them is no file of records. -/
theorem concat_of_closes (h : Kept t₀ tree₀ os t tree) (hcloses : o.closes = true)
    (hread : ∀ event ∈ sorts os, ∀ bytes, tree.read (t₀.pathOf event) = .ok bytes →
      tree'.read (t₀.pathOf event) = .ok bytes)
    (hnode : ∀ way, way ≠ FileTree.wayOf t₀.metadataPath → tree'.node? way = tree.node? way)
    (habout : ∀ now, o = .finalize now →
      tree'.read t₀.metadataPath = .ok (Json.pretty (t₀.about os now)).toUTF8) :
    Kept t₀ tree₀ (os ++ [o]) t.close tree' := by
  have hnone : o.event? = none := by
    cases o with
    | log r now => cases hcloses
    | close | finalize => rfl
  have hheld : ∀ event, held t₀.format event (os ++ [o]) = held t₀.format event os :=
    fun event => held_concat_of_none (fields?_of_closes hcloses event)
  have hsorts : sorts (os ++ [o]) = sorts os := sorts_concat_of_none hnone
  refine ⟨⟨h.alike.directory, h.alike.run, h.alike.format, h.alike.begun⟩, ?_, ?_,
    fun event => ?_, ?_, ?_, ?_⟩
  · simpa only [close, hsorts, hheld] using h.counts_eq
  · simpa only [close, hsorts] using h.paths_eq
  · rw [current_concat, hcloses]
    simp [close]
  · intro event hevent
    rw [hsorts] at hevent
    unfold textAfter
    rw [hheld]
    exact hread event hevent _ (h.read event hevent)
  · intro way hway hmeta
    rw [hsorts] at hway
    rw [hnode way hmeta, h.node?_eq way hway hmeta]
  · intro before now hbefore
    obtain ⟨rfl, hcall⟩ := List.append_inj' hbefore rfl
    cases hcall
    exact habout now rfl

theorem log (h : Kept t₀ tree₀ os t tree) (hlog : t.log tree r now = (t', tree', fault))
    (hfault : ∀ e, fault ≠ some (.file e)) : Kept t₀ tree₀ (os ++ [.log r now]) t' tree' := by
  have hread : r.event ∈ t.opened →
      tree.read (t.pathOf r.event) = .ok (t₀.textAfter r.event os).toUTF8 := by
    intro hopen
    rw [h.alike.pathOf]
    exact h.read _ (mem_sorts_of_current ((h.mem_opened_iff _).mp hopen))
  rcases log_cases hlog hfault hread with ⟨hnone, rfl, rfl⟩ | ⟨fields, hfields, rfl, hwrote⟩
  · exact h.concat_of_none (by simp [Operation.event?, hnone]) rfl
  · rw [h.alike.pathOf, h.alike.textOf, h.alike.headText, h.alike.format,
      h.textAfter_log hfields] at hwrote
    rw [h.alike.format]
    exact {
      alike := h.alike.reached _ _
      counts_eq := h.counts_reached hfields
      paths_eq := h.paths_reached hfields
      mem_opened_iff := fun event => h.mem_opened_reached hfields
      read := fun event hmem => h.read_wrote hfields hwrote hmem
      node?_eq := fun way hway hmeta => h.node?_wrote hfields hwrote hway hmeta
      read_metadata := by
        intro before now hbefore
        obtain ⟨-, hcall⟩ := List.append_inj' hbefore rfl
        cases hcall }

theorem metadata_eq (h : Kept t₀ tree₀ os t tree) (now : String) :
    t.metadata now = t₀.about os now := by
  unfold about metadata
  rw [h.alike.run, h.alike.begun, h.counts_eq, h.paths_eq]

theorem finalize {date : String} (h : Kept t₀ tree₀ os t tree)
    (hfinalize : t.finalize tree date = (t', tree', fault))
    (hfault : ∀ e, fault ≠ some (.file e)) : Kept t₀ tree₀ (os ++ [.finalize date]) t' tree' := by
  have habout : t.close.metadata date = t₀.about os date := h.metadata_eq date
  have hpath : t.close.metadataPath = t₀.metadataPath := h.alike.metadataPath
  unfold Trace.finalize at hfinalize
  dsimp only at hfinalize
  rw [habout, hpath] at hfinalize
  split at hfinalize
  · next hwrite =>
    cases hfinalize
    have hwrote := FileTree.write_eq_ok_iff.mp hwrite
    refine h.concat_of_closes rfl (fun event hevent bytes hread => ?_)
      (fun way hway => hwrote.node?_eq hway) fun now hnow => ?_
    · exact hwrote.read_other (wayOf_pathOf_ne_metadata (mem_events_of_mem_sorts hevent)) hread
    · cases hnow
      exact hwrote.read
  · next e _ =>
    cases hfinalize
    exact absurd rfl (hfault e)

/-- What a call does. -/
theorem perform (h : Kept t₀ tree₀ os t tree) (hperform : t.perform tree o = (t', tree', fault))
    (hfault : ∀ e, fault ≠ some (.file e)) : Kept t₀ tree₀ (os ++ [o]) t' tree' := by
  cases o with
  | log r now => exact h.log hperform hfault
  | close =>
    cases hperform
    exact h.concat_of_closes rfl (fun _ _ _ hread => hread) (fun _ _ => rfl) nofun
  | finalize now => exact h.finalize hperform hfault

theorem performAll {us : List Operation} {faults : List Fault} (h : Kept t₀ tree₀ os t tree)
    (hperform : t.performAll tree us = (t', tree', faults)) (hfaults : ∀ e, .file e ∉ faults) :
    Kept t₀ tree₀ (os ++ us) t' tree' := by
  induction us generalizing os t tree faults with
  | nil =>
    cases hperform
    simpa using h
  | cons u us ih =>
    rcases hstep : t.perform tree u with ⟨t₁, tree₁, fault⟩
    rcases hrest : t₁.performAll tree₁ us with ⟨t₂, tree₂, rest⟩
    rw [Trace.performAll, hstep] at hperform
    dsimp only at hperform
    rw [hrest] at hperform
    cases hperform
    have hfirst := h.perform hstep fun e he => hfaults e (by simp [he])
    simpa using ih hfirst hrest fun e he => hfaults e (by simp [he])

end Kept

theorem kept_of_create {start : FileTree} {directory run format begun : String}
    (h : create start directory run format begun = .ok (t₀, tree₀)) :
    Kept t₀ tree₀ [] t₀ tree₀ := by
  obtain ⟨format, -, h⟩ := bind_eq_ok_iff.mp h
  obtain ⟨tree, -, h⟩ := bind_eq_ok_iff.mp h
  cases h
  exact ⟨⟨rfl, rfl, rfl, rfl⟩, rfl, rfl,
    by simp [current, stretches, splitWhere, given], by simp [sorts],
    fun _ _ _ => rfl, by simp⟩

theorem names_of_mem_given (h : fields ∈ given event os) :
    fields.map (·.name) = TraceRecord.columns event := by
  obtain ⟨o, -, ho⟩ := List.mem_filterMap.mp h
  cases o with
  | log r now =>
    simp only [Operation.fields?] at ho
    split at ho
    · next hevent =>
      rw [← hevent]
      cases hfields : r.fields now with
      | error e =>
        rw [hfields] at ho
        cases ho
      | ok fs =>
        rw [hfields] at ho
        cases ho
        exact TraceRecord.names_of_fields hfields
    · cases ho
  | close | finalize => cases ho

/-- What can be read in the file about the run when it is finalized after some calls. -/
theorem read?_about (t₀ : Trace) (os : List Operation) (now : String) :
    ∃ m, Json.read? (Json.pretty (t₀.about os now)) = some m ∧
      m.get? "run_name" = some (.text t₀.run) ∧ m.get? "start_time" = some (.text t₀.begun) ∧
      m.get? "end_time" = some (.text now) ∧
      m.get? "log_files" =
        some (.table ((sorts os).map fun event => (event, .text (t₀.pathOf event)))) ∧
      m.get? "record_counts" = some (.table ((sorts os).map fun event =>
        (event, .number (Text.showNat (held t₀.format event os).length)))) := by
  have hhold : Json.holdsForeign (t₀.about os now) = false := by
    simp only [about, metadata, Json.holdsForeign, Json.entriesHoldForeign, List.map_map,
      Bool.or_false, Bool.false_or, Bool.or_eq_false_iff]
    exact ⟨Json.entriesHoldForeign_map _ fun _ _ => rfl,
      Json.entriesHoldForeign_map _ fun _ _ => rfl⟩
  refine ⟨_, (Json.read?_pretty hhold).1, ?_⟩
  simp only [about, metadata, Json.Tree.ofValue, Json.ofEntries_eq_map, List.map_cons, List.map_map,
    List.map_nil]
  exact ⟨rfl, rfl, rfl, rfl, rfl⟩

/-- After any calls on a new trace whose writes succeed: the file of a sort holds, behind the names
    of the fields in rows, the records of that sort that are written in the last stretch between
    closings that is to write any, each once and in order. What `finalize` writes about the run
    counts just these, and names their files. No other file has changed. The records that are held
    are the last ones, and they are all if and only if no earlier stretch has written any of their
    sort. -/
theorem performAll_created {start : FileTree} {directory run format begun : String}
    {faults : List Fault}
    (hcreate : create start directory run format begun = .ok (t₀, tree₀))
    (hperform : t₀.performAll tree₀ os = (t, tree, faults)) (hfaults : ∀ e, .file e ∉ faults) :
    (∀ event ∈ sorts os, ∃ text, tree.read (t₀.pathOf event) = .ok text.toUTF8 ∧
      t₀.format.rows? text = some (t₀.format.heading (TraceRecord.columns event) ++
        (held t₀.format event os).map t₀.format.entry)) ∧
    (∀ before now, os = before ++ [.finalize now] →
      ∃ text m, tree.read t₀.metadataPath = .ok text.toUTF8 ∧ Json.read? text = some m ∧
        m.get? "run_name" = some (.text run) ∧ m.get? "start_time" = some (.text begun) ∧
        m.get? "end_time" = some (.text now) ∧
        m.get? "log_files" =
          some (.table ((sorts before).map fun event => (event, .text (t₀.pathOf event)))) ∧
        m.get? "record_counts" = some (.table ((sorts before).map fun event =>
          (event, .number (Text.showNat (held t₀.format event before).length))))) ∧
    (∀ way, (∀ event ∈ sorts os, way ≠ FileTree.wayOf (t₀.pathOf event)) →
      way ≠ FileTree.wayOf t₀.metadataPath → tree.node? way = tree₀.node? way) ∧
    ∀ event, held t₀.format event os <:+ written t₀.format event os ∧
      (held t₀.format event os = written t₀.format event os ↔
        ∀ stretch ∈ (runs event os).dropLast, writable t₀.format stretch = []) := by
  have hkept : Kept t₀ tree₀ os t tree := (kept_of_create hcreate).performAll hperform hfaults
  refine ⟨fun event hevent => ⟨_, hkept.read event hevent, ?_⟩, fun before now hbefore => ?_,
    hkept.node?_eq, fun event =>
      ⟨held_suffix_written _ event os, held_eq_written_iff _ event os⟩⟩
  · refine rows?_fileText (TraceRecord.columns_ne_nil event) fun fields hfields => ?_
    have hwritten := (held_suffix_written _ event os).subset hfields
    obtain ⟨hgiven, hnone⟩ := List.mem_filter.mp hwritten
    exact ⟨names_of_mem_given hgiven, by simpa using hnone⟩
  · obtain ⟨m, hm, hrun, hbegun, hcontents⟩ := read?_about t₀ before now
    have hdata : t₀.run = run ∧ t₀.begun = begun := by
      obtain ⟨format, -, hcreate⟩ := bind_eq_ok_iff.mp hcreate
      obtain ⟨tree, -, hcreate⟩ := bind_eq_ok_iff.mp hcreate
      cases hcreate
      exact ⟨rfl, rfl⟩
    rw [hdata.1] at hrun
    rw [hdata.2] at hbegun
    exact ⟨_, m, hkept.read_metadata before now hbefore, hm, hrun, hbegun, hcontents⟩

/-- Two ends of a try with a closing in between. -/
def interrupted : List Operation := [
  .log (.tryResult (.int 1) (.int 3) (.bool false) (.int 2) (.int 0)) .one,
  .close,
  .log (.tryResult (.int 2) (.int 1) (.bool true) (.int 4) (.int 0)) (.ofScaled false 3 0),
  .finalize "end"]

theorem performAll_created_interrupted :
    let t₀ : Trace := { directory := "traces", run := "r", format := .csv, begun := "start" }
    let tree₀ : FileTree := ⟨[(["traces"], .directory)]⟩
    ∃ t tree text m, create {} "traces" "r" "csv" "start" = .ok (t₀, tree₀) ∧
      t₀.performAll tree₀ interrupted = (t, tree, []) ∧
      tree.read (t₀.pathOf "try_result") = .ok text.toUTF8 ∧
      t₀.format.rows? text = some [
        .list (["try", "flips", "solved", "satisfied_count", "runtime", "timestamp"].map .text),
        .list (["2", "1", "True", "4", "0", "3.0"].map .text)] ∧
      (∃ about, tree.read t₀.metadataPath = .ok about.toUTF8 ∧ Json.read? about = some m) ∧
      m.get? "record_counts" = some (.table [("try_result", .number "1")]) ∧
      (written .csv "try_result" interrupted).length = 2 := by
  intro t₀ tree₀
  have hcreate : create {} "traces" "r" "csv" "start" = .ok (t₀, tree₀) := by rfl
  have hfaults : (t₀.performAll tree₀ interrupted).2.2.isEmpty = true := by decide +kernel
  rcases hperform : t₀.performAll tree₀ interrupted with ⟨t, tree, faults⟩
  rw [hperform] at hfaults
  obtain rfl := List.isEmpty_iff.mp hfaults
  have hsort : "try_result" ∈ sorts interrupted := by decide +kernel
  obtain ⟨hfiles, habout, -⟩ := performAll_created hcreate hperform (by simp)
  obtain ⟨text, hread, hrows⟩ := hfiles _ hsort
  obtain ⟨about, m, habout, hm, -, -, -, -, hcounts⟩ := habout (interrupted.take 3) "end" rfl
  have htexts : (held .csv "try_result" interrupted).map
      (fun fields => fields.map fun f => Csv.fieldText f.value) =
        [["2", "1", "True", "4", "0", "3.0"]] := by decide +kernel
  have hcounted : (sorts (interrupted.take 3)).map
      (fun event => (event, Text.showNat (held .csv event (interrupted.take 3)).length)) =
        [("try_result", "1")] := by decide +kernel
  refine ⟨t, tree, text, m, hcreate, rfl, hread, ?_, ⟨about, habout, hm⟩, ?_, by decide +kernel⟩
  · have hentries := congrArg (List.map fun texts => Json.Tree.list (texts.map .text)) htexts
    rw [List.map_map] at hentries
    have hheld : (held t₀.format "try_result" interrupted).map t₀.format.entry =
        [.list (["2", "1", "True", "4", "0", "3.0"].map .text)] := by
      refine Eq.trans (List.map_congr_left fun fields _ => ?_) hentries
      simp [t₀, TraceFormat.entry, List.map_map, Function.comp_def]
    rw [hrows, hheld]
    rfl
  · have hnumbers := congrArg (List.map fun e => (e.1, Json.Tree.number e.2)) hcounted
    rw [List.map_map] at hnumbers
    rw [hcounts]
    exact congrArg (fun entries => some (Json.Tree.table entries)) hnumbers

end FlipSat.Trace
