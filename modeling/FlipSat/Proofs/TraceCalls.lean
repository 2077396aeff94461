import FlipSat.Proofs.Blank
import FlipSat.Proofs.EraseDups
import FlipSat.Trace.Basic

/-
  FlipSat: what calls on a trace are to write, and what its files hold of it.
  Closing and finalizing cut the calls into stretches (`stretches`). A file that is written to in a
  later stretch starts afresh, so it holds the records of the last stretch that is to write some of
  its sort (`held`), out of all that were written (`written`). Nothing is lost just when no earlier
  stretch has written records of a sort (`held_eq_written_iff`).
-/
namespace FlipSat.Trace

/-- A call on a trace, with the time on the wall at which it is made. -/
inductive Operation where
  | log (r : TraceRecord) (now : Binary64)
  | close
  | finalize (now : String)

namespace Operation

/-- Does it close the files? -/
def closes : Operation → Bool
  | .log _ _ => false
  | .close | .finalize _ => true

/-- The fields of the record that it is to add to those of a sort. -/
def fields? (event : String) : Operation → Option (List TraceField)
  | .log r now => if r.event = event then (r.fields now).toOption else none
  | .close | .finalize _ => none

/-- The sort of the record that it is to write. -/
def event? : Operation → Option String
  | .log r now => (r.fields now).toOption.map fun _ => r.event
  | .close | .finalize _ => none

end Operation

/-- The trace and the tree after a call, and the fault of the call. -/
def perform (t : Trace) (tree : FileTree) : Operation → Trace × FileTree × Option Fault
  | .log r now => t.log tree r now
  | .close => (t.close, tree, none)
  | .finalize now => t.finalize tree now

/-- The trace and the tree after a list of calls, and the faults of those that failed. -/
def performAll (t : Trace) (tree : FileTree) : List Operation → Trace × FileTree × List Fault
  | [] => (t, tree, [])
  | o :: os =>
    let (t, tree, fault) := t.perform tree o
    let (t, tree, faults) := performAll t tree os
    (t, tree, fault.toList ++ faults)

variable {t t' : Trace} {tree tree' : FileTree} {os : List Operation} {o : Operation}
  {r : TraceRecord} {now : Binary64} {fields : List TraceField} {event name : String}
  {format : TraceFormat}

/-! ## The records of calls -/

/-- The records that have a text. -/
def writable (format : TraceFormat) (records : List (List TraceField)) : List (List TraceField) :=
  records.filter fun fields => (format.fault? fields).isNone

/-- The records of a sort that the calls are to write. -/
def given (event : String) (os : List Operation) : List (List TraceField) :=
  os.filterMap (Operation.fields? event)

/-- The records of a sort that the calls write. -/
def written (format : TraceFormat) (event : String) (os : List Operation) :
    List (List TraceField) := writable format (given event os)

/-- The sorts of the records that the calls are to write, in the order in which they first come. -/
def sorts (os : List Operation) : List String := (os.filterMap Operation.event?).eraseDups

/-- The calls between those that close the files. -/
def stretches (os : List Operation) : List (List Operation) := splitWhere Operation.closes os

/-- The records of a sort by the stretches that are to write any. -/
def runs (event : String) (os : List Operation) : List (List (List TraceField)) :=
  ((stretches os).map (given event)).filter (· ≠ [])

/-- The records of a sort that the last stretch writes of those that are to write any. -/
def held (format : TraceFormat) (event : String) (os : List Operation) :
    List (List TraceField) := writable format ((runs event os).getLast?.getD [])

/-- The records of a sort that are to be written since the files were last closed. -/
def current (event : String) (os : List Operation) : List (List TraceField) :=
  given event ((stretches os).getLast?.getD [])

theorem given_append (event : String) (os us : List Operation) :
    given event (os ++ us) = given event os ++ given event us := List.filterMap_append

theorem writable_append (format : TraceFormat) (as bs : List (List TraceField)) :
    writable format (as ++ bs) = writable format as ++ writable format bs := List.filter_append ..

theorem stretches_concat (os : List Operation) : ∃ front last, stretches os = front ++ [last] ∧
    ∀ o, stretches (os ++ [o]) =
      if o.closes then front ++ [last] ++ [[]] else front ++ [last ++ [o]] := by
  unfold stretches
  simp only [splitWhere_eq]
  obtain ⟨front, last, hos, hadd⟩ := splitOnP_append Operation.closes os
  refine ⟨front, last, hos, fun o => ?_⟩
  cases ho : o.closes with
  | true => rw [if_pos rfl, List.splitOnP_append_cons _ _ ho, hos, List.splitOnP_nil]
  | false => rw [if_neg (by simp), hadd [o] (by simpa using ho)]

theorem fields?_of_closes (h : o.closes = true) (event : String) : o.fields? event = none := by
  cases o with
  | log r now => cases h
  | close | finalize => rfl

theorem current_concat (event : String) (os : List Operation) (o : Operation) :
    current event (os ++ [o]) =
      if o.closes then [] else current event os ++ (o.fields? event).toList := by
  obtain ⟨front, last, hos, hadd⟩ := stretches_concat os
  unfold current
  rw [hos, hadd]
  cases o.closes with
  | true => simp [given]
  | false => cases hfields : o.fields? event <;> simp [given, hfields]

/-- A call that is to write no record of a sort leaves those that are held. -/
theorem held_concat_of_none (h : o.fields? event = none) :
    held format event (os ++ [o]) = held format event os := by
  obtain ⟨front, last, hos, hadd⟩ := stretches_concat os
  unfold held runs
  rw [hos, hadd]
  cases o.closes with
  | true => simp [given]
  | false => simp [given, h]

/-- A record comes after those since the files were last closed, and in place of all before. -/
theorem held_concat_of_some (h : o.fields? event = some fields) :
    held format event (os ++ [o]) =
      writable format (current event os) ++ writable format [fields] := by
  obtain ⟨front, last, hos, hadd⟩ := stretches_concat os
  have hopen : o.closes = false := by
    cases ho : o.closes with
    | false => rfl
    | true => rw [fields?_of_closes ho] at h; cases h
  unfold held runs current
  rw [hos, hadd, hopen, ← writable_append]
  simp [given, h]

/-- Records since the files were last closed are the ones that are held. -/
theorem held_eq_current (h : current event os ≠ []) :
    held format event os = writable format (current event os) := by
  obtain ⟨front, last, hos, -⟩ := stretches_concat os
  unfold current at h ⊢
  unfold held runs
  rw [hos] at h ⊢
  simp only [List.getLast?_concat, Option.getD_some] at h ⊢
  simp [h]

/-- All records of a sort are those of its stretches. -/
theorem flatten_runs (event : String) (os : List Operation) :
    (runs event os).flatten = given event os := by
  induction os using List.reverseRecOn with
  | nil => rfl
  | append_singleton os o ih =>
    obtain ⟨front, last, hos, hadd⟩ := stretches_concat os
    have hcat : ∀ ls : List (List (List TraceField)),
        (ls.filter (· ≠ [])).flatten = ls.flatten := by
      intro ls
      induction ls with
      | nil => rfl
      | cons l ls ih => cases l <;> simp_all
    unfold runs at ih ⊢
    rw [hcat] at ih ⊢
    rw [hos] at ih
    rw [hadd, given_append, ← ih]
    cases ho : o.closes with
    | true => simp [given, fields?_of_closes ho]
    | false => simp [given_append]

/-- The records that are written are those of the earlier stretches, and then those that are
    held. -/
theorem written_eq (format : TraceFormat) (event : String) (os : List Operation) :
    written format event os =
      writable format (runs event os).dropLast.flatten ++ held format event os := by
  unfold written held
  rw [← flatten_runs, ← writable_append]
  cases hruns : (runs event os).getLast? with
  | none => simp [List.getLast?_eq_none_iff.mp hruns]
  | some last =>
    obtain ⟨front, hfront⟩ := List.getLast?_eq_some_iff.mp hruns
    rw [hfront, List.dropLast_concat]
    simp

/-- The records that are held are the last ones. -/
theorem held_suffix_written (format : TraceFormat) (event : String) (os : List Operation) :
    held format event os <:+ written format event os := by
  rw [written_eq]
  exact List.suffix_append _ _

/-- No record of a sort is lost if and only if no stretch before the last writes any. -/
theorem held_eq_written_iff (format : TraceFormat) (event : String) (os : List Operation) :
    held format event os = written format event os ↔
      ∀ run ∈ (runs event os).dropLast, writable format run = [] := by
  have hflat : writable format (runs event os).dropLast.flatten = [] ↔
      ∀ run ∈ (runs event os).dropLast, writable format run = [] := by
    unfold writable
    simp only [List.filter_eq_nil_iff, List.mem_flatten]
    constructor
    · exact fun h run hrun fields hfields => h fields ⟨run, hrun, hfields⟩
    · rintro h fields ⟨run, hrun, hfields⟩
      exact h run hrun fields hfields
  rw [written_eq, ← hflat, eq_comm, List.append_left_eq_self]

theorem nodup_sorts (os : List Operation) : (sorts os).Nodup := nodup_eraseDups _

theorem Operation.event?_eq_some_iff :
    o.event? = some event ↔ ∃ fields, o.fields? event = some fields := by
  cases o with
  | log r now =>
    cases hfields : (r.fields now).toOption with
    | none => simp [event?, fields?, hfields]
    | some fields => simp [event?, fields?, hfields]
  | close | finalize => simp [event?, fields?]

/-- The sorts are those of which records are to be written. -/
theorem mem_sorts_iff : event ∈ sorts os ↔ given event os ≠ [] := by
  unfold sorts given
  rw [List.mem_eraseDups, List.mem_filterMap, Ne, List.filterMap_eq_nil_iff]
  simp only [Operation.event?_eq_some_iff, ← Option.ne_none_iff_exists', not_forall, exists_prop,
    ne_eq]

theorem mem_sorts_of_current (h : current event os ≠ []) : event ∈ sorts os := by
  obtain ⟨front, last, hos, -⟩ := stretches_concat os
  rw [mem_sorts_iff, ← flatten_runs]
  unfold current at h
  unfold runs
  rw [hos] at h ⊢
  simp only [List.getLast?_concat, Option.getD_some] at h
  simp [h]

theorem sorts_concat_of_none (h : o.event? = none) : sorts (os ++ [o]) = sorts os := by
  unfold sorts
  rw [List.filterMap_append]
  simp [h]

theorem sorts_concat_of_some (h : o.event? = some event) :
    sorts (os ++ [o]) = if event ∈ sorts os then sorts os else sorts os ++ [event] := by
  unfold sorts
  rw [List.filterMap_append, List.filterMap_cons_some h, List.filterMap_nil, eraseDups_concat]
  simp only [List.mem_eraseDups]

end FlipSat.Trace
