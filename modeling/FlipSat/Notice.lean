import FlipSat.Value.Arithmetic
import FlipSat.Value.Named

/-
  FlipSat: notices of what went wrong, made by callers from values of any sort. A notice has a
  message, and details that are told behind it as far as they are given.
-/
namespace FlipSat

/-- A notice of one of the sorts of faults that the library tells apart. -/
inductive Notice where
  /-- A notice that says nothing. -/
  | bare
  | parse (message line near : Value)
  | invalidClause (message clause : Value)
  | inconsistent (message : Value)
  | unsolved (message seconds satisfied : Value)
deriving Repr, Inhabited

namespace Notice

/-- The notice that named values make. What is not given has its default. -/
def ofNamed (kind : String) (es : Entries) : Except Fault Notice :=
  let message (standard : String) : Value := es.named "message" (.text standard)
  let detail (name : String) : Value := es.named name .null
  match kind with
  | "ParseError" => do
    es.onlyNames ["message", "line_number", "subexpression"]
    pure (.parse (message "Malformed clause") (detail "line_number") (detail "subexpression"))
  | "InvalidClauseError" => do
    es.onlyNames ["message", "clause"]
    pure (.invalidClause (message "Invalid clause detected") (detail "clause"))
  | "ConsistencyError" => do
    es.onlyNames ["message", "clause_index", "kind"]
    pure (.inconsistent (message "Inconsistent clause state"))
  | "SolverTimeoutError" => do
    es.onlyNames ["message", "time_spent", "satisfied_clauses", "partial_assignment"]
    pure (.unsolved (message "Solver exceeded its budget") (detail "time_spent")
      (detail "satisfied_clauses"))
  | "SATBaseException" | "ConfigurationError" => do
    es.onlyNames []
    pure .bare
  | _ => throw (.noSuchSort kind)

/-- The message without the details that come after it; a clause is part of the message. -/
def message : Notice → Value
  | .bare => .null
  | .parse message _ _ | .inconsistent message | .unsolved message _ _ => message
  | .invalidClause message .null => message
  | .invalidClause message clause =>
    .text (clauseMessage message.display (some clause.display))

/-- What is said of a detail, if it is given. -/
def told (v : Value) (text : Value → Except Fault String) : Except Fault (List String) :=
  if v.isNull then .ok [] else (text v).map fun s => [s]

/-- A message with details. Without any, only a text can stand for itself. -/
def withDetails (message : Value) (details : List String) : Except Fault String :=
  match message, details with
  | .text s, [] => .ok s
  | _, [] => .error (.mistyped ("__str__ returned non-string (type " ++ message.sort ++ ")"))
  | message, details => .ok (detailed message.display details)

/-- How the notice reads. -/
def text (n : Notice) : Except Fault String :=
  match n with
  | .bare => .ok ""
  | .parse message line near => do
    let line ← told line fun v => .ok ("line " ++ v.display)
    let near ← told near fun v => .ok ("near " ++ v.literal)
    withDetails message (line ++ near)
  | .unsolved message seconds satisfied => do
    let seconds ← told seconds fun v => (v.fixed 2).map fun s => "time_spent=" ++ s ++ "s"
    let satisfied ← told satisfied fun v => .ok ("satisfied_clauses=" ++ v.display)
    withDetails message (seconds ++ satisfied)
  | .invalidClause .. | .inconsistent _ => .ok n.message.display

end Notice

end FlipSat
