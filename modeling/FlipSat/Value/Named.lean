import FlipSat.Fault

/-
  FlipSat: values that are given by name, each at most once. A name that is not asked for is a
  fault.
-/
namespace FlipSat.Entries

/-- The value that is given for a name, or the one that holds without it. -/
def named (es : Entries) (name : String) (standard : Value) : Value :=
  (get? es (.text name)).getD standard

/-- Refuses names that are not asked for. -/
def onlyNames (es : Entries) (names : List String) : Except Fault Unit :=
  match es.find? fun e => !names.any fun name => e.1 == .text name with
  | some (k, _) => .error (.mistyped ("got an unexpected keyword argument " ++ k.literal))
  | none => .ok ()

end FlipSat.Entries
