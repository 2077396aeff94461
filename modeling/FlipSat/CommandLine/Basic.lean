import FlipSat.CommandLine.Solve

/-
  FlipSat: the program as a function of its arguments and of what it finds around it. The library
  that settings are kept with is a parameter; `γ` is the type of its documents.
-/
namespace FlipSat.CommandLine

variable (γ : Type) [SettingsLibrary γ]

/-- Does what a request asks for. Without a command there is only the help text to show, and the
    exit code says that a command was missing. -/
def Request.run (r : Request) (env : Environment) : Outcome :=
  match r with
  | .overview =>
    { files := env.files, output := programForm.help, ending := .code ProgramEnd.usage }
  | .solve args => args.run γ env
  | .check args => args.run env

/-- A run of the program. -/
def run (args : List String) (env : Environment) : Outcome :=
  match Request.ofArguments args with
  | .ok request => request.run γ env
  | .error (.help text) => { files := env.files, output := text, ending := .code ProgramEnd.solved }
  | .error (.misuse usage program reason) =>
    { files := env.files, ending := .misused usage program reason }

end FlipSat.CommandLine
