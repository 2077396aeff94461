import FlipSat.Value.Basic

/-
  FlipSat: what can be wrong with settings, each cause with the message that reports it. Some causes
  are faults of the library that keeps them.
-/
namespace FlipSat

/-- Groups of faults that callers treat alike. A fault can belong to several of them, or to none. -/
inductive FaultFamily where
  | settings
  | key
  | value
  | system
  | yaml
deriving DecidableEq, Repr

/-- A fault of the library that settings are kept with: its kind, the families of kinds that it
    belongs to, and its message. -/
structure Raised where
  kind : String
  families : List FaultFamily
  message : String
deriving DecidableEq, Repr

/-- Does the fault belong to one of some families? -/
def Raised.isAmong (r : Raised) (families : List FaultFamily) : Bool :=
  r.families.any families.contains

/-- Why settings are refused. -/
inductive ConfigFault where
  | missingFile (path : String)
  | unusableFile (path : String) (why : String)
  | cannotSet (key : String) (why : String)
  | badUpdate (why : String)
  | badParameters (why : String)
  | badOverride (key : String) (why : String)
  | noAssignment (item : String)
  | unknownParameter (name : String)
  | notPercentage (key : String) (value : Value)
  | notPositive (key : String) (value : Value)
  | negative (key : String) (value : Value)
  | badTimeout (value : Value)
  | badLevel (value : Value)
  | badTraceFormat (value : Value)
  | noiseNotInteger (value : Value)
  | noiseOutOfRange (value : Int)
  | timeoutArgument (value : Value)
deriving Repr

namespace ConfigFault

/-- The message of the library behind a fault, where there is one. -/
def detail? : ConfigFault → Option String
  | .unusableFile _ why | .cannotSet _ why | .badUpdate why | .badParameters why
  | .badOverride _ why => some why
  | _ => none

/-- The value that the message shows, where it shows one. -/
def value? : ConfigFault → Option Value
  | .notPercentage _ v | .notPositive _ v | .negative _ v | .badTimeout v | .badLevel v
  | .badTraceFormat v | .noiseNotInteger v | .timeoutArgument v => some v
  | .noiseOutOfRange n => some (.int n)
  | _ => none

/-- The message without the one of the library. -/
def summary : ConfigFault → String
  | .missingFile path => "Configuration file not found: " ++ path
  | .unusableFile path _ => "Error loading configuration file " ++ path
  | .cannotSet key _ => "Cannot set " ++ key
  | .badUpdate _ => "Invalid configuration update"
  | .badParameters _ => "Invalid solver parameters"
  | .badOverride key _ => "Cannot parse value for " ++ key
  | .noAssignment item => "Expected KEY=VALUE, got " ++ Text.quoted item
  | .unknownParameter name => "Unknown solver parameter: " ++ name
  | .notPercentage key value => key ++ " must be an integer in [0, 100], got " ++ value.literal
  | .notPositive key value => key ++ " must be a positive integer, got " ++ value.literal
  | .negative key value => key ++ " must be a non-negative integer, got " ++ value.literal
  | .badTimeout value => "solver.timeout must be positive, got " ++ value.literal
  | .badLevel value => "logging.level must be a logging level name, got " ++ value.literal
  | .badTraceFormat value =>
    "logging.trace_format must be 'json' or 'csv', got " ++ value.literal
  | .noiseNotInteger value => "Noise level must be an integer, got " ++ value.literal
  | .noiseOutOfRange value => "Noise level must be in [0, 100], got " ++ Text.showInt value
  | .timeoutArgument value => "Timeout must be positive, got " ++ value.literal

def message (e : ConfigFault) : String :=
  match e.detail? with
  | some why => e.summary ++ ": " ++ why
  | none => e.summary

end ConfigFault

end FlipSat
