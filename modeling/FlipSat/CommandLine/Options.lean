import FlipSat.Binary64.Decimal
import FlipSat.Text.Blank
import FlipSat.Text.Quoted

/-
  FlipSat: how the arguments of a command are told apart.
  An argument is an option, a value of an option, or an operand. Options may be shortened to a
  prefix that no other option has, and a value may follow in the same argument after `=`. After the
  argument `--` there are only operands. First every argument is looked at by itself; then options
  take their values from left to right.
-/
namespace FlipSat.CommandLine

/-- How the value of an option is read. -/
inductive Reading where
  | int
  | real
  | text
deriving DecidableEq, Repr

def Reading.name : Reading → String
  | .int => "int"
  | .real => "float"
  | .text => "str"

/-- What an option asks for: the help text, nothing but to be there, or a value. -/
inductive OptionKind where
  | help
  | flag
  | valued (reading : Reading)
deriving DecidableEq, Repr

/-- An option and its names, the short one first. -/
structure OptionForm where
  names : List String
  kind : OptionKind
deriving DecidableEq, Repr

/-- How messages name an option. -/
def OptionForm.title (o : OptionForm) : String := "/".intercalate o.names

/-- The options of a command, and the texts about it. -/
structure CommandForm where
  program : String
  usage : String
  help : String
  options : List OptionForm

/-- Why the arguments are not followed. -/
inductive Stop where
  | help (text : String)
  | misuse (usage program reason : String)
deriving DecidableEq, Repr

namespace CommandForm

/-- Stops with a reason. -/
def refuse (f : CommandForm) (reason : String) : Stop := .misuse f.usage f.program reason

/-- Stops with a reason that concerns an option. -/
def refuseOption (f : CommandForm) (o : OptionForm) (reason : String) : Stop :=
  f.refuse ("argument " ++ o.title ++ ": " ++ reason)

/-- All names of options with their options. -/
def names (f : CommandForm) : List (String × OptionForm) :=
  f.options.flatMap fun o => o.names.map fun n => (n, o)

end CommandForm

/-! ## Marks -/

/-- A value in the argument of its option. It stands after `=`; behind a one-letter name the sign
    may be left out. -/
inductive Attached where
  | toWord (text : List Char)
  | toLetter (text : List Char)
deriving DecidableEq, Repr

/-- What an argument is by itself. -/
inductive Mark where
  | operand
  | divider
  | unknown
  | option (form : OptionForm) (attached : Option Attached)
deriving DecidableEq, Repr

/-- Is the text a number below zero, in digits without an exponent? -/
def isNegativeNumber (s : List Char) : Bool :=
  let isDigit (c : Char) : Bool := (Text.digitValue? c).isSome
  match s with
  | '-' :: body =>
    let body := if body.getLast? == some '\n' then body.dropLast else body
    match body.dropWhile isDigit with
    | [] => !body.isEmpty
    | '.' :: fraction => !fraction.isEmpty && fraction.all isDigit
    | _ => false
  | _ => false

/-- The text after the `=` that follows a name. -/
def attach (name text : List Char) : Attached :=
  if "--".toList.isPrefixOf name then .toWord text else .toLetter text

/-- The text before the first `=`, and the text after it. -/
def atSign (s : List Char) : List Char × Option (List Char) :=
  (s.takeWhile (· != '='), (s.dropWhile (· != '=')).tail?)

/-- The names that an argument can be short for. -/
def candidates (names : List (String × OptionForm)) (arg : List Char) :
    List (String × OptionForm × Option Attached) :=
  match arg with
  | '-' :: '-' :: _ =>
    let (front, value) := atSign arg
    (names.filter fun n => front.isPrefixOf n.1.toList).map fun n =>
      (n.1, n.2, value.map .toWord)
  | _ =>
    names.filterMap fun n =>
      if n.1.toList == arg.take 2 then some (n.1, n.2, some (.toLetter (arg.drop 2)))
      else if arg.isPrefixOf n.1.toList then some (n.1, n.2, none)
      else none

/-- What an argument before the divider is. -/
def mark (f : CommandForm) (arg : String) : Except Stop Mark :=
  let s := arg.toList
  let (front, value) := atSign s
  if s.head? != some '-' then .ok .operand
  else match f.names.lookup arg, value.bind fun _ => f.names.lookup (String.ofList front) with
    | some o, _ => .ok (.option o none)
    | none, some o => .ok (.option o (value.map (attach front)))
    | none, none =>
      if s.length = 1 then .ok .operand
      else match candidates f.names s with
        | [(_, o, attached)] => .ok (.option o attached)
        | [] => .ok (if isNegativeNumber s || s.contains ' ' then .operand else .unknown)
        | several =>
          .error (f.refuse ("ambiguous option: " ++ arg ++ " could match " ++
            ", ".intercalate (several.map (·.1))))

/-- The arguments with their marks. -/
def markAll (f : CommandForm) : List String → Except Stop (List (String × Mark))
  | [] => .ok []
  | arg :: args =>
    if arg == "--" then .ok ((arg, .divider) :: args.map fun a => (a, .operand))
    else do
      let m ← mark f arg
      let ms ← markAll f args
      pure ((arg, m) :: ms)

/-! ## Values -/

/-- What was given for an option. -/
inductive Given where
  | flag
  | int (n : Int)
  | real (x : Binary64)
  | text (s : String)
deriving DecidableEq, Repr

/-- Reads the value of an option. -/
def readGiven (f : CommandForm) (o : OptionForm) (r : Reading) (s : String) : Except Stop Given :=
  let read : Option Given := match r with
    | .int => (Text.readInt? s.toList).map .int
    | .real => (Binary64.read? s.toList).map .real
    | .text => some (.text s)
  match read with
  | some g => .ok g
  | none => .error (f.refuseOption o ("invalid " ++ r.name ++ " value: " ++ Text.quoted s))

/-- The options and operands of a command: options in order with what was given for them, at most
    one operand, and the arguments that belong nowhere. -/
structure Parsed where
  options : List (OptionForm × Given) := []
  operand : Option String := none
  extras : List String := []

namespace Parsed

def addOption (p : Parsed) (o : OptionForm) (g : Given) : Parsed :=
  { p with options := p.options ++ [(o, g)] }

def addExtra (p : Parsed) (arg : String) : Parsed := { p with extras := p.extras ++ [arg] }

end Parsed

/-- An option that takes no value is done: the help text stops everything else. -/
def withoutValue (f : CommandForm) (o : OptionForm) (p : Parsed) : Except Stop Parsed :=
  match o.kind with
  | .help => .error (.help f.help)
  | _ => .ok (p.addOption o .flag)

/-- There is no use for a value of an option. -/
def refuseAttached (f : CommandForm) (o : OptionForm) (text : List Char) : Stop :=
  f.refuseOption o ("ignored explicit argument " ++ Text.quoted (String.ofList text))

/-- Letters behind a one-letter option are further such options. From the first letter that is none
    on, the letters are a value that there is no use for. -/
def cluster (f : CommandForm) (o : OptionForm) : List Char → Parsed → Except Stop Parsed
  | [], p => withoutValue f o p
  | c :: s, p =>
    match f.names.lookup (String.ofList ['-', c]) with
    | none => .error (refuseAttached f o (c :: s))
    | some next => do
      let p ← cluster f next s p
      withoutValue f o p

/-- An option with a value in the same argument. -/
def withAttached (f : CommandForm) (o : OptionForm) (a : Attached) (p : Parsed) :
    Except Stop Parsed :=
  let text := match a with
    | .toWord s | .toLetter s => s
  match o.kind, a with
  | .valued r, _ => do
    let g ← readGiven f o r (String.ofList text)
    pure (p.addOption o g)
  | _, .toLetter (c :: s) => cluster f o (c :: s) p
  | _, _ => .error (refuseAttached f o text)

/-- Takes the arguments from left to right. The one operand is the first; a divider next to it
    belongs to it. -/
def take (f : CommandForm) : List (String × Mark) → Parsed → Except Stop Parsed
  | [], p => .ok p
  | (arg, .unknown) :: rest, p => take f rest (p.addExtra arg)
  | (arg, .operand) :: rest, p =>
    match p.operand, rest with
    | none, (_, .divider) :: rest => take f rest { p with operand := some arg }
    | none, rest => take f rest { p with operand := some arg }
    | some _, rest => take f rest (p.addExtra arg)
  | (arg, .divider) :: rest, p =>
    match p.operand, rest with
    | none, (operand, _) :: rest => take f rest { p with operand := some operand }
    | _, rest => take f rest (p.addExtra arg)
  | (_, .option o (some a)) :: rest, p => do
    let p ← withAttached f o a p
    take f rest p
  | (_, .option o none) :: rest, p =>
    match o.kind, rest with
    | .valued r, (value, .operand) :: rest => do
      let g ← readGiven f o r value
      take f rest (p.addOption o g)
    | .valued _, _ => .error (f.refuseOption o "expected one argument")
    | _, rest => do
      let p ← withoutValue f o p
      take f rest p

/-- The options and operands among the arguments of a command. -/
def parse (f : CommandForm) (args : List String) : Except Stop Parsed := do
  let marked ← markAll f args
  take f marked {}

end FlipSat.CommandLine
