import FlipSat.Binary64.Decimal
import FlipSat.Yaml.Tag

/-
  FlipSat: the numbers that YAML scalars stand for. What a scalar with the tag of a number may hold
  goes beyond what is a number by its form.
-/
namespace FlipSat.Yaml

/-- The digits of a number without the underscores between them. -/
def withoutGaps (s : List Char) : List Char := s.filter (· != '_')

/-- A number, or the fault of having none. -/
def orBadNumber {α : Type} (n? : Option α) : Except Raised α :=
  match n? with
  | some n => .ok n
  | none => .error .badNumber

/-- The integer that a scalar stands for: binary after `0b`, hexadecimal after `0x`, octal after
    `0`, and in base sixty between colons. Gaps do not count. -/
def readInt (s : List Char) : Except Raised Int := do
  let value := withoutGaps s
  let body := unsigned value
  let n ← match body with
    | [] => throw .emptyNumber
    | '0' :: 'b' :: ds => orBadNumber (Text.readIntInBase? 2 ds)
    | '0' :: 'x' :: ds => orBadNumber (Text.readIntInBase? 16 ds)
    | '0' :: ds => orBadNumber (Text.readIntInBase? 8 ('0' :: ds))
    | body =>
      if body.contains ':' then do
        let parts ← orBadNumber ((splitWhere (· == ':') body).mapM Text.readInt?)
        pure (parts.foldl (fun n d => 60 * n + d) 0)
      else orBadNumber (Text.readInt? body)
  pure (if value.head? == some '-' then -n else n)

/-- Adds up digits of base sixty, the least significant first. -/
def sumSixtieths (total : Binary64) (base : Int) : List Binary64 → Except Raised Binary64
  | [] => .ok total
  | d :: ds =>
    match Binary64.ofInt? base with
    | some b => sumSixtieths (total.add (d.mul b)) (60 * base) ds
    | none => .error (.tooLarge "a power of sixty is too large for a real number")

/-- The real number that a scalar stands for. -/
def readReal (s : List Char) : Except Raised Binary64 := do
  let value := (withoutGaps s).map Char.toLower
  if value.isEmpty then throw .emptyNumber
  let body := unsigned value
  let x ← match String.ofList body with
    | ".inf" => pure (.infinity false)
    | ".nan" => return .nan
    | _ =>
      if body.contains ':' then do
        let parts ← orBadNumber ((splitWhere (· == ':') body).mapM Binary64.read?)
        sumSixtieths (.zero false) 1 parts.reverse
      else orBadNumber (Binary64.read? body)
  pure (if value.head? == some '-' then x.neg else x)

end FlipSat.Yaml
