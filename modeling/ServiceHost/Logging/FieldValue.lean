import ServiceHost.Decimal.Nearest
import ServiceHost.Logging.Pattern
import ServiceHost.Text.Split

/-! Values that the fields of a span are compared with: flags, numbers and patterns. -/

namespace ServiceHost.Logging

inductive FieldValue where
  | flag (b : Bool)
  | natural (n : Nat)
  /-- A number with a minus sign. -/
  | integer (n : Int)
  /-- Any other number; `none` is infinite. -/
  | real (negative : Bool) (magnitude : Option Decimal.Binary)
  | notANumber
  /-- Everything else is a pattern. -/
  | pattern (s : String)
deriving DecidableEq

def FieldValue.text : FieldValue → String
  | .flag b => toString b
  | .natural n => toString n
  | .integer n => toString n
  | .real negative magnitude =>
    (if negative then "-" else "") ++
      (match magnitude with
      | none => "inf"
      | some b => b.positional)
  | .notANumber => "NaN"
  | .pattern s => s

namespace FieldValue

/-! ## Reading -/

/-- A word with a minus sign. -/
def negative? : List Char → Option Int
  | '-' :: rest => do
    let n ← Text.natural? rest
    if n ≤ 9223372036854775808 then return -(n : Int) else none
  | _ => none

def exponent? : List Char → Option Int
  | '-' :: rest => (Text.natural? rest).map fun n => -(n : Int)
  | '+' :: rest => (Text.natural? rest).map Int.ofNat
  | rest => (Text.natural? rest).map Int.ofNat

/-- Digits with at most one point among or around them, and perhaps an exponent. -/
def magnitude? (s : List Char) : Option (Option Decimal.Binary) := do
  let isMark (c : Char) : Bool := c == 'e' || c == 'E'
  let digits := s.takeWhile (!isMark ·)
  let fraction := (digits.dropWhile (· != '.')).drop 1
  let n ← Text.natural? (digits.takeWhile (· != '.') ++ fraction)
  match s.dropWhile (!isMark ·) with
  | [] => return Decimal.nearest? n (-(fraction.length : Int))
  | _ :: rest => return Decimal.nearest? n ((← exponent? rest) - fraction.length)

/-- A number that is no word, or the name of one that has no digits, in any case. -/
def real? (s : List Char) : Option FieldValue :=
  let (negative, s) :=
    match s with
    | '-' :: rest => (true, rest)
    | '+' :: rest => (false, rest)
    | s => (false, s)
  let name := String.ofList (s.map Char.toLower)
  if name = "nan" then some .notANumber
  else if name = "inf" || name = "infinity" then some (.real negative none)
  else (magnitude? s).map (.real negative)

/-- What a text stands for; `none` when it is no pattern either. -/
def ofChars? (s : List Char) : Option FieldValue :=
  if s = "true".toList then some (.flag true)
  else if s = "false".toList then some (.flag false)
  else
    let pattern? := if Pattern.isValid s then some (pattern (String.ofList s)) else none
    ((Text.unsigned? (UInt64.size - 1) s).map natural).orElse fun _ =>
      ((negative? s).map integer).orElse fun _ => (real? s).orElse fun _ => pattern?

/-- The value as it is told apart from others: both zeros are one. -/
def key : FieldValue → FieldValue
  | real negative (some b) => real (negative && b.mantissa ≠ 0) (some b)
  | v => v

end FieldValue

end ServiceHost.Logging
