import ServiceHost.Json.Value
import ServiceHost.Decimal.Shortest

/-! Writing JSON without blanks. Members are written in the order in which they stand. -/

namespace ServiceHost.Json

def hexDigitLower (n : Nat) : Char := Nat.digitChar n

/-- Quotes, backslashes and controls are escaped, everything else stands for itself. -/
def escapeChar (c : Char) : List Char :=
  match c with
  | '"' => ['\\', '"']
  | '\\' => ['\\', '\\']
  | '\x08' => ['\\', 'b']
  | '\x0c' => ['\\', 'f']
  | '\n' => ['\\', 'n']
  | '\r' => ['\\', 'r']
  | '\t' => ['\\', 't']
  | c =>
    if c.toNat < 0x20 then
      ['\\', 'u', '0', '0', hexDigitLower (c.toNat / 16), hexDigitLower (c.toNat % 16)]
    else [c]

def writeText (s : String) : List Char := '"' :: s.toList.flatMap escapeChar ++ ['"']

def writeNumber : Number → List Char
  | .int n => (toString n).toList
  | .float bits => (Decimal.textOfBits bits).toList

mutual

def writeValue : Value → List Char
  | .null => ['n', 'u', 'l', 'l']
  | .bool true => ['t', 'r', 'u', 'e']
  | .bool false => ['f', 'a', 'l', 's', 'e']
  | .num n => writeNumber n
  | .str s => writeText s
  | .arr [] => ['[', ']']
  | .arr (v :: rest) => '[' :: writeValue v ++ writeItems rest
  | .obj [] => ['\x7b', '\x7d']
  | .obj ((k, v) :: rest) => '\x7b' :: writeText k ++ ':' :: writeValue v ++ writeMembers rest

/-- The items after the first, with the closing bracket. -/
def writeItems : List Value → List Char
  | [] => [']']
  | v :: rest => ',' :: writeValue v ++ writeItems rest

def writeMembers : List (String × Value) → List Char
  | [] => ['\x7d']
  | (k, v) :: rest => ',' :: writeText k ++ ':' :: writeValue v ++ writeMembers rest

end

def Value.compact (v : Value) : String := String.ofList (writeValue v)

end ServiceHost.Json
