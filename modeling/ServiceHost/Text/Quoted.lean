import ServiceHost.Text.Printable

/-! Text between double quotes, as diagnostics show it. What is not printable is written as its
code point in braces. -/

namespace ServiceHost.Text

/-- Lower case, no leading zeros. -/
def hexDigits (n : Nat) : List Char := Nat.toDigits 16 n

def escapeChar (c : Char) : List Char :=
  match c with
  | '\x00' => ['\\', '0']
  | '\t' => ['\\', 't']
  | '\n' => ['\\', 'n']
  | '\r' => ['\\', 'r']
  | '\\' => ['\\', '\\']
  | '"' => ['\\', '"']
  | c =>
    if isGraphemeExtend c || !isPrintable c then
      ['\\', 'u', '\x7b'] ++ hexDigits c.toNat ++ ['\x7d']
    else [c]

def quoted (s : String) : String :=
  String.ofList (['"'] ++ s.toList.flatMap escapeChar ++ ['"'])

/-- One character between single quotes, in which these take the place of double quotes. -/
def quotedChar (c : Char) : String :=
  let escaped := if c = '"' then ['"'] else if c = '\x27' then ['\\', '\x27'] else escapeChar c
  String.ofList (['\x27'] ++ escaped ++ ['\x27'])

/-- A list of quoted texts between brackets. -/
def quotedList (xs : List String) : String :=
  "[" ++ ", ".intercalate (xs.map quoted) ++ "]"

end ServiceHost.Text
