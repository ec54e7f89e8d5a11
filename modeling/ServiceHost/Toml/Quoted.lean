import ServiceHost.Text.Digit

/-! Quoted texts of TOML: between single quotes everything stands for itself, between double quotes a
backslash begins an escape, and three quotes enclose a text of several lines. -/

namespace ServiceHost.Toml

def isBlank (c : Char) : Bool := c == ' ' || c == '\t'

/-- Tabs are the only controls that a line may hold. -/
def isLineChar (c : Char) : Bool := c == '\t' || (0x20 ≤ c.toNat && c.toNat ≠ 0x7F)

/-- What follows a line end. -/
def newline? : List Char → Option (List Char)
  | '\n' :: rest => some rest
  | '\r' :: '\n' :: rest => some rest
  | _ => none

/-- The character with the code point written in these digits, which is no surrogate. -/
def codePoint? (digits : List Char) : Option Char := do
  let n := Text.digitsValue 16 (← digits.mapM (Text.digit? 16))
  if n.isValidChar then some (Char.ofNat n) else none

def simpleEscape? : Char → Option Char
  | 'b' => some '\x08'
  | 't' => some '\t'
  | 'n' => some '\n'
  | 'f' => some '\x0c'
  | 'r' => some '\r'
  | '"' => some '"'
  | '\\' => some '\\'
  | _ => none

/-- Reads up to the closing double quote. -/
def readBasic (acc : List Char) : List Char → Option (String × List Char)
  | [] => none
  | '"' :: rest => some (String.ofList acc.reverse, rest)
  | '\\' :: 'u' :: a :: b :: c :: d :: rest =>
    match codePoint? [a, b, c, d] with
    | some x => readBasic (x :: acc) rest
    | none => none
  | '\\' :: 'U' :: a :: b :: c :: d :: e :: f :: g :: h :: rest =>
    match codePoint? [a, b, c, d, e, f, g, h] with
    | some x => readBasic (x :: acc) rest
    | none => none
  | '\\' :: e :: rest =>
    match simpleEscape? e with
    | some x => readBasic (x :: acc) rest
    | none => none
  | c :: rest => if isLineChar c && c != '\\' then readBasic (c :: acc) rest else none

/-- Reads up to the closing single quote. -/
def readLiteral (acc : List Char) : List Char → Option (String × List Char)
  | [] => none
  | '\'' :: rest => some (String.ofList acc.reverse, rest)
  | c :: rest => if isLineChar c then readLiteral (c :: acc) rest else none

/-- Reads a text of several lines up to the closing double quotes, of which two more may belong to the
text. A backslash at the end of a line begins a gap of blanks and line ends that do not count. -/
def readLongBasic (gap : Bool) (acc : List Char) : List Char → Option (String × List Char)
  | [] => none
  | '"' :: '"' :: '"' :: '"' :: '"' :: rest => some (String.ofList ('"' :: '"' :: acc).reverse, rest)
  | '"' :: '"' :: '"' :: '"' :: rest => some (String.ofList ('"' :: acc).reverse, rest)
  | '"' :: '"' :: '"' :: rest => some (String.ofList acc.reverse, rest)
  | '\n' :: rest => readLongBasic gap (if gap then acc else '\n' :: acc) rest
  | '\r' :: '\n' :: rest => readLongBasic gap (if gap then acc else '\n' :: acc) rest
  | '\\' :: 'u' :: a :: b :: c :: d :: rest =>
    match codePoint? [a, b, c, d] with
    | some x => readLongBasic false (x :: acc) rest
    | none => none
  | '\\' :: 'U' :: a :: b :: c :: d :: e :: f :: g :: h :: rest =>
    match codePoint? [a, b, c, d, e, f, g, h] with
    | some x => readLongBasic false (x :: acc) rest
    | none => none
  | '\\' :: e :: rest =>
    match simpleEscape? e with
    | some x => readLongBasic false (x :: acc) rest
    | none =>
      if (newline? ((e :: rest).dropWhile isBlank)).isSome then
        readLongBasic true acc (e :: rest)
      else none
  | c :: rest =>
    if gap && isBlank c then readLongBasic true acc rest
    else if isLineChar c && c != '\\' then readLongBasic false (c :: acc) rest
    else none

def readLongLiteral (acc : List Char) : List Char → Option (String × List Char)
  | [] => none
  | '\'' :: '\'' :: '\'' :: '\'' :: '\'' :: rest =>
    some (String.ofList ('\'' :: '\'' :: acc).reverse, rest)
  | '\'' :: '\'' :: '\'' :: '\'' :: rest => some (String.ofList ('\'' :: acc).reverse, rest)
  | '\'' :: '\'' :: '\'' :: rest => some (String.ofList acc.reverse, rest)
  | '\n' :: rest => readLongLiteral ('\n' :: acc) rest
  | '\r' :: '\n' :: rest => readLongLiteral ('\n' :: acc) rest
  | c :: rest => if isLineChar c then readLongLiteral (c :: acc) rest else none

/-- Without the line end at its front, if it has one. -/
def skipNewline (s : List Char) : List Char := (newline? s).getD s

/-- A quoted text of any kind. -/
def readText : List Char → Option (String × List Char)
  | '"' :: '"' :: '"' :: rest => readLongBasic false [] (skipNewline rest)
  | '\'' :: '\'' :: '\'' :: rest => readLongLiteral [] (skipNewline rest)
  | '"' :: rest => readBasic [] rest
  | '\'' :: rest => readLiteral [] rest
  | _ => none

end ServiceHost.Toml
