import ServiceHost.Json.Value
import ServiceHost.Text.Digit

/-! The lexical level of JSON: brackets, separators, words, numerals and quoted texts, with blanks
between them. -/

namespace ServiceHost.Json

/-- A numeral as written. -/
structure Numeral where
  negative : Bool
  whole : List Nat
  fraction : List Nat
  /-- The sign (`true` for minus) and digits after the exponent mark. -/
  exponent : Option (Bool × List Nat)
deriving DecidableEq

inductive Token where
  | openBrace | closeBrace | openBracket | closeBracket | colon | comma
  | true | false | null
  | numeral (n : Numeral)
  /-- A quoted text; `none` when an escape leaves a surrogate unpaired. -/
  | text (s : Option String)
deriving DecidableEq

def isBlank (c : Char) : Bool := c == ' ' || c == '\n' || c == '\t' || c == '\r'

/-- The number that four hexadecimal digits write. -/
def hex4? (a b c d : Char) : Option Nat :=
  ([a, b, c, d].mapM (Text.digit? 16)).map (Text.digitsValue 16)

def isLead (n : Nat) : Bool := 0xD800 ≤ n && n ≤ 0xDBFF

def isTrail (n : Nat) : Bool := 0xDC00 ≤ n && n ≤ 0xDFFF

/-- What a quoted text stands for, one item per character or escape. -/
inductive Unit16 where
  | char (c : Char)
  | code (n : Nat)

/-- Joins surrogate pairs; `none` when a surrogate has no partner. -/
def joinUnits : List Unit16 → Option (List Char)
  | [] => some []
  | .char c :: rest => (joinUnits rest).map (c :: ·)
  | .code n :: rest =>
    if isTrail n then none
    else if isLead n then
      match rest with
      | .code m :: rest =>
        if isTrail m then
          (joinUnits rest).map (Char.ofNat (0x10000 + (n - 0xD800) * 1024 + (m - 0xDC00)) :: ·)
        else none
      | _ => none
    else (joinUnits rest).map (Char.ofNat n :: ·)

def simpleEscape? : Char → Option Char
  | '"' => some '"'
  | '\\' => some '\\'
  | '/' => some '/'
  | 'b' => some '\x08'
  | 'f' => some '\x0c'
  | 'n' => some '\n'
  | 'r' => some '\r'
  | 't' => some '\t'
  | _ => none

/-- Reads up to the closing quote. -/
def readUnits (acc : List Unit16) : List Char → Option (List Unit16 × List Char)
  | [] => none
  | '"' :: rest => some (acc.reverse, rest)
  | '\\' :: 'u' :: a :: b :: c :: d :: rest =>
    match hex4? a b c d with
    | some n => readUnits (.code n :: acc) rest
    | none => none
  | '\\' :: e :: rest =>
    match simpleEscape? e with
    | some c => readUnits (.char c :: acc) rest
    | none => none
  | c :: rest => if c.toNat < 0x20 || c == '\\' then none else readUnits (.char c :: acc) rest

def readDigits (acc : List Nat) : List Char → List Nat × List Char
  | [] => (acc.reverse, [])
  | c :: rest =>
    match Text.digit? 10 c with
    | some d => readDigits (d :: acc) rest
    | none => (acc.reverse, c :: rest)

/-- The digits after a point, which need at least one. -/
def readFraction : List Char → Option (List Nat × List Char)
  | '.' :: rest =>
    match readDigits [] rest with
    | ([], _) => none
    | r => some r
  | rest => some ([], rest)

def readExponent : List Char → Option (Option (Bool × List Nat) × List Char)
  | c :: rest =>
    if c == 'e' || c == 'E' then
      let (negative, rest) :=
        match rest with
        | '+' :: rest => (false, rest)
        | '-' :: rest => (true, rest)
        | rest => (false, rest)
      match readDigits [] rest with
      | ([], _) => none
      | (ds, rest) => some (some (negative, ds), rest)
    else some (none, c :: rest)
  | [] => some (none, [])

def readMinus : List Char → Bool × List Char
  | '-' :: rest => (true, rest)
  | rest => (false, rest)

/-- A numeral has no leading zero. -/
def readNumeral (s : List Char) : Option (Numeral × List Char) := do
  let (negative, s) := readMinus s
  let (whole, s) := readDigits [] s
  if whole.isEmpty || (whole.length > 1 && whole.head? == some 0) then none
  let (fraction, s) ← readFraction s
  let (exponent, s) ← readExponent s
  return (⟨negative, whole, fraction, exponent⟩, s)

/-- The first token and what follows it; blanks before it are skipped by the caller. -/
def readToken : List Char → Option (Token × List Char)
  | '\x7b' :: rest => some (.openBrace, rest)
  | '\x7d' :: rest => some (.closeBrace, rest)
  | '[' :: rest => some (.openBracket, rest)
  | ']' :: rest => some (.closeBracket, rest)
  | ':' :: rest => some (.colon, rest)
  | ',' :: rest => some (.comma, rest)
  | '"' :: rest => (readUnits [] rest).map fun r => (.text ((joinUnits r.1).map String.ofList), r.2)
  | 't' :: 'r' :: 'u' :: 'e' :: rest => some (.true, rest)
  | 'f' :: 'a' :: 'l' :: 's' :: 'e' :: rest => some (.false, rest)
  | 'n' :: 'u' :: 'l' :: 'l' :: rest => some (.null, rest)
  | s => (readNumeral s).map fun r => (.numeral r.1, r.2)

/-- All tokens of a text; every token takes at least one character, so the length bounds them. -/
def tokensWithin (acc : List Token) : Nat → List Char → Option (List Token)
  | 0, s => if s.all isBlank then some acc.reverse else none
  | fuel + 1, s =>
    match s.dropWhile isBlank with
    | [] => some acc.reverse
    | s => (readToken s).bind fun r => tokensWithin (r.1 :: acc) fuel r.2

def tokens (s : String) : Option (List Token) := tokensWithin [] s.length s.toList

end ServiceHost.Json
