import ServiceHost.Toml.Moment
import ServiceHost.Toml.Quoted

/-! A TOML text as a list of statements. Each statement gives a key its value or opens a table; what the
statements build together is left to `Toml.Table`. -/

namespace ServiceHost.Toml

open Text (isDigit)

inductive Scalar where
  | text (s : String)
  | integer (n : Int)
  | boolean (b : Bool)
  /-- Floats are known by their form only. -/
  | float
  /-- Dates and times are known by their form only. -/
  | moment
deriving DecidableEq

/-- A key of one or more parts. -/
abbrev Path := List String

inductive Term where
  | scalar (v : Scalar)
  | array (items : List Term)
  /-- A table within braces. -/
  | braces (entries : List (Path × Term))

inductive Statement where
  | entry (path : Path) (v : Term)
  /-- The entries that follow belong to this table. -/
  | header (path : Path)
  /-- The entries that follow belong to a new table at the end of this list of tables. -/
  | item (path : Path)

/-! ## Blanks and line ends -/

def skipBlanks (s : List Char) : List Char := s.dropWhile isBlank

def skipComment : List Char → List Char
  | '#' :: rest => rest.dropWhile isLineChar
  | s => s

/-- What follows a line of which only blanks and a comment are left. -/
def endLine? (s : List Char) : Option (List Char) :=
  match skipComment (skipBlanks s) with
  | [] => some []
  | s => newline? s

/-- Skips blanks, comments and line ends. -/
def skipGap (comment : Bool) : List Char → List Char
  | [] => []
  | '\n' :: rest => skipGap false rest
  | '\r' :: '\n' :: rest => skipGap false rest
  | c :: rest =>
    if comment then if isLineChar c then skipGap true rest else c :: rest
    else if c == '#' then skipGap true rest
    else if isBlank c then skipGap false rest
    else c :: rest

/-! ## Keys -/

def isBareKeyChar (c : Char) : Bool :=
  isDigit c || ('a' ≤ c && c ≤ 'z') || ('A' ≤ c && c ≤ 'Z') || c == '_' || c == '-'

def readKey : List Char → Option (String × List Char)
  | '"' :: rest => readBasic [] rest
  | '\'' :: rest => readLiteral [] rest
  | s =>
    match s.takeWhile isBareKeyChar with
    | [] => none
    | key => some (String.ofList key, s.dropWhile isBareKeyChar)

/-- A path of at most so many keys, with the blanks around them. -/
def readPathWithin : Nat → List Char → Option (Path × List Char)
  | 0, _ => none
  | parts + 1, s =>
    match readKey (skipBlanks s) with
    | none => none
    | some (key, s) =>
      match skipBlanks s with
      | '.' :: rest => (readPathWithin parts rest).map fun r => (key :: r.1, r.2)
      | s => some ([key], s)

/-- Paths have fewer parts than this, and values fewer open brackets. -/
def nestingLimit : Nat := 80

def readPath (s : List Char) : Option (Path × List Char) := readPathWithin (nestingLimit - 1) s

/-! ## Values -/

def Scalar.ofWord? (w : List Char) : Option Scalar :=
  if w == ['t', 'r', 'u', 'e'] then some (.boolean true)
  else if w == ['f', 'a', 'l', 's', 'e'] then some (.boolean false)
  else if isMoment w then some .moment
  else if isFloat w then some .float
  else (integer? w).map .integer

def endsWord (c : Char) : Bool :=
  isBlank c || c == '\n' || c == '\r' || c == '#' || c == ',' || c == ']' || c == '\x7d'

/-- Splits off a word. A date and the time after a blank are one word. -/
def splitWord (s : List Char) : List Char × List Char :=
  let word := s.takeWhile (!endsWord ·)
  let rest := s.dropWhile (!endsWord ·)
  match rest with
  | ' ' :: a :: b :: ':' :: more =>
    if skipDate word == some [] && isDigit a && isDigit b then
      let tail := a :: b :: ':' :: more
      (word ++ ' ' :: tail.takeWhile (!endsWord ·), tail.dropWhile (!endsWord ·))
    else (word, rest)
  | _ => (word, rest)

mutual

/-- A value with at most `depth` brackets open at once. Every step takes a character, so `fuel` bounds
the steps by the length of the text. -/
def readTerm (depth : Nat) : Nat → List Char → Option (Term × List Char)
  | 0, _ => none
  | fuel + 1, s =>
    match s with
    | '[' :: rest =>
      match depth with
      | 0 => none
      | depth + 1 => (readItems depth fuel rest).map fun r => (.array r.1, r.2)
    | '\x7b' :: rest =>
      match depth with
      | 0 => none
      | depth + 1 =>
        match skipBlanks rest with
        | '\x7d' :: rest => some (.braces [], rest)
        | rest => (readEntries depth fuel rest).map fun r => (.braces r.1, r.2)
    | '"' :: _ => (readText s).map fun r => (.scalar (.text r.1), r.2)
    | '\'' :: _ => (readText s).map fun r => (.scalar (.text r.1), r.2)
    | s =>
      let (word, rest) := splitWord s
      (Scalar.ofWord? word).map fun v => (.scalar v, rest)

/-- Items up to the closing bracket, with gaps around them and a comma after all but the last, which may
have one too. -/
def readItems (depth : Nat) : Nat → List Char → Option (List Term × List Char)
  | 0, _ => none
  | fuel + 1, s =>
    match skipGap false s with
    | ']' :: rest => some ([], rest)
    | s =>
      match readTerm depth fuel s with
      | none => none
      | some (v, s) =>
        match skipGap false s with
        | ']' :: rest => some ([v], rest)
        | ',' :: rest => (readItems depth fuel rest).map fun r => (v :: r.1, r.2)
        | _ => none

/-- Entries up to the closing brace, on one line and with commas between them. -/
def readEntries (depth : Nat) : Nat → List Char → Option (List (Path × Term) × List Char)
  | 0, _ => none
  | fuel + 1, s =>
    match readPath s with
    | some (path, '=' :: s) =>
      match readTerm depth fuel (skipBlanks s) with
      | none => none
      | some (v, s) =>
        match skipBlanks s with
        | '\x7d' :: rest => some ([(path, v)], rest)
        | ',' :: rest => (readEntries depth fuel rest).map fun r => ((path, v) :: r.1, r.2)
        | _ => none
    | _ => none

end

/-! ## Statements -/

/-- The first statement, without the end of its line. -/
def readStatement (fuel : Nat) : List Char → Option (Statement × List Char)
  | '[' :: '[' :: rest =>
    match readPath rest with
    | some (path, ']' :: ']' :: rest) => some (.item path, rest)
    | _ => none
  | '[' :: rest =>
    match readPath rest with
    | some (path, ']' :: rest) => some (.header path, rest)
    | _ => none
  | s =>
    match readPath s with
    | some (path, '=' :: rest) =>
      (readTerm (nestingLimit - 1) fuel (skipBlanks rest)).map fun r =>
        (.entry path r.1, r.2)
    | _ => none

/-- The statements of a text, one line or more each; `lines` is never less than what is left of the text
is long. -/
def readStatements (acc : List Statement) : Nat → List Char → Option (List Statement)
  | _, [] => some acc.reverse
  | 0, _ => none
  | lines + 1, s =>
    match endLine? s with
    | some rest => readStatements acc lines rest
    | none =>
      match readStatement (lines + 1) (skipBlanks s) with
      | none => none
      | some (t, rest) =>
        match endLine? rest with
        | some rest => readStatements (t :: acc) lines rest
        | none => none

/-- Without the mark that may begin a text. -/
def skipByteOrderMark : List Char → List Char
  | '\uFEFF' :: rest => rest
  | s => s

def statements? (s : String) : Option (List Statement) :=
  readStatements [] (s.length + 1) (skipByteOrderMark s.toList)

end ServiceHost.Toml
