import ServiceHost.Text.Alphanumeric
import ServiceHost.Text.Blank
import ServiceHost.Text.Digit

/-! Which texts are patterns of field values: regular expressions with groups, alternatives, repetitions
and bracketed classes, nested at most 250 deep. No tables of Unicode are at hand, so in the usual mode there
are no classes of digits, blanks or words, no word boundaries and no matching without regard to case; in
ASCII mode there are, and nothing there may match what is not ASCII. -/

namespace ServiceHost.Logging.Pattern

/-- The modes in force at a place of a pattern. -/
structure Modes where
  unicode : Bool := true
  foldsCase : Bool := false
  /-- Blanks and comments may stand between the parts. -/
  spaced : Bool := false
deriving DecidableEq

/-- Drops blanks, and comments from a number sign to the end of the line. -/
def skipSpace (inComment : Bool) : List Char → List Char
  | [] => []
  | c :: rest =>
    if inComment then skipSpace (c != '\n') rest
    else if Text.isBlank c then skipSpace false rest
    else if c = '#' then skipSpace true rest
    else c :: rest

def skip (m : Modes) (s : List Char) : List Char := if m.spaced then skipSpace false s else s

/-! ## Escapes -/

/-- What a backslash and the characters after it stand for. -/
inductive Escape where
  | literal (c : Char)
  /-- A character or a byte, by two hexadecimal digits. -/
  | code (n : Nat)
  /-- Digits, blanks or word characters, or all others. -/
  | category (negated : Bool)
  | wordBoundary
  /-- The begin or the end of the text. -/
  | boundary

/-- So many hexadecimal digits. -/
def hexDigits (m : Modes) : Nat → List Char → Option (List Nat × List Char)
  | 0, s => some ([], s)
  | n + 1, s =>
    match skip m s with
    | [] => none
    | c :: rest => do
      let d ← Text.digit? 16 c
      let (ds, rest) ← hexDigits m n rest
      return (d :: ds, rest)

/-- A character by its code point. -/
def codePoint (m : Modes) (digits : Nat) (s : List Char) : Option (Escape × List Char) := do
  let (ds, rest) ← hexDigits m digits s
  let n := Text.digitsValue 16 ds
  if !n.isValidChar then none
  else return (if digits = 2 then .code n else .literal (Char.ofNat n), rest)

/-- Reads on after a backslash. Signs of ASCII stand for themselves; letters and digits are reserved. -/
def readEscape (m : Modes) : List Char → Option (Escape × List Char)
  | [] => none
  | 'x' :: rest => codePoint m 2 rest
  | 'u' :: rest => codePoint m 4 rest
  | 'U' :: rest => codePoint m 8 rest
  | c :: rest =>
    if "dsw".toList.contains c then some (.category false, rest)
    else if "DSW".toList.contains c then some (.category true, rest)
    else if "bB<>".toList.contains c then some (.wordBoundary, rest)
    else if "Az".toList.contains c then some (.boundary, rest)
    else if "aftnrv".toList.contains c then some (.literal ' ', rest)
    else if c.toNat < 128 && !c.isAlphanum then some (.literal c, rest)
    else none

/-- Whether a character may stand outside of classes. -/
def allowsLiteral (m : Modes) : Bool := !(m.unicode && m.foldsCase)

def Escape.isAllowed (m : Modes) : Escape → Bool
  | literal _ => allowsLiteral m
  | code n => if m.unicode then allowsLiteral m else n < 128
  | category negated => !m.unicode && !negated
  | wordBoundary => !m.unicode
  | boundary => true

/-! ## Classes -/

/-- The code point of a class's item, if it is a character that the mode allows. -/
def Escape.member? (m : Modes) : Escape → Option Nat
  | literal c => if m.unicode || c.toNat < 128 then some c.toNat else none
  | code n => if m.unicode || n < 128 then some n else none
  | _ => none

def Escape.isItem (m : Modes) (e : Escape) : Bool :=
  match e with
  | category negated => !m.unicode && !negated
  | e => (e.member? m).isSome

def readItem (m : Modes) : List Char → Option (Escape × List Char)
  | [] => none
  | '\\' :: rest => readEscape m rest
  | c :: rest => some (.literal c, rest)

/-- One item or a range. A hyphen before another one or before the end is not a range's. -/
def readRange (m : Modes) (s : List Char) : Option (List Char) := do
  let (first, rest) ← readItem m s
  let rest := skip m rest
  let single := if first.isItem m then some rest else none
  match rest with
  | '-' :: after =>
    match skip m after with
    | ']' :: _ => single
    | '-' :: _ => single
    | s =>
      let (last, rest) ← readItem m s
      if (← first.member? m) ≤ (← last.member? m) then some rest else none
  | _ => single

def classNames : List String :=
  ["alnum", "alpha", "ascii", "blank", "cntrl", "digit", "graph", "lower", "print", "punct", "space",
    "upper", "word", "xdigit"]

/-- A named class, between colons and brackets; gives whether it is negated. -/
def readNamed? (s : List Char) : Option (Bool × List Char) :=
  match s with
  | ':' :: s =>
    let negated := s.head? == some '^'
    let s := if negated then s.drop 1 else s
    let name := s.takeWhile (· != ':')
    match s.dropWhile (· != ':') with
    | ':' :: ']' :: rest =>
      if classNames.contains (String.ofList name) then some (negated, rest) else none
    | _ => none
  | _ => none

/-- The items of a class so far, and the operand before them. -/
structure Class where
  items : Nat := 0
  deepest : Nat := 0
  operand : Option Nat := none

namespace Class

def push (c : Class) (depth : Nat) : Class :=
  { c with items := c.items + 1, deepest := max c.deepest depth }

def depth (c : Class) : Nat :=
  let union := if c.items ≤ 1 then c.deepest else c.deepest + 1
  match c.operand with
  | none => union
  | some d => max d union + 1

/-- What comes after an operator. -/
def operate (c : Class) : Class := { operand := some c.depth }

end Class

/-- Reads on after an opening bracket. Hyphens at the front, and else a bracket there, are items. -/
def openClass (m : Modes) (s : List Char) : Option (Class × List Char) :=
  let s := skip m s
  let negated := s.head? == some '^'
  let s := if negated then skip m (s.drop 1) else s
  if if m.unicode then m.foldsCase else negated then none
  else
    let (c, s) := hyphens s.length {} s
    match c.items, s with
    | 0, ']' :: rest => some (c.push 0, rest)
    | _, s => some (c, s)
where
  hyphens : Nat → Class → List Char → Class × List Char
    | fuel + 1, c, '-' :: rest => hyphens fuel (c.push 0) (skip m rest)
    | _, c, s => (c, s)

/-- Reads a class to its closing bracket; gives its depth. -/
def readClass (m : Modes) : Nat → List Class → Class → List Char → Option (Nat × List Char)
  | 0, _, _, _ => none
  | fuel + 1, outer, c, s =>
    match skip m s with
    | [] => none
    | '[' :: rest =>
      match readNamed? rest with
      | some (negated, rest) =>
        if negated && !m.unicode then none else readClass m fuel outer (c.push 0) rest
      | none => do
        let (inner, rest) ← openClass m rest
        readClass m fuel (c :: outer) inner rest
    | ']' :: rest =>
      match outer with
      | [] => some (c.depth + 1, rest)
      | o :: outer => readClass m fuel outer (o.push (c.depth + 1)) rest
    | '&' :: '&' :: rest => readClass m fuel outer c.operate rest
    | '-' :: '-' :: rest => readClass m fuel outer c.operate rest
    | '~' :: '~' :: rest => readClass m fuel outer c.operate rest
    | s => do readClass m fuel outer (c.push 0) (← readRange m s)

/-! ## Groups -/

/-- Mode letters up to a colon or a closing parenthesis, each once; those after a hyphen are switched off.
Gives the modes and whether a group follows. -/
def readModes (m : Modes) (seen : List Char) : List Char → Option (Modes × Bool × List Char)
  | [] => none
  | ':' :: rest => if seen.head? == some '-' then none else some (m, true, rest)
  | ')' :: rest => if seen.isEmpty || seen.head? == some '-' then none else some (m, false, rest)
  | c :: rest =>
    if seen.contains c then none
    else
      let on := !seen.contains '-'
      match c with
      | 'i' => readModes { m with foldsCase := on } (c :: seen) rest
      | 'u' => readModes { m with unicode := on } (c :: seen) rest
      | 'x' => readModes { m with spaced := on } (c :: seen) rest
      | c => if "-msUR".toList.contains c then readModes m (c :: seen) rest else none

/-- A group's name and its closing angle. -/
def readName (s : List Char) : Option (String × List Char) :=
  let name := s.takeWhile (· != '>')
  let isFirst (c : Char) : Bool := c == '_' || Text.isAlphabetic c
  let isNext (c : Char) : Bool := "_.[]".toList.contains c || Text.isAlphanumeric c
  match name, s.dropWhile (· != '>') with
  | c :: more, '>' :: rest =>
    if isFirst c && more.all isNext then some (String.ofList name, rest) else none
  | _, _ => none

/-- The items of an alternative so far. -/
structure Branch where
  items : Nat := 0
  /-- The deepest item before the last one. -/
  deepest : Nat := 0
  last : Nat := 0
  /-- Whether the last item can be repeated. -/
  repeatable : Bool := false

namespace Branch

def push (b : Branch) (depth : Nat) (repeatable : Bool) : Branch :=
  { items := b.items + 1, deepest := max b.deepest b.last, last := depth, repeatable }

def depth (b : Branch) : Nat := if b.items ≤ 1 then b.last else max b.deepest b.last + 1

end Branch

structure Group where
  modes : Modes := {}
  /-- The deepest of the alternatives before, if there are any. -/
  before : Option Nat := none
  branch : Branch := {}

namespace Group

def push (g : Group) (depth : Nat) : Group := { g with branch := g.branch.push depth true }

/-- A change of modes counts as an item. -/
def switch (g : Group) (m : Modes) : Group := { g with modes := m, branch := g.branch.push 0 false }

def repeat? (g : Group) : Option Group :=
  if g.branch.repeatable then some { g with branch := { g.branch with last := g.branch.last + 1 } }
  else none

def alternate (g : Group) : Group :=
  { g with before := some (max (g.before.getD 0) g.branch.depth), branch := {} }

def depth (g : Group) : Nat :=
  match g.before with
  | none => g.branch.depth
  | some d => max d g.branch.depth + 1

end Group

/-! ## Patterns -/

structure Reading where
  group : Group := {}
  /-- The groups around it, innermost first. -/
  outer : List Group := []
  names : List String := []

namespace Reading

def enter (r : Reading) (m : Modes) : Reading :=
  { r with group := { modes := m }, outer := r.group :: r.outer }

/-- Reads on after an opening parenthesis. -/
def openGroup (r : Reading) (s : List Char) : Option (Reading × List Char) :=
  let m := r.group.modes
  let named (s : List Char) : Option (Reading × List Char) := do
    let (name, rest) ← readName s
    if r.names.contains name then none
    else return ({ r.enter m with names := name :: r.names }, rest)
  match skip m s with
  | '?' :: 'P' :: '<' :: rest => named rest
  | '?' :: '<' :: rest => named rest
  | '?' :: rest => do
    let (m, isGroup, rest) ← readModes m [] rest
    return (if isGroup then r.enter m else { r with group := r.group.switch m }, rest)
  | s => some (r.enter m, s)

def closeGroup (r : Reading) : Option Reading :=
  match r.outer with
  | [] => none
  | g :: outer => some { r with group := g.push (r.group.depth + 1), outer }

def item (r : Reading) (depth : Nat) : Reading := { r with group := r.group.push depth }

/-- Reads a pattern's next part. A value ends at the first closing brace, so no count in braces is ever
complete. -/
def next (r : Reading) (c : Char) (rest : List Char) : Option (Reading × List Char) :=
  let m := r.group.modes
  match c with
  | '(' => r.openGroup rest
  | ')' => do return (← r.closeGroup, rest)
  | '|' => some ({ r with group := r.group.alternate }, rest)
  | '[' => do
    let (inner, rest) ← openClass m rest
    let (depth, rest) ← readClass m (rest.length + 1) [] inner rest
    return (r.item depth, rest)
  | '\x7b' => none
  | '\\' => do
    let (e, rest) ← readEscape m rest
    if e.isAllowed m then return (r.item 0, rest) else none
  | '.' => if m.unicode then some (r.item 0, rest) else none
  | '^' => some (r.item 0, rest)
  | '$' => some (r.item 0, rest)
  | c =>
    if "?*+".toList.contains c then do
      let rest := if rest.head? == some '?' then rest.drop 1 else rest
      return ({ r with group := ← r.group.repeat? }, rest)
    else if allowsLiteral m then some (r.item 0, rest)
    else none

/-- Reads to the end of the text; gives the pattern's depth. -/
def finish : Nat → Reading → List Char → Option Nat
  | 0, _, _ => none
  | fuel + 1, r, s =>
    match skip r.group.modes s with
    | [] => if r.outer.isEmpty then some r.group.depth else none
    | c :: rest => do
      let (r, rest) ← r.next c rest
      finish fuel r rest

end Reading

def maxDepth : Nat := 250

/-- Whether a text is a pattern. -/
def isValid (s : List Char) : Bool :=
  match Reading.finish (s.length + 1) {} s with
  | some depth => depth ≤ maxDepth
  | none => false

end ServiceHost.Logging.Pattern
