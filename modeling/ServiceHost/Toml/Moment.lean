import ServiceHost.Toml.Numeral

/-! How dates and times are written in TOML: a date, a time of day, or both with an optional offset. -/

namespace ServiceHost.Toml

open Text (isDigit digit? digitsValue)

/-- A fixed number of digits at the front. -/
def readFixed (count : Nat) (s : List Char) : Option (Nat × List Char) := do
  let ds ← ((s.take count).mapM (digit? 10))
  if ds.length = count then some (digitsValue 10 ds, s.drop count) else none

def skipChar (p : Char → Bool) : List Char → Option (List Char)
  | c :: rest => if p c then some rest else none
  | [] => none

def isLeapYear (y : Nat) : Bool := y % 4 == 0 && (y % 100 != 0 || y % 400 == 0)

def daysInMonth (year month : Nat) : Nat :=
  if month = 2 then (if isLeapYear year then 29 else 28)
  else if month = 4 || month = 6 || month = 9 || month = 11 then 30
  else 31

/-- Year, month and day; gives what follows. -/
def skipDate (s : List Char) : Option (List Char) := do
  let (year, s) ← readFixed 4 s
  let (month, s) ← readFixed 2 (← skipChar (· == '-') s)
  let (day, s) ← readFixed 2 (← skipChar (· == '-') s)
  if 1 ≤ month && month ≤ 12 && 1 ≤ day && day ≤ daysInMonth year month then some s else none

def skipHourMinute (s : List Char) : Option (List Char) := do
  let (hour, s) ← readFixed 2 s
  let (minute, s) ← readFixed 2 (← skipChar (· == ':') s)
  if hour ≤ 23 && minute ≤ 59 then some s else none

/-- A time of day; the second may be a leap second and have a fraction. -/
def skipTime (s : List Char) : Option (List Char) := do
  let s ← skipHourMinute s
  let (second, s) ← readFixed 2 (← skipChar (· == ':') s)
  if second > 60 then none
  match s with
  | '.' :: rest => if (rest.head?.map isDigit).getD false then some (rest.dropWhile isDigit) else none
  | s => some s

def skipOffset : List Char → Option (List Char)
  | c :: rest =>
    if c == 'Z' || c == 'z' then some rest
    else if c == '+' || c == '-' then skipHourMinute rest
    else some (c :: rest)
  | [] => some []

def isDateMark (c : Char) : Bool := c == 'T' || c == 't' || c == ' '

/-- Whether the characters write a date, a time of day or both. -/
def isMoment (s : List Char) : Bool :=
  skipTime s == some [] ||
    match skipDate s with
    | none => false
    | some [] => true
    | some rest => ((skipChar isDateMark rest).bind skipTime).bind skipOffset == some []

end ServiceHost.Toml
