import ServiceHost.Text.Quoted

/-! Parts of a text between places that are counted in bytes. A part cannot begin or end inside a
character: to ask for such a part is a fault. -/

namespace ServiceHost.Text

/-- A place inside a character, and where that character begins. -/
structure Fault where
  atStart : Bool
  place : Nat
  character : Char
  first : Nat
deriving DecidableEq

def Fault.message (f : Fault) : String :=
  (if f.atStart then "start" else "end") ++ " byte index " ++ toString f.place ++
    " is not a char boundary; it is inside " ++ quotedChar f.character ++ " (bytes " ++
    toString f.first ++ ".." ++ toString (f.first + f.character.utf8Size) ++ " of string)"

def byteLength (s : List Char) : Nat := s.foldr (fun c n => c.utf8Size + n) 0

/-- What is left from a place on; `seen` bytes came before. -/
def dropBytes (atStart : Bool) (place seen : Nat) : List Char → Except Fault (List Char)
  | [] => .ok []
  | c :: rest =>
    if place ≤ seen then .ok (c :: rest)
    else if place < seen + c.utf8Size then .error ⟨atStart, place, c, seen⟩
    else dropBytes atStart place (seen + c.utf8Size) rest

def sliceFrom (s : List Char) (start : Nat) : Except Fault (List Char) := dropBytes true start 0 s

def slice (s : List Char) (start stop : Nat) : Except Fault (List Char) := do
  let fromStart ← sliceFrom s start
  let fromStop ← dropBytes false stop 0 s
  return fromStart.take (fromStart.length - fromStop.length)

end ServiceHost.Text
