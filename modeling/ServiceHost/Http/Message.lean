import ServiceHost.Text.Split

/-! HTTP requests and responses. A request is its head and a body that arrives in chunks. Header names are
compared without regard to case. -/

namespace ServiceHost.Http

abbrev Headers := List (String × String)

namespace Headers

/-- Whether a header has this name, which is in lower case. -/
def named (name : String) (h : String × String) : Bool :=
  h.1.toList.map Char.toLower == name.toList

/-- The values that a header has. -/
def values (hs : Headers) (name : String) : List String := (hs.filter (named name)).map (·.2)

def first? (hs : Headers) (name : String) : Option String := (hs.find? (named name)).map (·.2)

end Headers

structure Head where
  method : String := "GET"
  /-- A path with query and fragment, or an absolute address. -/
  target : String
  headers : Headers := []
deriving DecidableEq

structure Request extends Head where
  chunks : List (List UInt8) := []
deriving DecidableEq

structure Response where
  status : Nat
  headers : Headers := []
  body : String := ""
deriving DecidableEq

def Response.withHeader (r : Response) (name value : String) : Response :=
  { r with headers := r.headers ++ [(name, value)] }

def Response.plain (status : Nat) (body : String) : Response :=
  { status, headers := [("content-type", "text/plain; charset=utf-8")], body }

namespace Head

def dropScheme : List Char → Option (List Char)
  | ':' :: '/' :: '/' :: rest => some rest
  | [] => none
  | '/' :: _ => none
  | _ :: rest => dropScheme rest

/-- The path that a target names, without query and fragment. -/
def pathOf (target : List Char) : List Char :=
  let path (s : List Char) := s.takeWhile fun c => c != '?' && c != '#'
  match target with
  | '/' :: rest => '/' :: path rest
  | s =>
    match dropScheme s with
    | none => []
    | some rest =>
      match path (rest.dropWhile fun c => c != '/' && c != '?' && c != '#') with
      | [] => ['/']
      | p => p

def path (q : Head) : String := String.ofList (pathOf q.target.toList)

/-- The segments after each slash of the path; `none` for a target without a path. -/
def segments? (q : Head) : Option (List String) :=
  match pathOf q.target.toList with
  | '/' :: rest => some ((Text.split '/' rest).map String.ofList)
  | _ => none

end Head

end ServiceHost.Http
