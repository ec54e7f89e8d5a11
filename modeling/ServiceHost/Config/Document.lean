import ServiceHost.Json.Value
import ServiceHost.Toml.Table

/-! The kinds of value that a configuration can be read from, whatever the notation. -/

namespace ServiceHost.Config

inductive Document where
  | table (members : List (String × Document))
  | array (items : List Document)
  | text (s : String)
  | integer (n : Int)
  | boolean (b : Bool)
  | null
  /-- Values that no field can hold. -/
  | other

namespace Document

mutual

def ofJson : Json.Value → Document
  | .null => .null
  | .bool b => .boolean b
  | .num (.int n) => .integer n
  | .num (.float _) => .other
  | .str s => .text s
  | .arr items => .array (ofItems items)
  | .obj members => .table (ofMembers members)

def ofItems : List Json.Value → List Document
  | [] => []
  | v :: rest => ofJson v :: ofItems rest

def ofMembers : List (String × Json.Value) → List (String × Document)
  | [] => []
  | (k, v) :: rest => (k, ofJson v) :: ofMembers rest

end

/-- A date or time reads as a table with one key, which is no field's. -/
def ofScalar : Toml.Scalar → Document
  | .text s => .text s
  | .integer n => .integer n
  | .boolean b => .boolean b
  | .float => .other
  | .moment => .table [("", .other)]

mutual

def ofToml : Toml.Value → Document
  | .scalar v => ofScalar v
  | .array items => .array (ofTomlItems items)
  | .table members => .table (ofTomlMembers members)

def ofTomlItems : List Toml.Value → List Document
  | [] => []
  | v :: rest => ofToml v :: ofTomlItems rest

def ofTomlMembers : List (String × Toml.Value) → List (String × Document)
  | [] => []
  | (k, v) :: rest => (k, ofToml v) :: ofTomlMembers rest

end

end Document

end ServiceHost.Config
