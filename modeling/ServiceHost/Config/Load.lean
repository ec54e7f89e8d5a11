import ServiceHost.Config.Decode
import ServiceHost.Config.Validation
import ServiceHost.Text.Utf8

/-! From the text or the bytes of a configuration file to a configuration that passed every check. -/

namespace ServiceHost

namespace Config

/-- Why a configuration could not be loaded. -/
inductive LoadError where
  /-- The file could not be read; `message` is the cause. -/
  | io (message : String)
  /-- The text is no document, or the document is no configuration. -/
  | unreadable
  | invalid (problems : List Problem)
deriving DecidableEq

def LoadError.message : LoadError → String
  | .io m => "IO error: " ++ m
  | .unreadable => "Parse error: the text is not a configuration"
  | .invalid ps => "Validation failed: " ++ Problem.listText ps

def ofToml? (s : String) : Option ServiceHost.Config := do
  let members ← Toml.read? s
  decode .toml (.table (Document.ofTomlMembers members))

/-- The configuration itself when it has no problems. -/
def validate (c : ServiceHost.Config) : Except LoadError ServiceHost.Config :=
  if c.problems.isEmpty then .ok c else .error (.invalid c.problems)

def parse (s : String) : Except LoadError ServiceHost.Config :=
  match ofToml? s with
  | none => .error .unreadable
  | some c => validate c

/-- What reading a path gives. -/
inductive File where
  | bytes (content : List UInt8)
  | failure (cause : String)

namespace File

def missing : File := failure "No such file or directory (os error 2)"

def directory : File := failure "Is a directory (os error 21)"

def text : File → Except LoadError String
  | failure cause => .error (.io cause)
  | bytes content =>
    match Text.Utf8.decode content with
    | .ok s => .ok s
    | .error _ => .error (.io "stream did not contain valid UTF-8")

end File

def load (f : File) : Except LoadError ServiceHost.Config := do parse (← f.text)

end Config

end ServiceHost
