import ServiceHost.Config.Load
import ServiceHost.Http.Health
import ServiceHost.Logging.Filter
import ServiceHost.Service

/-! The command line: what it asks for, and what the service answers on it. -/

namespace ServiceHost.CommandLine

def programName : String := "api-scaffold"

inductive Request where
  | help
  | version
  /-- Run the service, with the configuration in a file or the default one. -/
  | serve (config : Option String)
deriving DecidableEq

def help : String :=
  "Minimal web-API scaffold with coordinated startup and shutdown\n" ++
    "\n" ++
    "Usage: api-scaffold [OPTIONS]\n" ++
    "\n" ++
    "Options:\n" ++
    "  -c, --config <CONFIG>  Path to a TOML configuration file. Defaults are used when omitted\n" ++
    "  -h, --help             Print help\n" ++
    "  -V, --version          Print version\n"

def version : String := programName ++ " " ++ Http.version ++ "\n"

/-- How one argument is understood. -/
inductive Flag where
  | help
  | version
  /-- The configuration, with its path if that is part of the same argument. -/
  | config (path : Option String)

/-- What an argument stands for when no value is expected; there are no positional arguments. -/
def flag? (argument : String) : Option Flag :=
  match argument.toList with
  | '-' :: '-' :: name =>
    if name = "help".toList then some .help
    else if name = "version".toList then some .version
    else if name = "config".toList then some (.config none)
    else if "config=".toList.isPrefixOf name then
      some (.config (some (String.ofList (name.drop "config=".length))))
    else none
  | '-' :: 'h' :: _ => some .help
  | '-' :: 'V' :: _ => some .version
  | ['-', 'c'] => some (.config none)
  | '-' :: 'c' :: '=' :: path => some (.config (some (String.ofList path)))
  | '-' :: 'c' :: path => some (.config (some (String.ofList path)))
  | _ => none

/-- A value must not look like an option; a single dash does not. -/
def isValue (argument : String) : Bool :=
  match argument.toList with
  | '-' :: _ :: _ => false
  | _ => true

/-- Takes the configuration's path, which must not be empty and not be given twice. -/
def setConfig (config : Option String) (path : String) : Option (Option String) :=
  if config.isSome || path.isEmpty then none else some (some path)

/-- What the arguments ask for, read from the front; the first request for help or version wins. -/
def parseFrom (config : Option String) : List String → Option Request
  | [] => some (.serve config)
  | ["--"] => some (.serve config)
  | argument :: rest =>
    match flag? argument with
    | none => none
    | some .help => some .help
    | some .version => some .version
    | some (.config (some path)) =>
      match setConfig config path with
      | none => none
      | some config => parseFrom config rest
    | some (.config none) =>
      match rest with
      | [] => none
      | value :: rest =>
        if isValue value then
          match setConfig config value with
          | none => none
          | some config => parseFrom config rest
        else none

def parse (arguments : List String) : Option Request := parseFrom none arguments

/-! ## Answers -/

/-- A line of the log. -/
structure LogLine where
  /-- The part of the program that writes it. -/
  target : String
  level : Logging.Level
  message : String
  error : Option String := none
deriving DecidableEq

structure Outcome where
  /-- `none` when nothing ends the service. -/
  exitCode : Option Nat
  output : String := ""
  diagnostics : String := ""
  /-- Of the lines of a log in JSON that tell how the run ended, the last one shown. -/
  lastLine : Option LogLine := none
deriving DecidableEq

def success : Nat := 0

def failure : Nat := 1

def usageError : Nat := 2

/-- The exit code of a run that ends in a fault. -/
def fault : Nat := 101

def target : String := "api_scaffold"

/-- The coordinator tells of a stop without failures. -/
def coordinatorLines (events : List Lifecycle.Event) : List LogLine :=
  events.filterMap fun
    | .shutdownDone =>
      some {
        target := target ++ "::lifecycle::coordinator"
        level := Lifecycle.Event.shutdownDone.level
        message := Lifecycle.Event.shutdownDone.message }
    | _ => none

/-- The last line of all. -/
def lastLine : Except Lifecycle.RunError Unit → LogLine
  | .ok () => { target, level := .info, message := "Shutdown complete" }
  | .error e => { target, level := .error, message := "Exiting with failure", error := some e.message }

def LogLine.fieldNames (l : LogLine) : List String :=
  "message" :: (if l.error.isSome then ["error"] else [])

def LogLine.isShown (l : LogLine) (f : Logging.Filter) : Bool := f.shows l.target l.fieldNames l.level

/-- What surrounds a run: the network, log directives, and a signal sent once all is started. -/
structure Surroundings where
  network : Net.Network := .isolated
  directives : Option String := none
  signal : Option Lifecycle.OsSignal := none

/-- Runs the service. Its log is set up first; a fault in the directives ends the run there. -/
def serve (s : Surroundings) (c : Config) : Outcome :=
  match Logging.Filter.ofConfig c.observability s.directives with
  | .error e => { exitCode := some fault, diagnostics := e.message ++ "\n" }
  | .ok filter =>
    match Service.run s.network c s.signal with
    | none => { exitCode := none }
    | some run =>
      let lines := coordinatorLines run.events ++ [lastLine run.result]
      { exitCode := some (if run.result matches .ok _ then success else failure)
        lastLine :=
          if c.observability.logFormat = .json then (lines.filter (·.isShown filter)).getLast?
          else none }

/-- Does what the arguments ask for; `read` gives the content of a path. -/
def execute (s : Surroundings) (read : String → Config.File) (arguments : List String) : Outcome :=
  match parse arguments with
  | none =>
    { exitCode := some usageError
      diagnostics := "error: invalid arguments\n\nUsage: api-scaffold [OPTIONS]\n" }
  | some .help => { exitCode := some success, output := help }
  | some .version => { exitCode := some success, output := version }
  | some (.serve none) => serve s {}
  | some (.serve (some path)) =>
    match Config.load (read path) with
    | .ok c => serve s c
    | .error e =>
      { exitCode := some failure
        diagnostics := "Error: failed to load " ++ path ++ ": " ++ e.message ++ "\n" }

end ServiceHost.CommandLine
