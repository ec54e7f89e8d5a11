import ServiceHost.CommandLine

/-! The program: it rehearses a run of the service on a host without a network, where a stop is asked for
as soon as everything has started. -/

open ServiceHost

/-- The content of a file, or why it cannot be read. -/
def readConfigFile (path : String) : IO Config.File := do
  try
    return .bytes (← IO.FS.readBinFile path).toList
  catch e =>
    match e with
    | .noFileOrDirectory .. => return .missing
    | .inappropriateType .. => return .directory
    | e => return .failure (toString e)

def main (arguments : List String) : IO UInt32 := do
  let file ←
    match CommandLine.parse arguments with
    | some (.serve (some path)) => readConfigFile path
    | _ => pure Config.File.missing
  let surroundings : CommandLine.Surroundings :=
    { directives := ← IO.getEnv "RUST_LOG", signal := some .terminate }
  let outcome := CommandLine.execute surroundings (fun _ => file) arguments
  IO.print outcome.output
  IO.eprint outcome.diagnostics
  match outcome.lastLine with
  | none => pure ()
  | some l =>
    let fields : List (String × Json.Value) :=
      [("message", .str l.message)] ++ (l.error.map fun e => ("error", .str e)).toList
    IO.println (Json.Value.obj [("level", .str l.level.text), ("fields", .obj fields)]).compact
  return UInt32.ofNat (outcome.exitCode.getD CommandLine.failure)
