import ScriptScope.Cli.Run

/-!
# The program

Reads the environment and the part of the disk that a request needs, and prints what `Cli.run`
gives.
-/

namespace ScriptScope.Program

/-- The bytes of a file, if there is one. -/
def bytes? (path : Path) : IO (Option (List UInt8)) := do
  try
    return some (← IO.FS.readBinFile path.text).toList
  catch _ => return none

/-- The names in a directory, if there is one. -/
def names? (path : Path) : IO (Option (List String)) := do
  try
    let here ← IO.currentDir
    return some ((← (here / path.text).readDir).toList.map (·.fileName))
  catch _ => return none

/-- Takes a file onto a disk. -/
def loadFile (disk : Disk) (path : Path) : IO Disk := do
  let found ← bytes? path
  return (found.map (disk.write path)).getD disk

/-- Takes what stands at a path onto a disk, down to a depth. -/
def loadFrom : Nat → Disk → Path → IO Disk
  | 0, disk, _ => return disk
  | depth + 1, disk, path => do
    let inside ← names? path
    if inside.isNone then
      loadFile disk path
    else
      (inside.getD []).foldlM (fun disk name => loadFrom depth disk (path.child name))
        (disk.makeDirectory path)

/-- The settings of the process. -/
def environment : IO Config.Environment := do
  let file := (← bytes? (.ofText ".env")).bind Text.Utf8.strict?
  let referenced := (file.map Config.DotEnv.references).getD []
  let names := Config.fieldNames ++ Config.fieldNames.map Text.upper ++ referenced
  let vars ← names.filterMapM (fun name => return (← IO.getEnv name).map (name, ·))
  return { vars, file := file.map (fun cs => String.ofList (Text.unifyNewlines cs)) }

/-- What stands on the disk that a request needs. -/
def disk (args : List String) (env : Config.Environment) : IO Disk :=
  match Cli.Args.request? args, Config.Settings.read [] env with
  | some (.perform invocation), .ok settings =>
    (Cli.neededPaths settings invocation).foldlM (loadFrom 32) {}
  | _, _ => return {}

/-- The wording of a failure. -/
def complaint : Cli.RunFailure → String
  | .settings (.unparsable field source) =>
    "error parsing value for field \"" ++ field ++ "\" from source \"" ++ source ++ "\""
  | .settings (.invalid issues) =>
    "invalid settings: " ++ ", ".intercalate (issues.map (fun i => i.flaw.label))
  | .notText => "a configured file is not text"
  | .markup => "a closing tag doesn't match any open tag"
  | .unnamed => "a name is missing"

end ScriptScope.Program

/-- Runs the program. -/
def main (args : List String) : IO UInt32 := do
  let env ← ScriptScope.Program.environment
  match ScriptScope.Cli.run args env (← ScriptScope.Program.disk args env) with
  | .ok report =>
    IO.print report.output
    return report.exit.toUInt32
  | .error failure =>
    IO.eprintln (ScriptScope.Program.complaint failure)
    return 1
