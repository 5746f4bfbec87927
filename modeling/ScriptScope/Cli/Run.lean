import ScriptScope.Cli.Args
import ScriptScope.Cli.Help
import ScriptScope.Cli.Table
import ScriptScope.Config.Launch
import ScriptScope.Scope.Render

/-!
# Running a request

What the program prints, and the code it exits with, as a function of its arguments, the environment
and the disk. Arguments that make no request exit with 2; a configuration that cannot be used and a
script that cannot be read exit with 1; in both cases nothing is printed. Settings that cannot be
read and a few other things are failures of the program itself.
-/

namespace ScriptScope.Cli

/-- How a run ends. -/
structure Report where
  exit : Nat
  output : String
  deriving DecidableEq, Repr

/-- Why a run does not end in order. -/
inductive RunFailure where
  | settings (failure : Config.SettingsFailure)
  /-- A file of the configuration is not text. -/
  | notText
  /-- A text to be shown closes a tag that is not open. -/
  | markup
  /-- A name is missing, as scripts read from text never have. -/
  | unnamed
  deriving Repr

/-- The width of the console. -/
def consoleWidth : Nat := 120

namespace Report

/-- A run that ends well. -/
def done (output : String) : Report := ⟨0, output⟩

/-- A run that ends with nothing printed. -/
def failed : Report := ⟨1, ""⟩

/-- A run with arguments that make no request. -/
def misuse : Report := ⟨2, ""⟩

end Report

/-- Prints a text. -/
def printed (text : String) : Report :=
  .done (Layout.ofLines (Layout.wrap consoleWidth text))

/-- Prints what has been drawn. -/
def drawn (picture : Option String) : Except RunFailure Report :=
  match picture with
  | some text => .ok (.done text)
  | none => .error .markup

/-- Prints a marked text. -/
def printedMarkup (text : String) : Except RunFailure Report :=
  match Markup.plain? text with
  | some plain => .ok (printed plain)
  | none => .error .markup

/-! ### Commands on scripts -/

/-- Parameters between parentheses. -/
def paramList? (params : List Label) : Option String :=
  (Label.joined params).map (fun text => "(" ++ text ++ ")")

/-- Shows the scopes of a script. -/
def showScope (service : Completion.Service) (source : String) : Except RunFailure Report :=
  let a := service.analyse source
  if (a.store.scope a.root).isEmpty then
    printedMarkup "[yellow]No bindings (empty script or syntax error)[/yellow]"
  else match a.store.dump a.root with
    | some dump => .ok (printed dump)
    | none => .error .unnamed

/-- The table line of a name. -/
def nameRow? (choice : Completion.NameChoice) : Option (List String) := do
  let constructor ← match choice.params with
    | some params => paramList? params
    | none => some ""
  return [choice.name, choice.typeName.getD "", constructor]

/-- Shows the names that start with a text. -/
def showNames (service : Completion.Service) (source start : String) : Except RunFailure Report :=
  match (service.names source start).bind (·.mapM nameRow?) with
  | none => .error .unnamed
  | some rows =>
    let title := "Names starting with '" ++ start ++ "'"
    drawn (Table.draw? ⟨title, some ["Name", "Type", "Constructor"], rows⟩)

/-- The table line of a member. -/
def memberRow? (entry : Entry) : Option (List String) := do
  let name ← entry.name
  let params ← match entry.params with
    | some params => paramList? params
    | none => some ""
  let static := if entry.isStatic then " [static]" else ""
  return [name ++ params ++ static, entry.typeName.getD "", entry.declaring.getD ""]

/-- Shows the members of an expression. -/
def showMembers (service : Completion.Service) (source expression seed indent : String) :
    Except RunFailure Report :=
  match (service.members source expression seed indent).bind (·.mapM memberRow?) with
  | none => .error .unnamed
  | some [] => printedMarkup ("[yellow]No members known for " ++ expression ++ "[/yellow]")
  | some rows =>
    drawn (Table.draw? ⟨"Members of " ++ expression, some ["Member", "Type", "Declared in"], rows⟩)

/-! ### Settings -/

/-- A truth value as settings show it. -/
def truthText (value : Bool) : String :=
  if value then "True" else "False"

/-- Shows settings. -/
def showSettings (s : Config.Settings) : Except RunFailure Report :=
  let inference : Table := ⟨"Inference Configuration", none, [
    ["Capture Prefix", s.inference.captureName],
    ["Builtin Module", s.inference.builtinModule],
    ["Tolerate Syntax Errors", truthText s.inference.tolerant],
    ["Log Level", s.logLevel]]⟩
  let modules : Table := ⟨"Module Index Configuration", none, [
    ["Watch Modules", truthText s.modules.watch],
    ["Cache Entries", toString s.modules.cacheEntries],
    ["Include Interpreter Paths", truthText s.modules.includeInterpreter]]⟩
  let joined := ", ".intercalate (s.modules.paths.map Path.text)
  let paths := if joined = "" then "(none)" else joined
  let catalog := (s.providers.catalog.map Path.text).getD "(empty)"
  let builtins := (s.providers.builtinFile.map Path.text).getD "(interpreter builtins)"
  drawn do
    let first ← inference.draw?
    let second ← modules.draw?
    let third ← panel? consoleWidth "Providers" (
      "[cyan]Module Paths:[/cyan] " ++ paths ++ "\n"
        ++ "[cyan]Reflection Catalog:[/cyan] " ++ catalog ++ "\n"
        ++ "[cyan]Builtin Entries:[/cyan] " ++ builtins)
    return first ++ "\n" ++ second ++ "\n" ++ third

/-! ### Requests -/

/-- The file that a command is about. -/
def Command.file? : Command → Option Path
  | .scope file => some file
  | .names file _ => some file
  | .members file _ _ _ => some file
  | .settings => none

/-- All that a command may look at on the disk. -/
def neededPaths (settings : Config.Settings) (invocation : Invocation) : List Path :=
  invocation.command.file?.toList ++ invocation.catalog.toList ++ settings.providers.catalog.toList
    ++ settings.providers.builtinFile.toList ++ settings.modules.paths ++ invocation.roots

/-- Runs a command on a script with the service that the settings describe. -/
def onScript (settings : Config.Settings) (disk : Disk) (invocation : Invocation) (file : Path)
    (command : Completion.Service → String → Except RunFailure Report) : Except RunFailure Report :=
  match settings.service disk invocation.catalog invocation.roots with
  | .error (.refused _ _) => .ok .failed
  | .error .notText => .error .notText
  | .ok service =>
    match disk.readText file with
    | .error _ => .ok .failed
    | .ok source => command service source

/-- Performs a command. -/
def perform (settings : Config.Settings) (disk : Disk) (invocation : Invocation) :
    Except RunFailure Report :=
  match invocation.command with
  | .settings => showSettings settings
  | .scope file => onScript settings disk invocation file showScope
  | .names file start =>
    onScript settings disk invocation file (fun service source => showNames service source start)
  | .members file expression seed indent =>
    onScript settings disk invocation file (fun service source =>
      showMembers service source expression seed indent)

/-- Runs the program. Settings are read only when a command needs them. -/
def run (args : List String) (env : Config.Environment) (disk : Disk) : Except RunFailure Report :=
  match Args.request? args with
  | none => .ok .misuse
  | some (.help topic) => .ok (.done (Help.text topic))
  | some (.perform invocation) =>
    match Config.Settings.read [] env with
    | .error failure => .error (.settings failure)
    | .ok settings => perform settings disk invocation

end ScriptScope.Cli
