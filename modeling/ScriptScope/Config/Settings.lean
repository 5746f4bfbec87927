import ScriptScope.Config.DotEnv
import ScriptScope.Config.Issue
import ScriptScope.Disk.Path
import ScriptScope.Text.Case
import ScriptScope.Text.Identifier
import ScriptScope.Text.Integer
import ScriptScope.Text.Quoted

/-!
# Settings

Settings come in three groups and a log level. The value of a field is the one that the caller
gives, or else that of the environment variable of the field's name in any case, or else that of the
file of variables, or else a default.

All that is wrong within a group is reported. A group that the caller gives is reported with its
name and together with the others; otherwise the first group that has something wrong is the only
one reported.
-/

namespace ScriptScope.Config

/-- How scripts are analysed. -/
structure InferenceSettings where
  captureName : String := "____GRAB____"
  builtinModule : String := "__builtin__"
  tolerant : Bool := false
  deriving DecidableEq, Repr

/-- Where modules are looked for. -/
structure ModuleSettings where
  paths : List Path := []
  includeInterpreter : Bool := false
  watch : Bool := true
  cacheEntries : Int := 256
  deriving DecidableEq, Repr

/-- The files that other knowledge comes from. -/
structure ProviderSettings where
  catalog : Option Path := none
  builtinFile : Option Path := none
  deriving DecidableEq, Repr

/-- All settings. -/
structure Settings where
  inference : InferenceSettings := {}
  modules : ModuleSettings := {}
  providers : ProviderSettings := {}
  logLevel : String := "WARNING"
  deriving DecidableEq, Repr

/-- Why there are no settings. -/
inductive SettingsFailure where
  /-- A variable that has to be JSON is not. -/
  | unparsable (field source : String)
  | invalid (issues : List Issue)
  deriving Repr

/-- What settings are read from. -/
structure Environment where
  vars : List (String × String) := []
  /-- The text of the file of variables. -/
  file : Option String := none

/-- The names of all fields. -/
def fieldNames : List String :=
  ["capture_prefix", "builtin_module", "tolerate_syntax_errors", "module_paths",
    "include_interpreter_paths", "watch_modules", "module_cache_entries", "reflection_catalog",
    "builtin_entries_file", "inference", "modules", "providers", "log_level"]

/-! ### Values of fields -/

/-- The values for fields, by where they come from. Names of variables are in lower case. -/
structure Sources where
  given : List (String × Json)
  vars : List (String × Option String)
  file : List (String × Option String)

namespace Sources

/-- The sources of fields in an environment. -/
def ofEnvironment (env : Environment) : Sources :=
  let lowered := List.map (fun (b : String × Option String) => (Text.lower b.1, b.2))
  { given := []
    vars := lowered (env.vars.map (fun b => (b.1, some b.2)))
    file := lowered ((env.file.map (DotEnv.read env.vars)).getD []) }

/-- The value of a variable in a table. -/
def value? (table : List (String × Option String)) (name : String) : Option String :=
  (DotEnv.last? table name).join

/-- The value of a plain field. -/
def plain? (s : Sources) (name : String) : Option Json :=
  Json.field? s.given name <|> (value? s.vars name).map .text
    <|> (value? s.file name).map .text

/-- The JSON value of a variable; null counts as absent. -/
def decoded (table : List (String × Option String)) (source name : String) :
    Except SettingsFailure (Option Json) :=
  match value? table name with
  | none => .ok none
  | some text =>
    match Json.parse? text with
    | none => .error (.unparsable name source)
    | some .null => .ok none
    | some value => .ok (some value)

/-- A value over another: objects are merged. -/
def layered (high low : Option Json) : Option Json :=
  match high, low with
  | some (.object fields), some (.object others) => some (.object (others ++ fields))
  | some value, _ => some value
  | none, low => low

/-- The value of a field that is written as JSON. Every source has to be readable, whichever counts.
-/
def structured? (s : Sources) (name : String) : Except SettingsFailure (Option Json) := do
  let fromVariables ← decoded s.vars "EnvSettingsSource" name
  let fromFile ← decoded s.file "DotEnvSettingsSource" name
  return layered (Json.field? s.given name) (layered fromVariables fromFile)

/-- A checked field with a default. -/
def field {α : Type} (value : Option Json) (name : String) (default : α)
    (check : Json → Checked α) : Checked α :=
  match value with
  | none => .ok default
  | some v => Checked.under (.key name) (check v)

/-- A checked plain field with a default. -/
def checked {α : Type} (s : Sources) (name : String) (default : α) (check : Json → Checked α) :
    Checked α :=
  field (s.plain? name) name default check

end Sources

/-! ### Checks -/

/-- An identifier. -/
def checkIdentifier (value : Json) : Checked String :=
  match Checked.text value with
  | .error issues => .error issues
  | .ok text =>
    if Text.isIdentifier text then .ok text
    else .flawed (.refused ("Must be a valid Python identifier: " ++ Text.quoted text))

/-- A path. -/
def checkPath : Json → Checked Path
  | .text text => .ok (.ofText text)
  | _ => .flawed .pathType

/-- An integer, given as a number, a truth value or a text. -/
def checkInteger : Json → Checked Int
  | .integer n => .ok n
  | .bool b => .ok (if b then 1 else 0)
  | .decimal digits exponent =>
    match Json.wholeOf? digits exponent with
    | some n => .ok n
    | none => .flawed .intFromFloat
  | .limitless => .flawed .finiteNumber
  | .text text =>
    match Text.integer? text with
    | some n => .ok n
    | none => .flawed .intParsing
  | _ => .flawed .intType

/-- A positive integer. -/
def checkPositive (value : Json) : Checked Int :=
  match checkInteger value with
  | .error issues => .error issues
  | .ok n => if 0 < n then .ok n else .flawed .greaterThan

/-- The log levels. -/
def logLevels : List String := ["CRITICAL", "ERROR", "WARNING", "INFO", "DEBUG"]

/-- A log level in any case. -/
def checkLogLevel (value : Json) : Checked String :=
  match Checked.text value with
  | .error issues => .error issues
  | .ok text =>
    let level := Text.upper text
    if logLevels.contains level then .ok level
    else .flawed (.refused ("Unknown log level: " ++ text))

/-! ### Groups -/

/-- Turns a checked value into settings or a failure. -/
def conclude {α β : Type} (f : α → β) : Checked α → Except SettingsFailure β
  | .ok a => .ok (f a)
  | .error issues => .error (.invalid issues)

/-- Reads how scripts are analysed. -/
def InferenceSettings.read (s : Sources) : Except SettingsFailure InferenceSettings :=
  let captureName := s.checked "capture_prefix" "____GRAB____" checkIdentifier
  let builtinModule := s.checked "builtin_module" "__builtin__" checkIdentifier
  let tolerant := s.checked "tolerate_syntax_errors" false Checked.truth
  conclude (fun (captureName, builtinModule, tolerant) => ⟨captureName, builtinModule, tolerant⟩)
    (Checked.both captureName (Checked.both builtinModule tolerant))

/-- Reads where modules are looked for. -/
def ModuleSettings.read (s : Sources) : Except SettingsFailure ModuleSettings := do
  let value ← s.structured? "module_paths"
  let paths := Sources.field value "module_paths" [] (Checked.listOf checkPath)
  let includeInterpreter := s.checked "include_interpreter_paths" false Checked.truth
  let watch := s.checked "watch_modules" true Checked.truth
  let cacheEntries := s.checked "module_cache_entries" 256 checkPositive
  conclude (fun (paths, includeInterpreter, watch, cacheEntries) =>
      ⟨paths, includeInterpreter, watch, cacheEntries⟩)
    (Checked.both paths (Checked.both includeInterpreter (Checked.both watch cacheEntries)))

/-- Reads the files that other knowledge comes from. -/
def ProviderSettings.read (s : Sources) : Except SettingsFailure ProviderSettings :=
  let catalog := s.checked "reflection_catalog" none (Checked.nullable checkPath)
  let builtinFile := s.checked "builtin_entries_file" none (Checked.nullable checkPath)
  conclude (fun (catalog, builtinFile) => ⟨catalog, builtinFile⟩) (Checked.both catalog builtinFile)

/-- Reads a group. What is wrong with a group that is given is to be reported with the other groups;
anything wrong with a group that is not given ends the reading. -/
def readGroup {α : Type} (s : Sources) (name : String) (value : Option Json)
    (read : Sources → Except SettingsFailure α) : Except SettingsFailure (Checked α) :=
  match value with
  | none => (read { s with given := [] }).map .ok
  | some (.object fields) =>
    match read { s with given := fields } with
    | .ok a => .ok (.ok a)
    | .error (.invalid issues) => .ok (Checked.under (.key name) (.error issues))
    | .error (.unparsable field source) =>
      .ok (Checked.under (.key name) (.flawed (.refused
        ("error parsing value for field \"" ++ field ++ "\" from source \"" ++ source ++ "\""))))
  | some _ => .ok (Checked.under (.key name) (.flawed .modelType))

namespace Settings

/-- Reads all settings. -/
def read (given : List (String × Json)) (env : Environment) : Except SettingsFailure Settings := do
  let s := { Sources.ofEnvironment env with given }
  let inferenceValue ← s.structured? "inference"
  let modulesValue ← s.structured? "modules"
  let providersValue ← s.structured? "providers"
  let inference ← readGroup s "inference" inferenceValue InferenceSettings.read
  let modules ← readGroup s "modules" modulesValue ModuleSettings.read
  let providers ← readGroup s "providers" providersValue ProviderSettings.read
  let logLevel := s.checked "log_level" "WARNING" checkLogLevel
  conclude (fun (inference, modules, providers, logLevel) =>
      ⟨inference, modules, providers, logLevel⟩)
    (Checked.both inference (Checked.both modules (Checked.both providers logLevel)))

end Settings

end ScriptScope.Config
