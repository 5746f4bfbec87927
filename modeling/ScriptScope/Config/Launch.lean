import ScriptScope.Completion.Service
import ScriptScope.Config.Provider
import ScriptScope.Config.Settings

/-!
# From settings to a running analysis

The sources of knowledge that settings name. The catalog is read before the builtin symbols; without
a file there are none of either.
-/

namespace ScriptScope.Config

namespace Settings

/-- The host catalog that settings name. -/
def loadCatalog (s : Settings) (disk : Disk) : Except LoadFailure Host.Catalog :=
  match s.providers.catalog with
  | some path => Host.Catalog.load disk path
  | none => .ok []

/-- The builtin symbols that settings name. -/
def loadBuiltins (s : Settings) (disk : Disk) : Except LoadFailure (List String) :=
  match s.providers.builtinFile with
  | some path => Builtin.load disk path
  | none => .ok []

/-- The context for scripts. A catalog can be given in place of the one that settings name, and
search roots besides the ones that they name; the files of the settings are read all the same. -/
def context (s : Settings) (disk : Disk) (catalogFile : Option Path) (moreRoots : List Path) :
    Except LoadFailure Context := do
  let named ← s.loadCatalog disk
  let builtins ← s.loadBuiltins disk
  let catalog ← match catalogFile with
    | some path => Host.Catalog.load disk path
    | none => pure named
  return {
    reflection := catalog.source
    modules := Module.source disk (s.modules.paths ++ moreRoots)
    builtins := .ok builtins
    captureName := s.inference.captureName
    builtinModule := s.inference.builtinModule }

/-- The completion service that settings describe. -/
def service (s : Settings) (disk : Disk) (catalogFile : Option Path) (moreRoots : List Path) :
    Except LoadFailure Completion.Service :=
  (s.context disk catalogFile moreRoots).map (⟨·, s.inference.tolerant⟩)

end Settings

end ScriptScope.Config
