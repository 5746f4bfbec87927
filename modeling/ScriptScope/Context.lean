import ScriptScope.Host.Member

/-!
# What a script can see from outside

A `Context` gives the analysis of one script its sources of outside knowledge: reflection on host
classes, the members of modules, and the builtin symbols. A source may know nothing of a name, be
absent, or fail; every question goes through the functions below, for which all three mean that
nothing is known.
-/

namespace ScriptScope

/-- Why a source of outside knowledge gives no answer. -/
inductive SourceFailure where
  | absent
  | unknown
  | failed (reason : String)
  deriving DecidableEq, Repr

/-- The sources of outside knowledge, and the two names that scripts are analysed with. -/
structure Context where
  /-- Members of a host class. -/
  reflection : String → Except SourceFailure (List Host.Member) := fun _ => .error .absent
  /-- Members of a module; absent inside if there is no such module. -/
  modules : String → Except SourceFailure (Option (List String)) := fun _ => .error .absent
  /-- Builtin symbols, written `module.name` and `module.name.member`. -/
  builtins : Except SourceFailure (List String) := .error .absent
  /-- The name that a probed expression is assigned to; names starting with it are never offered. -/
  captureName : String := "____GRAB____"
  /-- The module that builtin symbols are listed under. -/
  builtinModule : String := "__builtin__"

namespace Context

instance : Inhabited Context := ⟨{}⟩

/-- The members of a host class, if the host knows it. -/
def reflect (ctx : Context) (className : String) : Option (List Host.Member) :=
  if className = "" then none
  else match ctx.reflection className with
    | .ok members => some members
    | .error _ => none

/-- The members of a module, if there is one. -/
def moduleMembers (ctx : Context) (modulePath : String) : Option (List String) :=
  if modulePath = "" then none
  else match ctx.modules modulePath with
    | .ok members => members
    | .error _ => none

/-- The builtin symbols. -/
def builtinEntries (ctx : Context) : List String :=
  match ctx.builtins with
  | .ok entries => entries
  | .error _ => []

end Context

end ScriptScope
