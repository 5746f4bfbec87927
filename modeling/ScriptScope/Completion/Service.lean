import ScriptScope.Completion.Rank
import ScriptScope.Host.Types
import ScriptScope.Inference.Build

/-!
# Completion

Answers to what can be typed at the end of a script. The members of an expression are found by
assigning the expression to the capture name at the end of the script, and looking the capture name
up in the last scope of the script.

An answer is absent if a name in it is missing, as scripts read from text never have.
-/

namespace ScriptScope.Completion

/-- What completion works with. -/
structure Service where
  context : Context
  /-- Whether scripts with syntax errors are analysed as far as they can be read. -/
  tolerant : Bool := false

/-- A name that can be typed. -/
structure NameChoice where
  name : String
  typeName : Option String
  /-- The parameters of the constructor, if the name stands for a class. -/
  params : Option (List Label)
  deriving DecidableEq, Repr

namespace Service

/-- The scopes of a script text. -/
def analyse (service : Service) (source : String) : Analysis :=
  .ofScript service.context service.tolerant (.text source)

/-- The names that start with a text at the end of an analysed script, in ascending order. -/
def namesIn (service : Service) (a : Analysis) (start : String) : Option (List NameChoice) :=
  (a.store.typedNamesStartingWith a.last start).map (fun found =>
    ((found.filter (fun entry => !Text.startsWith entry.1 service.context.captureName)).mergeSort
      (fun x y => decide (x.1 ≤ y.1))).map (fun (name, typeName) =>
        ⟨name, typeName, (a.store.classOf? (a.store.find a.last (some name))).map ClassInfo.params⟩))

/-- The names that start with a text at the end of a script. -/
def names (service : Service) (source start : String) : Option (List NameChoice) :=
  service.namesIn (service.analyse source) start

/-- The entries that match a typed text, best matches first. -/
def matching (seed : String) (entries : List Entry) : Option (List Entry) :=
  (entries.mapM (fun (e : Entry) => e.name.map (·, e))).map (fun named =>
    (suggest Prod.fst seed named).map Prod.snd)

/-- A script followed by the assignment of an expression to the capture name. -/
def withCapture (service : Service) (source expression indent : String) : String :=
  let source := if source = "" ∨ Text.endsWith source "\n" then source else source ++ "\n"
  source ++ indent ++ service.context.captureName ++ " = " ++ expression ++ "\n"

/-- The members of what a name stands for at the end of an analysed script. -/
def membersIn (service : Service) (a : Analysis) (name seed : String) (heap : Heap := .ample) :
    Option (List Entry) :=
  matching seed (Store.members service.context a.store (a.store.find a.last (some name)) heap)

/-- The members of an expression at the end of a script. -/
def members (service : Service) (source expression seed indent : String)
    (heap : Heap := .ample) : Option (List Entry) :=
  service.membersIn (service.analyse (service.withCapture source expression indent))
    service.context.captureName seed heap

/-- The members of what a name stands for at the end of a script. -/
def assignedMembers (service : Service) (source name seed : String) (heap : Heap := .ample) :
    Option (List Entry) :=
  service.membersIn (service.analyse source) name seed heap

/-- The variables that can be passed as a parameter of a type at the end of a script. -/
def parameterChoices (service : Service) (source typeName : String) (hostType : Option String) :
    Option (List String) :=
  let a := service.analyse source
  a.store.varsOfType a.last typeName (hostType <|> Host.boxed? typeName)

end Service

end ScriptScope.Completion
