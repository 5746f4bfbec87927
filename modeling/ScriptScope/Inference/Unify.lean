import ScriptScope.Inference.Lineage

/-!
# Unifying method receivers with their class

While the body of a class is read, the first parameter of each method is a placeholder, on which the
method registers the members that it assigns. Once the body is read, these members are added to the
class, and then every placeholder becomes the class, keeping the members it has in front.

A placeholder is the receiver of a method only if it is still what the method's first parameter is
bound to, and belongs to the method's own scope.
-/

namespace ScriptScope

namespace Store

/-- The receiver of a function: the placeholder that its first parameter is bound to, if it is one.
Outside, the answer is absent if the function has no scope to look at. -/
def receiver? (st : Store) (fn : Function) : Option (Option ClassId) :=
  match fn.params with
  | [] => some none
  | first :: _ =>
    fn.scope.map (fun s =>
      match (st.scope s).vars.get? first with
      | some (.script id) =>
        if (st.cls id).isPlaceholder && (st.cls id).scope = some s then some id else none
      | _ => none)

/-- The receiver of what a name is bound to. -/
def receiverOf? (st : Store) : Descriptor → Option (Option ClassId)
  | .function fn => st.receiver? fn
  | _ => some none

/-- The receivers of the functions in a table, each once. -/
def receiversIn (st : Store) (table : Bindings) : Option (List ClassId) :=
  (table.mapM (fun binding => st.receiverOf? binding.2)).map
    (fun found => firstBy id (found.filterMap id))

/-- The placeholders of the methods of a class, in the order of the methods; no answer if the class
has no scope. -/
def placeholders (st : Store) (c : ClassInfo) : Option (List ClassId) :=
  c.scope.bind (fun s => st.receiversIn (st.scope s).vars)

/-- Adds the members of placeholders to a class. -/
def gather (st : Store) (id : ClassId) (found : List ClassId) : Store :=
  found.foldl (fun st p => st.modifyClass id (·.putAll (st.cls p).members)) st

/-- Turns placeholders into a class. -/
def spread (st : Store) (id : ClassId) (found : List ClassId) : Store :=
  found.foldl (fun st p => st.modifyClass p (·.become (st.cls id))) st

/-- Unifies the method receivers of a class with it. The answer lists them. -/
def unify (st : Store) (id : ClassId) : Option (List ClassId × Store) :=
  (st.placeholders (st.cls id)).map (fun found => (found, (st.gather id found).spread id found))

end Store

end ScriptScope
