import ScriptScope.Config.Issue
import ScriptScope.Error
import ScriptScope.Host.Member

/-!
# Catalogs of host classes

A catalog describes host classes: the members of each, and its superclass. The members of a class
are its own, followed by those of the classes on its superclass chain, each with the class that
declares it. The chain ends at a class that the catalog does not have, and before a class that it
has already passed.

A `Reflection` answers for a catalog that grows, and remembers the members it has listed;
registering a class makes it forget them.
-/

namespace ScriptScope.Host

/-- The description of a member. -/
structure MemberSpec where
  name : String
  isField : Bool
  isStatic : Bool
  typeName : Option String
  parameters : List String
  deriving DecidableEq, Repr

/-- The description of a class. -/
structure ClassSpec where
  superclass : Option String
  members : List MemberSpec
  deriving DecidableEq, Repr

/-- Descriptions of classes in the order in which they were first given. -/
abbrev Catalog := List (String × ClassSpec)

/-! ### Checking descriptions -/

/-- The kind of a member. -/
def checkKind : Json → Checked Bool
  | .text "field" => .ok true
  | .text "method" => .ok false
  | _ => .flawed .enum

/-- Checks the description of a member. -/
def MemberSpec.check : Json → Checked MemberSpec
  | .object fields =>
    let parts := Checked.both (.fieldOf fields "name" .text)
      (Checked.both (.fieldOr fields "kind" false checkKind)
        (Checked.both (.fieldOr fields "static" false .truth)
          (Checked.both (.fieldOr fields "type" none (.nullable .text))
            (.fieldOr fields "parameters" [] (.listOf .text)))))
    match parts with
    | .ok (name, isField, isStatic, typeName, parameters) =>
      .ok ⟨name, isField, isStatic, typeName, parameters⟩
    | .error issues => .error issues
  | _ => .flawed .modelType

/-- Checks the description of a class. -/
def ClassSpec.check : Json → Checked ClassSpec
  | .object fields =>
    let parts := Checked.both (.fieldOr fields "superclass" none (.nullable .text))
      (.fieldOr fields "members" [] (.listOf MemberSpec.check))
    match parts with
    | .ok (superclass, members) => .ok ⟨superclass, members⟩
    | .error issues => .error issues
  | _ => .flawed .modelType

namespace Catalog

/-- The description of a class. -/
def get? (catalog : Catalog) (className : String) : Option ClassSpec :=
  (catalog.find? (fun e => e.1 == className)).map (·.2)

/-- Describes a class; one that was described before keeps its place. -/
def put (className : String) (spec : ClassSpec) : Catalog → Catalog
  | [] => [(className, spec)]
  | e :: rest =>
    if e.1 = className then (className, spec) :: rest else e :: put className spec rest

/-- The names of all classes in order. -/
def names (catalog : Catalog) : List String :=
  catalog.map (·.1)

/-- Checks the table of classes. -/
def checkClasses : Json → Checked Catalog
  | .object fields =>
    match Checked.all (fields.map (fun (name, value) =>
        Checked.under (.key name) ((ClassSpec.check value).map (name, ·)))) with
    | .ok entries => .ok (entries.foldl (fun catalog (name, spec) => put name spec catalog) [])
    | .error issues => .error issues
  | _ => .flawed .dictType

/-- Checks a catalog. -/
def check : Json → Checked Catalog
  | .object fields => .fieldOr fields "classes" [] checkClasses
  | _ => .flawed .modelType

/-- Reads a catalog from its text. -/
def ofText (text : String) : Checked Catalog :=
  match Json.parse? text with
  | some value => check value
  | none => .flawed .jsonInvalid

/-! ### Members -/

/-- The members that a class declares itself. -/
def ownMembers (className : String) (spec : ClassSpec) : List Member :=
  spec.members.map (fun m =>
    { name := m.name, isStatic := m.isStatic, isField := m.isField, declaring := className,
      typeName := m.typeName, parameters := m.parameters })

/-- The members along a superclass chain; the list of classes not yet passed bounds it. -/
def chainMembers (catalog : Catalog) (fresh : List String) (current : Option String) : List Member :=
  match current with
  | none => []
  | some className =>
    if className ∈ fresh then
      match catalog.get? className with
      | none => []
      | some spec =>
        ownMembers className spec ++ chainMembers catalog (fresh.erase className) spec.superclass
    else []
termination_by fresh.length
decreasing_by
  rename_i h
  have := List.length_pos_of_mem h
  rw [List.length_erase_of_mem h]
  omega

/-- The members of a class, if the catalog has it. -/
def members? (catalog : Catalog) (className : String) : Option (List Member) :=
  if (catalog.get? className).isSome then
    some (catalog.chainMembers catalog.names (some className))
  else none

end Catalog

/-! ### A catalog that grows -/

/-- A catalog and the members that were listed since it last changed. -/
structure Reflection where
  catalog : Catalog := []
  known : List (String × List Member) := []

namespace Reflection

/-- Describes a class, and forgets what was listed before. -/
def register (r : Reflection) (className : String) (spec : ClassSpec) : Reflection :=
  { catalog := r.catalog.put className spec, known := [] }

/-- Whether the catalog has a class. -/
def contains (r : Reflection) (className : String) : Bool :=
  (r.catalog.get? className).isSome

/-- The members of a class, and the reflection that remembers them. -/
def members (r : Reflection) (className : String) : Except Complaint (List Member) × Reflection :=
  if r.contains className then
    match r.known.find? (fun e => e.1 == className) with
    | some (_, remembered) => (.ok remembered, r)
    | none =>
      let listed := r.catalog.chainMembers r.catalog.names (some className)
      (.ok listed, { r with known := r.known ++ [(className, listed)] })
  else (.error (.hostClassNotFound className), r)

end Reflection

end ScriptScope.Host
