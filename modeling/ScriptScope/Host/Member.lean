/-!
# Members of host classes

What host reflection reports about a class: its public fields and methods, each with the class that
declares it.
-/

namespace ScriptScope.Host

/-- A public field or method of a host class. For a method, `typeName` is the return type. -/
structure Member where
  name : String
  isStatic : Bool
  isField : Bool
  declaring : String
  typeName : Option String := none
  parameters : List String := []
  deriving DecidableEq, Repr

/-- The type of the first typed member with a name among the methods or among the fields. -/
def typeAmong (fields : Bool) (name : String) (members : List Member) : Option String :=
  members.findSome? (fun m =>
    if m.isField == fields && m.name == name then m.typeName.filter (· ≠ "") else none)

/-- The type of a member: the return type of the first typed method with that name, or else the type
of the first typed field. -/
def memberType? (members : List Member) (name : String) : Option String :=
  typeAmong false name members <|> typeAmong true name members

end ScriptScope.Host
