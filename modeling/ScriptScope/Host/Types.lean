/-!
# Host types

The names of the host's types that the analysis itself mentions, the widening order of the numeric
ones, and which values can be passed where a type is expected: floating values fit any numeric
target, integral values fit numeric targets of the same or a wider rank, and everything else has to
match by name.
-/

namespace ScriptScope.Host

/-- The type of integer literals. -/
def integralType : String := "long"

/-- The type of floating-point literals. -/
def floatingType : String := "double"

/-- The type of text literals. -/
def textType : String := "java.lang.String"

/-- The rank of a numeric type, primitive or boxed, in the widening order. -/
def numericRank? (typeName : String) : Option Nat :=
  match typeName with
  | "byte" | "java.lang.Byte" => some 0
  | "short" | "java.lang.Short" => some 1
  | "int" | "java.lang.Integer" => some 2
  | "long" | "java.lang.Long" => some 3
  | "float" | "java.lang.Float" => some 4
  | "double" | "java.lang.Double" => some 5
  | _ => none

/-- The floating types hold the two widest ranks. -/
def isFloating (typeName : String) : Bool :=
  match numericRank? typeName with
  | some rank => 4 ≤ rank
  | none => false

/-- Whether a type is known and numeric. -/
def isNumeric (typeName : Option String) : Bool :=
  (typeName.bind numericRank?).isSome

/-- The boxed form of a primitive type. -/
def boxed? (typeName : String) : Option String :=
  match typeName with
  | "boolean" => some "java.lang.Boolean"
  | "byte" => some "java.lang.Byte"
  | "char" => some "java.lang.Character"
  | "short" => some "java.lang.Short"
  | "int" => some "java.lang.Integer"
  | "long" => some "java.lang.Long"
  | "float" => some "java.lang.Float"
  | "double" => some "java.lang.Double"
  | _ => none

/-- The rank that a numeric value has to fit: that of the target, or else that of its host type. -/
def targetRank? (target : String) (hostTarget : Option String) : Option Nat :=
  numericRank? target <|> hostTarget.bind numericRank?

/-- Whether a value of a type can be passed where a target type, or the host type standing for it,
is expected. -/
def isAssignable (value : Option String) (target : String) (hostTarget : Option String) : Bool :=
  match value with
  | none => false
  | some valueType =>
    if valueType = target ∨ some valueType = hostTarget then true
    else match numericRank? valueType, targetRank? target hostTarget with
      | some rank, some limit => isFloating valueType || rank ≤ limit
      | _, _ => false

end ScriptScope.Host
