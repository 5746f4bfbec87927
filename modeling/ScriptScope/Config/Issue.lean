import ScriptScope.Data.Json

/-!
# Checking data against a shape

Data from outside is checked field by field, and everything that is wrong with it is reported: an
`Issue` says where a value stands and what is wrong with it. A `Checked` result is the value, or the
issues in the order in which the fields are declared.
-/

namespace ScriptScope

/-- A step on the way to a value. -/
inductive Step where
  | key (name : String)
  | index (position : Nat)
  deriving DecidableEq, Repr

/-- What is wrong with a value. -/
inductive Flaw where
  | jsonInvalid | modelType | dictType | listType | stringType | pathType | enum | missing
  | boolParsing | boolType | intParsing | intType | intFromFloat | finiteNumber | greaterThan
  /-- A value of the right type that is refused, with the reason. -/
  | refused (reason : String)
  deriving DecidableEq, Repr

namespace Flaw

/-- The name of a flaw in reports. -/
def label : Flaw → String
  | jsonInvalid => "json_invalid"
  | modelType => "model_type"
  | dictType => "dict_type"
  | listType => "list_type"
  | stringType => "string_type"
  | pathType => "path_type"
  | enum => "enum"
  | missing => "missing"
  | boolParsing => "bool_parsing"
  | boolType => "bool_type"
  | intParsing => "int_parsing"
  | intType => "int_type"
  | intFromFloat => "int_from_float"
  | finiteNumber => "finite_number"
  | greaterThan => "greater_than"
  | refused _ => "value_error"

/-- The wording of a flaw, where reports give one. -/
def message? : Flaw → Option String
  | refused reason => some ("Value error, " ++ reason)
  | _ => none

end Flaw

/-- A flaw and where it is. -/
structure Issue where
  place : List Step
  flaw : Flaw
  deriving DecidableEq, Repr

/-- A value, or what is wrong with the data. -/
abbrev Checked (α : Type) := Except (List Issue) α

namespace Checked

/-- A flaw of the value itself. -/
def flawed {α : Type} (flaw : Flaw) : Checked α :=
  .error [⟨[], flaw⟩]

/-- Reports the issues of a part under the step that leads to it. -/
def under {α : Type} (step : Step) (c : Checked α) : Checked α :=
  match c with
  | .ok a => .ok a
  | .error issues => .error (issues.map (fun i => { i with place := step :: i.place }))

/-- Two parts; the issues of both are reported. -/
def both {α β : Type} (a : Checked α) (b : Checked β) : Checked (α × β) :=
  match a, b with
  | .ok x, .ok y => .ok (x, y)
  | .ok _, .error issues => .error issues
  | .error issues, .ok _ => .error issues
  | .error issues, .error others => .error (issues ++ others)

/-- All parts of a list; the issues of all are reported. -/
def all {α : Type} : List (Checked α) → Checked (List α)
  | [] => .ok []
  | c :: rest =>
    match both c (all rest) with
    | .ok (a, others) => .ok (a :: others)
    | .error issues => .error issues

/-- A list that is checked item by item. -/
def listOf {α : Type} (item : Json → Checked α) : Json → Checked (List α)
  | .list items =>
    all (items.zipIdx.map (fun (value, i) => under (.index i) (item value)))
  | _ => flawed .listType

/-- A field with a default for when it is absent. -/
def fieldOr {α : Type} (fields : List (String × Json)) (name : String) (default : α)
    (check : Json → Checked α) : Checked α :=
  match Json.field? fields name with
  | none => .ok default
  | some value => under (.key name) (check value)

/-- A field that has to be there. -/
def fieldOf {α : Type} (fields : List (String × Json)) (name : String) (check : Json → Checked α) :
    Checked α :=
  match Json.field? fields name with
  | none => under (.key name) (flawed .missing)
  | some value => under (.key name) (check value)

/-! ### Plain values -/

/-- A text. -/
def text : Json → Checked String
  | .text value => .ok value
  | _ => flawed .stringType

/-- A value that may be null. -/
def nullable {α : Type} (check : Json → Checked α) : Json → Checked (Option α)
  | .null => .ok none
  | value =>
    match check value with
    | .ok a => .ok (some a)
    | .error issues => .error issues

/-- The truth value that a word stands for, in any case. -/
def truthOf? (word : String) : Option Bool :=
  let word := word.toLower
  if ["1", "true", "t", "yes", "y", "on"].contains word then some true
  else if ["0", "false", "f", "no", "n", "off"].contains word then some false
  else none

/-- The truth value that an integer stands for; integers beyond 64 bits are no candidates. -/
def truthOfInt (n : Int) : Checked Bool :=
  if n = 0 then .ok false
  else if n = 1 then .ok true
  else if n < -9223372036854775808 ∨ 9223372036854775807 < n then flawed .boolType
  else flawed .boolParsing

/-- A truth value, given as one, as a number or as a word. -/
def truth : Json → Checked Bool
  | .bool value => .ok value
  | .integer n => truthOfInt n
  | .decimal digits exponent =>
    match Json.wholeOf? digits exponent with
    | some n => truthOfInt n
    | none => flawed .boolType
  | .text word =>
    match truthOf? word with
    | some value => .ok value
    | none => flawed .boolParsing
  | _ => flawed .boolType

end Checked

end ScriptScope
