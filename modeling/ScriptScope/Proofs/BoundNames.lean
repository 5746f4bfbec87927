import ScriptScope.Context
import ScriptScope.Syntax.Stmt
import ScriptScope.Text.Parts

/-!
# The names that statements bind

Which names a script binds, and in which order its statements come up, can be read off the syntax.
`Stmt.order` lists a statement and the statements inside it in the order in which they are walked;
`Stmt.binds` lists the names that a statement binds by itself, not counting the statements inside
it. Only `from … import *` makes a binding depend on more than the text, namely on what the context
says about the module.
-/

namespace ScriptScope

/-! ### Targets and imports -/

namespace Pattern

mutual

/-- The names that taking a value apart binds, from left to right.  Only a sequence that is written
out, with as many elements as there are targets and without a star, is taken apart. -/
def bound : Pattern → Expr → List Label
  | .group items, .sequence values =>
    if items.length ≠ values.length ∨ items.any (·.isSplat) ∨ values.any (·.isSplat) then []
    else boundInGroup items values
  | _, _ => []

/-- The names that the targets of a group bind. -/
def boundInGroup : List Pattern → List Expr → List Label
  | .name label :: rest, _ :: others => label :: boundInGroup rest others
  | item :: rest, value :: others => bound item value ++ boundInGroup rest others
  | _, _ => []

end

/-- A target in a group that is not a name binds what taking its value apart binds. -/
theorem boundInGroup_cons {item : Pattern} (hitem : ∀ label, item ≠ .name label)
    (rest : List Pattern) (value : Expr) (others : List Expr) :
    boundInGroup (item :: rest) (value :: others) =
      item.bound value ++ boundInGroup rest others := by
  rw [boundInGroup]
  exact fun label => hitem label

/-- The names that a target of an assignment binds. -/
def assigned (value : Expr) : Pattern → List Label
  | .name label => [label]
  | .group items => (group items).bound value
  | .splat _ | .member _ _ | .other | .fault => []

end Pattern

/-- The names that an assignment binds, from left to right. -/
def Assignment.bound : Assignment → List Label
  | .mk targets (some value) => targets.flatMap (Pattern.assigned value)
  | .mk _ none | .fault => []

namespace ImportItem

/-- The name that an item of `import …` binds. -/
def bound : ImportItem → List Label
  | .plain (some path) => [some (Text.before '.' path)]
  | .renamed (some _) (some newName) => [some newName]
  | .plain none | .renamed _ _ | .fault => []

/-- The name that an item of `from … import …` binds. -/
def boundFrom : ImportItem → List Label
  | .plain (some name) => [some name]
  | .renamed (some _) (some newName) => [some newName]
  | .plain none | .renamed _ _ | .fault => []

end ImportItem

mutual

/-- The names that a control statement and its clauses bind themselves. -/
def Control.targets : Control → List Label
  | .mk targets parts => targets.getD [] ++ Part.targetsIn parts

/-- The names that the clauses of a control statement bind themselves. -/
def Part.targetsIn : List Part → List Label
  | [] => []
  | .block _ :: rest => Part.targetsIn rest
  | .clause inner :: rest => inner.targets ++ Part.targetsIn rest

end

/-! ### Statements -/

namespace Stmt

/-- The names that a statement binds by itself: a function its name and its parameters, a control
statement its targets; the statements inside count for themselves. -/
def binds (ctx : Context) : Stmt → List Label
  | .importNames items => items.flatMap ImportItem.bound
  | .importFrom (some (some text)) true _ =>
    ((ctx.moduleMembers (Text.dropLeading '.' text)).getD []).map some
  | .importFrom (some (some _)) false items => items.flatMap ImportItem.boundFrom
  | .assign items => items.flatMap Assignment.bound
  | .function name params _ => some name :: params.getD []
  | .classDef name _ _ => [some name]
  | .control parts => parts.targets
  | .importFrom _ _ _ | .decorated _ | .ret _ | .other | .fault => []

end Stmt

mutual

/-- A statement and the statements inside it, in the order in which they are walked. -/
def Stmt.order : Stmt → List Stmt
  | .function name params body => .function name params body :: Stmt.orderIn body
  | .classDef name bases body => .classDef name bases body :: Stmt.orderIn body
  | .decorated definition => .decorated definition :: definition.order
  | .control parts => .control parts :: parts.order
  | stmt => [stmt]

/-- The statements of a body and those inside them. -/
def Stmt.orderIn : List Stmt → List Stmt
  | [] => []
  | stmt :: rest => stmt.order ++ Stmt.orderIn rest

/-- The statements inside a control statement. -/
def Control.order : Control → List Stmt
  | .mk _ parts => Part.orderIn parts

/-- The statements inside the parts of a control statement. -/
def Part.orderIn : List Part → List Stmt
  | [] => []
  | .block body :: rest => Stmt.orderIn body ++ Part.orderIn rest
  | .clause inner :: rest => inner.order ++ Part.orderIn rest

end

end ScriptScope
