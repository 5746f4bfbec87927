import ScriptScope.Syntax.Kind

/-!
# Syntax trees

A `Node` is a node of a concrete syntax tree: its kind, the text it covers, the role it plays in its
parent, the row it starts on, and its children in order. Trees come from reading a script's text or
from outside, and may be damaged: a node can be marked missing or faulty, and a node can be
unreadable, which means that asking it for the child in a given role fails (listing its children
does not).

The search for the first error descends only into children that are marked as holding one; a mark
may be wrong in one direction (set although nothing below is an error), so the search goes on with
the next child when a marked one yields nothing.
-/

namespace ScriptScope

/-- The text of an identifier; absent when the tree has the node but no text for it. -/
abbrev Label := Option String

/-- A node of a script's syntax tree. -/
structure Node where
  kind : Kind
  /-- The text covered by the node; empty when it is not known. -/
  text : String := ""
  /-- The part the node plays in its parent. -/
  role : Option Role := none
  /-- The row the node starts on, counted from 0. -/
  row : Nat := 0
  /-- Whether the node is listed among its parent's named children. -/
  named : Bool := true
  /-- Whether the node was made up where the text lacks one. -/
  missing : Bool := false
  /-- Whether the node is marked as holding an error although nothing below it is one. -/
  flagged : Bool := false
  /-- Whether asking the node for a child by role fails. -/
  unreadable : Bool := false
  children : List Node := []
  deriving Repr

namespace Node

instance : Inhabited Node := ⟨{ kind := .module }⟩

/-- The text of a node, if it has one. -/
def label (n : Node) : Label :=
  if n.text = "" then none else some n.text

/-- The children that stand for constructs, without punctuation and keywords. -/
def namedChildren (n : Node) : List Node :=
  n.children.filter (·.named)

/-- The first child in a role. -/
def child? (n : Node) (role : Role) : Option Node :=
  n.children.find? (fun c => c.role == some role)

/-- All children in a role. -/
def childrenIn (n : Node) (role : Role) : List Node :=
  n.children.filter (fun c => c.role == some role)

/-- The named children of a module or a block, without comments. -/
def statements (n : Node) : List Node :=
  n.namedChildren.filter (fun c => c.kind != .comment)

/-- The line a node starts on, counted from 1. -/
def line (n : Node) : Nat := n.row + 1

/-- Whether a node is itself an error: text that fits no construct, or a construct without text. -/
def isError (n : Node) : Bool :=
  n.kind == .error || n.missing

mutual

/-- Whether a node is an error, is marked as holding one, or has a child of which this is true. -/
def hasError : Node → Bool
  | ⟨kind, _, _, _, _, missing, flagged, _, children⟩ =>
    kind == .error || missing || flagged || anyHasError children

/-- Whether some node of a list is an error or holds one. -/
def anyHasError : List Node → Bool
  | [] => false
  | n :: rest => n.hasError || anyHasError rest

end

mutual

/-- The line of the first error at or below a node, looking only into children that hold one. -/
def firstErrorLine : Node → Option Nat
  | ⟨kind, _, _, row, _, missing, _, _, children⟩ =>
    if kind == .error || missing then some (row + 1) else firstErrorLineIn children

/-- The line of the first error in a list of nodes. -/
def firstErrorLineIn : List Node → Option Nat
  | [] => none
  | n :: rest =>
    if n.hasError || n.missing then
      match firstErrorLine n with
      | some line => some line
      | none => firstErrorLineIn rest
    else firstErrorLineIn rest

end

end Node

end ScriptScope
