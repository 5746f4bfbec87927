import ScriptScope.Syntax.Node

/-!
# Descriptors

A descriptor says what is known about a value. Functions are plain values; script classes are held
in a store and referred to by number, because a class is shared: a member registered through one
name for it is seen through all others.
-/

namespace ScriptScope

/-- The number of a scope in its store. -/
structure ScopeId where
  index : Nat
  deriving DecidableEq, Repr

/-- The number of a class in its store. -/
structure ClassId where
  index : Nat
  deriving DecidableEq, Repr

/-- A function defined in a script. -/
structure Function where
  name : String
  /-- The type of the value it returns, if known. -/
  returns : Option String
  params : List Label
  /-- The scope of its body. -/
  scope : Option ScopeId
  deriving DecidableEq, Repr

/-- What is known about a value. -/
inductive Descriptor where
  | unknown
  /-- A value of a named type: a host type, or a script class that the scope can see. -/
  | instanceOf (typeName : String) (scope : Option ScopeId)
  /-- A module, a host class, or a member reached through an import. -/
  | static (name : String)
  | function (fn : Function)
  | script (id : ClassId)
  deriving DecidableEq, Repr

instance : Inhabited Descriptor := ⟨.unknown⟩

/-- The name of classes that stand for parameters, of which nothing is known at first. -/
def placeholderName : String := "<unknown>"

/-- A class: one defined in the script, the placeholder of a parameter, or one made up from the
builtin symbols. -/
structure ClassInfo where
  name : String
  /-- Names of the superclasses, in order. -/
  bases : List String
  /-- Parameters of the constructor, without the receiver. -/
  params : List Label
  members : List Label
  /-- The scope of the body; for a placeholder, the scope of the function. -/
  scope : Option ScopeId
  deriving DecidableEq, Repr

namespace ClassInfo

instance : Inhabited ClassInfo := ⟨⟨"", [], [], [], none⟩⟩

/-- The class that a parameter stands for until it is unified. -/
def placeholder (scope : ScopeId) : ClassInfo :=
  ⟨placeholderName, [], [], [], some scope⟩

/-- Whether a class is the placeholder of a parameter. -/
def isPlaceholder (c : ClassInfo) : Bool :=
  c.name = placeholderName

/-- Registers a member; one that is there already keeps its place. -/
def put (c : ClassInfo) (member : Label) : ClassInfo :=
  if member ∈ c.members then c else { c with members := c.members ++ [member] }

/-- Registers members one after the other. -/
def putAll (c : ClassInfo) (members : List Label) : ClassInfo :=
  members.foldl put c

/-- Becomes another class, keeping the members known so far in front. -/
def become (c other : ClassInfo) : ClassInfo :=
  { other with members := (c.putAll other.members).members }

end ClassInfo

/-! ### Binding tables -/

/-- A table of bindings in the order in which the names were first bound. -/
abbrev Bindings := List (Label × Descriptor)

namespace Bindings

/-- The descriptor that a name is bound to. -/
def get? (table : Bindings) (name : Label) : Option Descriptor :=
  (table.find? (fun b => b.1 == name)).map (·.2)

/-- Binds a name; a name that was bound before keeps its place. -/
def bind (name : Label) (value : Descriptor) : Bindings → Bindings
  | [] => [(name, value)]
  | b :: rest => if b.1 = name then (name, value) :: rest else b :: bind name value rest

/-- The bound names in order. -/
def names (table : Bindings) : List Label :=
  table.map (·.1)

/-- A bound name has the value it was bound to last, and all others keep theirs. -/
theorem get?_bind (table : Bindings) (name other : Label) (value : Descriptor) :
    get? (bind name value table) other = if other = name then some value else get? table other := by
  induction table with
  | nil =>
    by_cases h : other = name
    · subst h; simp [bind, get?]
    · have h' : ¬ name = other := fun e => h e.symm
      simp [bind, get?, h, h']
  | cons b rest ih =>
    simp only [bind]
    by_cases hb : b.1 = name
    · by_cases h : other = name
      · subst h; simp [get?, hb]
      · have h' : ¬ name = other := fun e => h e.symm
        simp [get?, hb, h, h']
    · by_cases hbo : b.1 = other
      · have h : ¬ other = name := fun e => hb (hbo.trans e)
        simp [get?, hbo, h]
      · simpa [get?, hb, hbo] using ih

/-- Binding a name adds it at the end, unless it was bound before. -/
theorem names_bind (table : Bindings) (name : Label) (value : Descriptor) :
    names (bind name value table) =
      if name ∈ names table then names table else names table ++ [name] := by
  induction table with
  | nil => simp [bind, names]
  | cons b rest ih =>
    simp only [bind]
    by_cases hb : b.1 = name
    · simp [names, hb]
    · have hn : ¬ name = b.1 := fun e => hb e.symm
      simp only [names] at ih
      by_cases hmem : name ∈ rest.map (·.1)
      · simp [names, hb, ih, hmem]
      · simp [names, hb, hn, ih, hmem]

end Bindings

end ScriptScope
