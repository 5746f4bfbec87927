import ScriptScope.Syntax.Token.Scan

/-!
# Reading tokens

The readers of the grammar take tokens from the front of a list and fail with the row at which the
text fits no construct. What they read is an `Item`: a node of the syntax tree together with the
comments and line continuations before its first token. A node holds those that stand before its
later parts; those before its first part belong further out (`Item.join`).

A line break ends a simple statement wherever the statement may end, is skipped where a token is
still required, and means nothing between brackets. A line that is indented less than the current
block is never skipped to, except between brackets or for a quote. `Layout` says which of this
applies.
-/

namespace ScriptScope.Syntax

/-- Takes tokens; fails with a row. -/
abbrev Reader := StateT (List Token) (Except Nat)

/-- How line breaks count at a place of the grammar. -/
structure Layout where
  /-- Whether the place is between brackets. -/
  bracketed : Bool
  /-- Whether a line break ends the construct where it may end. -/
  ended : Bool
  /-- The indentation of the current block. -/
  floor : Nat
  /-- Whether a condition may follow an expression, as in `a if b else c`. -/
  conditional : Bool

namespace Layout

/-- Between brackets. -/
def inside : Layout := ⟨true, false, 0, true⟩

/-- In a simple statement of a block with an indentation. -/
def ofLine (floor : Nat) : Layout := ⟨false, true, floor, true⟩

/-- In the head of a compound statement. -/
def ofHead (floor : Nat) : Layout := ⟨false, false, floor, true⟩

/-- The same place, when a token has to follow what is read. -/
def opened (c : Layout) : Layout := { c with ended := false, conditional := true }

/-- The same place, when no condition may follow. -/
def unconditional (c : Layout) : Layout := { c with conditional := false }

/-- Whether a token can be taken where one is required. -/
def reaches (c : Layout) (t : Token) : Bool :=
  match t.indent with
  | none => true
  | some n => c.bracketed || c.floor ≤ n || t.isBareQuote

/-- Whether a token can be taken to go on with a construct. -/
def continues (c : Layout) (t : Token) : Bool :=
  c.reaches t && !(c.ended && !c.bracketed && t.indent.isSome)

end Layout

/-- A node and the comments and line continuations before its first token. -/
structure Item where
  lead : List Node
  node : Node

namespace Item

instance : Inhabited Item := ⟨⟨[], default⟩⟩

/-- Gives a node its role. -/
def as (role : Role) (item : Item) : Item :=
  { item with node := { item.node with role := some role } }

/-- The children that items make, with the comments and line continuations between them. -/
def nodesOf : List Item → List Node
  | [] => []
  | first :: rest => first.node :: rest.flatMap (fun i => i.lead ++ [i.node])

/-- A node made of items. -/
def join (kind : Kind) (items : List Item) : Item :=
  match items with
  | [] => ⟨[], { kind }⟩
  | first :: _ => ⟨first.lead, { kind, row := first.node.row, children := nodesOf items }⟩

/-- A node of a token. -/
def ofToken (kind : Kind) (named : Bool) (t : Token) : Item :=
  ⟨t.extras, { kind, text := t.text, row := t.row, named }⟩

end Item

namespace Reader

/-- The next token. -/
def next : Reader Token := do
  return (← get).headD .atEnd

/-- The token after the next. -/
def afterNext : Reader Token := do
  return ((← get).drop 1).headD .atEnd

/-- Fails at the next token. -/
def failHere {α : Type} : Reader α := do
  throw (← next).row

/-- Takes the next token. -/
def takeToken : Reader Token := do
  let t ← next
  modify (·.drop 1)
  return t

/-- Takes the next token as a node. -/
def takeAs (kind : Kind) : Reader Item := do
  return .ofToken kind true (← takeToken)

/-- Takes the next token as a keyword or mark. -/
def takeMark : Reader Item := do
  let t ← takeToken
  return .ofToken (.other t.text) false t

/-- Whether a keyword or mark goes on with the construct. -/
def follows (c : Layout) (text : String) : Reader Bool := do
  let t ← next
  return c.continues t && t.is text

/-- Takes a keyword or mark if it goes on with the construct. -/
def accept (c : Layout) (text : String) : Reader (Option Item) := do
  if ← follows c text then return some (← takeMark) else return none

/-- Takes a keyword or mark that is required. -/
def expect (c : Layout) (text : String) : Reader Item := do
  let t ← next
  if c.reaches t && t.is text then takeMark else failHere

/-- The next token where one is required. -/
def required (c : Layout) : Reader Token := do
  let t ← next
  if c.reaches t then return t else failHere

/-- Takes a name where nothing but a name can stand; keywords are names there. -/
def name (c : Layout) : Reader Item := do
  let t ← required c
  if t.lexeme == .word then takeAs .identifier else failHere

/-- Repeats a step until it gives nothing. The fuel bounds the number of repetitions. -/
def loopFrom {α : Type} (step : α → Reader (Option α)) : Nat → α → Reader α
  | 0, a => return a
  | fuel + 1, a => do
    match ← step a with
    | some b => loopFrom step fuel b
    | none => return a

/-- Repeats a step that takes tokens until it gives nothing. -/
def loop {α : Type} (step : α → Reader (Option α)) (a : α) : Reader α := do
  loopFrom step ((← get).length + 1) a

/-- Goes on with items separated by commas, the commas included; after a comma the list ends where
`ends` says. -/
def commaRest (c : Layout) (item : Reader Item) (ends : Token → Bool) (first : Item) :
    Reader (List Item) :=
  loop (fun items => do
    match ← accept c "," with
    | none => return none
    | some comma =>
      let t ← next
      if c.continues t && !ends t then return some (items ++ [comma, ← item])
      else return some (items ++ [comma])) [first]

/-- Items separated by commas, the commas included. -/
def commaList (c : Layout) (item : Reader Item) (ends : Token → Bool) : Reader (List Item) := do
  commaRest c item ends (← item)

/-- Items between brackets, the brackets included. -/
def bracketList (kind : Kind) (close : String) (opening : Item) (item : Reader Item) :
    Reader Item := do
  let t ← next
  if t.is close then return .join kind [opening, ← takeMark]
  else
    let items ← commaList .inside item (·.is close)
    return .join kind (opening :: items ++ [← expect .inside close])

end Reader

end ScriptScope.Syntax
