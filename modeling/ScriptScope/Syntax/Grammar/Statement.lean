import ScriptScope.Syntax.Grammar.Expression

/-!
# The grammar of statements

Simple statements stand on a line, several of them separated by semicolons. Compound statements have
a head that ends with a colon, and a suite: simple statements on the same line, or a block of lines
that are indented deeper than the current block; without either the block is empty. A line that is
indented less than its block ends it, while a line that is indented more is just the next statement.

`ofText` reads a whole script. A text that fits no construct gives a tree with an error in it.
-/

namespace ScriptScope.Syntax.Statement

open Reader

/-! ### Imports -/

/-- The text of tokens one after the other, without what stands before the first. -/
def sliceText : List Token → String
  | [] => ""
  | first :: rest => first.text ++ String.join (rest.map (fun t => t.lead ++ t.text))

/-- A node that covers some tokens and keeps their text. -/
def covering (kind : Kind) (tokens : List Token) : Item :=
  let first := tokens.headD .atEnd
  ⟨first.extras, { kind, text := sliceText tokens, row := first.row }⟩

/-- The tokens of names separated by dots. -/
def dottedTokens (c : Layout) : Reader (List Token) := do
  let word : Reader Token := do
    let t ← required c
    if t.lexeme == .word then takeToken else failHere
  let first ← word
  loop (fun tokens => do
    if ← follows c "." then
      let dot ← takeToken
      return some (tokens ++ [dot, ← word])
    else return none) [first]

/-- Names separated by dots. -/
def dottedName (c : Layout) : Reader Item := do
  return covering .dottedName (← dottedTokens c)

/-- A name of an import, possibly renamed. -/
def importItem (c : Layout) : Reader Item := do
  let path ← dottedName c
  match ← accept c "as" with
  | none => return path.as .name
  | some word =>
    return (Item.join .aliasedImport [path.as .name, word, (← name c).as .newName]).as .name

/-- Whether a list of imports ends before a token. -/
def endsImports (t : Token) : Bool :=
  t.is ")" || t.is ";" || t.lexeme == .stop

/-- `import a, b.c as d`. -/
def importNames (c : Layout) : Reader Item := do
  let keyword ← takeMark
  return .join .importStatement (keyword :: (← commaList c (importItem c) (fun _ => false)))

/-- Where names are imported from: dots and a dotted name. -/
def importSource (c : Layout) : Reader Item := do
  let isDots (t : Token) : Bool := t.is "." || t.is "..."
  let dots ← loop (fun tokens => do
    let t ← next
    if c.reaches t && isDots t then return some (tokens ++ [← takeToken]) else return none) []
  if dots.isEmpty then dottedName c
  else
    let t ← next
    if c.reaches t && t.lexeme == .word && t.text != "import" then
      return covering .relativeImport (dots ++ (← dottedTokens c))
    else return covering .relativeImport dots

/-- `from a.b import c, d as e` and its variants. -/
def importFrom (c : Layout) : Reader Item := do
  let keyword ← takeMark
  let source ← importSource c
  let word ← expect c "import"
  let names ←
    if (← required c).is "*" then pure [← takeAs .wildcardImport]
    else if (← next).is "(" then do
      let opening ← takeMark
      let items ← commaList .inside (importItem .inside) (·.is ")")
      pure (opening :: items ++ [← expect .inside ")"])
    else commaList c (importItem c) endsImports
  if source.node.text == "__future__" then
    return .join (.other "future_import_statement") (keyword :: source :: word :: names)
  else return .join .importFromStatement (keyword :: source.as .moduleName :: word :: names)

/-! ### Simple statements -/

/-- Whether a simple statement ends before the next token. -/
def atEnd (c : Layout) : Reader Bool := do
  let t ← next
  return !c.continues t || t.is ";" || t.lexeme == .stop

/-- Nothing, or a list of expressions as one node. -/
def optionalList (self : Expression.Self) (c : Layout) : Reader (List Item) := do
  if ← atEnd c then return [] else return [Expression.listNode (← Expression.bareList self c)]

/-- A statement that is an expression, an assignment or a yielded value. -/
def expression (self : Expression.Self) (c : Layout) : Reader Item := do
  if (← next).is "yield" then return .join .expressionStatement [← Expression.yielded self c]
  let items ← Expression.bareList self c
  match ← Expression.assignment? self c items with
  | some assignment => return .join .expressionStatement [assignment]
  | none => return .join .expressionStatement items

/-- An expression statement with nothing after it. -/
def expressionAlone (self : Expression.Self) (c : Layout) : Reader Item := do
  let item ← expression self c
  if ← atEnd c then return item else failHere

/-- `print a, b` and `print >>a, b`. -/
def printed (self : Expression.Self) (c : Layout) : Reader Item := do
  let keyword ← takeMark
  let chevron ←
    if (← next).is ">>" then do
      let arrows ← takeMark
      pure [.join (.other "chevron") [arrows, ← self .full c]]
    else pure []
  let items ←
    if chevron.isEmpty then commaList c (self .full c) Expression.endsList
    else match ← accept c "," with
      | none => pure []
      | some comma => do
        if ← atEnd c then pure [comma]
        else pure (comma :: (← commaList c (self .full c) Expression.endsList))
  return .join (.other "print_statement") (keyword :: chevron ++ items)

/-- `exec a in b`. -/
def executed (self : Expression.Self) (c : Layout) : Reader Item := do
  let keyword ← takeMark
  let code ← self (.operation 0) c
  match ← accept c "in" with
  | none => return .join (.other "exec_statement") [keyword, code]
  | some word =>
    return .join (.other "exec_statement")
      (keyword :: code :: word :: (← commaList c (self .full c) Expression.endsList))

/-- `type a = b`. -/
def typeAlias (self : Expression.Self) (c : Layout) : Reader Item := do
  let keyword ← takeMark
  let left ← self .full c
  let equals ← expect c "="
  return .join (.other "type_alias_statement") [keyword, left, equals, ← self .full c]

/-- `raise a, b from c`. -/
def raised (self : Expression.Self) (c : Layout) : Reader Item := do
  let keyword ← takeMark
  let values ← if ← follows c "from" then pure [] else optionalList self c
  match ← accept c "from" with
  | none => return .join (.other "raise_statement") (keyword :: values)
  | some word => return .join (.other "raise_statement") (keyword :: values ++ [word, ← self .full c])

/-- A keyword followed by names. -/
def declaration (kind : String) (c : Layout) : Reader Item := do
  let keyword ← takeMark
  return .join (.other kind) (keyword :: (← commaList c (name c) (fun _ => false)))

/-- A statement that may be an expression or start with a word used as a keyword. -/
def softKeyword (self : Expression.Self) (c : Layout) (other : Reader Item) : Reader Item :=
  expressionAlone self c <|> other

/-- A simple statement. -/
def simple (self : Expression.Self) (c : Layout) : Reader Item := do
  let t ← next
  if t.lexeme != .word then expression self c
  else match t.text with
    | "import" => importNames c
    | "from" => importFrom c
    | "print" =>
      if (← afterNext).is ">>" then printed self c else softKeyword self c (printed self c)
    | "exec" => softKeyword self c (executed self c)
    | "type" => softKeyword self c (typeAlias self c)
    | "return" => return .join .returnStatement ((← takeMark) :: (← optionalList self c))
    | "del" =>
      return .join (.other "delete_statement")
        [← takeMark, Expression.listNode (← Expression.bareList self c)]
    | "assert" =>
      return .join (.other "assert_statement")
        ((← takeMark) :: (← commaList c (self .full c) Expression.endsList))
    | "raise" => raised self c
    | "global" => declaration "global_statement" c
    | "nonlocal" => declaration "nonlocal_statement" c
    | "pass" => return .join (.other "pass_statement") [← takeMark]
    | "break" => return .join (.other "break_statement") [← takeMark]
    | "continue" => return .join (.other "continue_statement") [← takeMark]
    | _ => expression self c

/-- The simple statements of a line. -/
def line (self : Expression.Self) (floor : Nat) : Reader (List Item) := do
  let c := Layout.ofLine floor
  let statement : Reader Item := do
    let item ← simple self c
    if ← atEnd c then return item else failHere
  let first ← statement
  loop (fun items => do
    match ← accept c ";" with
    | none => return none
    | some mark =>
      let t ← next
      if !c.continues t || t.lexeme == .stop then return some (items ++ [mark])
      else return some (items ++ [mark, ← statement])) [first]

/-! ### Suites -/

/-- Reads the statements of a block with an indentation. -/
abbrev Block := Nat → Reader (List Item)

/-- What follows the colon of a head. -/
def suite (self : Expression.Self) (block : Block) (floor : Nat) : Reader Item := do
  let t ← next
  match t.indent with
  | none => return (Item.join .block (← line self floor)).as .body
  | some n =>
    if floor < n then return (Item.join .block (← block n)).as .body
    else return (Item.as .body ⟨[], { kind := .block, row := t.row }⟩)

/-- A colon and a suite. -/
def colonSuite (self : Expression.Self) (block : Block) (floor : Nat) : Reader (List Item) := do
  let colon ← expect (.ofHead floor) ":"
  return [colon, ← suite self block floor]

/-- Whether a clause that starts with a word goes on with the statement before it: it starts a line
that is not indented less than the current block. -/
def clauseFollows (floor : Nat) (word : String) : Reader Bool := do
  let t ← next
  return t.is word && (t.indent.map (fun n => decide (floor ≤ n))).getD false

/-- `else: …` or `finally: …`, if it follows. -/
def optionalClause (self : Expression.Self) (block : Block) (floor : Nat) (word : String) (kind : Kind) :
    Reader (List Item) := do
  if ← clauseFollows floor word then
    let keyword ← takeMark
    return [.join kind (keyword :: (← colonSuite self block floor))]
  else return []

/-- A keyword, an expression and a suite. -/
def conditioned (self : Expression.Self) (block : Block) (floor : Nat) : Reader (List Item) := do
  let keyword ← takeMark
  let condition ← self .full (.ofHead floor)
  return keyword :: condition :: (← colonSuite self block floor)

/-! ### Compound statements -/

/-- `if a: … elif b: … else: …`. -/
def branches (self : Expression.Self) (block : Block) (floor : Nat) : Reader Item := do
  let first ← conditioned self block floor
  let others ← loop (fun items => do
    if ← clauseFollows floor "elif" then
      return some (items ++ [.join .elifClause (← conditioned self block floor)])
    else return none) []
  return .join .ifStatement
    (first ++ others ++ (← optionalClause self block floor "else" .elseClause))

/-- `while a: … else: …`. -/
def whileLoop (self : Expression.Self) (block : Block) (floor : Nat) : Reader Item := do
  let first ← conditioned self block floor
  return .join .whileStatement (first ++ (← optionalClause self block floor "else" .elseClause))

/-- `for a in b: … else: …`, after the word `async` if there is one. -/
def forLoop (self : Expression.Self) (block : Block) (floor : Nat) (lead : List Item) :
    Reader Item := do
  let c := Layout.ofHead floor
  let keyword ← takeMark
  let left := (← Expression.loopTargets self c).as .left
  let word ← expect c "in"
  let right := (Expression.listNode (← Expression.bareList self c)).as .right
  let body ← colonSuite self block floor
  return .join .forStatement (lead ++ [keyword, left, word, right] ++ body
    ++ (← optionalClause self block floor "else" .elseClause))

/-- `with a as b, c: …`, after the word `async` if there is one. -/
def withBlock (self : Expression.Self) (block : Block) (floor : Nat) (lead : List Item) :
    Reader Item := do
  let c := Layout.ofHead floor
  let keyword ← takeMark
  let items ← commaList c (self .full c) (·.is ":")
  return .join .withStatement
    (lead ++ [keyword, .join (.other "with_clause") items] ++ (← colonSuite self block floor))

/-- `except a as b: …`, `except a, b: …` or `except* a: …`. -/
def handler (self : Expression.Self) (block : Block) (floor : Nat) : Reader Item := do
  let c := Layout.ofHead floor
  let keyword ← takeMark
  let star ← accept c "*"
  let caught ←
    if (← next).is ":" then pure [] else commaList c (self .full c) (·.is ":")
  let kind := if star.isSome then Kind.exceptGroupClause else .exceptClause
  return .join kind (keyword :: star.toList ++ caught ++ (← colonSuite self block floor))

/-- `try: … except: … else: … finally: …`. -/
def attempt (self : Expression.Self) (block : Block) (floor : Nat) : Reader Item := do
  let keyword ← takeMark
  let body ← colonSuite self block floor
  let handlers ← loop (fun items => do
    if ← clauseFollows floor "except" then return some (items ++ [← handler self block floor])
    else return none) []
  let otherwise ← if handlers.isEmpty then pure []
    else optionalClause self block floor "else" .elseClause
  let cleanup ← optionalClause self block floor "finally" .finallyClause
  if handlers.isEmpty && cleanup.isEmpty then failHere
  return .join .tryStatement (keyword :: body ++ handlers ++ otherwise ++ cleanup)

/-- A type, possibly starred. -/
def typeOf (self : Expression.Self) (c : Layout) : Reader Item := do
  if (← next).is "*" then
    let star ← takeMark
    return .join (.other "type") [star, ← self .full c]
  else return .join (.other "type") [← self .full c]

/-- Type parameters between square brackets, if they follow. -/
def typeParameters (self : Expression.Self) (c : Layout) : Reader (List Item) := do
  match ← accept c "[" with
  | none => return []
  | some opening =>
    let parameter : Reader Item := do
      let t ← next
      let stars ← if t.is "*" || t.is "**" then pure [← takeMark] else pure []
      let name ← self .full .inside
      let bound ← match ← accept .inside ":" with
        | none => pure []
        | some colon => pure [colon, ← self .full .inside]
      let default ← match ← accept .inside "=" with
        | none => pure []
        | some equals => pure [equals, ← self .full .inside]
      return .join (.other "type") (stars ++ name :: bound ++ default)
    return [← bracketList (.other "type_parameter") "]" opening parameter]

/-- A parameter of a function. -/
def parameter (self : Expression.Self) : Reader Item := do
  let c := Layout.inside
  let t ← next
  let plain ←
    if t.is "*" then do
      let star ← takeMark
      if (← next).lexeme == .word then pure (.join .listSplatPattern [star, ← name c])
      else pure (.join (.other "keyword_separator") [star])
    else if t.is "**" then do
      let stars ← takeMark
      pure (.join .dictionarySplatPattern [stars, ← name c])
    else if t.is "/" then do pure (.join (.other "positional_separator") [← takeMark])
    else if t.is "(" then do Expression.target (← self .operand c)
    else name c
  match ← accept c ":" with
  | none =>
    match ← accept c "=" with
    | none => return plain
    | some equals => return .join .defaultParameter [plain.as .name, equals, ← self .full c]
  | some colon =>
    let type := (← typeOf self c).as .type
    match ← accept c "=" with
    | none => return .join .typedParameter [plain, colon, type]
    | some equals =>
      return .join .typedDefaultParameter [plain.as .name, colon, type, equals, ← self .full c]

/-- `def f(a, b=c) -> d: …`, after the word `async` if there is one. -/
def function (self : Expression.Self) (block : Block) (floor : Nat) (lead : List Item) :
    Reader Item := do
  let c := Layout.ofHead floor
  let keyword ← takeMark
  let title := (← name c).as .name
  let types ← typeParameters self c
  let opening ← expect c "("
  let params := (← bracketList (.other "parameters") ")" opening (parameter self)).as .parameters
  let returns ← match ← accept c "->" with
    | none => pure []
    | some arrow => pure [arrow, ← typeOf self c]
  return .join .functionDefinition
    (lead ++ [keyword, title] ++ types ++ [params] ++ returns ++ (← colonSuite self block floor))

/-- `class A(b, c): …`. -/
def classDefinition (self : Expression.Self) (block : Block) (floor : Nat) : Reader Item := do
  let c := Layout.ofHead floor
  let keyword ← takeMark
  let title := (← name c).as .name
  let types ← typeParameters self c
  let bases ←
    if ← follows c "(" then pure [(← Expression.arguments self).as .superclasses] else pure []
  return .join .classDefinition
    (keyword :: title :: types ++ bases ++ (← colonSuite self block floor))

/-- A definition with the word `async` before it, if it is one. -/
def definition (self : Expression.Self) (block : Block) (floor : Nat) : Reader Item := do
  let t ← next
  if t.is "class" then classDefinition self block floor
  else if t.is "def" then function self block floor []
  else if t.is "async" && (← afterNext).is "def" then function self block floor [← takeMark]
  else failHere

/-- A definition with its decorators. -/
def decorated (self : Expression.Self) (block : Block) (floor : Nat) : Reader Item := do
  let c := Layout.ofLine floor
  let decorators ← loop (fun items => do
    let t ← next
    if t.is "@" && (items.isEmpty || c.reaches t) then
      let mark ← takeMark
      let value ← self .full c
      if (← next).indent.isSome then return some (items ++ [.join (.other "decorator") [mark, value]])
      else failHere
    else return none) []
  if !c.reaches (← next) then failHere
  return .join .decoratedDefinition
    (decorators ++ [(← definition self block floor).as .definition])

/-- `case a if b: …`. -/
def caseClause (self : Expression.Self) (block : Block) (floor : Nat) : Reader Item := do
  let c := Layout.ofHead floor
  let keyword ← takeMark
  let pattern : Reader Item := do
    if (← next).is "*" then Expression.splat c (self .operand c) else self .full c.unconditional
  let patterns ← commaList c pattern (fun t => t.is ":" || t.is "if")
  let guard ← match ← accept c "if" with
    | none => pure []
    | some word => pure [.join (.other "if_clause") [word, ← self .full c]]
  return .join (.other "case_clause")
    (keyword :: patterns ++ guard ++ (← colonSuite self block floor))

/-- `match a: case b: …`. -/
def matching (self : Expression.Self) (block : Block) (floor : Nat) : Reader Item := do
  let c := Layout.ofHead floor
  let keyword ← takeMark
  let subjects ← commaList c (self .full c) (·.is ":")
  let colon ← expect c ":"
  let t ← next
  let cases ← match t.indent with
    | none => failHere
    | some n =>
      if floor < n then
        loop (fun items => do
          if ← clauseFollows n "case" then return some (items ++ [← caseClause self block n])
          else return none) []
      else pure []
  let after ← next
  match after.indent, t.indent with
  | some n, some m => if m ≤ n && floor < m then failHere
  | _, _ => failHere
  return .join (.other "match_statement")
    (keyword :: subjects ++ [colon, (Item.join .block cases).as .body])

/-- A statement, or the simple statements of a line. -/
def statement (self : Expression.Self) (block : Block) (floor : Nat) : Reader (List Item) := do
  let t ← next
  if t.is "@" then return [← decorated self block floor]
  else if t.lexeme != .word then line self floor
  else match t.text with
    | "if" => return [← branches self block floor]
    | "while" => return [← whileLoop self block floor]
    | "for" => return [← forLoop self block floor []]
    | "with" => return [← withBlock self block floor []]
    | "try" => return [← attempt self block floor]
    | "def" | "class" => return [← definition self block floor]
    | "match" => line self floor <|> (do return [← matching self block floor])
    | "async" =>
      let u ← afterNext
      if u.is "def" then return [← definition self block floor]
      else if u.is "for" then return [← forLoop self block floor [← takeMark]]
      else if u.is "with" then return [← withBlock self block floor [← takeMark]]
      else line self floor
    | _ => line self floor

/-! ### Blocks and scripts -/

/-- The statements of a block: as long as lines are not indented less than it. -/
def blockOf (self : Expression.Self) (block : Block) (floor : Nat) : Reader (List Item) :=
  loop (fun items => do
    let t ← next
    if t.lexeme == .stop then return none
    else match t.indent with
      | none =>
        if items.isEmpty then return some (← statement self block floor)
        else failHere
      | some n =>
        if n < floor then return none else return some (items ++ (← statement self block floor))) []

/-- Reads a block; the fuel bounds how deep blocks are nested. -/
def block (self : Expression.Self) : Nat → Block
  | 0 => fun _ => failHere
  | fuel + 1 => blockOf self (block self fuel)

/-- The statements of a script, up to its end. -/
def script (fuel : Nat) : Reader Item := do
  let self := Expression.read fuel
  let items ← block self fuel 0
  let t ← next
  if t.lexeme == .stop then
    let nodes := items.flatMap (fun i => i.lead ++ [i.node])
    return ⟨[], { kind := .module, children := nodes ++ t.extras }⟩
  else failHere

/-- The syntax tree of a script. -/
def ofText (text : String) : Node :=
  let cs := text.toList
  match (script (cs.length + 2)).run (tokens cs) with
  | .ok (item, _) => item.node
  | .error row => { kind := .module, children := [{ kind := .error, row }] }

end ScriptScope.Syntax.Statement
