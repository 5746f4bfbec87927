import ScriptScope.Syntax.Grammar.Reader

/-!
# The grammar of expressions

The readers below describe one level of an expression and call `self` for the expressions inside it;
`Expression.read` closes the circle. Every call of `self` comes after at least one token was taken,
so a text cannot nest deeper than it has tokens.

The grammar is lenient: it accepts both generations of the language and checks nothing that does not
show in the tree.
-/

namespace ScriptScope.Syntax.Expression

open Reader

/-- What the readers call each other for. -/
inductive Goal where
  /-- A whole expression. -/
  | full
  /-- An operand with its member accesses, calls and subscripts. -/
  | operand
  /-- Operands joined by operators that bind at least as strongly as a level. -/
  | operation (level : Nat)
  /-- The right side of an assignment. -/
  | rightSide

/-- A reader for the expressions inside an expression. -/
abbrev Self := Goal → Layout → Reader Item

/-- The words that are never names in an expression. -/
def reserved : List String :=
  ["and", "as", "assert", "break", "class", "continue", "def", "del", "elif", "else", "except",
    "finally", "for", "from", "global", "if", "import", "in", "is", "lambda", "nonlocal", "not", "or",
    "pass", "raise", "return", "try", "while", "with", "yield"]

/-- The kind of a word that stands for itself, or that of names. -/
def wordKind (word : String) : Kind :=
  match word with
  | "True" => .other "true"
  | "False" => .other "false"
  | "None" => .other "none"
  | _ => .identifier

/-! ### Targets -/

/-- Whether a node stands for something: it is neither punctuation nor between the parts. -/
def isPart (n : Node) : Bool :=
  n.named && n.kind != .comment && n.kind != .other "line_continuation"

mutual

/-- An expression as a target of an assignment, if it can be one. -/
def asTarget : Node → Option Node
  | ⟨kind, text, role, row, named, missing, flagged, unreadable, children⟩ =>
    match kind with
    | .identifier | .memberAccess | .other "subscript" =>
      some ⟨kind, text, role, row, named, missing, flagged, unreadable, children⟩
    | .parenthesized | .tuple =>
      (asTargets children).map (fun parts =>
        ⟨.tuplePattern, text, role, row, named, missing, flagged, unreadable, parts⟩)
    | .list =>
      (asTargets children).map (fun parts =>
        ⟨.listPattern, text, role, row, named, missing, flagged, unreadable, parts⟩)
    | .listSplat =>
      (asTargets children).map (fun parts =>
        ⟨.listSplatPattern, text, role, row, named, missing, flagged, unreadable, parts⟩)
    | _ => none

/-- The parts of an expression as targets; what stands between them stays. -/
def asTargets : List Node → Option (List Node)
  | [] => some []
  | n :: rest => do
    let first ← if isPart n then asTarget n else some n
    let others ← asTargets rest
    return first :: others

end

/-- An item as a target. -/
def target (item : Item) : Reader Item := do
  match asTarget item.node with
  | some node => return { item with node }
  | none => failHere

/-- Items separated by commas as one target. -/
def targetList (items : List Item) : Reader Item := do
  match items with
  | [single] => target single
  | items =>
    let parts ← items.mapM (fun i => if i.node.named then target i else pure i)
    return .join .patternList parts

/-! ### Comprehensions -/

/-- A starred element: what the star applies to is read by `inner`. -/
def splat (c : Layout) (inner : Reader Item) : Reader Item := do
  let star ← expect c "*"
  return .join .listSplat [star, ← inner]

/-- The targets of a loop up to `in`. -/
def loopTargets (self : Self) (c : Layout) : Reader Item := do
  let one : Reader Item := do
    if (← next).is "*" then splat c (self .operand c) else self .operand c
  targetList (← commaList c one (·.is "in"))

/-- Whether a clause of a comprehension follows. -/
def clauseFollows (c : Layout) : Reader Bool := do
  let t ← next
  let u ← afterNext
  return c.continues t && (t.is "for" || (t.is "async" && u.is "for"))

/-- The clauses of a comprehension. -/
def clauses (self : Self) (c : Layout) : Reader (List Item) :=
  loop (fun items => do
    if ← clauseFollows c then
      let lead ← if (← next).is "async" then pure [← takeMark] else pure []
      let keyword ← takeMark
      let left := (← loopTargets self c).as .left
      let inWord ← expect c "in"
      let right ← commaList c (self .full c.unconditional)
        (fun t => t.is ")" || t.is "]" || t.is "\x7d" || t.is "for" || t.is "if" || t.is "async")
      let parts := lead ++ [keyword, left, inWord] ++ right
      return some (items ++ [.join (.other "for_in_clause") parts])
    else if !items.isEmpty && (← follows c "if") then
      let keyword ← takeMark
      return some (items ++ [.join (.other "if_clause") [keyword, ← self .full c.unconditional]])
    else return none) []

/-! ### Atoms -/

/-- An element between brackets. -/
def element (self : Self) : Reader Item := do
  let t ← next
  if t.is "*" then splat .inside (self .full .inside)
  else if t.is "yield" then self .rightSide .inside
  else self .full .inside

/-- What stands in parentheses: nothing or several elements make a tuple, one makes a group. -/
def parens (self : Self) : Reader Item := do
  let opening ← takeMark
  if (← next).is ")" then return .join .tuple [opening, ← takeMark]
  let first ← element self
  if ← clauseFollows .inside then
    let rest ← clauses self .inside
    return .join (.other "generator_expression") (opening :: first :: rest ++ [← expect .inside ")"])
  let t ← next
  if t.is ")" then
    let kind := if first.node.kind == .listSplat then Kind.tuple else .parenthesized
    return .join kind [opening, first, ← takeMark]
  let items ← commaRest .inside (element self) (·.is ")") first
  return .join .tuple (opening :: items ++ [← expect .inside ")"])

/-- A list or a list comprehension. -/
def brackets (self : Self) : Reader Item := do
  let opening ← takeMark
  if (← next).is "]" then return .join .list [opening, ← takeMark]
  let first ← element self
  if ← clauseFollows .inside then
    let rest ← clauses self .inside
    return .join (.other "list_comprehension") (opening :: first :: rest ++ [← expect .inside "]"])
  let items ← commaRest .inside (element self) (·.is "]") first
  return .join .list (opening :: items ++ [← expect .inside "]"])

/-- An entry of a dictionary, or an element of a set. -/
def entry (self : Self) : Reader Item := do
  let t ← next
  if t.is "**" then
    let stars ← takeMark
    return .join (.other "dictionary_splat") [stars, ← self .full .inside]
  let key ← element self
  match ← accept .inside ":" with
  | none => return key
  | some colon => return .join (.other "pair") [key, colon, ← self .full .inside]

/-- A dictionary, a set, or a comprehension of either. -/
def braces (self : Self) : Reader Item := do
  let opening ← takeMark
  if (← next).is "\x7d" then return .join (.other "dictionary") [opening, ← takeMark]
  let first ← entry self
  let isPair := first.node.kind == .other "pair" || first.node.kind == .other "dictionary_splat"
  if ← clauseFollows .inside then
    let rest ← clauses self .inside
    let kind := if isPair then "dictionary_comprehension" else "set_comprehension"
    return .join (.other kind) (opening :: first :: rest ++ [← expect .inside "\x7d"])
  let items ← commaRest .inside (entry self) (·.is "\x7d") first
  let kind := if isPair then "dictionary" else "set"
  return .join (.other kind) (opening :: items ++ [← expect .inside "\x7d"])

/-- Checks the expressions in the braces of a text literal. -/
def checkHoles (self : Self) (holes : List (List Char)) : Reader Unit := do
  let saved ← get
  for hole in holes do
    set (tokens hole)
    let _ ← self .rightSide .inside
    let _ ← accept .inside "="
    if (← next).lexeme != .stop then failHere
    set saved

/-- Text literals, one after the other. -/
def texts (self : Self) (c : Layout) : Reader Item := do
  let items ← loop (fun items => do
    let t ← next
    match t.lexeme with
    | .text holes =>
      if items.isEmpty || c.continues t then
        checkHoles self holes
        return some (items ++ [← takeAs .string])
      else return none
    | _ => return none) []
  match items with
  | [single] => return single
  | items => return .join .concatenatedString items

/-- An operand without anything attached to it. -/
def atom (self : Self) (c : Layout) : Reader Item := do
  let t ← required c
  match t.lexeme with
  | .word => if reserved.contains t.text then failHere else takeAs (wordKind t.text)
  | .number kind => takeAs kind
  | .text _ => texts self c
  | .mark =>
    if t.text == "(" then parens self
    else if t.text == "[" then brackets self
    else if t.text == "\x7b" then braces self
    else if t.text == "..." then takeAs (.other "ellipsis")
    else failHere
  | .stray | .stop => failHere

/-! ### Calls, subscripts and member accesses -/

/-- An argument of a call. -/
def argument (self : Self) : Reader Item := do
  let t ← next
  if t.is "*" then splat .inside (self .full .inside)
  else if t.is "**" then
    let stars ← takeMark
    return .join (.other "dictionary_splat") [stars, ← self .full .inside]
  else if t.lexeme == .word && (← afterNext).is "=" then
    let key := (← takeAs .identifier).as .name
    let equals ← takeMark
    return .join .keywordArgument [key, equals, ← self .full .inside]
  else
    let value ← self .full .inside
    if ← clauseFollows .inside then
      return .join (.other "generator_expression") (value :: (← clauses self .inside))
    else return value

/-- The arguments of a call or the superclasses of a class. -/
def arguments (self : Self) : Reader Item := do
  bracketList (.other "argument_list") ")" (← takeMark) (argument self)

/-- A slice, or any other expression between square brackets. -/
def slice (self : Self) : Reader Item := do
  let ends (t : Token) : Bool := t.is ":" || t.is "," || t.is "]"
  let optional : Reader (List Item) := do
    if ends (← next) then return [] else return [← element self]
  let first ← optional
  let rest ← loop (fun items => do
    match ← accept .inside ":" with
    | none => return none
    | some colon => return some (items ++ [colon] ++ (← optional))) []
  match first, rest with
  | [single], [] => return single
  | [], [] => failHere
  | first, rest => return .join (.other "slice") (first ++ rest)

/-- An operand with its member accesses, calls and subscripts. -/
def postfixed (self : Self) (c : Layout) : Reader Item := do
  loop (fun base => do
    let t ← next
    if !c.continues t then return none
    else if t.is "." then
      let dot ← takeMark
      let member := (← name c).as .member
      return some (.join .memberAccess [base.as .object, dot, member])
    else if t.is "(" then
      return some (.join .call [base.as .function, (← arguments self).as .arguments])
    else if t.is "[" then
      let opening ← takeMark
      let items ← commaList .inside (slice self) (·.is "]")
      return some (.join (.other "subscript") (base :: opening :: items ++ [← expect .inside "]"]))
    else return none) (← atom self c)

/-! ### Operators -/

/-- How strongly a binary operator binds. -/
def level? (mark : String) : Option Nat :=
  match mark with
  | "|" => some 1
  | "^" => some 2
  | "&" => some 3
  | "<<" | ">>" => some 4
  | "+" | "-" => some 5
  | "*" | "/" | "//" | "%" | "@" => some 6
  | _ => none

/-- The level of operators that stand before their operand. -/
def signLevel : Nat := 7

/-- An operand with the power it is raised to. The exponent may have signs of its own. -/
def power (self : Self) (c : Layout) : Reader Item := do
  let t ← required c
  let base ←
    if t.is "await" then
      (do
        let keyword ← takeMark
        return .join (.other "await") [keyword, ← postfixed self c]) <|> postfixed self c
    else postfixed self c
  match ← accept c "**" with
  | none => return base
  | some operator =>
    let exponent ← self (.operation signLevel) c
    return .join .binaryOperator [base.as .left, operator, exponent.as .right]

/-- An operand with its signs. -/
def signed (self : Self) (c : Layout) : Reader Item := do
  let t ← required c
  if t.is "-" || t.is "+" || t.is "~" then
    let sign ← takeMark
    let operand ← self (.operation signLevel) c
    return .join .unaryOperator [sign, operand.as .argument]
  else power self c

/-- Operands joined by operators that bind at least as strongly as a level. -/
def operation (self : Self) (level : Nat) (c : Layout) : Reader Item := do
  loop (fun left => do
    let t ← next
    match if c.continues t && t.lexeme == .mark then level? t.text else none with
    | none => return none
    | some strength =>
      if strength < level then return none
      else
        let operator ← takeMark
        let right ← self (.operation (strength + 1)) c
        return some (.join .binaryOperator [left.as .left, operator, right.as .right]))
    (← signed self c)

/-- A comparison operator, if one follows. -/
def comparator (c : Layout) : Reader (Option (List Item)) := do
  let t ← next
  if !c.continues t then return none
  else if ["<", ">", "<=", ">=", "==", "!=", "<>"].any t.is || t.is "in" then
    return some [← takeMark]
  else if t.is "is" then
    let word ← takeMark
    match ← accept c "not" with
    | some other => return some [word, other]
    | none => return some [word]
  else if t.is "not" && (← afterNext).is "in" then
    return some [← takeMark, ← takeMark]
  else return none

/-- Operands joined by comparisons. -/
def comparison (self : Self) (c : Layout) : Reader Item := do
  let first ← operation self 0 c
  let rest ← loop (fun items => do
    match ← comparator c with
    | none => return none
    | some words => return some (items ++ words ++ [← self (.operation 0) c])) []
  if rest.isEmpty then return first
  else return .join (.other "comparison_operator") (first :: rest)

/-- A comparison with its negations, or a function without a name. -/
def negation (lambda comparison : Layout → Reader Item)
    (c : Layout) : Reader Item := do
  let negations ← loop (fun items => do
    let t ← next
    if (if items.isEmpty then c.continues t else c.reaches t) && t.is "not" then
      return some (items ++ [← takeMark])
    else return none) []
  let t ← required c
  let inner ← if t.is "lambda" then lambda c else comparison c
  return negations.foldr (fun word operand => .join (.other "not_operator") [word, operand]) inner

/-- Operands joined by a keyword. -/
def joined (word : String) (operand : Layout → Reader Item) (c : Layout) : Reader Item := do
  loop (fun left => do
    match ← accept c word with
    | none => return none
    | some keyword =>
      return some (.join (.other "boolean_operator") [left, keyword, ← operand c])) (← operand c)

/-! ### Functions without a name -/

/-- A parameter of a function without a name. -/
def lambdaParameter (self : Self) (c : Layout) : Reader Item := do
  let t ← required c
  let plain ←
    if t.is "*" || t.is "**" then do
      let stars ← takeMark
      let t ← next
      if t.lexeme == .word then pure (.join .listSplatPattern [stars, ← name c]) else pure stars
    else if t.is "/" then takeMark
    else if t.is "(" then do
      let opening ← takeMark
      bracketList .tuplePattern ")" opening (element self)
    else name c
  match ← accept c "=" with
  | none => return plain
  | some equals => return .join .defaultParameter [plain.as .name, equals, ← self .full c]

/-- A function without a name. -/
def lambda (self : Self) (c : Layout) : Reader Item := do
  let keyword ← takeMark
  let head := c.opened
  let params ←
    if (← next).is ":" then pure []
    else pure [.join (.other "lambda_parameters")
      (← commaList head (lambdaParameter self head) (·.is ":"))]
  let colon ← expect head ":"
  return .join (.other "lambda") (keyword :: params ++ [colon, ← self .full c])

/-! ### Whole expressions -/

/-- An expression without a condition or a name after it. -/
def disjunction (self : Self) (c : Layout) : Reader Item :=
  joined "or" (joined "and" (negation (lambda self) (comparison self))) c

/-- A whole expression: a condition, a value for a name, or a name for a value may follow. -/
def full (self : Self) (c : Layout) : Reader Item := do
  let body ← disjunction self c
  let value ←
    if c.conditional && (← follows c "if") then
      let ifWord ← takeMark
      let condition ← self .full c.opened
      let elseWord ← expect c.opened "else"
      pure (.join (.other "conditional_expression")
        [body, ifWord, condition, elseWord, ← self .full c])
    else if body.node.kind == .identifier && (← follows c ":=") then
      let walrus ← takeMark
      pure (.join (.other "named_expression") [body.as .name, walrus, ← self .full c])
    else pure body
  loop (fun value => do
    match ← accept c "as" with
    | none => return none
    | some word =>
      return some (.join (.other "as_pattern") [value, word, ← self (.operation 0) c])) value

/-! ### Right sides and bare lists -/

/-- The operators that change what a name stands for. -/
def augmented : List String :=
  ["+=", "-=", "*=", "/=", "//=", "%=", "@=", "&=", "|=", "^=", "<<=", ">>=", "**="]

/-- Whether a bare list of expressions ends before a token. -/
def endsList (t : Token) : Bool :=
  ["=", ":", ";", ")", "]", "\x7d", "in", "from"].any t.is || augmented.any t.is
    || t.lexeme == .stop

/-- An expression or a starred operand. -/
def starred (self : Self) (c : Layout) : Reader Item := do
  if (← required c).is "*" then splat c (postfixed self c) else full self c

/-- Expressions separated by commas. -/
def bareList (self : Self) (c : Layout) : Reader (List Item) :=
  commaList c (starred self c) endsList

/-- Expressions separated by commas, as one node. -/
def listNode (items : List Item) : Item :=
  match items with
  | [single] => single
  | items => .join .expressionList items

/-- A yielded value. -/
def yielded (self : Self) (c : Layout) : Reader Item := do
  let keyword ← expect c "yield"
  let t ← next
  if !c.continues t || endsList t && !t.is "from" then return .join .yield [keyword]
  else if t.is "from" then
    let word ← takeMark
    return .join .yield [keyword, word, ← self .full c]
  else return .join .yield [keyword, listNode (← bareList self c)]

/-- An assignment after its left side, if one follows. -/
def assignment? (self : Self) (c : Layout) (left : List Item) : Reader (Option Item) := do
  let t ← next
  if !c.continues t then return none
  else if t.is "=" then
    let left := (← targetList left).as .left
    let equals ← takeMark
    return some (.join .assignment [left, equals, (← self .rightSide c).as .right])
  else if t.is ":" && !c.bracketed then
    let left := (← targetList left).as .left
    let colon ← takeMark
    let type := (← self .full c).as .type
    match ← accept c "=" with
    | none => return some (.join .assignment [left, colon, type])
    | some equals =>
      return some (.join .assignment
        [left, colon, type, equals, (← self .rightSide c).as .right])
  else if augmented.any t.is then
    let left := (← targetList left).as .left
    let operator ← takeMark
    return some (.join .augmentedAssignment [left, operator, (← self .rightSide c).as .right])
  else return none

/-- The right side of an assignment: a yielded value, expressions, or another assignment. -/
def rightSide (self : Self) (c : Layout) : Reader Item := do
  if (← required c).is "yield" then yielded self c
  else
    let items ← bareList self c
    if c.bracketed then return listNode items
    match ← assignment? self c items with
    | some inner => return inner
    | none => return listNode items

/-! ### Closing the circle -/

/-- Reads an expression; the fuel bounds how deep expressions are nested. -/
def read : Nat → Self
  | 0 => fun _ _ => failHere
  | fuel + 1 => fun goal c =>
    match goal with
    | .full => full (read fuel) c
    | .operand => postfixed (read fuel) c
    | .operation level =>
      if level = signLevel then signed (read fuel) c else operation (read fuel) level c
    | .rightSide => rightSide (read fuel) c

end ScriptScope.Syntax.Expression
