/-!
# Text literals

The text literal at the start of a list of characters: marks such as `r` and `f`, one quote or
three, the body, and the closing quotes. A body between single quotes stays on its line. A backslash
keeps the character after it from ending the literal. In a formatted literal, braces hold
expressions, which are returned for further reading; doubled braces stand for themselves.
-/

namespace ScriptScope.Syntax.Quote

/-- How the body of a literal is read. -/
structure Style where
  quote : Char
  triple : Bool
  raw : Bool
  formatted : Bool
  deriving DecidableEq, Repr

/-- What was read of a literal: its characters, the expressions in its braces, and the rest. -/
structure Body where
  taken : List Char
  holes : List (List Char)
  rest : List Char

namespace Body

/-- Puts characters in front of what was read. -/
def after (cs : List Char) (b : Body) : Body :=
  { b with taken := cs ++ b.taken }

end Body

/-- The marks that may stand before the opening quote. -/
def isMark (c : Char) : Bool :=
  ['f', 'F', 'r', 'R', 'b', 'B', 'u', 'U'].contains c

/-- The closing quotes, if they stand first. -/
def closing? (style : Style) (cs : List Char) : Option (List Char × List Char) :=
  let wanted := List.replicate (if style.triple then 3 else 1) style.quote
  (wanted.isPrefixOf? cs).map (wanted, ·)

/-- The length of what a backslash covers, itself included. -/
def escapeLength (style : Style) : List Char → Nat
  | [] => 1
  | '\r' :: '\n' :: _ => 3
  | c :: rest =>
    if style.raw then (if c == style.quote || c == '\\' || c == '\n' then 2 else 1)
    else if style.formatted then
      if c == 'N' && rest.head? == some '\x7b' then (rest.takeWhile (· != '\x7d')).length + 3
      else if c == '\x7b' || c == '\x7d' then 1
      else 2
    else 2

mutual

/-- Reads the body of a literal up to its closing quotes. -/
def body : Nat → Style → List Char → Option Body
  | 0, _, _ => none
  | fuel + 1, style, cs =>
    match closing? style cs with
    | some (close, rest) => some ⟨close, [], rest⟩
    | none =>
      match cs with
      | [] => none
      | '\\' :: rest =>
        let length := escapeLength style rest - 1
        (body fuel style (rest.drop length)).map (·.after ('\\' :: rest.take length))
      | '\n' :: rest => if style.triple then (body fuel style rest).map (·.after ['\n']) else none
      | c :: rest =>
        if style.formatted && (c == '\x7b' || c == '\x7d') then
          if rest.head? == some c then (body fuel style (rest.drop 1)).map (·.after [c, c])
          else if c == '\x7d' then none
          else do
            let h ← hole fuel 0 rest
            let b ← body fuel style h.rest
            return ⟨c :: h.taken ++ b.taken, h.holes ++ b.holes, b.rest⟩
        else (body fuel style rest).map (·.after [c])

/-- Reads an expression in braces up to the closing brace, at a depth of open brackets. The first of
the holes is the expression itself. -/
def hole : Nat → Nat → List Char → Option Body
  | 0, _, _ => none
  | fuel + 1, depth, cs =>
    match cs with
    | [] => none
    | c :: rest =>
      if c == '\x7d' && depth == 0 then some ⟨[c], [[]], rest⟩
      else if depth == 0 && (c == ':' || (c == '!' && rest.head? != some '=')) then do
        let f ← format fuel rest
        return ⟨c :: f.taken, [] :: f.holes, f.rest⟩
      else if c == '"' || c == '\'' then do
        let (taken, rest) ← literal fuel cs
        let h ← hole fuel depth rest
        return extend taken h
      else if c == '(' || c == '[' || c == '\x7b' then (hole fuel (depth + 1) rest).map (extend [c])
      else if c == ')' || c == ']' || c == '\x7d' then (hole fuel (depth - 1) rest).map (extend [c])
      else (hole fuel depth rest).map (extend [c])
where
  /-- Puts characters in front of an expression in braces. -/
  extend (cs : List Char) (b : Body) : Body :=
    match b.holes with
    | [] => b.after cs
    | first :: others => ⟨cs ++ b.taken, (cs ++ first) :: others, b.rest⟩

/-- Reads a format up to the closing brace; braces inside it hold expressions again. -/
def format : Nat → List Char → Option Body
  | 0, _ => none
  | fuel + 1, cs =>
    match cs with
    | [] => none
    | c :: rest =>
      if c == '\x7d' then some ⟨[c], [], rest⟩
      else if c == '\x7b' then do
        let h ← hole fuel 0 rest
        let f ← format fuel h.rest
        return ⟨c :: h.taken ++ f.taken, h.holes ++ f.holes, f.rest⟩
      else (format fuel rest).map (·.after [c])

/-- Reads a literal without marks inside an expression. -/
def literal : Nat → List Char → Option (List Char × List Char)
  | 0, _ => none
  | fuel + 1, cs =>
    match cs with
    | [] => none
    | quote :: rest =>
      let triple := [quote, quote].isPrefixOf rest
      let opening := if triple then [quote, quote] else []
      (body fuel ⟨quote, triple, false, false⟩ (rest.drop opening.length)).map
        (fun b => (quote :: opening ++ b.taken, b.rest))

end

/-- The style of the literal at the start of a text, its opening, and what follows; absent if no
literal starts there. -/
def opening? (cs : List Char) : Option (Style × List Char × List Char) :=
  let marks := cs.takeWhile isMark
  match cs.dropWhile isMark with
  | [] => none
  | quote :: rest =>
    if quote == '"' || quote == '\'' || quote == '\x60' then
      let triple := quote != '\x60' && [quote, quote].isPrefixOf rest
      let more := if triple then [quote, quote] else []
      let style : Style :=
        { quote, triple
          raw := marks.contains 'r' || marks.contains 'R'
          formatted := marks.contains 'f' || marks.contains 'F' }
      some (style, marks ++ quote :: more, rest.drop more.length)
    else none

/-- The literal at the start of a text: absent outside if none starts there, inside if it does not
end. -/
def scan (cs : List Char) : Option (Option Body) :=
  (opening? cs).map (fun (style, opening, rest) =>
    (body (2 * rest.length + 2) style rest).map (·.after opening))

end ScriptScope.Syntax.Quote
