import ScriptScope.Text.Blank
import ScriptScope.Text.Parts

/-!
# Files of variables

A file of variables has one binding a line, `NAME=value`, possibly after the word `export`. A value
may stand between quotes, where it may span lines and have escapes; without quotes it ends at a
comment. Lines that are no binding are skipped. In a value, `${NAME}` stands for the value of a
variable, which may have been bound before in the file, and `${NAME:-text}` gives a text for when
there is none.
-/

namespace ScriptScope.Config.DotEnv

/-- Whether a character is white space that does not end a line. -/
def isInline (c : Char) : Bool :=
  Text.isBlank c && c != '\n' && c != '\r'

/-- Whether a character ends a line. -/
def isLineEnd (c : Char) : Bool :=
  c == '\n' || c == '\r'

/-- Drops one line end. -/
def dropLineEnd : List Char → List Char
  | '\r' :: '\n' :: rest => rest
  | '\r' :: rest | '\n' :: rest => rest
  | cs => cs

/-- What follows the current line. -/
def afterLine (cs : List Char) : List Char :=
  dropLineEnd (cs.dropWhile (fun c => !isLineEnd c))

/-! ### The parts of a binding -/

/-- The body of a quoted value and what follows its closing quote. A quote after a backslash closes
only if no later quote does. -/
def quotedBody? (quote : Char) : List Char → Option (List Char × List Char)
  | [] => none
  | '\\' :: c :: rest =>
    if c == quote then
      match quotedBody? quote rest with
      | some (taken, left) => some ('\\' :: c :: taken, left)
      | none => some (['\\'], rest)
    else (quotedBody? quote (c :: rest)).map (fun (taken, left) => ('\\' :: taken, left))
  | c :: rest =>
    if c == quote then some ([], rest)
    else (quotedBody? quote rest).map (fun (taken, left) => (c :: taken, left))

/-- What a letter after a backslash stands for between double quotes. -/
def escape? (c : Char) : Option Char :=
  match c with
  | '\\' => some '\\'
  | '\'' => some '\''
  | '"' => some '"'
  | 'a' => some '\x07'
  | 'b' => some '\x08'
  | 'f' => some '\x0c'
  | 'n' => some '\n'
  | 'r' => some '\r'
  | 't' => some '\t'
  | 'v' => some '\x0b'
  | _ => none

/-- Replaces escapes by what they stand for. -/
def unescape (allowed : Char → Bool) : List Char → List Char
  | [] => []
  | '\\' :: c :: rest =>
    match if allowed c then escape? c else none with
    | some e => e :: unescape allowed rest
    | none => '\\' :: unescape allowed (c :: rest)
  | c :: rest => c :: unescape allowed rest

/-- A value without quotes ends where white space and a comment follow. -/
def beforeComment : List Char → List Char
  | [] => []
  | c :: rest =>
    if Text.isBlank c && (rest.dropWhile Text.isBlank).head? == some '#' then []
    else c :: beforeComment rest

/-- A value and what follows it. -/
def value? : List Char → Option (List Char × List Char)
  | '\'' :: rest =>
    (quotedBody? '\'' rest).map (fun (body, left) =>
      (unescape (fun c => c == '\\' || c == '\'') body, left))
  | '"' :: rest =>
    (quotedBody? '"' rest).map (fun (body, left) => (unescape (fun _ => true) body, left))
  | cs =>
    let line := cs.takeWhile (fun c => !isLineEnd c)
    some (Text.trimRight (beforeComment line), cs.drop line.length)

/-- Drops the word `export`, if white space follows it. -/
def dropExport (cs : List Char) : List Char :=
  match "export".toList.isPrefixOf? cs with
  | some rest => if (rest.head?.map isInline).getD false then rest.dropWhile isInline else cs
  | none => cs

/-- A name and what follows it; a comment has no name. -/
def key? : List Char → Option (Option (List Char) × List Char)
  | '#' :: rest => some (none, '#' :: rest)
  | '\'' :: rest =>
    let name := rest.takeWhile (· != '\'')
    match rest.drop name.length with
    | '\'' :: left => if name.isEmpty then none else some (some name, left)
    | _ => none
  | cs =>
    let name := cs.takeWhile (fun c => c != '=' && c != '#' && !Text.isBlank c)
    if name.isEmpty then none else some (some name, cs.drop name.length)

/-- What follows a binding, if nothing but a comment stands behind it on its line. -/
def lineRest? (cs : List Char) : Option (List Char) :=
  let cs := cs.dropWhile isInline
  let cs := if cs.head? == some '#' then cs.dropWhile (fun c => !isLineEnd c) else cs
  match cs with
  | [] => some []
  | c :: rest => if isLineEnd c then some (dropLineEnd (c :: rest)) else none

/-- A binding at the start of a text: its name and value, as far as it has them, and what follows.
-/
def binding? (cs : List Char) : Option (Option (String × Option String) × List Char) := do
  let (name, cs) ← key? (dropExport cs)
  let cs := cs.dropWhile isInline
  let (value, cs) ← match cs with
    | '=' :: rest => (value? (rest.dropWhile isInline)).map (fun (v, left) => (some v, left))
    | cs => some (none, cs)
  let rest ← lineRest? cs
  return (name.map (fun n => (String.ofList n, value.map String.ofList)), rest)

/-- The bindings of a text in order. The fuel bounds their number. -/
def bindingsFrom : Nat → List Char → List (String × Option String)
  | 0, _ => []
  | fuel + 1, cs =>
    let cs := cs.dropWhile Text.isBlank
    if cs.isEmpty then []
    else match binding? cs with
      | some (found, rest) => found.toList ++ bindingsFrom fuel rest
      | none => bindingsFrom fuel (afterLine cs)

/-! ### References to variables -/

/-- A reference after its opening: its name, its default, and what follows. -/
def reference? (cs : List Char) : Option (String × String × List Char) :=
  let name := cs.takeWhile (fun c => c != '\x7d' && c != ':')
  match cs.drop name.length with
  | '\x7d' :: rest => some (String.ofList name, "", rest)
  | ':' :: '-' :: rest =>
    let default := rest.takeWhile (· != '\x7d')
    match rest.drop default.length with
    | '\x7d' :: left => some (String.ofList name, String.ofList default, left)
    | _ => none
  | _ => none

/-- Replaces references by the values of variables, where a value may be absent in two ways: a name
that is not there at all leaves room for the default. The fuel bounds the number of steps. -/
def expandFrom (valueOf : String → Option (Option String)) : Nat → List Char → List Char
  | 0, cs => cs
  | fuel + 1, cs =>
    match cs with
    | '$' :: '\x7b' :: rest =>
      match reference? rest with
      | some (name, default, left) =>
        (((valueOf name).getD (some default)).getD "").toList ++ expandFrom valueOf fuel left
      | none => '$' :: expandFrom valueOf fuel ('\x7b' :: rest)
    | c :: rest => c :: expandFrom valueOf fuel rest
    | [] => []

/-- The names that a text refers to. -/
def references : List Char → List String
  | '$' :: '\x7b' :: rest => ((reference? rest).map Prod.fst).toList ++ references rest
  | _ :: rest => references rest
  | [] => []

/-- The value of a variable in a list of bindings; the last one counts. -/
def last? {α : Type} (bindings : List (String × α)) (name : String) : Option α :=
  (bindings.reverse.find? (fun b => b.1 == name)).map (·.2)

/-- Binds a name; a name that is bound already keeps its position. -/
def assign {α : Type} (name : String) (value : α) : List (String × α) → List (String × α)
  | [] => [(name, value)]
  | b :: rest => if b.1 == name then (name, value) :: rest else b :: assign name value rest

/-- The names that a text binds, with references replaced; a name may stand without a value.
Bindings of the file itself go before those of the environment. -/
def read (environment : List (String × String)) (text : String) : List (String × Option String) :=
  let cs := text.toList
  (bindingsFrom (cs.length + 1) cs).foldl (fun done (name, value) =>
    let valueOf (other : String) : Option (Option String) :=
      last? done other <|> (last? environment other).map some
    let expanded := value.map (fun v => String.ofList (expandFrom valueOf (v.length + 1) v.toList))
    assign name expanded done) []

end ScriptScope.Config.DotEnv
