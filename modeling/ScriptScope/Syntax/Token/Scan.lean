import ScriptScope.Syntax.Node
import ScriptScope.Syntax.Token.Number
import ScriptScope.Syntax.Token.Quote
import ScriptScope.Text.Blank
import ScriptScope.Text.Identifier

/-!
# Tokens

A script's text as a list of tokens. A token keeps the text before it, so that nothing of the script
is lost, and the comments and line continuations in it, which are part of the syntax tree. A token
that is the first of its line also knows how far the line is indented; whether the line break before
it means anything is for the grammar to say. The list ends with a token that stands for the end of
the text.

A line break resets the indentation, a space adds one to it and a tab eight; a carriage return or a
form feed resets it too. A line continuation neither breaks the line nor resets the indentation.
-/

namespace ScriptScope.Syntax

/-- What a token is. -/
inductive Lexeme where
  /-- A name or a keyword. -/
  | word
  | number (kind : Kind)
  /-- A text literal, with the expressions in its braces. -/
  | text (holes : List (List Char))
  /-- An operator or a punctuation mark. -/
  | mark
  /-- Something that is no part of the language. -/
  | stray
  /-- The end of the text. -/
  | stop
  deriving DecidableEq, Repr

/-- A token with what stands before it. -/
structure Token where
  lexeme : Lexeme
  text : String
  /-- The text between the token before and this one. -/
  lead : String
  /-- The comments and line continuations in that text. -/
  extras : List Node
  row : Nat
  /-- The indentation, if the token is the first of its line. -/
  indent : Option Nat

namespace Token

/-- The end of a text. -/
def atEnd : Token := ⟨.stop, "", "", [], 0, some 0⟩

instance : Inhabited Token := ⟨atEnd⟩

/-- Whether a token is a given keyword or mark. -/
def is (t : Token) (text : String) : Bool :=
  (t.lexeme == .word || t.lexeme == .mark) && t.text == text

/-- Whether a token is a text literal without marks before its quote. -/
def isBareQuote (t : Token) : Bool :=
  match t.lexeme, t.text.toList with
  | .text _, c :: _ => !Quote.isMark c
  | _, _ => false

end Token

/-! ### What stands before a token -/

/-- Whether a character stands between tokens without a meaning. -/
def isGap (c : Char) : Bool :=
  (Text.isBlank c && !('\x1c' ≤ c && c ≤ '\x1f')) || c == '\ufeff' || c == '\u2060' || c == '\u200b'

/-- What was read before a token. -/
structure Gap where
  /-- The characters, last first. -/
  taken : List Char := []
  /-- The comments and line continuations, last first. -/
  extras : List Node := []
  row : Nat
  /-- Whether a line break was read. -/
  broken : Bool := false
  indent : Nat := 0

namespace Gap

/-- Adds a character to a gap. -/
def push (g : Gap) (c : Char) : Gap :=
  let g := { g with taken := c :: g.taken }
  match c with
  | '\n' => { g with row := g.row + 1, broken := true, indent := 0 }
  | ' ' => { g with indent := g.indent + 1 }
  | '\t' => { g with indent := g.indent + 8 }
  | '\r' | '\x0c' => { g with indent := 0 }
  | _ => g

/-- Adds a line continuation to a gap. -/
def continueLine (g : Gap) (cs : List Char) : Gap :=
  let node : Node := { kind := .other "line_continuation", text := String.ofList cs, row := g.row }
  { g with taken := cs.reverse ++ g.taken, extras := node :: g.extras, row := g.row + 1 }

/-- Adds a comment to a gap. -/
def comment (g : Gap) (cs : List Char) : Gap :=
  { g with
    taken := cs.reverse ++ g.taken
    extras := { kind := .comment, text := String.ofList cs, row := g.row } :: g.extras }

/-- The token after a gap. -/
def token (g : Gap) (lexeme : Lexeme) (text : List Char) : Token :=
  { lexeme
    text := String.ofList text
    lead := String.ofList g.taken.reverse
    extras := g.extras.reverse
    row := g.row
    indent := if g.broken then some g.indent else none }

end Gap

/-- Reads up to the next token. The fuel bounds the number of steps. -/
def skipGap : Nat → Gap → List Char → Gap × List Char
  | 0, g, cs => (g, cs)
  | fuel + 1, g, cs =>
    match cs with
    | [] => (g, [])
    | '\\' :: '\n' :: rest => skipGap fuel (g.continueLine ['\\', '\n']) rest
    | '\\' :: '\r' :: '\n' :: rest => skipGap fuel (g.continueLine ['\\', '\r', '\n']) rest
    | ['\\'] => (g.continueLine ['\\'], [])
    | '#' :: rest =>
      skipGap fuel (g.comment ('#' :: rest.takeWhile (· != '\n'))) (rest.dropWhile (· != '\n'))
    | c :: rest => if isGap c then skipGap fuel (g.push c) rest else (g, cs)

/-! ### The token itself -/

/-- The operators and punctuation marks, longer ones first. -/
def marks : List String :=
  ["**=", "//=", ">>=", "<<=", "...",
    "**", "//", ">>", "<<", "<=", ">=", "==", "!=", "<>", "->", ":=",
    "+=", "-=", "*=", "/=", "%=", "@=", "&=", "|=", "^=",
    "+", "-", "*", "/", "%", "@", "&", "|", "^", "~", "<", ">",
    "(", ")", "[", "]", "\x7b", "\x7d", ",", ":", ".", ";", "="]

/-- The token at the start of a text that has no gap there, and what follows it. -/
def lexeme : List Char → Lexeme × List Char × List Char
  | [] => (.stop, [], [])
  | c :: rest =>
    match Quote.scan (c :: rest) with
    | some (some body) => (.text body.holes, body.taken, body.rest)
    | some none => (.stray, [c], rest)
    | none =>
      if Text.isNameStart c then
        (.word, c :: rest.takeWhile Text.isNameRest, rest.dropWhile Text.isNameRest)
      else if c.isDigit || (c == '.' && (rest.head?.map Char.isDigit).getD false) then
        let (kind, taken, left) := Number.scan (c :: rest)
        (.number kind, taken, left)
      else
        match marks.find? (fun m => m.toList.isPrefixOf (c :: rest)) with
        | some m => (.mark, m.toList, (c :: rest).drop m.length)
        | none => (.stray, [c], rest)

/-- The tokens of a text from a row on. The fuel bounds their number. -/
def tokensFrom : Nat → Nat → List Char → List Token
  | 0, row, _ => [{ Token.atEnd with row }]
  | fuel + 1, row, cs =>
    let (gap, cs) := skipGap (cs.length + 1) { row } cs
    match cs with
    | [] => [{ gap.token .stop [] with indent := some 0 }]
    | c :: rest =>
      let (lexeme, taken, left) := lexeme (c :: rest)
      gap.token lexeme taken :: tokensFrom fuel (gap.row + taken.count '\n') left

/-- The tokens of a text. Every token but the last has at least one character. -/
def tokens (cs : List Char) : List Token :=
  tokensFrom (cs.length + 1) 0 cs

end ScriptScope.Syntax
