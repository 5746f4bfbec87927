import ScriptScope.Text.Blank
import ScriptScope.Text.Case
import ScriptScope.Text.Parts

/-!
# Markup

Titles, cells and messages are written with tags between square brackets, which give the text
between them a style and do not show. A tag starts with a small letter or one of a few signs;
brackets around anything else are text. A backslash before a tag makes it text, and two make a
backslash.

A closing tag has to close something: without a name the tag opened last, with a name the last one
of that name.
-/

namespace ScriptScope.Cli

/-- A part of a marked text. -/
inductive MarkupPiece where
  | plain (cs : List Char)
  | tag (name : String)
  deriving DecidableEq, Repr

namespace Markup

/-- Whether a character can be the first of a tag. -/
def startsTag (c : Char) : Bool :=
  ('a' ≤ c && c ≤ 'z') || c == '#' || c == '/' || c == '@'

/-- The content of a tag after its opening bracket, and what follows its closing one. -/
def tag? : List Char → Option (List Char × List Char)
  | [] => none
  | c :: rest =>
    if startsTag c then
      let body := rest.takeWhile (fun c => c != '[' && c != ']')
      match rest.drop body.length with
      | ']' :: left => some (c :: body, left)
      | _ => none
    else none

/-- The pieces of a marked text, given the plain text before in reverse. The fuel bounds the number
of steps. -/
def piecesFrom : Nat → List Char → List Char → List MarkupPiece
  | 0, held, _ => [.plain held.reverse]
  | _ + 1, held, [] => [.plain held.reverse]
  | fuel + 1, held, c :: rest =>
    let slashes := (c :: rest).takeWhile (· == '\\')
    let found := match (c :: rest).drop slashes.length with
      | '[' :: inside => tag? inside
      | _ => none
    match found with
    | none => piecesFrom fuel (c :: held) rest
    | some (tag, left) =>
      let piece :=
        if slashes.length % 2 = 1 then .plain ('[' :: tag ++ [']'])
        else .tag (Text.before '=' (String.ofList tag))
      .plain held.reverse :: .plain (List.replicate (slashes.length / 2) '\\') :: piece
        :: piecesFrom fuel [] left

/-- The pieces of a marked text. -/
def pieces (text : String) : List MarkupPiece :=
  piecesFrom (text.length + 1) [] text.toList

/-- Takes backslashes off opening brackets. -/
def unescape : List Char → List Char
  | '\\' :: '[' :: rest => '[' :: unescape rest
  | c :: rest => c :: unescape rest
  | [] => []

/-- Whether a character moves the cursor, and is left out of what is shown. -/
def isControl (c : Char) : Bool :=
  c == '\x07' || c == '\x08' || c == '\x0b' || c == '\x0c' || c == '\r'

/-- Closes a tag among the open ones, the last one first; absent if there is none to close. -/
def close (name : String) (opened : List String) : Option (List String) :=
  let name := Text.lower (Text.trim name)
  if name = "" then
    match opened with
    | [] => none
    | _ :: others => some others
  else if opened.contains name then some (opened.erase name)
  else none

/-- What pieces show, given the open tags. -/
def shown? (opened : List String) : List MarkupPiece → Option (List Char)
  | [] => some []
  | .plain cs :: rest =>
    (shown? opened rest).map ((unescape cs).filter (fun c => !isControl c) ++ ·)
  | .tag name :: rest =>
    match Text.after? "/" name with
    | some closed => (close closed opened).bind (fun opened => shown? opened rest)
    | none => shown? (Text.lower (Text.trim name) :: opened) rest

/-- What a marked text shows; absent if a tag is closed that is not open. -/
def plain? (text : String) : Option String :=
  (shown? [] (pieces text)).map String.ofList

end Markup

end ScriptScope.Cli
