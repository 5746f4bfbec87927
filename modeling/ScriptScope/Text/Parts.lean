/-!
# Parts of a text

Taking texts apart at their start, at a character, and at the last dot. Everything is defined on the
list of characters, where the laws are those of lists.
-/

namespace ScriptScope.Text

/-- What follows a given beginning, if the text starts with it. -/
def after? (beginning text : String) : Option String :=
  (beginning.toList.isPrefixOf? text.toList).map String.ofList

/-- Whether a text starts with a given beginning. -/
def startsWith (text beginning : String) : Bool :=
  beginning.toList.isPrefixOf text.toList

/-- Whether a text ends with a given ending. -/
def endsWith (text ending : String) : Bool :=
  ending.toList.isSuffixOf text.toList

/-- Whether one list of characters occurs in another. -/
def occursIn (needle : List Char) : List Char → Bool
  | [] => needle.isEmpty
  | c :: rest => needle.isPrefixOf (c :: rest) || occursIn needle rest

/-- Whether a text contains another. -/
def contains (text part : String) : Bool :=
  occursIn part.toList text.toList

/-- The part of a text before the first occurrence of a character; the whole text if there is none.
-/
def before (separator : Char) (text : String) : String :=
  String.ofList (text.toList.takeWhile (· ≠ separator))

/-- Drops a character from the start of a text as often as it stands there. -/
def dropLeading (c : Char) (text : String) : String :=
  String.ofList (text.toList.dropWhile (· = c))

/-- The pieces of a list between the occurrences of a separator. -/
def splitList (separator : Char) : List Char → List (List Char)
  | [] => [[]]
  | c :: rest =>
    if c = separator then [] :: splitList separator rest
    else match splitList separator rest with
      | piece :: pieces => (c :: piece) :: pieces
      | [] => [[c]]

/-- The pieces of a text between the occurrences of a separator. -/
def split (separator : Char) (text : String) : List String :=
  (splitList separator text.toList).map String.ofList

/-- Splits a text at the last occurrence of a character; without one, all of it is on the right. -/
def splitLast (separator : Char) (text : String) : String × String :=
  let back := text.toList.reverse
  let right := back.takeWhile (· ≠ separator)
  let left := back.drop (right.length + 1)
  (String.ofList left.reverse, String.ofList right.reverse)

end ScriptScope.Text
