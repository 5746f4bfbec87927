import ScriptScope.Text.Blank
import ScriptScope.Text.CellWidth
import ScriptScope.Text.Parts

/-!
# Lines of limited width

A text is laid out in lines of at most a number of cells. Lines break before words; a word that is
wider than a line is cut, and starts a line of its own. A word has the blanks behind it, and the
first one also those before it.
-/

namespace ScriptScope.Cli.Layout

/-- Splits a list of characters into words with the blanks behind them, given the current word in
reverse and whether its blanks have begun. -/
def wordsFrom (current : List Char) (ended : Bool) : List Char → List (List Char)
  | [] => if current.isEmpty then [] else [current.reverse]
  | c :: rest =>
    if Text.isBlank c then wordsFrom (c :: current) true rest
    else if ended then current.reverse :: wordsFrom [c] false rest
    else wordsFrom (c :: current) false rest

/-- The words of a line. Blanks at its start belong to the first word. -/
def words (line : List Char) : List (List Char) :=
  let lead := line.takeWhile Text.isBlank
  wordsFrom lead.reverse false (line.drop lead.length)

/-- Cuts a word into parts of a width, given the current part in reverse and its width. -/
def chopFrom (limit : Nat) (current : List Char) (used : Nat) : List Char → List (List Char)
  | [] => [current.reverse]
  | c :: rest =>
    if limit < used + Text.charCells c then
      current.reverse :: chopFrom limit [c] (Text.charCells c) rest
    else chopFrom limit (c :: current) (used + Text.charCells c) rest

/-- Lays out words, given the current line. -/
def fill (limit : Nat) (current : List Char) : List (List Char) → List (List Char)
  | [] => [current]
  | word :: rest =>
    let size := Text.cells (Text.trimRight word)
    if Text.cells current + size ≤ limit then fill limit (current ++ word) rest
    else if limit < size then
      let parts := chopFrom limit [] 0 word
      (if current.isEmpty then [] else [current]) ++ parts.dropLast
        ++ fill limit (parts.getLast?.getD []) rest
    else current :: fill limit word rest

/-- Drops blanks that stand beyond the end of a line. -/
def cropBlanks (limit : Nat) (line : List Char) : List Char :=
  let body := Text.trimRight line
  body ++ (line.drop body.length).take (limit - Text.cells body)

/-- The lines of a text. -/
def wrap (limit : Nat) (text : String) : List (List Char) :=
  (Text.splitList '\n' text.toList).flatMap (fun line =>
    (fill limit [] (words line)).map (cropBlanks limit))

/-- Fills a line with blanks on the right. -/
def padRight (limit : Nat) (line : List Char) : List Char :=
  line ++ List.replicate (limit - Text.cells line) ' '

/-- Puts a line in the middle, without the blanks at its end. -/
def centre (limit : Nat) (line : List Char) : List Char :=
  let body := Text.trimRight line
  padRight limit (List.replicate ((limit - Text.cells body) / 2) ' ' ++ body)

/-- A text of lines, each with its line end. -/
def ofLines (lines : List (List Char)) : String :=
  String.ofList (lines.flatMap (· ++ ['\n']))

end ScriptScope.Cli.Layout
