import ScriptScope.Cli.Layout
import ScriptScope.Cli.Markup

/-!
# Tables and panels

A table has a title in the middle above its box, and columns as wide as the widest cell. With a
header its box is heavy around it. A panel is as wide as the console and has its title in the upper
edge.
-/

namespace ScriptScope.Cli

/-- A table of marked texts. -/
structure Table where
  title : String
  /-- The headings of the columns, if they are shown. -/
  header : Option (List String)
  rows : List (List String)
  deriving DecidableEq, Repr

namespace Table

/-- The widths of columns, each that of its widest cell. -/
def columnWidths (lines : List (List (List Char))) : List Nat :=
  lines.foldl (fun widths cells =>
    (List.range (max widths.length cells.length)).map (fun i =>
      max (widths[i]?.getD 0) ((cells[i]?.map Text.cells).getD 0))) []

/-- The characters of a horizontal line: those at its ends, between columns, and along. -/
structure Rule where
  left : Char
  along : Char
  between : Char
  right : Char

/-- A horizontal line. -/
def Rule.draw (rule : Rule) (widths : List Nat) : List Char :=
  rule.left :: [rule.between].intercalate (widths.map (fun w => List.replicate (w + 2) rule.along))
    ++ [rule.right]

/-- A line of cells. -/
def drawCells (edge : Char) (widths : List Nat) (cells : List (List Char)) : List Char :=
  let parts := (widths.zip cells).map (fun (w, cell) => ' ' :: Layout.padRight w cell ++ [' '])
  edge :: [edge].intercalate parts ++ [edge]

/-- The upper part of a box with a header. -/
def drawHeader (widths : List Nat) (header : List (List Char)) : List (List Char) :=
  [Rule.draw ⟨'┏', '━', '┳', '┓'⟩ widths, drawCells '┃' widths header,
    Rule.draw ⟨'┡', '━', '╇', '┩'⟩ widths]

/-- Draws a table; absent if its markup is wrong. -/
def draw? (t : Table) : Option String := do
  let shown (texts : List String) : Option (List (List Char)) :=
    texts.mapM (fun text => (Markup.plain? text).map String.toList)
  let title ← Markup.plain? t.title
  let header ← match t.header with
    | some texts => (shown texts).map some
    | none => some none
  let rows ← t.rows.mapM shown
  let widths := columnWidths (header.toList ++ rows)
  let total := widths.foldl (· + · + 3) 1
  let top := match header with
    | some cells => drawHeader widths cells
    | none => [Rule.draw ⟨'┌', '─', '┬', '┐'⟩ widths]
  return Layout.ofLines ((Layout.wrap total title).map (Layout.centre total)
    ++ top ++ rows.map (drawCells '│' widths) ++ [Rule.draw ⟨'└', '─', '┴', '┘'⟩ widths])

end Table

/-- Draws a panel as wide as given around a marked text; absent if its markup is wrong. -/
def panel? (size : Nat) (title body : String) : Option String :=
  (Markup.plain? body).map (fun body =>
    let heading := (" " ++ title ++ " ").toList
    let free := size - 2 - Text.cells heading
    let left := List.replicate (free / 2) '─'
    let right := List.replicate (free - free / 2) '─'
    let top := '╭' :: left ++ heading ++ right ++ ['╮']
    let bottom := '╰' :: List.replicate (size - 2) '─' ++ ['╯']
    Layout.ofLines (top :: (Layout.wrap (size - 4) body).map (fun line =>
      "│ ".toList ++ Layout.padRight (size - 4) line ++ " │".toList) ++ [bottom]))

end ScriptScope.Cli
