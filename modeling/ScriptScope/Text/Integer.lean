import ScriptScope.Text.Blank
import ScriptScope.Text.Parts

/-!
# Integers as text

An integer may be surrounded by blanks, have a sign and leading zeros, group its digits by single
underscores, and end in a point and zeros.
-/

namespace ScriptScope.Text

/-- Whether a character may surround an integer. -/
def isPadding (c : Char) : Bool :=
  isBlank c && !('\x1c' ≤ c && c ≤ '\x1f')

/-- The number that digits write in base ten; absent if there is none, or anything but a digit. -/
def digits? (cs : List Char) : Option Nat :=
  if cs.isEmpty || !cs.all Char.isDigit then none
  else some (cs.foldl (fun n c => n * 10 + (c.toNat - 48)) 0)

/-- Digits in groups that are joined by single underscores. -/
def grouped? (cs : List Char) : Option Nat :=
  let groups := splitList '_' cs
  if groups.all (fun g => !g.isEmpty) then digits? groups.flatten else none

/-- An integer without a sign. -/
def magnitude? (cs : List Char) : Option Nat :=
  let whole := cs.takeWhile (· != '.')
  let fraction := (cs.dropWhile (· != '.')).drop 1
  if fraction.all (· == '0') then grouped? whole else none

/-- The integer that a text writes. -/
def integer? (text : String) : Option Int :=
  let cs := ((text.toList.dropWhile isPadding).reverse.dropWhile isPadding).reverse
  match cs with
  | '-' :: rest => (magnitude? rest).map (fun n => -(n : Int))
  | '+' :: rest => (magnitude? rest).map (fun n => (n : Int))
  | cs => (magnitude? cs).map (fun n => (n : Int))

end ScriptScope.Text
