import ScriptScope.Syntax.Kind

/-!
# Number literals

The longest number at the start of a list of characters. Digits may be grouped by single
underscores; a number with a point or an exponent is floating, and so is an imaginary one with
either; old suffixes for long integers are accepted.
-/

namespace ScriptScope.Syntax.Number

/-- Digits, each group of which may be followed by one underscore. The flag tells whether an
underscore may stand next. -/
def groupsAfter (isDigit : Char → Bool) (mayBreak : Bool) : List Char → List Char × List Char
  | [] => ([], [])
  | c :: rest =>
    if isDigit c then
      let (taken, left) := groupsAfter isDigit true rest
      (c :: taken, left)
    else if mayBreak && c == '_' then
      let (taken, left) := groupsAfter isDigit false rest
      (c :: taken, left)
    else ([], c :: rest)

/-- A run of digits with its underscores. -/
def digits (cs : List Char) : List Char × List Char :=
  groupsAfter Char.isDigit false cs

/-- Whether a character is a digit in base 16. -/
def isHexDigit (c : Char) : Bool :=
  c.isDigit || ('a' ≤ c && c ≤ 'f') || ('A' ≤ c && c ≤ 'F')

/-- The digits that may follow a base mark. -/
def radixDigit? (mark : Char) : Option (Char → Bool) :=
  match mark with
  | 'x' | 'X' => some isHexDigit
  | 'o' | 'O' => some (fun c => '0' ≤ c && c ≤ '7')
  | 'b' | 'B' => some (fun c => c == '0' || c == '1')
  | _ => none

/-- Takes one of some characters, if it stands first. -/
def oneOf (choices : List Char) : List Char → List Char × List Char
  | [] => ([], [])
  | c :: rest => if choices.contains c then ([c], rest) else ([], c :: rest)

/-- A number in another base, with its old suffix. -/
def radix? : List Char → Option (List Char × List Char)
  | '0' :: mark :: rest =>
    match radixDigit? mark with
    | none => none
    | some isDigit =>
      let (taken, left) := groupsAfter isDigit true rest
      if taken.any isDigit then
        let (suffix, left) := oneOf ['l', 'L'] left
        some ('0' :: mark :: taken ++ suffix, left)
      else none
  | _ => none

/-- An exponent, which needs at least one digit. -/
def exponent : List Char → List Char × List Char
  | [] => ([], [])
  | e :: rest =>
    if e == 'e' || e == 'E' then
      let (sign, left) := oneOf ['+', '-'] rest
      let (taken, left) := digits left
      if taken.isEmpty then ([], e :: rest) else (e :: sign ++ taken, left)
    else ([], e :: rest)

/-- A number in base ten. -/
def decimal (cs : List Char) : Kind × List Char × List Char :=
  let (whole, left) := digits cs
  let (fraction, left) := match left with
    | '.' :: rest =>
      let (taken, left) := digits rest
      ('.' :: taken, left)
    | left => ([], left)
  let (power, left) := exponent left
  if fraction.isEmpty && power.isEmpty then
    let (suffix, left) := oneOf ['l', 'L', 'j', 'J'] left
    (.integer, whole ++ suffix, left)
  else
    let (suffix, left) := oneOf ['j', 'J'] left
    (.float, whole ++ fraction ++ power ++ suffix, left)

/-- The number at the start of a text that begins with a digit, or with a point and a digit: its
kind, its characters and the rest. -/
def scan (cs : List Char) : Kind × List Char × List Char :=
  match radix? cs with
  | some (taken, left) => (.integer, taken, left)
  | none => decimal cs

end ScriptScope.Syntax.Number
