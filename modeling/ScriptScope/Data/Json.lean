/-!
# JSON

Values of JSON and their reading from text. Numbers without a fraction and an exponent are integers
of any size; all others are kept as a decimal fraction. The reader takes the whole text or nothing.
-/

namespace ScriptScope

/-- A JSON value. -/
inductive Json where
  | null
  | bool (value : Bool)
  | integer (value : Int)
  /-- The number `digits * 10 ^ exponent`. -/
  | decimal (digits : Int) (exponent : Int)
  /-- A number that is not finite. -/
  | limitless
  | text (value : String)
  | list (items : List Json)
  | object (fields : List (String × Json))
  deriving Repr

namespace Json

instance : Inhabited Json := ⟨null⟩

/-- The value of a field; of several with one name the last counts. -/
def field? (fields : List (String × Json)) (name : String) : Option Json :=
  (fields.reverse.find? (fun f => f.1 == name)).map (·.2)

/-- A power of ten. -/
def tenTo (n : Nat) : Int :=
  Int.ofNat (Nat.pow 10 n)

/-- The integer that a decimal fraction is equal to, if there is one. -/
def wholeOf? (digits exponent : Int) : Option Int :=
  if digits = 0 then some 0
  else if 0 ≤ exponent then
    if exponent ≤ 400 then some (digits * tenTo exponent.toNat) else none
  else if exponent < -400 then none
  else if digits % tenTo (-exponent).toNat = 0 then some (digits / tenTo (-exponent).toNat)
  else none

/-! ### Reading -/

namespace Text

/-- Whether a character may stand between the parts of a value. -/
def isBlank (c : Char) : Bool :=
  c == ' ' || c == '\n' || c == '\r' || c == '\t'

/-- Drops blanks. -/
def skip (cs : List Char) : List Char :=
  cs.dropWhile isBlank

/-- The value of a digit in base 16. -/
def hexDigit? (c : Char) : Option Nat :=
  if c.isDigit then some (c.toNat - 48)
  else if 'a' ≤ c ∧ c ≤ 'f' then some (c.toNat - 87)
  else if 'A' ≤ c ∧ c ≤ 'F' then some (c.toNat - 55)
  else none

/-- Four digits in base 16. -/
def unit? : List Char → Option (Nat × List Char)
  | a :: b :: c :: d :: rest => do
    let a ← hexDigit? a
    let b ← hexDigit? b
    let c ← hexDigit? c
    let d ← hexDigit? d
    return (((a * 16 + b) * 16 + c) * 16 + d, rest)
  | _ => none

/-- A character written by number; two numbers stand for one character beyond the first plane. -/
def escaped? (cs : List Char) : Option (Char × List Char) := do
  let (first, rest) ← unit? cs
  if first < 0xD800 ∨ 0xDFFF < first then return (Char.ofNat first, rest)
  else if 0xDC00 ≤ first then none
  else match rest with
    | '\\' :: 'u' :: rest => do
      let (second, rest) ← unit? rest
      if 0xDC00 ≤ second ∧ second ≤ 0xDFFF then
        return (Char.ofNat (0x10000 + (first - 0xD800) * 0x400 + (second - 0xDC00)), rest)
      else none
    | _ => none

/-- The character that a letter after a backslash stands for. -/
def shortEscape? (c : Char) : Option Char :=
  match c with
  | '"' => some '"'
  | '\\' => some '\\'
  | '/' => some '/'
  | 'b' => some '\x08'
  | 'f' => some '\x0c'
  | 'n' => some '\n'
  | 'r' => some '\r'
  | 't' => some '\t'
  | _ => none

/-- The rest of a text after its opening quote. -/
def string? : Nat → List Char → Option (List Char × List Char)
  | 0, _ => none
  | fuel + 1, cs =>
    match cs with
    | [] => none
    | '"' :: rest => some ([], rest)
    | '\\' :: 'u' :: rest => do
      let (c, rest) ← escaped? rest
      let (others, rest) ← string? fuel rest
      return (c :: others, rest)
    | '\\' :: e :: rest => do
      let c ← shortEscape? e
      let (others, rest) ← string? fuel rest
      return (c :: others, rest)
    | c :: rest =>
      if c < ' ' || c == '\\' then none
      else do
        let (others, rest) ← string? fuel rest
        return (c :: others, rest)

/-- The number that digits write in base ten. -/
def natOf (digits : List Char) : Nat :=
  digits.foldl (fun n c => n * 10 + (c.toNat - 48)) 0

/-- An exponent, if one follows; absent outside if it has no digits. -/
def exponent? (cs : List Char) : Option (Option Int × List Char) :=
  match cs with
  | e :: rest =>
    if e == 'e' || e == 'E' then
      let (negative, rest) := match rest with
        | '-' :: rest => (true, rest)
        | '+' :: rest => (false, rest)
        | rest => (false, rest)
      let digits := rest.takeWhile Char.isDigit
      if digits.isEmpty then none
      else
        let n : Int := natOf digits
        some (some (if negative then -n else n), rest.drop digits.length)
    else some (none, cs)
  | [] => some (none, [])

/-- The digits after the point, if one follows; absent outside if there are none. -/
def fraction? (cs : List Char) : Option (Option (List Char) × List Char) :=
  match cs with
  | '.' :: rest =>
    let digits := rest.takeWhile Char.isDigit
    if digits.isEmpty then none else some (some digits, rest.drop digits.length)
  | _ => some (none, cs)

/-- A number after its sign. -/
def number? (negative : Bool) (cs : List Char) : Option (Json × List Char) := do
  let whole := cs.takeWhile Char.isDigit
  if whole.isEmpty || (whole.length > 1 && whole.head? == some '0') then none
  else
    let (fraction, rest) ← fraction? (cs.drop whole.length)
    let (power, rest) ← exponent? rest
    let sign (n : Nat) : Int := if negative then -(n : Int) else n
    match fraction, power with
    | none, none => return (.integer (sign (natOf whole)), rest)
    | fraction, power =>
      let digits := fraction.getD []
      return (.decimal (sign (natOf (whole ++ digits))) (power.getD 0 - digits.length), rest)

/-- A word, if it stands first. -/
def word? (word : String) (value : Json) (cs : List Char) : Option (Json × List Char) :=
  (word.toList.isPrefixOf? cs).map (value, ·)

mutual

/-- A value and what follows it. -/
def value? : Nat → List Char → Option (Json × List Char)
  | 0, _ => none
  | fuel + 1, cs =>
    match skip cs with
    | '"' :: rest => do
      let (cs, rest) ← string? (rest.length + 1) rest
      return (.text (String.ofList cs), rest)
    | '[' :: rest =>
      match skip rest with
      | ']' :: rest => some (.list [], rest)
      | rest => do
        let (items, rest) ← items? fuel rest
        return (.list items, rest)
    | '\x7b' :: rest =>
      match skip rest with
      | '\x7d' :: rest => some (.object [], rest)
      | rest => do
        let (fields, rest) ← fields? fuel rest
        return (.object fields, rest)
    | '-' :: rest => word? "Infinity" .limitless rest <|> number? true rest
    | cs =>
      word? "null" .null cs <|> word? "true" (.bool true) cs <|> word? "false" (.bool false) cs
        <|> word? "NaN" .limitless cs <|> word? "Infinity" .limitless cs <|> number? false cs

/-- The items of a list up to its end. -/
def items? : Nat → List Char → Option (List Json × List Char)
  | 0, _ => none
  | fuel + 1, cs => do
    let (first, rest) ← value? fuel cs
    match skip rest with
    | ',' :: rest => do
      let (others, rest) ← items? fuel rest
      return (first :: others, rest)
    | ']' :: rest => return ([first], rest)
    | _ => none

/-- The fields of an object up to its end. -/
def fields? : Nat → List Char → Option (List (String × Json) × List Char)
  | 0, _ => none
  | fuel + 1, cs =>
    match skip cs with
    | '"' :: rest => do
      let (key, rest) ← string? (rest.length + 1) rest
      match skip rest with
      | ':' :: rest => do
        let (value, rest) ← value? fuel rest
        match skip rest with
        | ',' :: rest => do
          let (others, rest) ← fields? fuel rest
          return ((String.ofList key, value) :: others, rest)
        | '\x7d' :: rest => return ([(String.ofList key, value)], rest)
        | _ => none
      | _ => none
    | _ => none

end

end Text

/-- The value that a whole text writes, if it writes one. -/
def parse? (text : String) : Option Json :=
  let cs := text.toList
  match Text.value? (cs.length + 1) cs with
  | some (value, rest) => if (Text.skip rest).isEmpty then some value else none
  | none => none

end Json

end ScriptScope
