/-!
# Bytes as text

Reading UTF-8. Bytes that are no part of a character are read as gaps: a gap covers the longest
start of a character that breaks off, or a single byte. A strict reading has no gaps; a lenient one
shows each gap as the replacement character.
-/

namespace ScriptScope.Text.Utf8

/-- The shape of a character's bytes: how many follow the first, which values the second may have,
and the bits that the first contributes. -/
structure Lead where
  more : Nat
  low : Nat
  high : Nat
  bits : Nat

/-- The shape that a first byte announces, if it announces a longer character. -/
def lead? (b : Nat) : Option Lead :=
  if 0xC2 ≤ b ∧ b ≤ 0xDF then some ⟨1, 0x80, 0xBF, b - 0xC0⟩
  else if b = 0xE0 then some ⟨2, 0xA0, 0xBF, 0⟩
  else if b = 0xED then some ⟨2, 0x80, 0x9F, 0xD⟩
  else if 0xE1 ≤ b ∧ b ≤ 0xEF then some ⟨2, 0x80, 0xBF, b - 0xE0⟩
  else if b = 0xF0 then some ⟨3, 0x90, 0xBF, 0⟩
  else if 0xF1 ≤ b ∧ b ≤ 0xF3 then some ⟨3, 0x80, 0xBF, b - 0xF0⟩
  else if b = 0xF4 then some ⟨3, 0x80, 0x8F, 4⟩
  else none

/-- The part of a longer character that has been read. -/
structure Partial where
  /-- How many bytes are still to come. -/
  more : Nat
  low : Nat
  high : Nat
  bits : Nat

/-- Reads bytes, given the character that is being read. Gaps are absent characters. -/
def decodeFrom (open? : Option Partial) : List UInt8 → List (Option Char)
  | [] => if open?.isSome then [none] else []
  | byte :: rest =>
    let b := byte.toNat
    let fresh : List (Option Char) :=
      if b < 0x80 then some (Char.ofNat b) :: decodeFrom none rest
      else match lead? b with
        | some l => decodeFrom (some ⟨l.more, l.low, l.high, l.bits⟩) rest
        | none => none :: decodeFrom none rest
    match open? with
    | none => fresh
    | some p =>
      if p.low ≤ b ∧ b ≤ p.high then
        let bits := p.bits * 64 + (b - 0x80)
        if p.more ≤ 1 then some (Char.ofNat bits) :: decodeFrom none rest
        else decodeFrom (some ⟨p.more - 1, 0x80, 0xBF, bits⟩) rest
      else none :: fresh

/-- The characters of some bytes, with gaps. -/
def decode (bytes : List UInt8) : List (Option Char) :=
  decodeFrom none bytes

/-- The text of some bytes, if there are no gaps. -/
def strict? (bytes : List UInt8) : Option (List Char) :=
  (decode bytes).mapM id

/-- The text of some bytes, with gaps shown as the replacement character. -/
def lenient (bytes : List UInt8) : List Char :=
  (decode bytes).map (·.getD '\ufffd')

end ScriptScope.Text.Utf8
