import ScriptScope.Text.Case
import ScriptScope.Text.Parts

/-!
# Ranking by name

Candidates are matched against what was typed so far without regard to case: those whose name
contains it are kept, those whose name starts with it come first, and otherwise the order is
alphabetical. Candidates of the same name keep their order.
-/

namespace ScriptScope.Completion

/-- What candidates are ordered by: whether the name does not start with the typed text, the name in
lower case, and the name. -/
structure Key where
  apart : Bool
  lowered : String
  name : String
  deriving DecidableEq, Repr

namespace Key

/-- The key of a name for a typed text. -/
def of (seed name : String) : Key :=
  ⟨!Text.startsWith (Text.lower name) (Text.lower seed), Text.lower name, name⟩

/-- Whether a key comes before another or is equal to it. -/
def le (a b : Key) : Bool :=
  if a.apart = b.apart then
    if a.lowered = b.lowered then decide (a.name ≤ b.name) else decide (a.lowered < b.lowered)
  else !a.apart

end Key

/-- Orders candidates by name for a typed text. -/
def rank {α : Type} (name : α → String) (seed : String) (candidates : List α) : List α :=
  candidates.mergeSort (fun a b => (Key.of seed (name a)).le (Key.of seed (name b)))

/-- Keeps the candidates whose name contains a typed text. -/
def select {α : Type} (name : α → String) (seed : String) (candidates : List α) : List α :=
  candidates.filter (fun a => Text.contains (Text.lower (name a)) (Text.lower seed))

/-- Keeps the candidates that match a typed text, best matches first. -/
def suggest {α : Type} (name : α → String) (seed : String) (candidates : List α) : List α :=
  rank name seed (select name seed candidates)

end ScriptScope.Completion
