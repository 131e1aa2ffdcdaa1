import TokenClassifier.Regex.Meaning
import TokenClassifier.Regex.Search

/-!
# Compiled patterns

A pattern is compiled once and then tried on texts. A match gives the texts of all groups in
order, the whole match first; a group that took no part has the empty text.

Several patterns can be compiled as a set, which tells for a text which of them match it.

There is no limit to the size of a compiled pattern or of a set. The engine that is described here
has one, and where it is reached it refuses a pattern, or a set of patterns each of which it takes by
itself. Nothing is said about such patterns.
-/

namespace TokenClassifier.Regex

/-- A compiled pattern: its program and the number of its groups. -/
structure Pattern where
  code : Array Instr
  groupCount : Nat
  deriving DecidableEq, Repr

namespace Pattern

/-- The pattern of an expression. -/
def ofTerm (r : Term) : Pattern := ⟨r.program, r.groupCount⟩

/-- Compiles a pattern. It is refused for what it says or for how deep it nests, and never for the
size of its program. -/
def compile (source : String) : Except Fault Pattern := do
  let tree ← Syntax.parse source
  let (r, _) ← tree.toTerm {}
  return ofTerm r

/-- The place last noted in a slot. -/
def noted? (notes : List (Nat × Nat)) (slot : Nat) : Option Nat :=
  (notes.find? fun (s, _) => s == slot).map (·.2)

/-- The text of a group: what lies between the places noted for its two ends. A group that took no
part has none. -/
def groupText? (text : List Char) (notes : List (Nat × Nat)) (index : Nat) : Option String := do
  let lo ← noted? notes (2 * index)
  let hi ← noted? notes (2 * index + 1)
  return String.ofList ((text.drop lo).take (hi - lo))

/-- The groups of the leftmost match, if there is one. -/
def find? (p : Pattern) (text : String) : Option (List (Option String)) :=
  (search? p.code text.toList.toArray).map fun notes =>
    (List.range p.groupCount).map (groupText? text.toList notes)

/-- The texts of the groups of the leftmost match, if there is one. -/
def captures? (p : Pattern) (text : String) : Option (List String) :=
  (p.find? text).map fun groups => groups.map (·.getD "")

/-- Whether there is a match. -/
def isMatch (p : Pattern) (text : String) : Bool := (p.captures? text).isSome

end Pattern

/-- Patterns that are tried on a text together. -/
structure PatternSet where
  patterns : List Pattern
  deriving DecidableEq, Repr

namespace PatternSet

/-- Compiles patterns as a set. For want of a limit to its size, a set is refused only for a pattern
that is refused by itself. -/
def compile (sources : List String) : Except Fault PatternSet := do
  return ⟨← sources.mapM Pattern.compile⟩

/-- The places of the patterns that match a text, in ascending order. -/
def hits (s : PatternSet) (text : String) : List Nat :=
  s.patterns.zipIdx.filterMap fun (p, place) => if p.isMatch text then some place else none

/-- Whether any of the patterns matches a text. -/
def isMatch (s : PatternSet) (text : String) : Bool := s.patterns.any (·.isMatch text)

end PatternSet

end TokenClassifier.Regex
