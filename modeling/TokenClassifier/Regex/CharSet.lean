import TokenClassifier.Unicode.Folding
import TokenClassifier.Unicode.Property

/-!
# Character sets

A set of characters is kept as the expression that describes it, and membership is computed from
the expression. Nothing has to be sorted or merged: a complement is answered by asking for the
opposite, and closing a set under case is answered by asking for every character that is the
same but for case.
-/

namespace TokenClassifier.Regex

open Unicode

/-- An expression for a set of characters. -/
inductive CharSet where
  /-- No character. -/
  | none
  /-- One character. -/
  | one (c : Char)
  /-- The characters from `lo` to `hi`, both included. -/
  | span (lo hi : Char)
  /-- The characters that have a property. -/
  | property (p : Property)
  /-- The word characters of any script. -/
  | word
  | union (a b : CharSet)
  | inter (a b : CharSet)
  | diff (a b : CharSet)
  /-- The characters of exactly one of two sets. -/
  | symmDiff (a b : CharSet)
  | compl (a : CharSet)
  /-- The characters that are the same, but for case, as one of the set. -/
  | folded (a : CharSet)
  /-- The same for ASCII letters alone: their other case, and no other character. -/
  | foldedAscii (a : CharSet)
  deriving DecidableEq, Repr

namespace CharSet

/-- Membership. -/
def contains : CharSet → Char → Bool
  | .none, _ => false
  | .one d, c => c == d
  | .span lo hi, c => lo ≤ c && c ≤ hi
  | .property p, c => p.contains c
  | .word, c => isWord c
  | .union a b, c => a.contains c || b.contains c
  | .inter a b, c => a.contains c && b.contains c
  | .diff a b, c => a.contains c && !b.contains c
  | .symmDiff a b, c => a.contains c != b.contains c
  | .compl a, c => !a.contains c
  | .folded a, c => (Folding.orbit c).any a.contains
  | .foldedAscii a, c => a.contains c || a.contains c.toLower || a.contains c.toUpper

/-- The union of a list of sets. -/
def unions : List CharSet → CharSet
  | [] => .none
  | [a] => a
  | a :: rest => .union a (unions rest)

/-- The decimal digits of any script. -/
def digit : CharSet := .property (.category [.nd])

/-- White space. -/
def blank : CharSet := .property (.binary .whiteSpace)

end CharSet

end TokenClassifier.Regex
