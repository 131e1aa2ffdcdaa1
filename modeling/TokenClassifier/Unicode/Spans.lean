import TokenClassifier.Unicode.Category

/-!
# Spans of code points

A small set of code points is a list of spans in ascending order, each with both ends included.
Tables are written as text, in hexadecimal: `41-5a 5f` is the span from 41 to 5a and the span of
5f alone.
-/

namespace TokenClassifier.Unicode

/-- Code points as ascending spans, both ends included. -/
abbrev Spans := List (Nat × Nat)

namespace Spans

/-- Membership. The spans ascend, so the search ends at the first one that starts too late. -/
def contains : Spans → Nat → Bool
  | [], _ => false
  | (lo, hi) :: rest, c => if c < lo then false else c ≤ hi || contains rest c

/-- Reads spans; `lo` is the lower end of an unfinished span and `n` the number read so far. -/
def read : List Char → Option Nat → Nat → Spans
  | [], lo, n => [(lo.getD n, n)]
  | c :: rest, lo, n =>
    if c = ' ' then (lo.getD n, n) :: read rest none 0
    else if c = '-' then read rest (some n) 0
    else read rest lo (16 * n + Category.hexDigit c)

/-- The spans that a text in hexadecimal lists. -/
def ofText (text : String) : Spans := read text.toList none 0

end Spans

end TokenClassifier.Unicode
