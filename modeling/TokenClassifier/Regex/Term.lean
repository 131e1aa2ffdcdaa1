import TokenClassifier.Regex.CharSet

/-!
# Regular expressions

The expressions that are matched. All that a pattern leaves to flags is settled here: a set of
characters is one set, a condition on a place is one condition, and a repetition is optional,
starred or plus, and greedy or lazy. Counted repetitions are written out.
-/

namespace TokenClassifier.Regex

open Unicode

/-- The conditions on the word characters around a place. -/
inductive WordLook where
  | boundary | notBoundary | start | stop | startHalf | stopHalf
  deriving DecidableEq, Repr

/-- The conditions on a place in a text. `crlf` tells whether a carriage return ends a line too,
and `allScripts` which word characters count. -/
inductive Look where
  | textStart
  | textEnd
  | lineStart (crlf : Bool)
  | lineEnd (crlf : Bool)
  | word (allScripts : Bool) (k : WordLook)
  deriving DecidableEq, Repr

/-- Whether a condition holds between a word character or none and a word character or none. -/
def WordLook.holds (k : WordLook) (before after : Bool) : Bool :=
  match k with
  | .boundary => before != after
  | .notBoundary => before == after
  | .start => !before && after
  | .stop => before && !after
  | .startHalf => !before
  | .stopHalf => !after

/-- The ASCII word characters. -/
def isAsciiWord (c : Char) : Bool := c.isAlphanum || c == '_'

/-- Whether a condition holds between the characters `before` and `after`, each absent at an end
of the text. A place between a carriage return and a line feed is inside of a line end. -/
def Look.holds (l : Look) (before after : Option Char) : Bool :=
  match l with
  | .textStart => before.isNone
  | .textEnd => after.isNone
  | .lineStart crlf =>
    before.isNone || before == some '\n' || (crlf && before == some '\r' && after != some '\n')
  | .lineEnd crlf =>
    after.isNone || (crlf && after == some '\r') ||
      (after == some '\n' && !(crlf && before == some '\r'))
  | .word allScripts k =>
    let isWordChar := if allScripts then isWord else isAsciiWord
    k.holds (before.any isWordChar) (after.any isWordChar)

/-- A regular expression. -/
inductive Term where
  | empty
  | chars (s : CharSet)
  | look (l : Look)
  | capture (index : Nat) (r : Term)
  | seq (a b : Term)
  | alt (a b : Term)
  /-- Once or not at all. -/
  | opt (greedy : Bool) (r : Term)
  /-- Any number of times; `r` takes a character every time. -/
  | star (greedy : Bool) (r : Term)
  /-- Once or more. -/
  | plus (greedy : Bool) (r : Term)
  deriving DecidableEq, Repr

namespace Term

/-- Whether every match takes a character. -/
def consumes : Term → Bool
  | .chars _ => true
  | .capture _ r => r.consumes
  | .seq a b => a.consumes || b.consumes
  | .alt a b => a.consumes && b.consumes
  | .plus _ r => r.consumes
  | _ => false

/-- Whether no match takes a character. -/
def onlyEmpty : Term → Bool
  | .empty => true
  | .chars _ => false
  | .look _ => true
  | .capture _ r => r.onlyEmpty
  | .seq a b => a.onlyEmpty && b.onlyEmpty
  | .alt a b => a.onlyEmpty && b.onlyEmpty
  | .opt _ r => r.onlyEmpty
  | .star _ r => r.onlyEmpty
  | .plus _ r => r.onlyEmpty

/-- The number of groups, the whole match being group zero: one more than the greatest number
that a group bears. -/
def groupCount : Term → Nat
  | .capture index r => max (index + 1) r.groupCount
  | .seq a b => max a.groupCount b.groupCount
  | .alt a b => max a.groupCount b.groupCount
  | .opt _ r => r.groupCount
  | .star _ r => r.groupCount
  | .plus _ r => r.groupCount
  | _ => 1

/-! ## Counted repetitions -/

/-- Exactly `n` times. -/
def power (r : Term) : Nat → Term
  | 0 => .empty
  | 1 => r
  | n + 2 => .seq r (power r (n + 1))

/-- At most `n` times; each further time is tried only after the one before. -/
def upTo (greedy : Bool) (r : Term) : Nat → Term
  | 0 => .empty
  | 1 => .opt greedy r
  | n + 2 => .opt greedy (.seq r (upTo greedy r (n + 1)))

/-- `n` times or more. Where a time may take no character, the first one is optional and the
later ones follow it, so that a match is not lost by going round without progress. -/
def atLeast (greedy : Bool) (r : Term) : Nat → Term
  | 0 => if r.consumes then .star greedy r else .opt greedy (.plus greedy r)
  | 1 => .plus greedy r
  | n + 2 => .seq (power r (n + 1)) (.plus greedy r)

/-- The repetition that bounds describe, for an expression that can take characters. -/
def between (greedy : Bool) (r : Term) (min : Nat) : Option Nat → Term
  | none => atLeast greedy r min
  | some max =>
    if max ≤ min then power r min
    else if min = 0 then upTo greedy r max
    else .seq (power r min) (upTo greedy r (max - min))

/-- The repetition that bounds describe. Repeating an expression that takes no character more
than once changes nothing, and repeating any expression no times at all leaves nothing of it,
not even its groups. -/
def repeated (greedy : Bool) (r : Term) (min : Nat) (max : Option Nat) : Term :=
  if r.onlyEmpty then between greedy r (Nat.min min 1) (some ((max.getD 1).min 1))
  else between greedy r min max

end Term

end TokenClassifier.Regex
