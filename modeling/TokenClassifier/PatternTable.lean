import TokenClassifier.Regex.Pattern
import TokenClassifier.Text.Quoted

/-!
# Pattern tables

A table leads from tokens to values by way of patterns. A pattern has to match a whole token,
and where several do, the one registered first decides.

A table is built from its entries as a whole. The first entry whose pattern cannot be compiled
fails it, and the failure names that entry. The patterns are compiled twice: as a set, which tells
in one go which of them match a token, and one by one, for the groups of a match.

The set can be refused too, and then the table as a whole is to blame (`Origin.table`). Here this
cannot arise: a set would have to grow too large although each of its patterns compiles, and the size
of a set has no limit. The failure keeps its place and its wording, and nothing is proved of it but
that it does not occur.
-/

namespace TokenClassifier

/-- Where a pattern comes from. -/
inductive Origin where
  /-- An entry of a list of patterns. -/
  | item (list : String) (index : Nat)
  /-- The start of a surround rule. -/
  | start (rule : Nat)
  /-- The end of a surround rule. -/
  | stop (rule : Nat)
  /-- A template among the endings of a surround rule. -/
  | ending (rule index : Nat)
  /-- All patterns of a table together. It is named where they compile one by one and not as a set,
  which does not happen here. -/
  | table
  deriving DecidableEq, Repr

/-- An origin in words. -/
def Origin.text : Origin → String
  | .item list index => list ++ "[" ++ toString index ++ "]"
  | .start rule => "surround-regexp[" ++ toString rule ++ "].start"
  | .stop rule => "surround-regexp[" ++ toString rule ++ "].end"
  | .ending rule index =>
    "surround-regexp[" ++ toString rule ++ "].endings[" ++ toString index ++ "]"
  | .table => "pattern table"

/-- A pattern that could not be compiled, and why. -/
structure PatternError where
  origin : Origin
  pattern : String
  fault : Regex.Fault
  deriving DecidableEq, Repr

/-- The message of a pattern error, up to the place where the fault is explained. -/
def PatternError.message (e : PatternError) : String :=
  e.origin.text ++ ": invalid regular expression " ++ Text.quote e.pattern ++ ": "

/-- The pattern that matches exactly the whole tokens that `pattern` describes. The two are
joined as text. -/
def anchor (pattern : String) : String := "\\A(?:" ++ pattern ++ ")\\z"

/-- A pattern with its value and its origin, to be registered in a table. -/
structure Entry (α : Type) where
  pattern : String
  value : α
  origin : Origin
  deriving DecidableEq, Repr

/-- Compiles the pattern of an entry. -/
def Entry.compile {α : Type} (e : Entry α) : Except PatternError Regex.Pattern :=
  (Regex.Pattern.compile (anchor e.pattern)).mapError fun fault => ⟨e.origin, e.pattern, fault⟩

/-- Patterns in order of registration, as a set and one by one, and the value of each. -/
structure PatternTable (α : Type) where
  set : Regex.PatternSet
  patterns : List Regex.Pattern
  values : List α
  deriving DecidableEq, Repr

namespace PatternTable

variable {α : Type}

/-- The pattern of each entry, compiled, the text that it was compiled from, and the value. -/
def compileAll : List (Entry α) →
    Except PatternError (List Regex.Pattern × List String × List α)
  | [] => .ok ([], [], [])
  | e :: rest => do
    let pattern ← e.compile
    let (patterns, sources, values) ← compileAll rest
    return (pattern :: patterns, anchor e.pattern :: sources, e.value :: values)

/-- Builds a table. Its patterns are compiled one by one, and only then as a set, so that a pattern
that does not compile is reported with its own origin. -/
def build (entries : List (Entry α)) : Except PatternError (PatternTable α) := do
  let (patterns, sources, values) ← compileAll entries
  let set ← (Regex.PatternSet.compile sources).mapError fun fault =>
    ⟨.table, "|".intercalate sources, fault⟩
  return ⟨set, patterns, values⟩

/-- The value and the groups of the first pattern that matches a token. -/
def lookup? (t : PatternTable α) (token : String) : Option (α × List String) := do
  let place ← (t.set.hits token).head?
  let pattern ← t.patterns[place]?
  let groups ← pattern.captures? token
  let value ← t.values[place]?
  return (value, groups)

/-- Whether any pattern matches a token. -/
def isMatch (t : PatternTable α) (token : String) : Bool := t.set.isMatch token

/-- The number of patterns. -/
def size (t : PatternTable α) : Nat := t.values.length

end PatternTable

end TokenClassifier
