import TokenClassifier.Regex.CharSet

/-!
# The syntax of patterns

A pattern as it is written: the tree keeps groups, flags and classes apart, and says nothing yet
about what a flag makes of them. A sequence `a b c` is `.concat a (.concat b c)` and an
alternation `a|b|c` is `.alt a (.alt b c)`; because a group is a node of its own, the right-hand
spine of such a chain is exactly the sequence or the alternation that was written.

`Syntax.depth` counts how deep the written constructs nest, a whole sequence or alternation
counting once, and patterns that nest deeper than `Syntax.depthLimit` are refused.
-/

namespace TokenClassifier.Regex

open Unicode

/-- Why a pattern is refused. -/
inductive Fault where
  /-- A `)` without its `(`. -/
  | unopenedGroup
  /-- A `(` without its `)`, or a group head that breaks off. -/
  | unclosedGroup
  /-- A `[` without its `]`. -/
  | unclosedClass
  /-- A repetition with nothing before it to repeat. -/
  | nothingToRepeat
  /-- A counted repetition that is not closed, not a number, too large, or upside down. -/
  | badCount
  /-- An escape that breaks off or has no meaning. -/
  | badEscape
  /-- A reference to a group. -/
  | backreference
  /-- A hexadecimal escape that does not give a character. -/
  | badHex
  /-- A property name that the standard does not have. -/
  | unknownProperty
  /-- A group that looks ahead or behind. -/
  | lookAround
  /-- A group name that breaks off, is empty, or has a character that names do not have. -/
  | badGroupName
  /-- A group name that is used twice. -/
  | duplicateGroupName
  /-- A flag that is unknown or given twice, or a `-` with no flag after it. -/
  | badFlags
  /-- A range whose ends are not single characters in order. -/
  | badRange
  /-- An assertion inside a class. -/
  | badClassItem
  /-- Constructs nested too deep. -/
  | tooDeep
  /-- A construct that only makes sense on bytes, or that could match inside of a character. -/
  | notText
  deriving DecidableEq, Repr

/-- The flags of a pattern. -/
inductive Flag where
  /-- `i`: letters match in either case. -/
  | ignoreCase
  /-- `m`: `^` and `$` match at line ends. -/
  | multiLine
  /-- `s`: a dot matches a line feed too. -/
  | dotAll
  /-- `U`: repetitions are lazy unless marked. -/
  | swapGreed
  /-- `u`: classes and word boundaries know all scripts. -/
  | unicode
  /-- `R`: a carriage return ends a line too. -/
  | crlf
  /-- `x`: white space and comments in the pattern do not count. -/
  | verbose
  deriving DecidableEq, Repr

/-- Flags set or cleared together, in the order written. -/
abbrev FlagChanges := List (Flag × Bool)

/-- What a list of changes says about one flag. -/
def FlagChanges.get? (changes : FlagChanges) (f : Flag) : Option Bool :=
  (changes.find? fun (g, _) => g == f).map (·.2)

/-- A character of a pattern. `byte` marks one that was written as exactly two hexadecimal
digits, which names a byte where classes do not know all scripts. -/
structure Literal where
  char : Char
  byte : Bool := false
  deriving DecidableEq, Repr

/-- The conditions on a place in the text that a pattern can demand. -/
inductive Anchor where
  | lineStart | lineEnd | textStart | textEnd
  | wordBoundary | notWordBoundary
  | wordStart | wordEnd | wordStartHalf | wordEndHalf
  deriving DecidableEq, Repr

/-- The classes `\d`, `\s` and `\w`. -/
inductive Shorthand where
  | digit | space | word
  deriving DecidableEq, Repr

/-- The classes of ASCII characters that are named inside of brackets, as in `[[:alpha:]]`. -/
inductive AsciiClass where
  | alnum | alpha | ascii | blank | cntrl | digit | graph | lower | print | punct | space
  | upper | word | xdigit
  deriving DecidableEq, Repr

/-- The name of an ASCII class. -/
def AsciiClass.ofName? (name : List Char) : Option AsciiClass :=
  match String.ofList name with
  | "alnum" => some .alnum
  | "alpha" => some .alpha
  | "ascii" => some .ascii
  | "blank" => some .blank
  | "cntrl" => some .cntrl
  | "digit" => some .digit
  | "graph" => some .graph
  | "lower" => some .lower
  | "print" => some .print
  | "punct" => some .punct
  | "space" => some .space
  | "upper" => some .upper
  | "word" => some .word
  | "xdigit" => some .xdigit
  | _ => none

/-- The operators between the parts of a class. -/
inductive ClassOp where
  | inter | diff | symmDiff
  deriving DecidableEq, Repr

/-- What stands between the brackets of a class. -/
inductive ClassSyntax where
  | empty
  | char (l : Literal)
  | span (lo hi : Literal)
  | ascii (negated : Bool) (k : AsciiClass)
  | shorthand (negated : Bool) (k : Shorthand)
  | property (negated : Bool) (p : Property)
  | bracket (negated : Bool) (inner : ClassSyntax)
  /-- Two items side by side; a longer row nests to the right. -/
  | beside (a b : ClassSyntax)
  | op (o : ClassOp) (a b : ClassSyntax)
  deriving DecidableEq, Repr

/-- How often a pattern is repeated; without `max`, any number of times from `min` on. -/
structure Count where
  min : Nat
  max : Option Nat
  deriving DecidableEq, Repr

/-- A pattern as it is written. -/
inductive Syntax where
  | empty
  /-- Flags for what follows, up to the end of the group. -/
  | flags (changes : FlagChanges)
  | char (l : Literal)
  | dot
  | anchor (a : Anchor)
  | shorthand (negated : Bool) (k : Shorthand)
  | property (negated : Bool) (p : Property)
  | bracket (negated : Bool) (inner : ClassSyntax)
  /-- A group that captures, with its number. -/
  | capture (index : Nat) (inner : Syntax)
  /-- A group that only groups, with flags for its inside. -/
  | scope (changes : FlagChanges) (inner : Syntax)
  | repeated (count : Count) (greedy : Bool) (inner : Syntax)
  | concat (a b : Syntax)
  | alt (a b : Syntax)
  deriving DecidableEq, Repr

/-! ## Rows -/

/-- The class that lists items side by side. -/
def ClassSyntax.row : List ClassSyntax → ClassSyntax
  | [] => .empty
  | [a] => a
  | a :: rest => .beside a (row rest)

/-- The pattern that has its parts in sequence. -/
def Syntax.sequence : List Syntax → Syntax
  | [] => .empty
  | [a] => a
  | a :: rest => .concat a (sequence rest)

/-- The pattern that has its parts as alternatives. -/
def Syntax.alternation : List Syntax → Syntax
  | [] => .empty
  | [a] => a
  | a :: rest => .alt a (alternation rest)

/-! ## Depth -/

/-- The depth of a class and, second, the depth of the deepest item of its row. -/
def ClassSyntax.depths : ClassSyntax → Nat × Nat
  | .bracket _ inner => let d := inner.depths.1 + 1; (d, d)
  | .beside a b => let d := max a.depths.1 b.depths.2; (d + 1, d)
  | .op _ a b => let d := max a.depths.1 b.depths.1 + 1; (d, d)
  | _ => (0, 0)

/-- The depth of a pattern, the depth of the deepest part of its sequence, and the depth of the
deepest of its alternatives. -/
def Syntax.depths : Syntax → Nat × Nat × Nat
  | .bracket _ inner => let d := inner.depths.1 + 1; (d, d, d)
  | .capture _ inner => let d := inner.depths.1 + 1; (d, d, d)
  | .scope _ inner => let d := inner.depths.1 + 1; (d, d, d)
  | .repeated _ _ inner => let d := inner.depths.1 + 1; (d, d, d)
  | .concat a b => let d := max a.depths.1 b.depths.2.1; (d + 1, d, d + 1)
  | .alt a b => let d := max a.depths.1 b.depths.2.2; (d + 1, d + 1, d)
  | _ => (0, 0, 0)

/-- How deep the constructs of a pattern nest. -/
def Syntax.depth (r : Syntax) : Nat := r.depths.1

/-- The deepest nesting that is accepted. -/
def Syntax.depthLimit : Nat := 250

end TokenClassifier.Regex
