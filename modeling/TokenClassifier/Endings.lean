import TokenClassifier.OrderedSet
import TokenClassifier.Template

/-!
# The endings of a form

The endings of a rule are a set of templates in order of insertion: those that the rule declares
come first, and tokens found to close its forms follow in the order in which they were found.

Different templates can stand for the same token. `StartInfo.endTokens` lists every end token
once, in the order of the first template that stands for it.
-/

namespace TokenClassifier

/-- A set of templates in order of insertion. -/
abbrev Endings := OrderedSet String

namespace Endings

/-- Adds the template of a token that is to stand for itself, and tells whether it is new. -/
def addLiteral (endings : Endings) (token : String) : Bool × Endings :=
  endings.add (Template.ofLiteral token)

/-- The endings with a token more that is to stand for itself. -/
def insertLiteral (endings : Endings) (token : String) : Endings := (endings.addLiteral token).2

/-- The end tokens for the groups of a match. -/
def tokens (endings : Endings) (groups : List String) : List String :=
  (OrderedSet.ofList (endings.toList.map fun template => Template.expand template groups)).toList

end Endings

/-- What is known about the forms that a surround rule opens: the rule's index and what closes
its forms. -/
structure StartInfo where
  rule : Nat
  endings : Endings
  deriving DecidableEq, Repr, Inhabited

/-- The tokens that close the form opened by a token with the given groups. -/
def StartInfo.endTokens (info : StartInfo) (groups : List String) : List String :=
  info.endings.tokens groups

end TokenClassifier
