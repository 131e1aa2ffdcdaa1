/-!
# Templates of end tokens

A template says what closes a form, given the groups of the token that opened it. `$0` to `$9`
stand for the groups, `$0` being the whole token, and `$$` for a dollar sign. A group that the
match does not have is left as it is written, and so is a dollar sign before anything else.

A template can be read in two ways: `expand` writes the text out in one pass from left to right,
and `segments` cuts the template into literal runs and references. `ofSegments` writes segments
back as a template.
-/

namespace TokenClassifier

/-- A part of a template: text that stands for itself, with its escapes resolved, or a reference
to a group. -/
inductive Segment where
  | literal (text : List Char)
  | group (index : Nat)
  deriving DecidableEq, Repr

namespace Template

/-- The value of a decimal digit. -/
def digit (c : Char) : Nat := c.toNat - 48

/-! ## Segments -/

/-- Puts a character in front, into the literal run that stands there if there is one. -/
def pushChar (c : Char) : List Segment → List Segment
  | .literal text :: rest => .literal (c :: text) :: rest
  | rest => .literal [c] :: rest

/-- The segments of a template's characters. -/
def segmentsOf : List Char → List Segment
  | [] => []
  | '$' :: '$' :: rest => pushChar '$' (segmentsOf rest)
  | '$' :: c :: rest =>
    if c.isDigit then .group (digit c) :: segmentsOf rest
    else pushChar '$' (segmentsOf (c :: rest))
  | c :: rest => pushChar c (segmentsOf rest)

/-- The segments of a template. -/
def segments (template : String) : List Segment := segmentsOf template.toList

/-! ## Expansion -/

/-- The expansion of a template's characters. -/
def expandChars (groups : List (List Char)) : List Char → List Char
  | [] => []
  | '$' :: '$' :: rest => '$' :: expandChars groups rest
  | '$' :: c :: rest =>
    if c.isDigit then
      match groups[digit c]? with
      | some text => text ++ expandChars groups rest
      | none => '$' :: c :: expandChars groups rest
    else '$' :: expandChars groups (c :: rest)
  | c :: rest => c :: expandChars groups rest

/-- The text of a template for the groups of a match. The text of a group is not read again. A
template without a dollar sign is its own text, whatever the groups are. -/
def expand (template : String) (groups : List String) : String :=
  if '$' ∈ template.toList then
    String.ofList (expandChars (groups.map String.toList) template.toList)
  else template

/-! ## Writing templates -/

/-- The template of a literal text: every dollar sign is doubled. -/
def escapeChars : List Char → List Char
  | [] => []
  | c :: rest => if c = '$' then '$' :: '$' :: escapeChars rest else c :: escapeChars rest

/-- The template that stands for a literal text whatever the groups are. -/
def ofLiteral (text : String) : String := String.ofList (escapeChars text.toList)

/-- A segment as it is written in a template. -/
def writeSegment : Segment → List Char
  | .literal text => escapeChars text
  | .group index => ['$', Char.ofNat (48 + index)]

/-- The template that has the given segments. -/
def ofSegments (segments : List Segment) : String :=
  String.ofList (segments.flatMap writeSegment)

/-! ## Shapes -/

/-- How a template depends on the match. -/
inductive Shape where
  /-- Not at all: it stands for one token. -/
  | constant
  /-- Only on the whole token. -/
  | whole
  /-- On what a group captured. -/
  | captures
  deriving DecidableEq, Repr

/-- The shape of a row of segments. -/
def shapeOf : List Segment → Shape
  | [] => .constant
  | .literal _ :: rest => shapeOf rest
  | .group 0 :: rest => if shapeOf rest = .captures then .captures else .whole
  | .group _ :: _ => .captures

/-- The shape of a template. -/
def shape (template : String) : Shape := shapeOf (segments template)

/-- Whether a template refers to one of the groups `$1` to `$9`. -/
def hasCapture (template : String) : Bool := shape template == .captures

end Template

end TokenClassifier
