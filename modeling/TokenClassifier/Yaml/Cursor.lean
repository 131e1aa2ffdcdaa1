/-!
# A place in a document

Reading a document needs to know where it stands: the column decides about indentation, and the
line and the number of characters read decide whether a key is still on one line and short
enough. A `Cursor` is what is left to read together with these numbers.
-/

namespace TokenClassifier.Yaml

/-- The rest of a document and the place where it begins. The length of the whole document goes
with it: no loop over the rest can take more rounds than that. -/
structure Cursor where
  rest : List Char
  length : Nat
  index : Nat := 0
  line : Nat := 0
  column : Nat := 0
  deriving DecidableEq, Repr

/-- A space or a tab. -/
def isSpace (c : Char) : Bool := c == ' ' || c == '\t'

/-- A character that ends a line. -/
def isBreak (c : Char) : Bool :=
  c == '\r' || c == '\n' || c == '\u0085' || c == '\u2028' || c == '\u2029'

/-- A character of a name: an ASCII letter or digit, an underscore or a hyphen. -/
def isNameChar (c : Char) : Bool := c.isAlphanum || c == '_' || c == '-'

namespace Cursor

/-- The character `n` places ahead. -/
def ahead (c : Cursor) (n : Nat) : Option Char := c.rest[n]?

/-- Whether the next character is `d`. -/
def sees (c : Cursor) (d : Char) : Bool := c.rest.head? == some d

/-- Whether the document has ended. -/
def atEnd (c : Cursor) : Bool := c.rest.isEmpty

/-- Whether a space or a tab comes next. -/
def atSpace (c : Cursor) : Bool := c.rest.head?.any isSpace

/-- Whether a line break comes next. -/
def atBreak (c : Cursor) : Bool := c.rest.head?.any isBreak

/-- Whether the line or the document ends `n` places ahead. -/
def lineEndAhead (c : Cursor) (n : Nat) : Bool := (c.ahead n).all isBreak

/-- Whether a space, a tab, a line break or the end lies `n` places ahead. -/
def gapAhead (c : Cursor) (n : Nat) : Bool := (c.ahead n).all fun d => isSpace d || isBreak d

/-- The start of a document. -/
def ofText (text : List Char) : Cursor := { rest := text, length := text.length }

/-- Rounds enough for any loop over the rest. -/
def fuel (c : Cursor) : Nat := c.length + 2

/-- Goes `n` characters on along the line. -/
def advance (c : Cursor) : Nat → Cursor
  | 0 => c
  | n + 1 =>
    match c.rest with
    | [] => c
    | _ :: rest => advance { c with rest, index := c.index + 1, column := c.column + 1 } n

/-- Takes the line break that comes next, if one does, and gives it as text. Most breaks read as
a line feed; the separators of lines and of paragraphs are kept. -/
def takeBreak (c : Cursor) : List Char × Cursor :=
  match c.rest with
  | '\r' :: '\n' :: rest =>
    (['\n'], { c with rest, index := c.index + 2, line := c.line + 1, column := 0 })
  | d :: rest =>
    if isBreak d then
      (if d = '\u2028' ∨ d = '\u2029' then [d] else ['\n'],
        { c with rest, index := c.index + 1, line := c.line + 1, column := 0 })
    else ([], c)
  | [] => ([], c)

/-- Goes past a line break, if one comes next. -/
def skipBreak (c : Cursor) : Cursor := c.takeBreak.2

/-- Takes characters of the line as long as they satisfy `p`. -/
def takeWhile (c : Cursor) (p : Char → Bool) : List Char × Cursor :=
  let run := c.rest.takeWhile p
  (run, c.advance run.length)

/-- Goes past characters of the line that satisfy `p`. -/
def skipWhile (c : Cursor) (p : Char → Bool) : Cursor := (c.takeWhile p).2

/-- Goes to the end of the line. -/
def skipLine (c : Cursor) : Cursor := c.skipWhile fun d => !isBreak d

/-- Whether a line begins here with three times `d` and a gap after it: the mark that begins or
ends a document. -/
def atMark (c : Cursor) (d : Char) : Bool :=
  c.column == 0 && c.rest.take 3 == [d, d, d] && c.gapAhead 3

/-- Whether a document begins or ends here. -/
def atDocumentMark (c : Cursor) : Bool := c.atMark '-' || c.atMark '.'

end Cursor

end TokenClassifier.Yaml
