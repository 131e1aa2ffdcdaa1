import TokenClassifier.Yaml.Token

/-!
# Scalars

A scalar may go over several lines. Inside of a plain or a quoted scalar a line break is folded:
one break reads as a space, and of several the first is dropped. A break that is not a line feed
is never dropped. In a folded block the same is done between two lines that are not indented
further.
-/

namespace TokenClassifier.Yaml

/-! ## Gaps inside of plain and quoted scalars -/

/-- The white space between two words of a scalar: spaces on one line, or breaks. -/
structure Gap where
  /-- Whether there has been a break. -/
  broken : Bool := false
  spaces : List Char := []
  first : List Char := []
  more : List Char := []
  deriving DecidableEq, Repr

/-- What a gap reads as. -/
def Gap.text (g : Gap) : List Char :=
  if !g.broken then g.spaces
  else if g.first.head? = some '\n' then
    if g.more.isEmpty then [' '] else g.more
  else g.first ++ g.more

/-- Reads a gap. On a line after a break, a tab left of column `indent` is refused. -/
def readGap (indent : Nat) : Nat → Gap → Cursor → Except Fault (Gap × Cursor)
  | 0, g, c => .ok (g, c)
  | fuel + 1, g, c =>
    if c.atSpace then
      if g.broken && c.column < indent && c.sees '\t' then .error .tabIndentation
      else if g.broken then readGap indent fuel g (c.advance 1)
      else readGap indent fuel { g with spaces := g.spaces ++ c.rest.take 1 } (c.advance 1)
    else if c.atBreak then
      let (text, c) := c.takeBreak
      if g.broken then readGap indent fuel { g with more := g.more ++ text } c
      else readGap indent fuel { g with broken := true, spaces := [], first := text } c
    else .ok (g, c)

/-! ## Plain scalars -/

/-- The characters that end a plain scalar inside of a flow collection. -/
def isFlowEnd (c : Char) : Bool := c ∈ [',', '[', ']', '{', '}']

/-- Reads a word of a plain scalar. -/
def readWord (inFlow : Bool) : List Char → Except Fault (List Char)
  | [] => .ok []
  | c :: rest =>
    if isSpace c || isBreak c then .ok []
    else if inFlow && c == ':' && rest.head?.any (fun d => isFlowEnd d || d == '?') then
      .error .unexpectedCharacter
    else if c == ':' && rest.head?.all (fun d => isSpace d || isBreak d) then .ok []
    else if inFlow && isFlowEnd c then .ok []
    else do return c :: (← readWord inFlow rest)

/-- Reads a plain scalar on after the gap `g`; `done` has what was read so far, last character
first. The result tells whether a break follows the scalar. -/
def readPlainFrom (inFlow : Bool) (indent : Nat) :
    Nat → List Char → Gap → Cursor → Except Fault (List Char × Bool × Cursor)
  | 0, done, g, c => .ok (done.reverse, g.broken, c)
  | fuel + 1, done, g, c =>
    if c.atDocumentMark || c.sees '#' then .ok (done.reverse, g.broken, c)
    else do
      let word ← readWord inFlow c.rest
      let c := c.advance word.length
      let (done, g) :=
        if word.isEmpty then (done, g) else (word.reverse ++ (g.text.reverse ++ done), {})
      if c.atSpace || c.atBreak then
        let (g, c) ← readGap indent c.fuel g c
        if !inFlow && c.column < indent then return (done.reverse, g.broken, c)
        else readPlainFrom inFlow indent fuel done g c
      else return (done.reverse, g.broken, c)

/-- Reads a plain scalar that may go on in lines indented to column `indent` at least. -/
def readPlain (inFlow : Bool) (indent : Nat) (c : Cursor) :
    Except Fault (List Char × Bool × Cursor) :=
  readPlainFrom inFlow indent c.fuel [] {} c

/-! ## Quoted scalars -/

/-- The value of a hexadecimal digit. -/
def hexDigit? (c : Char) : Option Nat :=
  if c.isDigit then some (c.toNat - 48)
  else if 'a' ≤ c ∧ c ≤ 'f' then some (c.toNat - 87)
  else if 'A' ≤ c ∧ c ≤ 'F' then some (c.toNat - 55)
  else none

/-- The character that a letter stands for after a backslash. -/
def escaped? (c : Char) : Option Char :=
  match c with
  | '0' => some '\x00'
  | 'a' => some '\x07'
  | 'b' => some '\x08'
  | 't' => some '\t'
  | '\t' => some '\t'
  | 'n' => some '\n'
  | 'v' => some '\x0b'
  | 'f' => some '\x0c'
  | 'r' => some '\r'
  | 'e' => some '\x1b'
  | ' ' => some ' '
  | '"' => some '"'
  | '/' => some '/'
  | '\\' => some '\\'
  | 'N' => some '\u0085'
  | '_' => some '\u00a0'
  | 'L' => some '\u2028'
  | 'P' => some '\u2029'
  | _ => none

/-- How many hexadecimal digits follow a letter after a backslash. -/
def escapeWidth? (c : Char) : Option Nat :=
  match c with
  | 'x' => some 2
  | 'u' => some 4
  | 'U' => some 8
  | _ => none

/-- Reads an escape from the text after the backslash: its character, and how many characters it
takes. -/
def readEscape (cs : List Char) : Except Fault (Char × Nat) :=
  match cs with
  | [] => .error .badEscape
  | c :: rest =>
    match escaped? c, escapeWidth? c with
    | some d, _ => .ok (d, 1)
    | none, some width =>
      let digits := rest.take width
      match digits.foldlM (fun n d => (hexDigit? d).map (16 * n + ·)) 0 with
      | some n =>
        if digits.length = width ∧ n.isValidChar then .ok (Char.ofNat n, width + 1)
        else .error .badEscape
      | none => .error .badEscape
    | none, none => .error .badEscape

/-- Reads a quoted scalar up to its closing quote; `done` has what was read so far, last
character first. -/
def readQuotedFrom (single : Bool) :
    Nat → List Char → Cursor → Except Fault (List Char × Cursor)
  | 0, _, _ => .error .unclosedScalar
  | fuel + 1, done, c =>
    let quote := if single then '\'' else '"'
    match c.rest with
    | [] => .error .unclosedScalar
    | d :: rest =>
      if c.atDocumentMark then .error .unclosedScalar
      else if isSpace d || isBreak d then do
        let (g, c) ← readGap 0 c.fuel {} c
        readQuotedFrom single fuel (g.text.reverse ++ done) c
      else if single && d == '\'' && rest.head? == some '\'' then
        readQuotedFrom single fuel (d :: done) (c.advance 2)
      else if d == quote then .ok (done.reverse, c.advance 1)
      else if !single && d == '\\' then
        if rest.head?.any isBreak then do
          let (g, c) ← readGap 0 c.fuel { broken := true } (c.advance 1).skipBreak
          readQuotedFrom single fuel (g.text.reverse ++ done) c
        else do
          let (e, width) ← readEscape rest
          readQuotedFrom single fuel (e :: done) (c.advance (width + 1))
      else readQuotedFrom single fuel (d :: done) (c.advance 1)

/-- Reads a quoted scalar, opening quote included. -/
def readQuoted (single : Bool) (c : Cursor) : Except Fault (List Char × Cursor) :=
  readQuotedFrom single c.fuel [] (c.advance 1)

/-! ## Block scalars -/

/-- What becomes of the line breaks at the end of a block. -/
inductive Chomping where
  /-- All are dropped. -/
  | strip
  /-- One is kept. -/
  | clip
  /-- All are kept. -/
  | keep
  deriving DecidableEq, Repr

/-- Reads the sign for the breaks at the end, if one comes next. -/
def readChomping? (c : Cursor) : Option Chomping × Cursor :=
  if c.sees '+' then (some .keep, c.advance 1)
  else if c.sees '-' then (some .strip, c.advance 1)
  else (none, c)

/-- Reads the digit for the indentation, if one comes next. It is not zero. -/
def readIndentation? (c : Cursor) : Except Fault (Option Nat × Cursor) :=
  match c.rest.head? with
  | some d =>
    if d = '0' then .error .badBlockHeader
    else if d.isDigit then .ok (some (d.toNat - 48), c.advance 1)
    else .ok (none, c)
  | none => .ok (none, c)

/-- Reads the sign and the digit of a block's head, in either order. -/
def readBlockHead (c : Cursor) : Except Fault (Chomping × Option Nat × Cursor) := do
  match readChomping? c with
  | (some chomping, c) =>
    let (indentation, c) ← readIndentation? c
    return (chomping, indentation, c)
  | (none, c) =>
    let (indentation, c) ← readIndentation? c
    match indentation with
    | none => return (.clip, none, c)
    | some _ =>
      let (chomping, c) := readChomping? c
      return (chomping.getD .clip, indentation, c)

/-- Goes past the spaces and the comment that may end a line, and past its break. -/
def finishLine (fault : Fault) (c : Cursor) : Except Fault Cursor :=
  let c := c.skipWhile isSpace
  let c := if c.sees '#' then c.skipLine else c
  if c.lineEndAhead 0 then .ok c.skipBreak else .error fault

/-- Reads empty lines and the indentation of the line after them. While the indentation of the
block is unknown all spaces count as indentation; `deepest` is the deepest line so far. -/
def readBlockBreaks (indent : Option Nat) :
    Nat → Nat → List Char → Cursor → Except Fault (List Char × Nat × Cursor)
  | 0, deepest, breaks, c => .ok (breaks, deepest, c)
  | fuel + 1, deepest, breaks, c =>
    let spaces := (c.rest.takeWhile (· == ' ')).length
    let c := c.advance (match indent with
      | none => spaces
      | some n => min spaces (n - c.column))
    let deepest := max deepest c.column
    if indent.all (c.column < ·) && c.sees '\t' then .error .tabIndentation
    else if c.atBreak then
      let (text, c) := c.takeBreak
      readBlockBreaks indent fuel deepest (breaks ++ text) c
    else .ok (breaks, deepest, c)

/-- Reads the lines of a block that are indented to column `indent`. `done` has what was read so
far, last character first; `leading` is the break before the line, `breaks` those of the empty
lines after it, and `spaced` tells whether the line before began with a space. -/
def readBlockLines (isLiteral : Bool) (indent : Nat) :
    Nat → List Char → List Char → List Char → Bool → Cursor →
    Except Fault (List Char × List Char × List Char × Cursor)
  | 0, done, leading, breaks, _, c => .ok (done.reverse, leading, breaks, c)
  | fuel + 1, done, leading, breaks, spaced, c =>
    if c.column = indent ∧ !c.atEnd then do
      let startsSpaced := c.atSpace
      let joint :=
        if !isLiteral && leading.head? == some '\n' && !spaced && !startsSpaced then
          if breaks.isEmpty then [' '] else []
        else leading
      let (line, c) := c.takeWhile fun d => !isBreak d
      let done := line.reverse ++ (breaks.reverse ++ (joint.reverse ++ done))
      let (leading, c) := c.takeBreak
      let (breaks, _, c) ← readBlockBreaks (some indent) c.fuel 0 [] c
      readBlockLines isLiteral indent fuel done leading breaks startsSpaced c
    else .ok (done.reverse, leading, breaks, c)

/-- Reads a block scalar from its indicator on. `parent` is the column of the collection around
it, or none at the top. -/
def readBlock (isLiteral : Bool) (parent : Option Nat) (c : Cursor) :
    Except Fault (List Char × Cursor) := do
  let (chomping, indentation, c) ← readBlockHead (c.advance 1)
  let c ← finishLine .badBlockHeader c
  let least := match parent with
    | some n => n + 1
    | none => 1
  let given := indentation.map fun n => match parent with
    | some m => m + n
    | none => n
  let (breaks, deepest, c) ← readBlockBreaks given c.fuel 0 [] c
  let indent := given.getD (max deepest least)
  let (text, leading, breaks, c) ←
    readBlockLines isLiteral indent c.fuel [] [] breaks false c
  return match chomping with
    | .strip => (text, c)
    | .clip => (text ++ leading, c)
    | .keep => (text ++ leading ++ breaks, c)

end TokenClassifier.Yaml
