import TokenClassifier.Yaml.Name

/-!
# From text to tokens

A document is scanned from left to right. In block style, indentation opens and closes
collections: a token in a column to the right of the current one opens a collection and one to
its left closes those that it leaves.

A mapping key has no mark of its own before it; only the colon after it tells that it was one.
So a token that may begin a key is held back, and everything after it too, until it is known
whether a colon follows. A key that is still waiting when its line ends, or after 1024
characters, is none; where the indentation demands a key this is an error.

The result of a scan is the tokens that were passed on and whether the document was scanned to
its end. Tokens that are held back when the scan fails are lost.
-/

namespace TokenClassifier.Yaml

/-- A token that may begin a mapping key: its number, where it stands, and whether the
indentation demands a key. -/
structure KeyCandidate where
  number : Nat
  required : Bool
  index : Nat
  line : Nat
  column : Nat
  deriving DecidableEq, Repr

/-- How far a key may reach. -/
def keyLimit : Nat := 1024

/-- A scan in progress. -/
structure Scan where
  cursor : Cursor
  /-- The columns of the open block collections, innermost first. -/
  indents : List Nat := []
  /-- Whether a key may begin here. -/
  keyAllowed : Bool := true
  /-- The key candidate outside of all flow collections, or of the innermost open one. -/
  candidate : Option KeyCandidate := none
  /-- For each open flow collection, innermost first, the candidate around it. -/
  outer : List (Option KeyCandidate) := []
  /-- How many tokens have been passed on. -/
  passed : Nat := 0
  /-- The tokens held back. -/
  queue : List Token := []
  deriving DecidableEq, Repr

namespace Scan

/-- Whether the scan is inside of a flow collection. -/
def inFlow (s : Scan) : Bool := !s.outer.isEmpty

/-- Adds a token. -/
def push (s : Scan) (t : Token) : Scan := { s with queue := s.queue ++ [t] }

/-- Adds a token before the one with a given number. -/
def insert (s : Scan) (number : Nat) (t : Token) : Scan :=
  let n := number - s.passed
  { s with queue := s.queue.take n ++ t :: s.queue.drop n }

/-- Goes on to a place. -/
def goTo (s : Scan) (c : Cursor) : Scan := { s with cursor := c }

/-! ## Keys -/

/-- Whether a candidate can no longer be a key at a place. -/
def KeyCandidate.isStale (k : KeyCandidate) (c : Cursor) : Bool :=
  k.line < c.line || k.index + keyLimit < c.index

/-- Drops a candidate that can no longer be a key. -/
def dropIfStale (c : Cursor) : Option KeyCandidate → Except Fault (Option KeyCandidate)
  | none => .ok none
  | some k =>
    if KeyCandidate.isStale k c then
      if k.required then .error .keyWithoutValue else .ok none
    else .ok (some k)

/-- Drops all candidates that can no longer be keys. -/
def dropStale (s : Scan) : Except Fault Scan := do
  let outer ← s.outer.mapM (dropIfStale s.cursor)
  let candidate ← dropIfStale s.cursor s.candidate
  return { s with outer, candidate }

/-- Drops the current candidate. -/
def dropCandidate (s : Scan) : Except Fault Scan :=
  if s.candidate.any (·.required) then .error .keyWithoutValue
  else .ok { s with candidate := none }

/-- Makes the token that begins here a candidate, where a key may begin. -/
def noteCandidate (s : Scan) : Except Fault Scan :=
  if s.keyAllowed then do
    let s ← s.dropCandidate
    let required := !s.inFlow && s.indents.head? == some s.cursor.column
    return { s with
      candidate := some ⟨s.passed + s.queue.length, required, s.cursor.index, s.cursor.line,
        s.cursor.column⟩ }
  else .ok s

/-! ## Indentation -/

/-- Whether a column lies to the right of the current block collection. -/
def isDeeper (s : Scan) (column : Nat) : Bool := s.indents.head?.all (· < column)

/-- Opens a block collection at a column to the right of the current one; its token goes to the
end or before the token with a given number. -/
def indent (s : Scan) (column : Nat) (number : Option Nat) (t : Token) : Scan :=
  if s.inFlow || !s.isDeeper column then s
  else
    let s := { s with indents := column :: s.indents }
    match number with
    | some n => s.insert n t
    | none => s.push t

/-- The columns that remain of `indents` when those to the right of a column are closed, and how
many are closed. Without a column all are. -/
def closeIndents (column : Option Nat) : List Nat → List Nat × Nat
  | [] => ([], 0)
  | n :: rest =>
    if column.all (· < n) then
      let (left, closed) := closeIndents column rest
      (left, closed + 1)
    else (n :: rest, 0)

/-- Closes the block collections to the right of a column, or all of them. -/
def unindent (s : Scan) (column : Option Nat) : Scan :=
  if s.inFlow then s
  else
    let (indents, closed) := closeIndents column s.indents
    { s with indents, queue := s.queue ++ List.replicate closed .blockEnd }

/-! ## Between tokens -/

/-- Goes past spaces, comments and line breaks. In block style a key may begin on a new line, and
where a key may begin a tab is no space. -/
def skipGaps : Nat → Scan → Scan
  | 0, s => s
  | fuel + 1, s =>
    let c := s.cursor
    let c := if c.column = 0 ∧ c.sees '\ufeff' then c.advance 1 else c
    let tabs := s.inFlow || !s.keyAllowed
    let c := c.skipWhile fun d => d == ' ' || (tabs && d == '\t')
    let c := if c.sees '#' then c.skipLine else c
    if c.atBreak then
      skipGaps fuel { s with cursor := c.skipBreak, keyAllowed := s.keyAllowed || !s.inFlow }
    else { s with cursor := c }

/-! ## Tokens -/

/-- Takes an indicator of `n` characters. -/
def take (s : Scan) (n : Nat) (t : Token) : Scan := (s.goTo (s.cursor.advance n)).push t

/-- Ends all block collections before a directive, a document mark or the end. -/
def toMargin (s : Scan) : Except Fault Scan := do
  let s ← (s.unindent none).dropCandidate
  return { s with keyAllowed := false }

/-- Takes the start of a flow collection. -/
def openFlow (s : Scan) (t : Token) : Except Fault Scan := do
  let s ← s.noteCandidate
  let s := { s with outer := s.candidate :: s.outer, candidate := none, keyAllowed := true }
  return s.take 1 t

/-- Takes the end of a flow collection. -/
def closeFlow (s : Scan) (t : Token) : Except Fault Scan := do
  let s ← s.dropCandidate
  let s := match s.outer with
    | candidate :: outer => { s with candidate, outer }
    | [] => s
  return { s with keyAllowed := false }.take 1 t

/-- Takes the comma between the entries of a flow collection. -/
def takeFlowEntry (s : Scan) : Except Fault Scan := do
  let s ← s.dropCandidate
  return { s with keyAllowed := true }.take 1 .flowEntry

/-- Takes the hyphen before an entry of a block sequence. -/
def takeBlockEntry (s : Scan) : Except Fault Scan := do
  if !s.inFlow && !s.keyAllowed then .error .misplaced
  else
    let s ← (s.indent s.cursor.column none .blockSequenceStart).dropCandidate
    return { s with keyAllowed := true }.take 1 .blockEntry

/-- Takes the question mark before a key. -/
def takeKey (s : Scan) : Except Fault Scan := do
  if !s.inFlow && !s.keyAllowed then .error .misplaced
  else
    let s ← (s.indent s.cursor.column none .blockMappingStart).dropCandidate
    return { s with keyAllowed := !s.inFlow }.take 1 .key

/-- Takes the colon before a value. The candidate, if there is one, was a key. -/
def takeValue (s : Scan) : Except Fault Scan :=
  match s.candidate with
  | some k =>
    let s := (s.insert k.number .key).indent k.column (some k.number) .blockMappingStart
    .ok ({ s with candidate := none, keyAllowed := false }.take 1 .value)
  | none =>
    if !s.inFlow && !s.keyAllowed then .error .misplaced
    else
      let s := s.indent s.cursor.column none .blockMappingStart
      .ok ({ s with keyAllowed := !s.inFlow }.take 1 .value)

/-- Takes a token that may begin a key and that `read` reads. -/
def takeNode (s : Scan) (read : Cursor → Except Fault (Token × Cursor)) : Except Fault Scan := do
  let s ← s.noteCandidate
  let (t, c) ← read s.cursor
  return ({ s with keyAllowed := false }.goTo c).push t

/-- Takes a plain scalar. A key may follow it on a new line. -/
def takePlain (s : Scan) : Except Fault Scan := do
  let s ← s.noteCandidate
  let least := match s.indents.head? with
    | some n => n + 1
    | none => 0
  let (text, broken, c) ← readPlain s.inFlow least s.cursor
  return ({ s with keyAllowed := broken }.goTo c).push (.scalar .plain text)

/-- Takes a block scalar. -/
def takeBlock (s : Scan) (isLiteral : Bool) : Except Fault Scan := do
  let s ← s.dropCandidate
  let (text, c) ← readBlock isLiteral s.indents.head? s.cursor
  return ({ s with keyAllowed := true }.goTo c).push
    (.scalar (if isLiteral then .literal else .folded) text)

/-- The characters that no plain scalar begins with. -/
def isIndicator (c : Char) : Bool :=
  c ∈ ['-', '?', ':', ',', '[', ']', '{', '}', '#', '&', '*', '!', '|', '>', '\'', '"', '%', '@',
    '\x60']

/-- Whether a plain scalar begins here: with an ordinary character, or with one of `-`, `?` and
`:` that cannot be an indicator here. -/
def startsPlain (s : Scan) (c : Char) : Bool :=
  !(isSpace c || isBreak c || isIndicator c) ||
    (c == '-' && !(s.cursor.ahead 1).any isSpace) ||
    (!s.inFlow && (c == '?' || c == ':') && !s.cursor.gapAhead 1)

/-- Takes the next token of a line, which begins with `c`. -/
def takeToken (s : Scan) (c : Char) : Except Fault Scan :=
  let gap := s.cursor.gapAhead 1
  if s.cursor.column = 0 ∧ c = '%' then do
    let s ← s.toMargin
    let (t, c) ← readDirective s.cursor
    return (s.goTo c).push t
  else if s.cursor.atMark '-' then do return (← s.toMargin).take 3 .documentStart
  else if s.cursor.atMark '.' then do return (← s.toMargin).take 3 .documentEnd
  else if c = '[' then s.openFlow .flowSequenceStart
  else if c = '{' then s.openFlow .flowMappingStart
  else if c = ']' then s.closeFlow .flowSequenceEnd
  else if c = '}' then s.closeFlow .flowMappingEnd
  else if c = ',' then s.takeFlowEntry
  else if c = '-' ∧ gap then s.takeBlockEntry
  else if c = '?' ∧ (s.inFlow ∨ gap) then s.takeKey
  else if c = ':' ∧ (s.inFlow ∨ gap) then s.takeValue
  else if c = '*' then
    s.takeNode fun c => do let (name, c) ← readName c; return (.alias name, c)
  else if c = '&' then
    s.takeNode fun c => do let (name, c) ← readName c; return (.anchor name, c)
  else if c = '!' then s.takeNode (readTag s.inFlow)
  else if c = '|' ∧ !s.inFlow then s.takeBlock true
  else if c = '>' ∧ !s.inFlow then s.takeBlock false
  else if c = '\'' then
    s.takeNode fun c => do
      let (text, c) ← readQuoted true c
      return (.scalar .singleQuoted text, c)
  else if c = '"' then
    s.takeNode fun c => do
      let (text, c) ← readQuoted false c
      return (.scalar .doubleQuoted text, c)
  else if s.startsPlain c then s.takePlain
  else .error .unexpectedCharacter

/-- Takes the end of the document, which ends its last line. -/
def takeEnd (s : Scan) : Except Fault Scan := do
  let c := s.cursor
  let s := if c.column = 0 then s else s.goTo { c with column := 0, line := c.line + 1 }
  return (← s.toMargin).push .streamEnd

/-- Takes the next token, and those that indentation puts before it. -/
def next (s : Scan) : Except Fault Scan := do
  let s ← (skipGaps s.cursor.fuel s).dropStale
  let s := s.unindent (some s.cursor.column)
  match s.cursor.rest.head? with
  | none => s.takeEnd
  | some c => s.takeToken c

/-! ## Passing tokens on -/

/-- The number of the first token that is held back for a key. -/
def heldFrom? (s : Scan) : Option Nat :=
  ((s.candidate :: s.outer).filterMap fun k => k.map (·.number)).min?

/-- Passes on the tokens that no key candidate holds back. -/
def release (s : Scan) : List Token × Scan :=
  let n := match s.heldFrom? with
    | some number => min (number - s.passed) s.queue.length
    | none => s.queue.length
  (s.queue.take n, { s with queue := s.queue.drop n, passed := s.passed + n })

/-- Scans on: the tokens passed on, and whether the end was reached. Every step but the last
takes a character at least, so the length of the document is fuel enough. -/
def run : Nat → Scan → List Token × Bool
  | 0, _ => ([], false)
  | fuel + 1, s =>
    match s.next with
    | .error _ => ([], false)
    | .ok s =>
      match s.dropStale with
      | .error _ => ([], false)
      | .ok s =>
        let (tokens, s) := s.release
        if tokens.getLast? = some .streamEnd then (tokens, true)
        else
          let (more, complete) := run fuel s
          (tokens ++ more, complete)

end Scan

/-- The characters that a document may hold. -/
def isAllowed (c : Char) : Bool :=
  let n := c.toNat
  n == 0x9 || n == 0xa || n == 0xd || (0x20 ≤ n && n ≤ 0x7e) || n == 0x85 ||
    (0xa0 ≤ n && n ≤ 0xfffd) || 0x10000 ≤ n

/-- The tokens of a document, and whether it could be scanned to its end. A mark of the byte
order at its start is passed over like one at the start of any line, and takes up a column. -/
def Token.scan (text : List Char) : List Token × Bool :=
  if text.all isAllowed then
    let c := Cursor.ofText text
    let (tokens, complete) := Scan.run c.fuel { cursor := c }
    (.streamStart :: tokens, complete)
  else ([], false)

end TokenClassifier.Yaml
