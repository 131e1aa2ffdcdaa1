import TokenClassifier.Regex.Escape

/-!
# Bracketed classes

Reads a class from its opening bracket to the bracket that closes it. Classes nest, so the
reader keeps a stack with one `Level` for every bracket that is open; a level holds the items
read so far and the operator, with its left operand, that waits for them.

All operators bind alike and group to the left; the items of one operand stand side by side and
bind tighter. An operand may be empty, and then denotes the empty set.
-/

namespace TokenClassifier.Regex

/-- One open bracket: whether it is negated, the operator that waits for its right operand, and
the items of the current operand, newest first. -/
structure Level where
  negated : Bool
  waiting : Option (ClassSyntax × ClassOp)
  items : List ClassSyntax
  deriving DecidableEq, Repr

namespace Level

/-- Adds an item to the current operand. -/
def push (level : Level) (item : ClassSyntax) : Level :=
  { level with items := item :: level.items }

/-- What the level denotes so far: its current operand, joined to what waits for it. -/
def operand (level : Level) : ClassSyntax :=
  let row := ClassSyntax.row level.items.reverse
  match level.waiting with
  | some (left, o) => .op o left row
  | none => row

/-- Ends the current operand at an operator. -/
def wait (level : Level) (o : ClassOp) : Level :=
  { level with waiting := some (level.operand, o), items := [] }

/-- The class of a level whose bracket closes. -/
def close (level : Level) : ClassSyntax := .bracket level.negated level.operand

end Level

namespace ClassSyntax

/-! ## Items -/

/-- Reads the name of an ASCII class, which a colon and a bracket end. -/
def readAsciiName? (negated : Bool) (cs : List Char) : Option (ClassSyntax × List Char) :=
  match cs.span (· != ':') with
  | (name, ':' :: ']' :: after) =>
    (AsciiClass.ofName? name).map fun k => (.ascii negated k, after)
  | _ => none

/-- Reads an ASCII class after an opening bracket, as in `[:alpha:]`; a caret negates it. Where
there is none, the bracket opens a nested class instead. -/
def readAscii? (cs : List Char) : Option (ClassSyntax × List Char) :=
  match cs with
  | ':' :: '^' :: rest => readAsciiName? true rest
  | ':' :: rest => readAsciiName? false rest
  | _ => none

/-- Reads one item: an escape or a character that stands for itself. -/
def readItem (verbose : Bool) : List Char → Except Fault (Escape × List Char)
  | [] => .error .unclosedClass
  | '\\' :: rest => Escape.read verbose rest
  | c :: rest => .ok (.char ⟨c, false⟩, rest)

/-- An escape as an item. Conditions on a place are no items. -/
def ofEscape : Escape → Except Fault ClassSyntax
  | .char l => .ok (.char l)
  | .shorthand negated k => .ok (.shorthand negated k)
  | .property negated p => .ok (.property negated p)
  | .anchor _ => .error .badClassItem

/-- Reads an item or a range. A hyphen makes a range unless it ends the class or begins the
operator `--`. -/
def readRange (verbose : Bool) (cs : List Char) : Except Fault (ClassSyntax × List Char) := do
  let (first, rest) ← readItem verbose cs
  match skip verbose rest with
  | [] => .error .unclosedClass
  | '-' :: after =>
    if peek verbose after = some ']' ∨ peek verbose after = some '-' then
      return (← ofEscape first, '-' :: after)
    else
      let (second, rest) ← readItem verbose (skip verbose after)
      match first, second with
      | .char lo, .char hi =>
        if lo.char ≤ hi.char then return (.span lo hi, rest) else .error .badRange
      | _, _ => .error .badRange
  | rest => return (← ofEscape first, rest)

/-- Reads the start of a class after its caret, if it has one: hyphens there, or else a closing
bracket there, stand for themselves. -/
def openItems (verbose negated : Bool) (cs : List Char) : Except Fault (Level × List Char) :=
  let (hyphens, cs) := gather verbose (· == '-') cs
  let level : Level := ⟨negated, none, hyphens.map fun c => .char ⟨c, false⟩⟩
  match cs with
  | [] => .error .unclosedClass
  | ']' :: rest =>
    if hyphens.isEmpty then
      match skip verbose rest with
      | [] => .error .unclosedClass
      | after => .ok (level.push (.char ⟨']', false⟩), after)
    else .ok (level, cs)
  | _ => .ok (level, cs)

/-- Opens a class, after its bracket. A caret there negates it. -/
def openLevel (verbose : Bool) (cs : List Char) : Except Fault (Level × List Char) :=
  match skip verbose cs with
  | '^' :: rest => openItems verbose true (skip verbose rest)
  | cs => openItems verbose false cs

/-! ## The whole class -/

/-- Reads on with `level` open inside of `outer`, until the outermost bracket closes. Every step
takes a character at least, so the length of the text is fuel enough. -/
def readLevels (verbose : Bool) : Nat → Level → List Level → List Char →
    Except Fault (ClassSyntax × List Char)
  | 0, _, _, _ => .error .unclosedClass
  | fuel + 1, level, outer, cs =>
    match skip verbose cs with
    | [] => .error .unclosedClass
    | ']' :: rest =>
      match outer with
      | [] => .ok (level.close, rest)
      | parent :: outer => readLevels verbose fuel (parent.push level.close) outer rest
    | '[' :: rest =>
      match readAscii? rest with
      | some (item, rest) => readLevels verbose fuel (level.push item) outer rest
      | none => do
        let (inner, rest) ← openLevel verbose rest
        readLevels verbose fuel inner (level :: outer) rest
    | '&' :: '&' :: rest => readLevels verbose fuel (level.wait .inter) outer rest
    | '-' :: '-' :: rest => readLevels verbose fuel (level.wait .diff) outer rest
    | '~' :: '~' :: rest => readLevels verbose fuel (level.wait .symmDiff) outer rest
    | cs => do
      let (item, rest) ← readRange verbose cs
      readLevels verbose fuel (level.push item) outer rest

/-- Reads a class from the text after its opening bracket. -/
def read (verbose : Bool) (cs : List Char) : Except Fault (ClassSyntax × List Char) := do
  let (level, rest) ← openLevel verbose cs
  readLevels verbose (rest.length + 1) level [] rest

end ClassSyntax

end TokenClassifier.Regex
