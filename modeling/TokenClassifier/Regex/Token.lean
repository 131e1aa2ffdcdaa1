import TokenClassifier.Regex.Class

/-!
# Tokens of a pattern

Cuts a pattern into the pieces that its tree is built from: single-character constructs with
their escapes and classes already read, the heads and tails of groups, bars, flags and
repetitions.

Only one flag matters here, the one for verbose mode, because it decides which characters count.
It is in force up to the end of the group that it is set in, so the reader keeps its value for
every group that is open.
-/

namespace TokenClassifier.Regex

open Unicode

/-- A piece of a pattern. -/
inductive Token where
  /-- A construct that is complete by itself. -/
  | item (r : Syntax)
  /-- The head of a group that captures. -/
  | openCapture (name : Option String)
  /-- The head of a group that only groups. -/
  | openScope (changes : FlagChanges)
  | close
  | bar
  /-- Flags for the rest of the group. -/
  | flags (changes : FlagChanges)
  | repeated (count : Count) (greedy : Bool)
  deriving DecidableEq, Repr

namespace Token

/-! ## Groups -/

/-- The flag of a letter. -/
def flag? (c : Char) : Option Flag :=
  match c with
  | 'i' => some .ignoreCase
  | 'm' => some .multiLine
  | 's' => some .dotAll
  | 'U' => some .swapGreed
  | 'u' => some .unicode
  | 'R' => some .crlf
  | 'x' => some .verbose
  | _ => none

/-- Reads flags up to a colon or a closing parenthesis, which stays. `setting` turns false at
the hyphen, and `fresh` tells that nothing stands after it yet. -/
def readFlags (setting fresh : Bool) (seen : FlagChanges) :
    List Char → Except Fault (FlagChanges × List Char)
  | [] => .error .badFlags
  | c :: rest =>
    if c = ':' ∨ c = ')' then
      if !setting && fresh then .error .badFlags else .ok (seen.reverse, c :: rest)
    else if c = '-' then
      if setting then readFlags false true seen rest else .error .badFlags
    else
      match flag? c with
      | some f =>
        if (seen.map (·.1)).contains f then .error .badFlags
        else readFlags setting false ((f, setting) :: seen) rest
      | none => .error .badFlags

/-- Whether a character may stand in a group's name. -/
def isNameChar (first : Bool) (c : Char) : Bool :=
  c == '_' || isAlphabetic c || (!first && (c ∈ ['.', '[', ']'] || isNumeric c))

/-- Reads a group's name, up to its closing angle bracket. -/
def readName (cs : List Char) : Except Fault (String × List Char) :=
  match cs.span (· != '>') with
  | (c :: name, _ :: after) =>
    if isNameChar true c && name.all (isNameChar false) then
      .ok (String.ofList (c :: name), after)
    else .error .badGroupName
  | _ => .error .badGroupName

/-- Reads the head of a group, or flags for the rest of a group, after the parenthesis. -/
def readOpen (cs : List Char) : Except Fault (Token × List Char) :=
  match cs with
  | '?' :: '=' :: _ => .error .lookAround
  | '?' :: '!' :: _ => .error .lookAround
  | '?' :: '<' :: '=' :: _ => .error .lookAround
  | '?' :: '<' :: '!' :: _ => .error .lookAround
  | '?' :: 'P' :: '<' :: rest => do
    let (name, after) ← readName rest
    return (.openCapture (some name), after)
  | '?' :: '<' :: rest => do
    let (name, after) ← readName rest
    return (.openCapture (some name), after)
  | '?' :: rest => do
    let (changes, after) ← readFlags true true [] rest
    match after with
    | ')' :: after =>
      if changes.isEmpty then .error .nothingToRepeat else return (.flags changes, after)
    | _ => return (.openScope changes, after.tail)
  | _ => .ok (.openCapture none, cs)

/-! ## Repetitions -/

/-- The greatest bound of a counted repetition. -/
def countLimit : Nat := 4294967295

/-- Reads a decimal number with white space around it: `none` where there are no digits. -/
def readDecimal (verbose : Bool) (cs : List Char) : Except Fault (Option Nat × List Char) :=
  let (digits, rest) := gather verbose Char.isDigit (cs.dropWhile isBlank)
  let rest := rest.dropWhile isBlank
  if digits.isEmpty then .ok (none, rest)
  else
    let n := digits.foldl (fun n c => 10 * n + (c.toNat - 48)) 0
    if n ≤ countLimit then .ok (some n, rest) else .error .badCount

/-- Reads the numbers of a counted repetition, up to the closing brace. -/
def readCount (verbose : Bool) (cs : List Char) : Except Fault (Count × List Char) := do
  let (low, rest) ← readDecimal verbose (skip verbose cs)
  match low, rest with
  | some n, '}' :: after => return (⟨n, some n⟩, after)
  | some n, ',' :: rest =>
    match skip verbose rest with
    | '}' :: after => return (⟨n, none⟩, after)
    | rest =>
      let (high, rest) ← readDecimal verbose rest
      match high, rest with
      | some m, '}' :: after => if n ≤ m then return (⟨n, some m⟩, after) else .error .badCount
      | _, _ => .error .badCount
  | _, _ => .error .badCount

/-- Takes the mark that makes a repetition lazy: `true` where there is none. -/
def readGreed (cs : List Char) : Bool × List Char :=
  match cs with
  | '?' :: rest => (false, rest)
  | _ => (true, cs)

/-! ## The whole pattern -/

/-- An escape as a construct. -/
def ofEscape : Escape → Syntax
  | .char l => .char l
  | .anchor a => .anchor a
  | .shorthand negated k => .shorthand negated k
  | .property negated p => .property negated p

/-- A repetition that a single character stands for. -/
def repetition? (c : Char) : Option Count :=
  match c with
  | '?' => some ⟨0, some 1⟩
  | '*' => some ⟨0, none⟩
  | '+' => some ⟨1, none⟩
  | _ => none

/-- Reads the token that begins with `c`. -/
def readFrom (verbose : Bool) (c : Char) (rest : List Char) :
    Except Fault (Token × List Char) :=
  match c with
  | '(' => readOpen (skip verbose rest)
  | ')' => .ok (.close, rest)
  | '|' => .ok (.bar, rest)
  | '[' => do
    let (inner, after) ← ClassSyntax.read verbose rest
    match inner with
    | .bracket negated inner => return (.item (.bracket negated inner), after)
    | _ => .error .unclosedClass
  | '{' => do
    let (count, rest) ← readCount verbose rest
    let (greedy, after) := readGreed (skip verbose rest)
    return (.repeated count greedy, after)
  | '\\' => do
    let (e, after) ← Escape.read verbose rest
    return (.item (ofEscape e), after)
  | '.' => .ok (.item .dot, rest)
  | '^' => .ok (.item (.anchor .lineStart), rest)
  | '$' => .ok (.item (.anchor .lineEnd), rest)
  | c =>
    match repetition? c with
    | some count =>
      let (greedy, after) := readGreed rest
      .ok (.repeated count greedy, after)
    | none => .ok (.item (.char ⟨c, false⟩), rest)

/-- Whether verbose mode is on after a token: first inside of the current group, then inside of
each group around it. -/
def modesAfter (modes : Bool × List Bool) : Token → Bool × List Bool
  | .openCapture _ => (modes.1, modes.1 :: modes.2)
  | .openScope changes => ((changes.get? .verbose).getD modes.1, modes.1 :: modes.2)
  | .close => (modes.2.headD modes.1, modes.2.tail)
  | .flags changes => ((changes.get? .verbose).getD modes.1, modes.2)
  | _ => modes

/-- Cuts a text into tokens. Every token takes a character at least, so the length of the text
is fuel enough. -/
def readAll : Nat → Bool × List Bool → List Char → Except Fault (List Token)
  | 0, _, _ => .ok []
  | fuel + 1, modes, cs =>
    match skip modes.1 cs with
    | [] => .ok []
    | c :: rest => do
      let (t, after) ← readFrom modes.1 c rest
      return t :: (← readAll fuel (modesAfter modes t) after)

/-- The tokens of a pattern. -/
def scan (pattern : List Char) : Except Fault (List Token) :=
  readAll (pattern.length + 1) (false, []) pattern

end Token

end TokenClassifier.Regex
