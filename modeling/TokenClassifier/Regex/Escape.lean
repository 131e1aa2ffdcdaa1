import TokenClassifier.Regex.Syntax
import TokenClassifier.Regex.Verbose

/-!
# Escapes

What a backslash in a pattern begins: a literal character, a condition on a place, one of the
classes `\d`, `\s` and `\w`, or a property. `Escape.read` reads one from the text after the
backslash. `escape` goes the other way for literal text: it puts a backslash before every
character that would mean something else.
-/

namespace TokenClassifier.Regex

open Unicode

/-- The characters that mean something in a pattern or in a class. -/
def isMeta (c : Char) : Bool :=
  c ∈ ['\\', '.', '+', '*', '?', '(', ')', '|', '[', ']', '{', '}', '^', '$', '#', '&', '-', '~']

/-- The pattern of a literal text: each character that means something is preceded by a
backslash. -/
def escapeChars : List Char → List Char
  | [] => []
  | c :: rest => if isMeta c then '\\' :: c :: escapeChars rest else c :: escapeChars rest

/-- The pattern of a literal text. -/
def escape (text : String) : String := String.ofList (escapeChars text.toList)

/-- What a backslash begins. -/
inductive Escape where
  | char (l : Literal)
  | anchor (a : Anchor)
  | shorthand (negated : Bool) (k : Shorthand)
  | property (negated : Bool) (p : Property)
  deriving DecidableEq, Repr

namespace Escape

/-! ## Characters by number -/

/-- The value of a hexadecimal digit. -/
def hexDigit? (c : Char) : Option Nat :=
  if c.isDigit then some (c.toNat - 48)
  else if 'a' ≤ c ∧ c ≤ 'f' then some (c.toNat - 87)
  else if 'A' ≤ c ∧ c ≤ 'F' then some (c.toNat - 55)
  else none

/-- The number that hexadecimal digits spell, if all of them are digits. -/
def hexValue? (digits : List Char) : Option Nat :=
  digits.foldlM (fun n c => (hexDigit? c).map (16 * n + ·)) 0

/-- The character with a number. Numbers of surrogates and numbers past the last character have
none. -/
def charOfNat? (n : Nat) : Option Char :=
  if n.isValidChar then some (Char.ofNat n) else none

/-- The character that hexadecimal digits name. -/
def charOfHex (digits : List Char) : Except Fault Char :=
  match (hexValue? digits).bind charOfNat? with
  | some c => if digits.isEmpty then .error .badHex else .ok c
  | none => .error .badHex

/-- Takes exactly `n` characters. -/
def take (verbose : Bool) : Nat → List Char → Except Fault (List Char × List Char)
  | 0, cs => .ok ([], cs)
  | n + 1, cs =>
    match skip verbose cs with
    | [] => .error .badEscape
    | c :: rest => do
      let (taken, after) ← take verbose n rest
      return (c :: taken, after)

/-- Reads the digits of a character's number: in braces, or exactly `width` of them. -/
def readHex (verbose : Bool) (width : Nat) (cs : List Char) :
    Except Fault (Literal × List Char) :=
  match skip verbose cs with
  | [] => .error .badEscape
  | '{' :: rest =>
    match gather verbose (· != '}') rest with
    | (digits, _ :: after) => do
      let c ← charOfHex digits
      return (⟨c, false⟩, after)
    | (_, []) => .error .badEscape
  | cs => do
    let (digits, after) ← take verbose width cs
    let c ← charOfHex digits
    return (⟨c, width == 2⟩, after)

/-! ## Properties -/

/-- Splits a text at the first place where `sep` stands. -/
def splitAt? (sep : List Char) : List Char → Option (List Char × List Char)
  | [] => none
  | c :: rest =>
    if sep.isPrefixOf (c :: rest) then some ([], (c :: rest).drop sep.length)
    else (splitAt? sep rest).map fun (before, after) => (c :: before, after)

/-- The property that the text between the braces names. -/
def propertyOf? (inner : List Char) : Option Property :=
  match (splitAt? ['!', '='] inner).orElse fun _ =>
      (splitAt? [':'] inner).orElse fun _ => splitAt? ['='] inner with
  | some (name, value) => Property.ofNameValue? name value
  | none => Property.ofName? inner

/-- Reads a property: one letter, or a name in braces. -/
def readProperty (verbose : Bool) (cs : List Char) : Except Fault (Property × List Char) :=
  match skip verbose cs with
  | [] => .error .badEscape
  | '\\' :: _ => .error .badEscape
  | '{' :: rest =>
    match gather verbose (· != '}') rest with
    | (inner, _ :: after) =>
      match propertyOf? inner with
      | some p => .ok (p, after)
      | none => .error .unknownProperty
    | (_, []) => .error .badEscape
  | c :: rest =>
    match Property.ofName? [c] with
    | some p => .ok (p, rest)
    | none => .error .unknownProperty

/-! ## Word boundaries -/

/-- The word boundary that a name in braces stands for. -/
def wordAnchor? (name : List Char) : Option Anchor :=
  match String.ofList name with
  | "start" => some .wordStart
  | "end" => some .wordEnd
  | "start-half" => some .wordStartHalf
  | "end-half" => some .wordEndHalf
  | _ => none

/-- Reads what follows a `\b`: a name in braces, or nothing. An opening brace that no name can
follow is left for a counted repetition. -/
def readWordAnchor (verbose : Bool) (cs : List Char) : Except Fault (Anchor × List Char) :=
  match cs with
  | '{' :: rest =>
    match skip verbose rest with
    | [] => .error .badEscape
    | c :: inner =>
      if c.isAlpha || c == '-' then
        match gather verbose (fun d => d.isAlpha || d == '-') (c :: inner) with
        | (name, '}' :: after) =>
          match wordAnchor? name with
          | some a => .ok (a, after)
          | none => .error .badEscape
        | _ => .error .badEscape
      else .ok (.wordBoundary, cs)
  | _ => .ok (.wordBoundary, cs)

/-! ## All escapes -/

/-- Whether a backslash before a character stands for the character itself: the characters that
mean something, and every other ASCII character but letters, digits and angle brackets. -/
def isEscapable (c : Char) : Bool :=
  isMeta c || (c.toNat < 128 && !c.isAlphanum && c != '<' && c != '>')

/-- The control character that a letter stands for. -/
def control? (c : Char) : Option Char :=
  match c with
  | 'a' => some '\x07'
  | 'f' => some '\x0c'
  | 't' => some '\t'
  | 'n' => some '\n'
  | 'r' => some '\r'
  | 'v' => some '\x0b'
  | _ => none

/-- The condition that a letter or an angle bracket stands for, other than `\b`. -/
def anchor? (c : Char) : Option Anchor :=
  match c with
  | 'A' => some .textStart
  | 'z' => some .textEnd
  | 'B' => some .notWordBoundary
  | '<' => some .wordStart
  | '>' => some .wordEnd
  | _ => none

/-- The class that a letter stands for; a capital letter negates it. -/
def shorthand? (c : Char) : Option (Bool × Shorthand) :=
  match c with
  | 'd' => some (false, .digit)
  | 'D' => some (true, .digit)
  | 's' => some (false, .space)
  | 'S' => some (true, .space)
  | 'w' => some (false, .word)
  | 'W' => some (true, .word)
  | _ => none

/-- How many digits a character's number has after `\x`, `\u` and `\U`. -/
def hexWidth? (c : Char) : Option Nat :=
  match c with
  | 'x' => some 2
  | 'u' => some 4
  | 'U' => some 8
  | _ => none

/-- Reads an escape from the text after its backslash. -/
def read (verbose : Bool) : List Char → Except Fault (Escape × List Char)
  | [] => .error .badEscape
  | c :: rest =>
    if c.isDigit then .error .backreference
    else if isEscapable c then .ok (.char ⟨c, false⟩, rest)
    else if let some width := hexWidth? c then do
      let (l, after) ← readHex verbose width rest
      return (.char l, after)
    else if c = 'p' ∨ c = 'P' then do
      let (p, after) ← readProperty verbose rest
      return (.property (c == 'P') p, after)
    else if c = 'b' then do
      let (a, after) ← readWordAnchor verbose rest
      return (.anchor a, after)
    else if let some (negated, k) := shorthand? c then .ok (.shorthand negated k, rest)
    else if let some d := control? c then .ok (.char ⟨d, false⟩, rest)
    else if let some a := anchor? c then .ok (.anchor a, rest)
    else .error .badEscape

end Escape

end TokenClassifier.Regex
