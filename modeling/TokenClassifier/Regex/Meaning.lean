import TokenClassifier.Regex.Parser
import TokenClassifier.Regex.Term

/-!
# The meaning of a pattern

Turns the tree of a pattern into a regular expression by following the flags. Flags set inside
of a group hold up to its end, across the bars between its alternatives.

Matching goes by characters, never by bytes. With the flag for all scripts cleared a class holds
bytes, and what it leaves of a character would be no character: so a class must then keep to
ASCII, no class may be negated, and a dot, a property or a byte above 127 is refused.
-/

namespace TokenClassifier.Regex

open Unicode

/-- The flags in force at a place of a pattern. -/
structure Mode where
  ignoreCase : Bool := false
  multiLine : Bool := false
  dotAll : Bool := false
  swapGreed : Bool := false
  unicode : Bool := true
  crlf : Bool := false
  deriving DecidableEq, Repr

namespace Mode

/-- Sets or clears a flag. Verbose mode has had its effect already. -/
def set (m : Mode) (f : Flag) (on : Bool) : Mode :=
  match f with
  | .ignoreCase => { m with ignoreCase := on }
  | .multiLine => { m with multiLine := on }
  | .dotAll => { m with dotAll := on }
  | .swapGreed => { m with swapGreed := on }
  | .unicode => { m with unicode := on }
  | .crlf => { m with crlf := on }
  | .verbose => m

/-- Makes a list of changes. -/
def apply (m : Mode) (changes : FlagChanges) : Mode :=
  changes.foldl (fun m (f, on) => m.set f on) m

/-- Closes a set under case where letters match in either case. -/
def fold (m : Mode) (s : CharSet) : CharSet :=
  if !m.ignoreCase then s else if m.unicode then .folded s else .foldedAscii s

/-- Negates a set, which only a set of characters allows. -/
def negate (m : Mode) (negated : Bool) (s : CharSet) : Except Fault CharSet :=
  if !negated then .ok s else if m.unicode then .ok (.compl s) else .error .notText

/-- A literal as the member of a class. -/
def member (m : Mode) (l : Literal) : Except Fault Char :=
  if m.unicode || l.char.toNat < 128 then .ok l.char else .error .notText

/-- A literal outside of classes. -/
def literal (m : Mode) (l : Literal) : Except Fault CharSet :=
  if !m.unicode && l.byte && l.char.toNat ≥ 128 then .error .notText
  else .ok (m.fold (.one l.char))

/-- A property, which only a set of characters can have. -/
def property (m : Mode) (negated : Bool) (p : Property) : Except Fault CharSet :=
  if m.unicode then m.negate negated (m.fold (.property p)) else .error .notText

end Mode

/-! ## Classes -/

/-- The characters of an ASCII class. -/
def AsciiClass.toSet : AsciiClass → CharSet
  | .alnum => .unions [.span '0' '9', .span 'A' 'Z', .span 'a' 'z']
  | .alpha => .unions [.span 'A' 'Z', .span 'a' 'z']
  | .ascii => .span '\x00' '\x7f'
  | .blank => .unions [.one '\t', .one ' ']
  | .cntrl => .unions [.span '\x00' '\x1f', .one '\x7f']
  | .digit => .span '0' '9'
  | .graph => .span '!' '~'
  | .lower => .span 'a' 'z'
  | .print => .span ' ' '~'
  | .punct => .unions [.span '!' '/', .span ':' '@', .span '[' '\x60', .span '\x7b' '~']
  | .space => .unions [.span '\t' '\r', .one ' ']
  | .upper => .span 'A' 'Z'
  | .word => .unions [.span '0' '9', .span 'A' 'Z', .one '_', .span 'a' 'z']
  | .xdigit => .unions [.span '0' '9', .span 'A' 'F', .span 'a' 'f']

/-- The characters of `\d`, `\s` and `\w`. -/
def Shorthand.toSet (m : Mode) : Shorthand → CharSet
  | .digit => if m.unicode then .digit else AsciiClass.digit.toSet
  | .space => if m.unicode then .blank else AsciiClass.space.toSet
  | .word => if m.unicode then .word else AsciiClass.word.toSet

/-- The operation of a class operator. -/
def ClassOp.toSet : ClassOp → CharSet → CharSet → CharSet
  | .inter => .inter
  | .diff => .diff
  | .symmDiff => .symmDiff

/-- The characters of a class. -/
def ClassSyntax.toSet (m : Mode) : ClassSyntax → Except Fault CharSet
  | .empty => .ok .none
  | .char l => do return .one (← m.member l)
  | .span lo hi => do return .span (← m.member lo) (← m.member hi)
  | .ascii negated k => m.negate negated (m.fold k.toSet)
  | .shorthand negated k => m.negate negated (k.toSet m)
  | .property negated p => m.property negated p
  | .bracket negated inner => do m.negate negated (m.fold (← inner.toSet m))
  | .beside a b => do return .union (← a.toSet m) (← b.toSet m)
  | .op o a b => do return o.toSet (m.fold (← a.toSet m)) (m.fold (← b.toSet m))

/-! ## Patterns -/

/-- The characters that a dot matches: all, or all but those that end a line. -/
def Mode.dot (m : Mode) : Except Fault CharSet :=
  if !m.unicode then .error .notText
  else if m.dotAll then .ok (.compl .none)
  else if m.crlf then .ok (.compl (.union (.one '\r') (.one '\n')))
  else .ok (.compl (.one '\n'))

/-- The condition that an anchor demands. -/
def Mode.anchor (m : Mode) : Anchor → Look
  | .lineStart => if m.multiLine then .lineStart m.crlf else .textStart
  | .lineEnd => if m.multiLine then .lineEnd m.crlf else .textEnd
  | .textStart => .textStart
  | .textEnd => .textEnd
  | .wordBoundary => .word m.unicode .boundary
  | .notWordBoundary => .word m.unicode .notBoundary
  | .wordStart => .word m.unicode .start
  | .wordEnd => .word m.unicode .stop
  | .wordStartHalf => .word m.unicode .startHalf
  | .wordEndHalf => .word m.unicode .stopHalf

/-- The regular expression of a pattern, and the flags in force after it. -/
def Syntax.toTerm (m : Mode) : Syntax → Except Fault (Term × Mode)
  | .empty => .ok (.empty, m)
  | .flags changes => .ok (.empty, m.apply changes)
  | .char l => do return (.chars (← m.literal l), m)
  | .dot => do return (.chars (← m.dot), m)
  | .anchor a => .ok (.look (m.anchor a), m)
  | .shorthand negated k => do return (.chars (← m.negate negated (k.toSet m)), m)
  | .property negated p => do return (.chars (← m.property negated p), m)
  | .bracket negated inner => do
    return (.chars (← m.negate negated (m.fold (← inner.toSet m))), m)
  | .capture index inner => do
    let (r, _) ← inner.toTerm m
    return (.capture index r, m)
  | .scope changes inner => do
    let (r, _) ← inner.toTerm (m.apply changes)
    return (r, m)
  | .repeated count greedy inner => do
    let (r, m) ← inner.toTerm m
    return (.repeated (greedy != m.swapGreed) r count.min count.max, m)
  | .concat a b => do
    let (ra, m) ← a.toTerm m
    let (rb, m) ← b.toTerm m
    return (.seq ra rb, m)
  | .alt a b => do
    let (ra, m) ← a.toTerm m
    let (rb, m) ← b.toTerm m
    return (.alt ra rb, m)

end TokenClassifier.Regex
