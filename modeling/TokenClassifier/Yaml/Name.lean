import TokenClassifier.Yaml.Scalar

/-!
# Names, tags and directives

An anchor gives a node a name, an alias refers to it, and a tag names the node's type: by a
handle and a suffix, or outright in angle brackets. A directive is a line at the start of a
document that gives its version or what a handle stands for.
-/

namespace TokenClassifier.Yaml

/-! ## Anchors and aliases -/

/-- Reads the name of an anchor or an alias, from its indicator on. -/
def readName (c : Cursor) : Except Fault (List Char × Cursor) :=
  let (name, c) := (c.advance 1).takeWhile isNameChar
  if !name.isEmpty && (c.gapAhead 0 || c.rest.head?.any (· ∈ ['?', ':', ',', ']', '}', '%', '@', '\x60']))
  then .ok (name, c)
  else .error .badName

/-! ## Tags -/

/-- The characters of a tag; those of flow collections only between angle brackets. -/
def isTagChar (bracketed : Bool) (c : Char) : Bool :=
  isNameChar c ||
    c ∈ [';', '/', '?', ':', '@', '&', '=', '+', '$', '.', '%', '!', '~', '*', '\'', '(', ')'] ||
    (bracketed && c ∈ [',', '[', ']'])

/-- The bits of a character that its first byte has, and how many bytes follow it. -/
def firstBits? (b : Nat) : Option (Nat × Nat) :=
  if b < 0x80 then some (b, 0)
  else if b < 0xc0 then none
  else if b < 0xe0 then some (b - 0xc0, 1)
  else if b < 0xf0 then some (b - 0xe0, 2)
  else if b < 0xf8 then some (b - 0xf0, 3)
  else none

/-- Reads one byte written as a percent sign and two digits. -/
def readByte? (cs : List Char) : Option (Nat × List Char) :=
  match cs with
  | '%' :: a :: b :: rest => do return (16 * (← hexDigit? a) + (← hexDigit? b), rest)
  | _ => none

/-- Reads `n` further bytes of a character onto its bits. -/
def readTail? : Nat → Nat → List Char → Option (Nat × List Char)
  | 0, bits, cs => some (bits, cs)
  | n + 1, bits, cs => do
    let (b, rest) ← readByte? cs
    if 0x80 ≤ b ∧ b < 0xc0 then readTail? n (64 * bits + (b - 0x80)) rest else none

/-- Reads a character written by its bytes. -/
def readEncoded? (cs : List Char) : Option (Char × List Char) := do
  let (b, rest) ← readByte? cs
  let (bits, n) ← firstBits? b
  let (bits, rest) ← readTail? n bits rest
  return (Char.ofNat bits, rest)

/-- Reads the characters of a tag: the text that they spell, and what follows them. -/
def readTagChars (bracketed : Bool) : Nat → List Char → Except Fault (List Char × List Char)
  | 0, cs => .ok ([], cs)
  | fuel + 1, cs =>
    match cs with
    | [] => .ok ([], [])
    | c :: rest =>
      if !isTagChar bracketed c then .ok ([], cs)
      else if c = '%' then
        match readEncoded? cs with
        | some (d, rest) => do
          let (text, after) ← readTagChars bracketed fuel rest
          return (d :: text, after)
        | none => .error .badTag
      else do
        let (text, after) ← readTagChars bracketed fuel rest
        return (c :: text, after)

/-- Reads the characters of a tag at a cursor. There has to be one unless `text`, which goes
before them, has one. -/
def readTagText (bracketed : Bool) (text : List Char) (c : Cursor) :
    Except Fault (List Char × Cursor) := do
  let (more, after) ← readTagChars bracketed c.fuel c.rest
  if more.isEmpty && text.isEmpty then .error .badTag
  else return (text.tail ++ more, c.advance (c.rest.length - after.length))

/-- Reads a handle: an exclamation mark, a name, and an exclamation mark if there is one. -/
def readHandle (c : Cursor) : Except Fault (List Char × Cursor) :=
  if c.sees '!' then
    let (name, c) := (c.advance 1).takeWhile isNameChar
    if c.sees '!' then .ok ('!' :: name ++ ['!'], c.advance 1) else .ok ('!' :: name, c)
  else .error .badTag

/-- Reads a tag, from its exclamation mark on. -/
def readTag (inFlow : Bool) (c : Cursor) : Except Fault (Token × Cursor) := do
  let (tag, c) ←
    if c.ahead 1 = some '<' then do
      let (suffix, c) ← readTagText true [] (c.advance 2)
      if c.sees '>' then pure (Token.tag [] suffix, c.advance 1) else .error .badTag
    else do
      let (handle, c) ← readHandle c
      if handle.length > 1 ∧ handle.getLast? = some '!' then
        let (suffix, c) ← readTagText false [] c
        pure (Token.tag handle suffix, c)
      else
        let (suffix, c) ← readTagText false handle c
        pure (if suffix.isEmpty then Token.tag [] ['!'] else Token.tag ['!'] suffix, c)
  if (inFlow && c.sees ',') || c.gapAhead 0 then return (tag, c) else .error .badTag

/-! ## Directives -/

/-- Reads a number of at most nine digits. -/
def readNumber (c : Cursor) : Except Fault (Nat × Cursor) :=
  let (digits, c) := c.takeWhile Char.isDigit
  if digits.isEmpty || digits.length > 9 then .error .badDirective
  else .ok (digits.foldl (fun n d => 10 * n + (d.toNat - 48)) 0, c)

/-- Reads a version, such as `1.2`. -/
def readVersion (c : Cursor) : Except Fault (Token × Cursor) := do
  let (major, c) ← readNumber (c.skipWhile isSpace)
  if c.sees '.' then
    let (minor, c) ← readNumber (c.advance 1)
    return (.version major minor, c)
  else .error .badDirective

/-- Reads a handle and what it stands for. -/
def readTagHandle (c : Cursor) : Except Fault (Token × Cursor) := do
  let (handle, c) ← readHandle (c.skipWhile isSpace)
  if handle ≠ ['!'] ∧ handle.getLast? ≠ some '!' then .error .badDirective
  else if !c.atSpace then .error .badDirective
  else
    let (expansion, c) ← readTagText true [] (c.skipWhile isSpace)
    if c.gapAhead 0 then return (.tagHandle handle expansion, c) else .error .badDirective

/-- Reads a directive, from its percent sign to the end of its line. -/
def readDirective (c : Cursor) : Except Fault (Token × Cursor) := do
  let (name, c) := (c.advance 1).takeWhile isNameChar
  if !c.gapAhead 0 then .error .badDirective
  else
    let (t, c) ←
      if name = ['Y', 'A', 'M', 'L'] then readVersion c
      else if name = ['T', 'A', 'G'] then readTagHandle c
      else .error .badDirective
    return (t, ← finishLine .badDirective c)

end TokenClassifier.Yaml
