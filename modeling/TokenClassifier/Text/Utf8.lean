/-!
# UTF-8

Text is written to and read from bytes. Reading is a machine that takes one byte at a time:
between two characters it waits for a first byte, and inside of one it knows how many bytes are
still owed and between which bounds the next one lies. The bounds exclude the forms that the
encoding forbids, so a character that is complete is a character.

There are two readers. `decode?` refuses a text with a byte that cannot stand where it stands.
`decode` replaces: the longest run of bytes that begins a character and breaks off becomes one
replacement character, and so does every byte that cannot begin one. Since a line feed is never
a part of a longer character, the machine is back between two characters after each one.
-/

namespace TokenClassifier.Utf8

/-- Where the reader stands: between two characters, or inside of one with the bits read so far,
the number of bytes owed and the bounds of the next one. -/
inductive State where
  | between
  | inside (bits owed lo hi : Nat)
  deriving DecidableEq, Repr

/-- The character that stands for bytes that are none. -/
def replacement : Char := '\ufffd'

/-- What a first byte begins. -/
def first? (b : Nat) : Option (Option Char × State) :=
  if b ≤ 0x7f then some (some (Char.ofNat b), .between)
  else if b < 0xc2 then none
  else if b ≤ 0xdf then some (none, .inside (b - 0xc0) 1 0x80 0xbf)
  else if b = 0xe0 then some (none, .inside 0 2 0xa0 0xbf)
  else if b = 0xed then some (none, .inside 0xd 2 0x80 0x9f)
  else if b ≤ 0xef then some (none, .inside (b - 0xe0) 2 0x80 0xbf)
  else if b = 0xf0 then some (none, .inside 0 3 0x90 0xbf)
  else if b ≤ 0xf3 then some (none, .inside (b - 0xf0) 3 0x80 0xbf)
  else if b = 0xf4 then some (none, .inside 4 3 0x80 0x8f)
  else none

/-- Takes a byte: the character that it completes, if it completes one, and the state after it;
`none` where the byte cannot stand. -/
def next? : State → Nat → Option (Option Char × State)
  | .between, b => first? b
  | .inside bits owed lo hi, b =>
    if lo ≤ b ∧ b ≤ hi then
      let bits := 64 * bits + (b - 0x80)
      if owed = 1 then some (some (Char.ofNat bits), .between)
      else some (none, .inside bits (owed - 1) 0x80 0xbf)
    else none

/-! ## Refusing -/

/-- Reads on from a state, refusing what is no text. -/
def decodeFrom? : State → List UInt8 → Option (List Char)
  | .between, [] => some []
  | .inside .., [] => none
  | s, b :: rest => do
    let (c, s) ← next? s b.toNat
    let cs ← decodeFrom? s rest
    return c.toList ++ cs

/-- The text of bytes, if they are one. -/
def decode? (bytes : List UInt8) : Option (List Char) := decodeFrom? .between bytes

/-! ## Replacing -/

/-- Takes a byte, replacing what is no text. A byte that breaks a character off is taken again
as a first byte. -/
def step (s : State) (b : Nat) : List Char × State :=
  match next? s b with
  | some (c, s) => (c.toList, s)
  | none =>
    if s = .between then ([replacement], .between)
    else
      match first? b with
      | some (c, s) => (replacement :: c.toList, s)
      | none => ([replacement, replacement], .between)

/-- Reads on from a state, replacing what is no text. -/
def decodeFrom : State → List UInt8 → List Char
  | .between, [] => []
  | .inside .., [] => [replacement]
  | s, b :: rest => (step s b.toNat).1 ++ decodeFrom (step s b.toNat).2 rest

/-- The text of bytes, whatever they are. -/
def decode (bytes : List UInt8) : List Char := decodeFrom .between bytes

/-! ## Writing -/

/-- The bytes of a character. -/
def encodeChar (c : Char) : List UInt8 :=
  let n := c.toNat
  if n ≤ 0x7f then [UInt8.ofNat n]
  else if n ≤ 0x7ff then [UInt8.ofNat (0xc0 + n / 64), UInt8.ofNat (0x80 + n % 64)]
  else if n ≤ 0xffff then
    [UInt8.ofNat (0xe0 + n / 4096), UInt8.ofNat (0x80 + n / 64 % 64), UInt8.ofNat (0x80 + n % 64)]
  else
    [UInt8.ofNat (0xf0 + n / 262144), UInt8.ofNat (0x80 + n / 4096 % 64),
      UInt8.ofNat (0x80 + n / 64 % 64), UInt8.ofNat (0x80 + n % 64)]

/-- The bytes of a text. -/
def encode (cs : List Char) : List UInt8 := cs.flatMap encodeChar

/-- The bytes of a string. -/
def ofString (s : String) : List UInt8 := encode s.toList

end TokenClassifier.Utf8
