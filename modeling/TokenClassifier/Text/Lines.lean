import TokenClassifier.Text.Utf8
import TokenClassifier.Unicode.Binary

/-!
# Tokens in an input

An input holds one token per line. White space around a token does not belong to it, and a line
without anything else has no token. A line feed ends a line; the last line may do without.

`Input.tokens` decodes line by line, as a stream is read. `tokensOfText` decodes first and
splits then.
-/

namespace TokenClassifier

open Unicode

namespace Text

/-- A text without the white space at its ends. -/
def trim (cs : List Char) : List Char :=
  ((cs.dropWhile isBlank).reverse.dropWhile isBlank).reverse

/-- Splits at every element that satisfies `p`, which is left out. There is always one piece
more than there are such elements. -/
def splitAt (p : α → Bool) : List α → List (List α)
  | [] => [[]]
  | a :: rest =>
    if p a then [] :: splitAt p rest
    else
      match splitAt p rest with
      | [] => [[a]]
      | piece :: pieces => (a :: piece) :: pieces

/-- The token of a line, if it has one. -/
def token? (line : List Char) : Option String :=
  let t := trim line
  if t.isEmpty then none else some (String.ofList t)

/-- The tokens of a text. -/
def tokensOfText (cs : List Char) : List String :=
  (splitAt (· == '\n') cs).filterMap token?

/-- The tokens of bytes, each line decoded by itself. -/
def tokens (bytes : List UInt8) : List String :=
  (splitAt (· == 10) bytes).filterMap fun line => token? (Utf8.decode line)

end Text

/-- What a reader delivers: bytes, and then either the end or a failure with its reason. -/
structure Input where
  bytes : List UInt8
  failure : Option String := none
  deriving DecidableEq, Repr

namespace Input

/-- The tokens of an input, or the reason why it could not be read to its end. -/
def tokens (input : Input) : Except String (List String) :=
  match input.failure with
  | some reason => .error reason
  | none => .ok (Text.tokens input.bytes)

end Input

end TokenClassifier
