import TokenClassifier.Unicode.Binary

/-!
# Quoted text

A text in a message stands between double quotes, so that its ends can be seen. Quotes,
backslashes and the common control characters are written with a backslash. A character that
would not be seen, or that would change how the one before it looks, is written by its number.
-/

namespace TokenClassifier.Text

open Unicode

/-- Whether a character can be seen by itself: the space, and all but separators, control and
format characters, and code points without a character. -/
def isPrintable (c : Char) : Bool :=
  c == ' ' || !(Category.of c ∈ [.cc, .cf, .cs, .co, .cn, .zl, .zp, .zs])

/-- The digits of a number in hexadecimal, in lower case. -/
def hexDigits (n : Nat) : List Char := Nat.toDigits 16 n

/-- A character by its number. -/
def escapeNumber (c : Char) : List Char := ['\\', 'u', '{'] ++ hexDigits c.toNat ++ ['}']

/-- A character as it stands between quotes. -/
def quoteChar (c : Char) : List Char :=
  match c with
  | '\x00' => ['\\', '0']
  | '\t' => ['\\', 't']
  | '\n' => ['\\', 'n']
  | '\r' => ['\\', 'r']
  | '"' => ['\\', '"']
  | '\\' => ['\\', '\\']
  | c => if !Binary.isGraphemeExtend c && isPrintable c then [c] else escapeNumber c

/-- A text between quotes. -/
def quote (s : String) : String :=
  String.ofList ('"' :: s.toList.flatMap quoteChar ++ ['"'])

end TokenClassifier.Text
