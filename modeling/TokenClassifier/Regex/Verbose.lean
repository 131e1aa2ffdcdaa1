import TokenClassifier.Unicode.Binary

/-!
# Verbose mode

In verbose mode the white space of a pattern and its comments, each from a `#` to the end of its
line, do not count. The readers of the other modules step over them with `skip` and collect
characters across them with `gather`. Outside of verbose mode both leave the text as it is.
-/

namespace TokenClassifier.Regex

open Unicode

/-- Drops leading white space and comments. `inComment` tells whether the text starts inside of
a comment. -/
def skipVerbose : Bool → List Char → List Char
  | _, [] => []
  | true, c :: rest => skipVerbose (c != '\n') rest
  | false, c :: rest =>
    if isBlank c then skipVerbose false rest
    else if c = '#' then skipVerbose true rest
    else c :: rest

/-- The text from its next character that counts. -/
def skip (verbose : Bool) (cs : List Char) : List Char :=
  if verbose then skipVerbose false cs else cs

/-- The longest run of characters that satisfy `p`, taken across white space and comments, and
the text from the first character that counts and does not. -/
def gatherVerbose (p : Char → Bool) : Bool → List Char → List Char × List Char
  | _, [] => ([], [])
  | true, c :: rest => gatherVerbose p (c != '\n') rest
  | false, c :: rest =>
    if isBlank c then gatherVerbose p false rest
    else if c = '#' then gatherVerbose p true rest
    else if p c then
      let (run, after) := gatherVerbose p false rest
      (c :: run, after)
    else ([], c :: rest)

/-- The longest run of characters that satisfy `p`, and the rest. -/
def gather (verbose : Bool) (p : Char → Bool) (cs : List Char) : List Char × List Char :=
  if verbose then gatherVerbose p false cs else cs.span p

/-- The character after the first one, when white space and the first mark of a comment are
stepped over. The text of the comment itself is not. -/
def peekVerbose : Bool → List Char → Option Char
  | _, [] => none
  | marked, c :: rest =>
    if isBlank c then peekVerbose marked rest
    else if !marked && c == '#' then peekVerbose true rest
    else some c

/-- The next character of a class, for telling a range from a hyphen. -/
def peek (verbose : Bool) (cs : List Char) : Option Char :=
  if verbose then peekVerbose false cs else cs.head?

end TokenClassifier.Regex
