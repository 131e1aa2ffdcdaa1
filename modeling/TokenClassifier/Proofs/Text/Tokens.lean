import Mathlib.Data.List.DropRight
import TokenClassifier.Proofs.Text.Lines

/-!
# Tokens and texts

A stream is read line by line, and each line is decoded by itself. The tokens are those of the whole
text all the same, and a stream that is cut at a line feed has the tokens of both parts
(`tokens_eq_tokensOfText`): a line feed gives up what is not complete before it, and a part that is
replaced never goes on behind one. That a line is handed over with its line feed makes no
difference, because a line feed is white space.

In the other direction a list of tokens can be laid out as a text in many ways: each token on a line
of its own, with any white space around it, and blank lines anywhere. The texts that have these
tokens are those that `Lays` allows, and no others (`tokens_encode_iff_lays`).
-/

namespace TokenClassifier.Text

open Unicode

variable {before after cs line : List Char} {token : String}

/-! ## White space at the ends -/

/-- A row of white space. -/
def Blank (cs : List Char) : Prop := ∀ c ∈ cs, isBlank c = true

/-- Trimming drops white space from the front and then from the back, in the words of the
library. -/
theorem trim_eq_rdropWhile (cs : List Char) :
    trim cs = (cs.dropWhile isBlank).rdropWhile isBlank := rfl

/-- White space at the ends does not matter, however much there is of it. -/
theorem trim_append_append (hb : Blank before) (ha : Blank after) (cs : List Char) :
    trim (before ++ cs ++ after) = trim cs := by
  have behind (xs : List Char) : (xs ++ after).rdropWhile isBlank = xs.rdropWhile isBlank := by
    rw [List.rdropWhile, List.reverse_append,
      List.dropWhile_append_of_pos fun c mem => ha c (List.mem_reverse.mp mem), List.rdropWhile]
  rw [trim_eq_rdropWhile, trim_eq_rdropWhile, List.append_assoc, List.dropWhile_append_of_pos hb,
    List.dropWhile_append]
  split
  next none => rw [List.isEmpty_iff.mp none, List.dropWhile_eq_nil_iff.mpr ha]
  next => exact behind _

/-- Nothing else is left out: what is trimmed off is white space on either side. -/
theorem exists_trim (cs : List Char) :
    ∃ before after, Blank before ∧ Blank after ∧ before ++ trim cs ++ after = cs := by
  refine ⟨cs.takeWhile isBlank, (cs.dropWhile isBlank).rtakeWhile isBlank, ?_, ?_, ?_⟩
  · exact fun c mem => List.mem_takeWhile_imp mem
  · exact fun c mem => List.mem_rtakeWhile_imp mem
  · rw [trim_eq_rdropWhile, List.append_assoc, List.rdropWhile_append_rtakeWhile,
      List.takeWhile_append_dropWhile]

/-- What is left after trimming does not begin with white space. -/
theorem isBlank_head?_trim {c : Char} (h : c ∈ (trim cs).head?) : isBlank c = false := by
  have front : (cs.dropWhile isBlank).head? = some c := by
    obtain ⟨rest, e⟩ := List.rdropWhile_prefix isBlank (cs.dropWhile isBlank)
    rw [← e, List.head?_append, ← trim_eq_rdropWhile, h]
    rfl
  have first := List.head?_dropWhile_not isBlank cs
  rwa [front] at first

/-- Nor does it end with white space. -/
theorem isBlank_getLast?_trim {c : Char} (h : c ∈ (trim cs).getLast?) : isBlank c = false := by
  rw [trim_eq_rdropWhile, List.rdropWhile, List.getLast?_reverse] at h
  have last := List.head?_dropWhile_not isBlank (cs.dropWhile isBlank).reverse
  rwa [h] at last

/-- Where no white space is in front, nothing is dropped. -/
theorem dropWhile_isBlank (first : ∀ c ∈ cs.head?, isBlank c = false) :
    cs.dropWhile isBlank = cs := by
  cases cs with
  | nil => rfl
  | cons c rest => exact List.dropWhile_cons_of_neg (Bool.not_eq_true _ ▸ first c rfl)

/-! ## The token of a line -/

/-- What can be a token of a text. -/
structure IsToken (token : String) : Prop where
  nonempty : token.toList ≠ []
  first : ∀ c ∈ token.toList.head?, isBlank c = false
  last : ∀ c ∈ token.toList.getLast?, isBlank c = false
  oneLine : '\n' ∉ token.toList

/-- Trimming leaves a token as it is. -/
theorem IsToken.trim_eq (h : IsToken token) : trim token.toList = token.toList := by
  have back : token.toList.reverse.dropWhile isBlank = token.toList.reverse := by
    apply dropWhile_isBlank
    rw [List.head?_reverse]
    exact h.last
  rw [trim, dropWhile_isBlank h.first, back, List.reverse_reverse]

/-- A token by itself is the token of its line. -/
theorem IsToken.token?_eq (h : IsToken token) : token? token.toList = some token := by
  unfold token?
  rw [h.trim_eq, if_neg (by simpa using h.nonempty), String.ofList_toList]

/-- White space around a line changes nothing about its token. -/
theorem token?_append_append (hb : Blank before) (ha : Blank after) (line : List Char) :
    token? (before ++ line ++ after) = token? line := by
  unfold token?
  rw [trim_append_append hb ha]

/-- White space that ends no line. -/
structure Margin (cs : List Char) : Prop where
  blank : Blank cs
  oneLine : '\n' ∉ cs

/-- A line has a token where it consists of the token and margins. What is said of the token does
not mention trimming. -/
theorem token?_eq_some_iff (whole : '\n' ∉ line) : token? line = some token ↔
    IsToken token ∧
      ∃ before after, Margin before ∧ Margin after ∧ before ++ token.toList ++ after = line := by
  constructor
  · intro h
    unfold token? at h
    dsimp only at h
    split at h
    next => cases h
    next nonempty =>
      obtain rfl := Option.some.inj h
      obtain ⟨before, after, hb, ha, e⟩ := exists_trim line
      rw [String.toList_ofList]
      rw [← e] at whole
      simp only [List.mem_append, not_or] at whole
      refine ⟨?_, before, after, ⟨hb, whole.1.1⟩, ⟨ha, whole.2⟩, e⟩
      constructor
      all_goals rw [String.toList_ofList]
      · exact fun none => nonempty (List.isEmpty_iff.mpr none)
      · exact fun c first => isBlank_head?_trim first
      · exact fun c last => isBlank_getLast?_trim last
      · exact whole.1.2
  · rintro ⟨h, before, after, hb, ha, rfl⟩
    rw [token?_append_append hb.blank ha.blank, h.token?_eq]

/-- A line has no token where it is blank, and only there. -/
theorem token?_eq_none_iff : token? line = none ↔ Blank line := by
  constructor
  · intro h
    have none : trim line = [] := by
      unfold token? at h
      by_contra some
      simp [some] at h
    obtain ⟨before, after, hb, ha, e⟩ := exists_trim line
    rw [← e, none, List.append_nil]
    exact List.forall_mem_append.mpr ⟨hb, ha⟩
  · intro blank
    have empty : Blank [] := fun c mem => absurd mem List.not_mem_nil
    have none : token? (line ++ [] ++ []) = token? [] := token?_append_append blank empty []
    rwa [List.append_nil, List.append_nil] at none

/-! ## The tokens of lines -/

/-- A text of one line has the token of the line, or none. -/
theorem tokensOfText_of_notMem (whole : '\n' ∉ line) :
    tokensOfText line = (token? line).toList := by
  rw [tokensOfText, splitAt_of_notMem whole]
  cases h : token? line with
  | none => simp [h]
  | some token => simp [h]

/-- A line feed parts a text into texts whose tokens come one after the other. -/
theorem tokensOfText_append_newline (text more : List Char) :
    tokensOfText (text ++ '\n' :: more) = tokensOfText text ++ tokensOfText more := by
  rw [tokensOfText, splitAt_append_cons, List.filterMap_append]
  rfl

/-- What is found in a text can be a token: it is not empty, it has no white space at its ends, and
it is on one line. -/
theorem isToken_of_mem_tokensOfText {text : List Char} (h : token ∈ tokensOfText text) :
    IsToken token := by
  obtain ⟨line, mem, made⟩ := List.mem_filterMap.mp h
  have whole : '\n' ∉ line := by
    intro newline
    exact absurd (not_of_mem_splitAt mem newline) (by decide)
  exact ((token?_eq_some_iff whole).mp made).1

/-- Decoding each line finds what decoding the text does. -/
theorem tokens_eq_decode (bytes : List UInt8) :
    tokens bytes = tokensOfText (Utf8.decode bytes) := by
  rw [tokensOfText, splitAt_decode, List.filterMap_map]
  rfl

/-- The same for what is found in bytes. -/
theorem isToken_of_mem_tokens {bytes : List UInt8} (h : token ∈ tokens bytes) : IsToken token := by
  rw [tokens_eq_decode] at h
  exact isToken_of_mem_tokensOfText h

/-- No token has a line feed, whatever the bytes are. -/
theorem newline_notMem_of_mem_tokens {bytes : List UInt8} (h : token ∈ tokens bytes) :
    '\n' ∉ token.toList :=
  (isToken_of_mem_tokens h).oneLine

/-- A line has a token exactly if something is left of it after trimming. -/
theorem token?_isSome (line : List Char) : (token? line).isSome = !(trim line).isEmpty := by
  unfold token?
  dsimp only
  cases (trim line).isEmpty <;> rfl

/-- There is a token for each line that is not blank. The lines are those of the bytes, so they can
be counted without decoding the whole. -/
theorem length_tokens (bytes : List UInt8) :
    (tokens bytes).length =
      (splitAt (· == 10) bytes).countP fun line => !(trim (Utf8.decode line)).isEmpty := by
  simp only [tokens, List.length_filterMap_eq_countP, token?_isSome]

/-! ## Reading a stream -/

/-- The lines of a stream as they are handed over: each with the line feed that ends it, and the
last one without, if there is anything behind the last line feed. -/
def streamLines : List UInt8 → List (List UInt8)
  | [] => []
  | b :: rest =>
    if b = 10 then [b] :: streamLines rest
    else
      match streamLines rest with
      | [] => [[b]]
      | line :: lines => (b :: line) :: lines

/-- Bytes without a line feed are handed over as one line, unless there are none. -/
theorem streamLines_of_notMem {line : List UInt8} (whole : 10 ∉ line) :
    streamLines line = if line = [] then [] else [line] := by
  induction line with
  | nil => rfl
  | cons b line ih =>
    obtain ⟨other, whole⟩ := List.ne_and_not_mem_of_not_mem_cons whole
    rw [streamLines, if_neg (Ne.symm other), ih whole, if_neg (List.cons_ne_nil b line)]
    by_cases none : line = []
    · rw [if_pos none, none]
    · rw [if_neg none]

/-- A line is handed over with its line feed, and then the lines behind it. -/
theorem streamLines_append_newline {line : List UInt8} (whole : 10 ∉ line) (rest : List UInt8) :
    streamLines (line ++ 10 :: rest) = (line ++ [10]) :: streamLines rest := by
  induction line with
  | nil => rfl
  | cons b line ih =>
    obtain ⟨other, whole⟩ := List.ne_and_not_mem_of_not_mem_cons whole
    rw [List.cons_append, streamLines, if_neg (Ne.symm other), ih whole]
    rfl

/-- The line feed of a line is not seen, since it is white space. -/
theorem token?_decode_append_newline (line : List UInt8) :
    token? (Utf8.decode (line ++ [10])) = token? (Utf8.decode line) := by
  have newline : Blank ['\n'] := List.forall_mem_singleton.mpr rfl
  have empty : Blank [] := fun c mem => absurd mem List.not_mem_nil
  rw [Utf8.decode_append_newline]
  exact token?_append_append empty newline (Utf8.decode line)

/-- Reading line by line finds the tokens of the bytes. By induction along the lines; an empty last
line is not handed over, and has no token either. -/
theorem filterMap_streamLines (bytes : List UInt8) :
    (streamLines bytes).filterMap (fun line => token? (Utf8.decode line)) = tokens bytes := by
  refine pieces_induction 10 ?last ?more bytes
  case last =>
    intro line whole
    rw [tokens, splitAt_of_notMem whole, streamLines_of_notMem whole]
    split
    next none =>
      rw [none]
      rfl
    next => rfl
  case more =>
    intro line rest whole ih
    rw [streamLines_append_newline whole, tokens, splitAt_cons_of_notMem whole,
      List.filterMap_cons, List.filterMap_cons, token?_decode_append_newline, ih]
    rfl

/-- Reading line by line finds the tokens of the whole text, which is what its bytes are read as
with replacements for what is no character. The tokens of bytes cut at a line feed are those of both
parts, and no token is empty, has white space at its ends, or goes over a line. -/
theorem tokens_eq_tokensOfText (bytes : List UInt8) :
    (streamLines bytes).filterMap (fun line => token? (Utf8.decode line)) = tokens bytes ∧
      Utf8.Lossy bytes (Utf8.decode bytes) ∧ tokens bytes = tokensOfText (Utf8.decode bytes) ∧
      (∀ more, tokens (bytes ++ 10 :: more) = tokens bytes ++ tokens more) ∧
      ∀ token ∈ tokens bytes, IsToken token := by
  refine ⟨filterMap_streamLines bytes, Utf8.decode_eq_iff.mp rfl, tokens_eq_decode bytes, ?_, ?_⟩
  · intro more
    simp only [tokens_eq_decode, Utf8.decode_append_newline, tokensOfText_append_newline]
  · intro token mem
    exact isToken_of_mem_tokens mem

/-! ## Laying out tokens -/

/-- A text has the tokens on lines of their own: with any margins, with any number of blank lines
before, between and behind them, and with or without a line feed at the end. -/
inductive Lays : List String → List Char → Prop
  /-- The last line has no token. It can be empty, behind the last line feed. -/
  | none {gap : List Char} (margin : Margin gap) : Lays [] gap
  /-- The last line has a token and no line feed. -/
  | last {before after : List Char} (token : String) (hb : Margin before) (ha : Margin after) :
      Lays [token] (before ++ token.toList ++ after)
  | blank {ts : List String} {gap rest : List Char} (margin : Margin gap) (later : Lays ts rest) :
      Lays ts (gap ++ '\n' :: rest)
  | line {ts : List String} {before after rest : List Char} (token : String) (hb : Margin before)
      (ha : Margin after) (later : Lays ts rest) :
      Lays (token :: ts) (before ++ token.toList ++ after ++ '\n' :: rest)

/-- A line of white space has no token. -/
theorem tokensOfText_of_margin (margin : Margin line) : tokensOfText line = [] := by
  rw [tokensOfText_of_notMem margin.oneLine, token?_eq_none_iff.mpr margin.blank]
  rfl

/-- A token between margins is the token of its line. -/
theorem IsToken.tokensOfText_eq (h : IsToken token) (hb : Margin before) (ha : Margin after) :
    tokensOfText (before ++ token.toList ++ after) = [token] := by
  have whole : '\n' ∉ before ++ token.toList ++ after := by
    simp [hb.oneLine, h.oneLine, ha.oneLine]
  rw [tokensOfText_of_notMem whole, token?_append_append hb.blank ha.blank, h.token?_eq]
  rfl

/-- A text in which tokens are laid out has these tokens. By induction on the layout. -/
theorem tokensOfText_of_lays {ts : List String} {text : List Char}
    (each : ∀ token ∈ ts, IsToken token) (lays : Lays ts text) : tokensOfText text = ts := by
  induction lays with
  | none margin => exact tokensOfText_of_margin margin
  | last token hb ha => exact (each token List.mem_cons_self).tokensOfText_eq hb ha
  | blank margin _ ih =>
    rw [tokensOfText_append_newline, tokensOfText_of_margin margin, ih each, List.nil_append]
  | line token hb ha _ ih =>
    obtain ⟨first, each⟩ := List.forall_mem_cons.mp each
    rw [tokensOfText_append_newline, first.tokensOfText_eq hb ha, ih each, List.singleton_append]

/-- Every text lays out its own tokens. By induction along the lines, each of which has a token or
is blank. -/
theorem lays_tokensOfText (text : List Char) : Lays (tokensOfText text) text := by
  refine pieces_induction '\n' ?last ?more text
  case last =>
    intro line whole
    rw [tokensOfText_of_notMem whole]
    cases h : token? line with
    | none => exact .none ⟨token?_eq_none_iff.mp h, whole⟩
    | some token =>
      obtain ⟨_, before, after, hb, ha, rfl⟩ := (token?_eq_some_iff whole).mp h
      exact .last token hb ha
  case more =>
    intro line rest whole ih
    rw [tokensOfText_append_newline, tokensOfText_of_notMem whole]
    cases h : token? line with
    | none => exact .blank ⟨token?_eq_none_iff.mp h, whole⟩ ih
    | some token =>
      obtain ⟨_, before, after, hb, ha, rfl⟩ := (token?_eq_some_iff whole).mp h
      exact .line token hb ha ih

/-- The texts that have the tokens are those in which they are laid out, and a list is that of some
text only if each member can be a token. -/
theorem tokens_encode_iff_lays (ts : List String) (text : List Char) :
    tokens (Utf8.encode text) = ts ↔ (∀ token ∈ ts, IsToken token) ∧ Lays ts text := by
  rw [tokens_eq_decode, Utf8.decode_encode]
  constructor
  · rintro rfl
    exact ⟨fun _ => isToken_of_mem_tokensOfText, lays_tokensOfText text⟩
  · rintro ⟨each, lays⟩
    exact tokensOfText_of_lays each lays

/-- An em space, a carriage return, a tab and the next-line character are margins, and the last line
has no line feed. -/
example : tokens (Utf8.encode ['\u2003', 'i', 'f', '\r', '\n', ' ', '\n', '\t', 'a', ' ', 'b',
    '\u0085']) = ["if", "a b"] := by decide +kernel

end TokenClassifier.Text
