import TokenClassifier.Forms
import TokenClassifier.Proofs.Regex.Anchor
import TokenClassifier.Proofs.Template

/-!
# Patterns spliced into templates

The pattern of a template is put together as text: literal runs are escaped, and the start pattern
stands between parentheses in place of every reference. Where the start pattern reads alone, its
tokens and its tree can be told from the segments, and the pattern matches a text that is made of
parts, one for each segment (`Fits`).

An escaped text is the case of a single literal segment. It matches that text only
(`isMatch_escape`).
-/

namespace TokenClassifier.Regex

open Template

/-! ## The text -/

/-- The text of a row of segments, with a pattern in place of every reference. -/
def splice (start : List Char) : List Segment → List Char
  | [] => []
  | .literal text :: rest => escapeChars text ++ splice start rest
  | .group _ :: rest => '(' :: '?' :: ':' :: (start ++ ')' :: splice start rest)

/-- The characters of the pattern for whole tokens: the literal runs of the template, escaped, with
the start between parentheses for each reference. -/
theorem toList_wholeMatchPattern (template start : String) :
    (Forms.wholeMatchPattern template start).toList =
      splice start.toList (segments template) := by
  rw [Forms.wholeMatchPattern, String.toList_join, List.flatMap_map]
  generalize segments template = segs
  induction segs with
  | nil => rfl
  | cons seg segs ih =>
    rw [List.flatMap_cons, ih]
    cases seg with
    | literal text => simp [splice, escape]
    | group index => simp [splice]

/-- An escaped text is the splice of a template that is one literal run. So what is proved of
splices holds of escaped texts too. -/
theorem toList_escape (text : String) :
    (escape text).toList = splice [] [.literal text.toList] := by
  simp [splice, escape]

/-! ## The tokens -/

/-- The tokens of a row of segments, with those of the pattern in place of every reference. -/
def spliceTokens (ts : List Token) : List Segment → List Token
  | [] => []
  | .literal text :: rest => text.map Token.ofChar ++ spliceTokens ts rest
  | .group _ :: rest => .openScope [] :: (ts ++ [.close]) ++ spliceTokens ts rest

/-- The empty pattern reads alone. It stands for the start where an escaped text is read, which has
none. -/
theorem readsAlone_nil : Token.ReadsAlone [] [] := fun _ _ => ⟨.step rfl rfl (.stop _ _), rfl⟩

/-- A spliced pattern is read as the tokens of its runs and of the copies of the start, whatever
follows, and leaves the modes as they were. By induction on the segments. -/
theorem scans_splice {start : List Char} {ts : List Token} (alone : Token.ReadsAlone start ts)
    (stack : List Bool) (more : List Char) (segs : List Segment) :
    Token.Scans (false, stack) (splice start segs ++ more) (spliceTokens ts segs) more ∧
      (spliceTokens ts segs).foldl Token.modesAfter (false, stack) = (false, stack) := by
  induction segs with
  | nil => exact ⟨.stop _ _, rfl⟩
  | cons seg segs ih =>
    obtain ⟨scans, modes⟩ := ih
    cases seg with
    | literal text =>
      have here := Token.scans_escapeChars text stack (splice start segs ++ more)
      have kept := Token.foldl_modesAfter_ofChar text (false, stack)
      rw [splice, spliceTokens, List.append_assoc, List.foldl_append, kept]
      exact ⟨here.trans (by rw [kept]; exact scans), modes⟩
    | group index =>
      obtain ⟨here, kept⟩ := alone.scans_group stack (splice start segs ++ more)
      rw [spliceTokens, List.foldl_append, kept]
      refine ⟨?_, modes⟩
      have whole := here.trans (by rw [kept]; exact scans)
      simpa [splice] using whole

/-- A spliced pattern reads alone if the pattern in it does. Nothing is asked of the template, since
its literal runs are escaped. -/
theorem readsAlone_splice {start : List Char} {ts : List Token}
    (alone : Token.ReadsAlone start ts) (segs : List Segment) :
    Token.ReadsAlone (splice start segs) (spliceTokens ts segs) := by
  intro stack more
  obtain ⟨scans, modes⟩ := scans_splice alone (false :: stack) (')' :: more) segs
  rw [List.foldl_append, modes]
  exact ⟨scans.trans (by rw [modes]; exact .step rfl rfl (.stop _ _)), rfl⟩

/-! ## The tree -/

/-- A character that stands for itself. -/
def Syntax.ofChar (c : Char) : Syntax := .char ⟨c, false⟩

/-- The parts of the sequence that a spliced pattern is. -/
def spliceParts (tree : Syntax) : List Segment → List Syntax
  | [] => []
  | .literal text :: rest => text.map .ofChar ++ spliceParts tree rest
  | .group _ :: rest => .scope [] tree :: spliceParts tree rest

namespace Draft

/-- Characters are put behind one another in the branch that is open, the newest first. -/
theorem foldlM_ofChar (text : List Char) (d : Draft) :
    (text.map Token.ofChar).foldlM step d = .ok { d with
      current := ⟨d.current.ended, (text.map .ofChar).reverse ++ d.current.parts⟩ } := by
  induction text generalizing d with
  | nil => rfl
  | cons c text ih =>
    rw [List.map_cons, List.foldlM_cons]
    change (text.map Token.ofChar).foldlM step { d with current := d.current.push (.ofChar c) } = _
    rw [ih]
    simp [Branches.push]

/-- The tokens of a pattern between parentheses add the tree of the pattern as one part. The groups
inside are numbered on from those before, so the part is that tree but for the numbers. -/
theorem foldlM_group {ts : List Token} {tree : Syntax} (htree : Syntax.ofTokens ts = .ok tree)
    {d d' : Draft} (took : (.openScope [] :: (ts ++ [.close])).foldlM step d = .ok d') :
    d'.outer = d.outer ∧
      ∃ inner, inner.forget = tree.forget ∧ d'.current = d.current.push (.scope [] inner) := by
  change (ts ++ [Token.close]).foldlM step (d.enter (.scope [])) = _ at took
  rw [List.foldlM_append] at took
  obtain ⟨e, took, left⟩ := bind_eq_ok_iff.mp took
  obtain ⟨houter, same⟩ := Syntax.forget_of_foldlM htree rfl took
  simp only [List.foldlM_cons, List.foldlM_nil, step, leave, houter, enter] at left
  cases left
  exact ⟨rfl, _, same, rfl⟩

/-- The tokens of a spliced pattern add its parts, but for the numbers of groups. By induction on
the segments, with one of the two lemmas above for each. -/
theorem foldlM_splice {ts : List Token} {tree : Syntax} (htree : Syntax.ofTokens ts = .ok tree)
    {segs : List Segment} {d d' : Draft} (took : (spliceTokens ts segs).foldlM step d = .ok d') :
    d'.outer = d.outer ∧ ∃ parts : List Syntax,
      parts.map Syntax.forget = (spliceParts tree segs).map Syntax.forget ∧
        d'.current = ⟨d.current.ended, parts.reverse ++ d.current.parts⟩ := by
  induction segs generalizing d with
  | nil =>
    cases took
    exact ⟨rfl, [], rfl, rfl⟩
  | cons seg segs ih =>
    cases seg with
    | literal text =>
      rw [spliceTokens, List.foldlM_append, foldlM_ofChar] at took
      obtain ⟨houter, parts, same, hcurrent⟩ := ih took
      refine ⟨houter, text.map .ofChar ++ parts, ?_, ?_⟩
      · rw [spliceParts, List.map_append, List.map_append, same]
      · rw [hcurrent]
        simp
    | group index =>
      rw [spliceTokens, List.foldlM_append] at took
      obtain ⟨e, group, took⟩ := bind_eq_ok_iff.mp took
      obtain ⟨houter, inner, forgets, hcurrent⟩ := foldlM_group htree group
      obtain ⟨houter', parts, same, hcurrent'⟩ := ih took
      refine ⟨houter'.trans houter, .scope [] inner :: parts, ?_, ?_⟩
      · simp [spliceParts, Syntax.forget, same, forgets]
      · rw [hcurrent', hcurrent]
        simp [Branches.push]

/-- Between the anchors, the tree of a spliced pattern is the sequence of its parts, but for the
numbers of groups. -/
theorem forget_splice {ts : List Token} {tree : Syntax} (htree : Syntax.ofTokens ts = .ok tree)
    {segs : List Segment} {d : Draft}
    (took : (spliceTokens ts segs).foldlM step .anchored = .ok d) :
    d.outer = Draft.anchored.outer ∧
      d.current.toSyntax.forget = (Syntax.sequence (spliceParts tree segs)).forget := by
  obtain ⟨houter, parts, same, hcurrent⟩ := foldlM_splice htree took
  have tree' : d.current.toSyntax = .sequence parts := by
    rw [hcurrent]
    simp [Branches.toSyntax, Branches.bar, anchored, Branches.empty, Syntax.alternation]
  exact ⟨houter, by rw [tree', Syntax.forget_sequence, Syntax.forget_sequence, same]⟩

end Draft

/-! ## The meaning -/

/-- The ways in which a row of segments fits a part of a text: a literal run is there as it is, and
for a reference the expression `r` matches what is there. -/
inductive Fits (text : Array Char) (r : Term) : List Segment → Nat → Nat → Prop
  | stop (i : Nat) : Fits text r [] i i
  | literal {run : List Char} {segs : List Segment} {i k : Nat} :
      (∀ n, n < run.length → text[i + n]? = run[n]?) → Fits text r segs (i + run.length) k →
      Fits text r (.literal run :: segs) i k
  | group {index : Nat} {segs : List Segment} {i j k : Nat} : r.Matches text i j →
      Fits text r segs j k → Fits text r (.group index :: segs) i k

/-- A sequence means its first part and then the sequence of the others. The flags that the first
part leaves are those in which the rest is settled. -/
theorem toTerm_sequence_cons {a : Syntax} {rest : List Syntax} {m m' : Mode} {r : Term}
    (h : (Syntax.sequence (a :: rest)).toTerm m = .ok (r, m')) :
    ∃ ra m₁ rr, a.toTerm m = .ok (ra, m₁) ∧ (Syntax.sequence rest).toTerm m₁ = .ok (rr, m') ∧
      ∀ {text : Array Char} {i k : Nat},
        r.Matches text i k ↔ ∃ j, ra.Matches text i j ∧ rr.Matches text j k := by
  cases rest with
  | nil =>
    refine ⟨r, m', .empty, h, rfl, fun {text i k} => ?_⟩
    simp [Term.matches_empty_iff]
  | cons b rest =>
    obtain ⟨⟨ra, m₁⟩, ha, h⟩ := bind_eq_ok_iff.mp h
    obtain ⟨⟨rr, m₂⟩, hb, heq⟩ := bind_eq_ok_iff.mp h
    cases heq
    exact ⟨ra, m₁, rr, ha, hb, Term.matches_seq_iff⟩

/-- A sequence that begins with characters matches where they stand in the text and the rest of it
matches behind them. No flag is on that would change the meaning of a character. -/
theorem toTerm_sequence_ofChar {run : List Char} {rest : List Syntax} {m : Mode} {r : Term}
    (h : (Syntax.sequence (run.map .ofChar ++ rest)).toTerm {} = .ok (r, m)) :
    ∃ rr, (Syntax.sequence rest).toTerm {} = .ok (rr, m) ∧ ∀ {text : Array Char} {i k : Nat},
      r.Matches text i k ↔
        (∀ n, n < run.length → text[i + n]? = run[n]?) ∧ rr.Matches text (i + run.length) k := by
  induction run generalizing r with
  | nil => exact ⟨r, h, fun {text i k} => by simp⟩
  | cons c run ih =>
    obtain ⟨ra, m₁, rr, ha, hr, first⟩ := toTerm_sequence_cons h
    cases ha
    obtain ⟨rest', hrest, later⟩ := ih hr
    refine ⟨rest', hrest, fun {text i k} => ?_⟩
    have one : ∀ j, (Term.chars (.one c)).Matches text i j ↔ text[i]? = some c ∧ j = i + 1 := by
      intro j
      simp [Term.matches_chars_iff, CharSet.contains]
    rw [first]
    simp only [List.length_cons]
    constructor
    · rintro ⟨j, hc, hj⟩
      obtain ⟨here, rfl⟩ := (one j).mp hc
      obtain ⟨run', tail⟩ := later.mp hj
      refine ⟨fun n hn => ?_, by rwa [Nat.add_assoc, Nat.add_comm 1] at tail⟩
      cases n with
      | zero => exact here
      | succ n =>
        rw [← Nat.add_assoc, Nat.add_right_comm]
        exact run' n (by omega)
    · rintro ⟨run', tail⟩
      refine ⟨i + 1, (one _).mpr ⟨run' 0 (by omega), rfl⟩, later.mpr ⟨fun n hn => ?_, ?_⟩⟩
      · have there := run' (n + 1) (by omega)
        rwa [← Nat.add_assoc, Nat.add_right_comm] at there
      · rwa [Nat.add_assoc, Nat.add_comm 1]

/-- The parts of a spliced pattern match what the segments fit: its literal runs as they are, and
for each reference a part that the expression matches at its place. By induction on the segments. -/
theorem matches_spliceParts_iff {tree : Syntax} {r : Term} {m : Mode}
    (hr : tree.toTerm {} = .ok (r, m)) {segs : List Segment} {m' : Mode} {s : Term}
    (h : (Syntax.sequence (spliceParts tree segs)).toTerm {} = .ok (s, m')) {text : Array Char}
    {i k : Nat} : s.Matches text i k ↔ Fits text r segs i k := by
  induction segs generalizing s i with
  | nil =>
    cases h
    rw [Term.matches_empty_iff]
    constructor
    · rintro rfl
      exact .stop _
    · rintro ⟨⟩
      rfl
  | cons seg segs ih =>
    cases seg with
    | literal run =>
      obtain ⟨rr, hrr, first⟩ := toTerm_sequence_ofChar h
      rw [first, ih hrr]
      constructor
      · rintro ⟨here, later⟩
        exact .literal here later
      · rintro (_ | ⟨here, later⟩)
        exact ⟨here, later⟩
    | group index =>
      obtain ⟨ra, m₁, rr, ha, hrr, first⟩ := toTerm_sequence_cons h
      obtain ⟨⟨inner, m₂⟩, hinner, heq⟩ := bind_eq_ok_iff.mp ha
      cases heq
      have same := hr.symm.trans hinner
      cases same
      rw [first]
      constructor
      · rintro ⟨j, here, later⟩
        exact .group here ((ih hrr).mp later)
      · rintro (_ | _ | ⟨here, later⟩)
        exact ⟨_, here, (ih hrr).mpr later⟩

/-! ## Filled templates -/

/-- Whether an expression matches at every place where a row of segments, filled with a token of
the given length, has the token. The row begins at the place `i`. -/
def InPlace (text : Array Char) (r : Term) (width : Nat) : List Segment → Nat → Prop
  | [], _ => True
  | .literal run :: rest, i => InPlace text r width rest (i + run.length)
  | .group _ :: rest, i => r.Matches text i (i + width) ∧ InPlace text r width rest (i + width)

/-- A filled row of segments is fitted, if the expression matches the token where it was put. The
hypothesis speaks of the place in the filled text, since conditions on places may see what stands
around. -/
theorem fits_fill {r : Term} {token before : List Char} {segs : List Segment}
    (h : InPlace (before ++ fill token segs).toArray r token.length segs before.length) :
    Fits (before ++ fill token segs).toArray r segs before.length
      (before ++ fill token segs).length := by
  induction segs generalizing before with
  | nil =>
    rw [fill, List.append_nil]
    exact .stop _
  | cons seg segs ih =>
    cases seg with
    | literal run =>
      simp only [fill, InPlace] at h ⊢
      rw [← List.append_assoc, ← List.length_append] at h
      have later := ih h
      rw [List.append_assoc, List.length_append] at later
      refine .literal (fun n hn => ?_) later
      simp [List.getElem?_append_right, List.getElem?_append_left hn]
    | group index =>
      simp only [fill, InPlace] at h ⊢
      obtain ⟨here, h⟩ := h
      rw [← List.append_assoc, ← List.length_append] at h
      have later := ih h
      rw [List.append_assoc, List.length_append] at later
      exact .group here later

/-- An expression without conditions on places matches its token wherever the token was put. -/
theorem inPlace_of_lookFree {r : Term} (free : r.lookFree = true) {token before : List Char}
    (whole : r.Matches token.toArray 0 token.length) (segs : List Segment) :
    InPlace (before ++ fill token segs).toArray r token.length segs before.length := by
  induction segs generalizing before with
  | nil => trivial
  | cons seg segs ih =>
    cases seg with
    | literal run =>
      have later := @ih (before ++ run)
      rwa [List.append_assoc, List.length_append] at later
    | group index =>
      have later := @ih (before ++ token)
      rw [List.append_assoc, List.length_append] at later
      exact ⟨(Term.matches_within_iff free).mpr whole, later⟩

namespace Pattern

/-- A spliced pattern matches the texts that its segments fit as a whole. The three steps of
compiling have a lemma each: the tokens above, the tree from them, and the meaning of its parts. -/
theorem isMatch_splice {start : List Char} {ts : List Token} (alone : Token.ReadsAlone start ts)
    {tree : Syntax} (htree : Syntax.ofTokens ts = .ok tree) {r : Term} {m : Mode}
    (hr : tree.toTerm {} = .ok (r, m)) {p : String} {segs : List Segment}
    (hp : p.toList = splice start segs) {pattern : Pattern}
    (compiled : compile (anchor p) = .ok pattern) {text : String} :
    pattern.isMatch text = true ↔ Fits (chars text) r segs 0 text.toList.length := by
  have spliced := readsAlone_splice alone segs
  rw [← hp] at spliced
  obtain ⟨d, took, means⟩ := compile_anchor spliced compiled
  obtain ⟨houter, same⟩ := Draft.forget_splice htree took
  obtain ⟨s, m', hs, _, rfl⟩ := means houter
  obtain ⟨s', hs', numbers⟩ := Syntax.toTerm_of_forget same hs
  rw [isMatch, isSome_captures?_anchored, ← Term.matches_forget_iff, ← numbers,
    Term.matches_forget_iff]
  exact matches_spliceParts_iff hr hs'

/-- An escaped text matches itself and nothing else, whatever characters it has. It is a splice
without references, so that what it fits is the text alone. -/
theorem isMatch_escape {s : String} {pattern : Pattern}
    (compiled : compile (anchor (escape s)) = .ok pattern) {text : String} :
    pattern.isMatch text = true ↔ text = s := by
  rw [isMatch_splice readsAlone_nil rfl rfl (toList_escape s) compiled]
  constructor
  · intro h
    cases h with
    | literal run last =>
    rw [Nat.zero_add] at last
    generalize hn : text.toList.length = n at last
    cases last
    refine String.toList_inj.mp (List.ext_getElem? fun n => ?_)
    by_cases inside : n < s.toList.length
    · simpa using run n inside
    · rw [List.getElem?_eq_none (by omega), List.getElem?_eq_none (by omega)]
  · rintro rfl
    refine .literal (fun n _ => by simp) ?_
    rw [Nat.zero_add]
    exact .stop _

end Pattern

end TokenClassifier.Regex
