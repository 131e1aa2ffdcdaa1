import TokenClassifier.PatternTable
import TokenClassifier.Proofs.Regex.Meaning
import TokenClassifier.Proofs.Regex.Pattern

/-!
# Anchored patterns

`anchor` joins texts, so what it makes of a pattern is a matter of reading the joined text. A
pattern that reads alone is read inside of the anchors as it is by itself, and the anchored pattern
then matches exactly the texts of which the whole is matched (`compile_anchor`).

A pattern that compiles by itself does read alone, if it compiles between the anchors too
(`readsAlone_of_anchor`). Others can reach beyond them: `a)|(?:b` closes the group that is opened
for it and opens the one that is closed after it.
-/

namespace TokenClassifier.Regex

/-! ## Reading -/

/-- The characters of an anchored pattern: the start of the text, a group that does not capture, and
the end of the text. -/
theorem toList_anchor (p : String) :
    (anchor p).toList = '\\' :: 'A' :: '(' :: '?' :: ':' :: (p.toList ++ [')', '\\', 'z']) := by
  simp [anchor]

namespace Token

/-- The condition at the front of an anchored pattern, and the head of the group. -/
theorem scans_front (more : List Char) :
    Scans (false, []) ('\\' :: 'A' :: '(' :: '?' :: ':' :: more)
      [.item (.anchor .textStart), .openScope []] more :=
  .step rfl rfl (.step rfl rfl (.stop _ _))

/-- The tokens of an anchored pattern are those of the pattern, between the anchors and the
parentheses. That it reads alone is needed: otherwise its last characters would take the closing
parenthesis with them. -/
theorem scan_anchor {p : String} {ts : List Token} (alone : ReadsAlone p.toList ts) :
    scan (anchor p).toList = .ok (.item (.anchor .textStart) :: .openScope [] ::
      (ts ++ [.close, .item (.anchor .textEnd)])) := by
  have back : Scans (false, []) ['\\', 'z'] [.item (.anchor .textEnd)] [] :=
    .step rfl rfl (.stop _ _)
  obtain ⟨group, modes⟩ := alone.scans_group [] ['\\', 'z']
  have front : Scans (false, []) (anchor p).toList [.item (.anchor .textStart)]
      ('(' :: '?' :: ':' :: (p.toList ++ ')' :: ['\\', 'z'])) := by
    rw [toList_anchor]
    exact .step rfl rfl (.stop _ _)
  have whole := front.trans (group.trans (by rw [modes]; exact back))
  rw [scan_eq_tokens, whole.tokens_eq, tokens, readAll_nil]
  simp [Except.map]

/-- Groups further out stay open: what a token does to the count of open groups is the same on top
of `k` more. -/
theorem nest_add {n m : Nat} {t : Token} (h : nest n t = some m) (k : Nat) :
    nest (n + k) t = some (m + k) := by
  cases t with
  | openCapture | openScope =>
    obtain rfl := Option.some.inj h
    exact congrArg some (by omega)
  | close =>
    simp only [nest] at h ⊢
    split at h
    next => cases h
    next opened =>
      obtain rfl := Option.some.inj h
      rw [if_neg (by omega)]
      exact congrArg some (by omega)
  | item | bar | flags | repeated =>
    obtain rfl := Option.some.inj h
    rfl

/-- The same for a row of tokens, by induction on it. -/
theorem foldlM_nest_add {ts : List Token} {n m : Nat} (h : ts.foldlM nest n = some m) (k : Nat) :
    ts.foldlM nest (n + k) = some (m + k) := by
  induction ts generalizing n with
  | nil =>
    obtain rfl := Option.some.inj h
    rfl
  | cons t ts ih =>
    rw [List.foldlM_cons] at h ⊢
    obtain ⟨a, ha, h⟩ := Option.bind_eq_some_iff.mp h
    rw [nest_add ha]
    exact ih h

end Token

/-- A pattern that compiles by itself and between anchors reads alone: if it ended in a comment,
the group around it would stay open. -/
theorem readsAlone_of_anchor {p : String} {tree whole : Syntax} (h : Syntax.parse p = .ok tree)
    (anchored : Syntax.parse (anchor p) = .ok whole) :
    ∃ ts, Token.scan p.toList = .ok ts ∧ Token.ReadsAlone p.toList ts ∧
      Syntax.ofTokens ts = .ok tree := by
  obtain ⟨ts, hts, htree⟩ := bind_eq_ok_iff.mp h
  obtain ⟨d, took, closed, _⟩ := Syntax.ofTokens_eq_ok_iff.mp htree
  have balanced : ts.foldlM Token.nest 0 = some 0 := by
    have nested := Draft.nest_of_foldlM took
    rwa [closed] at nested
  rcases Token.readsAlone_or_comment hts balanced with alone | comment
  · exact ⟨ts, hts, alone, htree⟩
  -- the scan then ends inside of the group, which the fold would have to close
  exfalso
  obtain ⟨us, hus, htree'⟩ := bind_eq_ok_iff.mp anchored
  obtain ⟨d', took', closed', _⟩ := Syntax.ofTokens_eq_ok_iff.mp htree'
  have tail : Token.tokens (false, [false]) (p.toList ++ [')', '\\', 'z']) = .ok ts :=
    comment [false] ['\\', 'z'] (by decide)
  have read : us = .item (.anchor .textStart) :: .openScope [] :: ts := by
    have front := (Token.scans_front (p.toList ++ [')', '\\', 'z'])).tokens_eq
    rw [← toList_anchor, ← Token.scan_eq_tokens, hus] at front
    change Except.ok us = (Token.tokens (false, [false]) _).map _ at front
    rw [tail] at front
    exact Except.ok.inj front
  have open' := Draft.nest_of_foldlM took'
  rw [read, closed'] at open'
  have opened := Token.foldlM_nest_add balanced 1
  change ts.foldlM Token.nest 1 = some 0 at open'
  rw [Nat.zero_add, open'] at opened
  cases opened

/-! ## Building -/

/-- The draft of an anchored pattern before the pattern itself. -/
def Draft.anchored : Draft := ⟨1, [], .empty, [(.scope [], ⟨[], [.anchor .textStart]⟩)]⟩

/-- The tree of an anchored pattern. -/
theorem parse_anchor {p : String} {ts : List Token} (alone : Token.ReadsAlone p.toList ts)
    {whole : Syntax} (h : Syntax.parse (anchor p) = .ok whole) :
    ∃ d, ts.foldlM Draft.step .anchored = .ok d ∧ (d.outer = Draft.anchored.outer →
      whole = .concat (.anchor .textStart)
        (.concat (.scope [] d.current.toSyntax) (.anchor .textEnd))) := by
  obtain ⟨us, hus, h⟩ := bind_eq_ok_iff.mp h
  rw [Token.scan_anchor alone] at hus
  obtain rfl := Except.ok.inj hus
  obtain ⟨d, took, _, rfl, _⟩ := Syntax.ofTokens_eq_ok_iff.mp h
  change (ts ++ [Token.close, .item (.anchor .textEnd)]).foldlM Draft.step .anchored = _ at took
  rw [List.foldlM_append] at took
  obtain ⟨inner, hinner, took⟩ := bind_eq_ok_iff.mp took
  refine ⟨inner, hinner, fun houter => ?_⟩
  simp only [List.foldlM_cons, List.foldlM_nil, Draft.step, Draft.leave, houter] at took
  cases took
  rfl

/-- An anchored pattern is read if its tokens are taken between the anchors and the tree is not
too deep. Together with `parse_anchor` this settles when an anchored pattern is read, and as
which tree. -/
theorem parse_anchor_of_foldlM {p : String} {ts : List Token}
    (alone : Token.ReadsAlone p.toList ts) {d : Draft}
    (took : ts.foldlM Draft.step .anchored = .ok d) (houter : d.outer = Draft.anchored.outer)
    {whole : Syntax} (tree : whole = .concat (.anchor .textStart)
      (.concat (.scope [] d.current.toSyntax) (.anchor .textEnd)))
    (shallow : whole.depth ≤ Syntax.depthLimit) : Syntax.parse (anchor p) = .ok whole := by
  refine bind_eq_ok_iff.mpr ⟨_, Token.scan_anchor alone, Syntax.ofTokens_eq_ok_iff.mpr ?_⟩
  refine ⟨⟨d.next, d.names, ⟨[], [.anchor .textEnd, .scope [] d.current.toSyntax,
    .anchor .textStart]⟩, []⟩, ?_, rfl, tree.symm, shallow⟩
  change (ts ++ [Token.close, .item (.anchor .textEnd)]).foldlM Draft.step .anchored = _
  rw [List.foldlM_append, took]
  simp only [ok_bind, List.foldlM_cons, List.foldlM_nil, Draft.step, Draft.leave, houter]
  rfl

/-! ## Matching -/

/-- An expression that has to match a whole text. -/
def Term.anchored (r : Term) : Term := .seq (.look .textStart) (.seq r (.look .textEnd))

/-- The start of the text is found at its first place only. -/
theorem Term.matches_textStart_iff {text : Array Char} {i j : Nat} (hi : i ≤ text.size) :
    (Term.look .textStart).Matches text i j ↔ i = 0 ∧ j = 0 := by
  rw [matches_look_iff]
  constructor
  · rintro ⟨front, rfl⟩
    have first : j = 0 := by
      cases j with
      | zero => rfl
      | succ n => simp [Look.holds, charBefore, show n < text.size by omega] at front
    exact ⟨first, first⟩
  · rintro ⟨rfl, rfl⟩
    exact ⟨by simp [Look.holds, charBefore], rfl⟩

/-- The end of the text is found at its last place only. -/
theorem Term.matches_textEnd_iff {text : Array Char} {i j : Nat} (hi : i ≤ text.size) :
    (Term.look .textEnd).Matches text i j ↔ i = text.size ∧ j = text.size := by
  rw [matches_look_iff]
  simp only [Look.holds, Option.isNone_iff_eq_none, Array.getElem?_eq_none_iff]
  constructor
  · rintro ⟨back, rfl⟩
    exact ⟨by omega, by omega⟩
  · rintro ⟨rfl, rfl⟩
    exact ⟨Nat.le_refl _, rfl⟩

/-- Between the anchors an expression matches the whole text or nothing, and it matches there what
it matches by itself. -/
theorem Term.matches_anchored_iff {text : Array Char} {r : Term} {i j : Nat}
    (hi : i ≤ text.size) :
    r.anchored.Matches text i j ↔ i = 0 ∧ j = text.size ∧ r.Matches text 0 text.size := by
  simp only [anchored, matches_seq_iff]
  constructor
  · rintro ⟨i', front, j', inner, back⟩
    obtain ⟨rfl, rfl⟩ := (matches_textStart_iff hi).mp front
    obtain ⟨rfl, rfl⟩ := (matches_textEnd_iff (inner.le_size hi)).mp back
    exact ⟨rfl, rfl, inner⟩
  · rintro ⟨rfl, rfl, inner⟩
    exact ⟨0, (matches_textStart_iff hi).mpr ⟨rfl, rfl⟩, text.size, inner,
      (matches_textEnd_iff (Nat.le_refl _)).mpr ⟨rfl, rfl⟩⟩

/-- What stands between the anchors means there what it means by itself. The flags that the pattern
sets for its own rest end with the group, so the mode afterwards is the initial one. -/
theorem toTerm_anchored {tree : Syntax} {r : Term} {m : Mode} (h : tree.toTerm {} = .ok (r, m)) :
    (Syntax.concat (.anchor .textStart) (.concat (.scope [] tree) (.anchor .textEnd))).toTerm {} =
      .ok (r.anchored, {}) := by
  have inner : (Syntax.scope [] tree).toTerm {} = .ok (r, {}) := bind_eq_ok_iff.mpr ⟨_, h, rfl⟩
  have rest : (Syntax.concat (.scope [] tree) (.anchor .textEnd)).toTerm {} =
      .ok (.seq r (.look .textEnd), {}) :=
    bind_eq_ok_iff.mpr ⟨_, inner, rfl⟩
  exact bind_eq_ok_iff.mpr ⟨_, rfl, bind_eq_ok_iff.mpr ⟨_, rest, rfl⟩⟩

namespace Pattern

/-- An anchored expression finds something exactly in the texts that it matches as a whole. -/
theorem isSome_captures?_anchored {r : Term} {text : String} :
    ((ofTerm r.anchored).captures? text).isSome = true ↔
      r.Matches (chars text) 0 text.toList.length := by
  rw [isSome_captures?_ofTerm]
  constructor
  · rintro ⟨i, j, hi, h⟩
    have whole := (Term.matches_anchored_iff (by simpa using hi)).mp h
    simpa using whole.2.2
  · intro h
    refine ⟨0, (chars text).size, Nat.zero_le _, ?_⟩
    rw [Term.matches_anchored_iff (Nat.zero_le _), size_chars]
    exact ⟨rfl, rfl, h⟩

/-- What it finds begins with the whole text, since group zero is the part that was matched, and the
anchors leave no other part. -/
theorem head?_captures?_anchored {r : Term} (inner : 0 ∉ r.groups) {text : String}
    {groups : List String} (h : (ofTerm r.anchored).captures? text = some groups) :
    groups[0]? = some text := by
  have inner' : 0 ∉ r.anchored.groups := by simpa [Term.anchored, Term.groups] using inner
  obtain ⟨i, j, hi, matched, hg⟩ := head?_captures?_ofTerm inner' h
  obtain ⟨rfl, rfl, _⟩ := (Term.matches_anchored_iff (by simpa using hi)).mp matched
  simpa using hg

/-- What a pattern that reads alone compiles to between the anchors. -/
theorem compile_anchor {p : String} {ts : List Token} (alone : Token.ReadsAlone p.toList ts)
    {pattern : Pattern} (h : compile (anchor p) = .ok pattern) :
    ∃ d, ts.foldlM Draft.step .anchored = .ok d ∧ (d.outer = Draft.anchored.outer →
      ∃ r m, d.current.toSyntax.toTerm {} = .ok (r, m) ∧ 0 ∉ r.groups ∧
        pattern = ofTerm r.anchored) := by
  obtain ⟨whole, s, m, hparse, hterm, rfl⟩ := compile_eq_ok_iff.mp h
  obtain ⟨d, took, tree⟩ := parse_anchor alone hparse
  refine ⟨d, took, fun houter => ?_⟩
  obtain rfl := tree houter
  have zero := Syntax.zero_notMem_groups_parse hparse
  obtain ⟨⟨front, m₁⟩, hfront, hterm⟩ := bind_eq_ok_iff.mp hterm
  cases hfront
  obtain ⟨⟨rest, m₂⟩, hrest, heq⟩ := bind_eq_ok_iff.mp hterm
  cases heq
  obtain ⟨⟨inner, m₃⟩, hinner, hrest⟩ := bind_eq_ok_iff.mp hrest
  obtain ⟨⟨r, m₄⟩, hr, heq⟩ := bind_eq_ok_iff.mp hinner
  cases heq
  cases hrest
  refine ⟨inner, m₄, hr, fun hz => zero ?_, rfl⟩
  simpa [Syntax.groups] using Syntax.groups_toTerm _ hr 0 hz

/-- A pattern that compiles by itself means the same between the anchors, but for the numbers of its
groups. That it compiles by itself cannot be left out: two halves that are no patterns may become
one by what is put around them. -/
theorem compile_anchor_alone {p : String} {tree : Syntax} {r : Term} {m : Mode}
    (h : Syntax.parse p = .ok tree) (hr : tree.toTerm {} = .ok (r, m)) {pattern : Pattern}
    (anchored : compile (anchor p) = .ok pattern) :
    ∃ s : Term, s.forget = r.forget ∧ 0 ∉ s.groups ∧ pattern = ofTerm s.anchored := by
  obtain ⟨whole, _, _, hparse, _⟩ := compile_eq_ok_iff.mp anchored
  obtain ⟨ts, _, alone, htree⟩ := readsAlone_of_anchor h hparse
  obtain ⟨d, took, compiled⟩ := compile_anchor alone anchored
  obtain ⟨houter, same⟩ := Syntax.forget_of_foldlM htree rfl took
  obtain ⟨s, m', hs, zero, heq⟩ := compiled houter
  obtain ⟨s', hs', forgets⟩ := Syntax.toTerm_of_forget same hs
  rw [hr] at hs'
  cases hs'
  exact ⟨s, forgets.symm, zero, heq⟩

/-- Between the anchors it matches the texts of which it matches the whole. For the pattern table
this is the statement that a registered pattern stands for whole tokens. -/
theorem isMatch_anchor_alone {p : String} {tree : Syntax} {r : Term} {m : Mode}
    (h : Syntax.parse p = .ok tree) (hr : tree.toTerm {} = .ok (r, m)) {pattern : Pattern}
    (anchored : compile (anchor p) = .ok pattern) {text : String} :
    pattern.isMatch text = true ↔ r.Matches (chars text) 0 text.toList.length := by
  obtain ⟨s, forgets, _, rfl⟩ := compile_anchor_alone h hr anchored
  rw [isMatch, isSome_captures?_anchored, ← Term.matches_forget_iff, forgets,
    Term.matches_forget_iff]

end Pattern

end TokenClassifier.Regex
