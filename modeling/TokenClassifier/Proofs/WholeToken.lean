import TokenClassifier.Proofs.PatternTable
import TokenClassifier.Proofs.Regex.Splice

/-!
# Whether a hit is the whole token

A table asks its patterns for whole tokens by putting anchors around them. The anchors are joined
on as text, and they bind the pattern only if they are still the first and the last thing that the
joined text asks for (`KeepsAnchors`). Then group zero of a hit is the token, whatever there is in
between (`KeepsAnchors.head?_groups`).

A pattern that is a regular expression by itself keeps the anchors
(`keepsAnchors_of_compilesAlone`), and so does one like `a)(?:b`, which only crosses the
parentheses. A pattern that adds an alternative, or that turns the rest of the text into a comment,
can lose an anchor, and group zero is then any part of the token (`lookup?_part`).
-/

namespace TokenClassifier

open Regex

/-! ## Regular expressions by themselves -/

/-- How a pattern reads by itself and, but for the numbers of its groups, wherever it is put between
parentheses. -/
structure ReadsAs (pattern : String) (ts : List Token) (tree : Syntax) (r : Term) : Prop where
  scan : Token.scan pattern.toList = .ok ts
  alone : Token.ReadsAlone pattern.toList ts
  built : Syntax.ofTokens ts = .ok tree
  means : ∃ m, tree.toTerm {} = .ok (r, m)

/-- A reading is the tree that parsing gives. -/
theorem ReadsAs.parse {pattern : String} {ts : List Token} {tree : Syntax} {r : Term}
    (h : ReadsAs pattern ts tree r) : Syntax.parse pattern = .ok tree :=
  bind_eq_ok_iff.mpr ⟨ts, h.scan, h.built⟩

/-- A pattern that compiles both by itself and between the anchors has a reading. Neither half is
enough: the one could end in a comment, and the other could cross the parentheses. -/
theorem exists_readsAs {pattern : String} (alone : CompilesAlone pattern)
    (compiles : Compiles pattern) : ∃ ts tree r, ReadsAs pattern ts tree r := by
  obtain ⟨_, hp⟩ := alone
  obtain ⟨tree, r, m, hparse, hr, _⟩ := Pattern.compile_eq_ok_iff.mp hp
  obtain ⟨_, hanchored⟩ := compiles
  obtain ⟨_, _, _, hwhole, _⟩ := Pattern.compile_eq_ok_iff.mp hanchored
  obtain ⟨ts, hts, reads, htree⟩ := readsAlone_of_anchor hparse hwhole
  exact ⟨ts, tree, r, hts, reads, htree, m, hr⟩

/-! ## Anchors that are kept -/

/-- A pattern that leaves both anchors in place: what is read is a sequence of parts, from the start
of the text to its end. -/
def KeepsAnchors (pattern : String) : Prop :=
  ∃ parts : List Syntax, Syntax.parse (anchor pattern) =
    .ok (.sequence (.anchor .textStart :: (parts ++ [.anchor .textEnd])))

/-- A pattern that is a regular expression by itself becomes the only part between the anchors. -/
theorem keepsAnchors_of_compilesAlone {pattern : String} (alone : CompilesAlone pattern)
    (compiles : Compiles pattern) : KeepsAnchors pattern := by
  obtain ⟨ts, tree, r, reading⟩ := exists_readsAs alone compiles
  obtain ⟨_, hp⟩ := compiles
  obtain ⟨whole, _, _, hwhole, _⟩ := Pattern.compile_eq_ok_iff.mp hp
  obtain ⟨d, took, shape⟩ := parse_anchor reading.alone hwhole
  obtain ⟨houter, _⟩ := Syntax.forget_of_foldlM reading.built rfl took
  exact ⟨[.scope [] d.current.toSyntax], by rw [hwhole, shape houter]; rfl⟩

/-- A sequence that asks for the end of the text matches up to there. By induction on the parts
before it. -/
theorem eq_size_of_matches_sequence {parts : List Syntax} {m m' : Mode} {r : Term}
    (h : (Syntax.sequence (parts ++ [.anchor .textEnd])).toTerm m = .ok (r, m'))
    {text : Array Char} {i j : Nat} (hi : i ≤ text.size) (matched : r.Matches text i j) :
    j = text.size := by
  induction parts generalizing m r i with
  | nil =>
    cases h
    exact ((Term.matches_textEnd_iff hi).mp matched).2
  | cons part parts ih =>
    obtain ⟨first, _, rest, _, hrest, split⟩ := toTerm_sequence_cons h
    obtain ⟨k, here, later⟩ := split.mp matched
    exact ih hrest (here.le_size hi) later

/-! ## Group zero -/

/-- What a hit tells of the pattern: its expression, as it is read between the anchors, matches the
part of the token that is group zero. Nothing is said here of which part it is. -/
theorem exists_match_of_tokenGroups? {pattern token : String} {groups : List String}
    (h : tokenGroups? pattern token = some groups) :
    ∃ tree r m i j, Syntax.parse (anchor pattern) = .ok tree ∧ tree.toTerm {} = .ok (r, m) ∧
      i ≤ (Pattern.chars token).size ∧ r.Matches (Pattern.chars token) i j ∧
      groups[0]? = some (String.ofList ((token.toList.drop i).take (j - i))) := by
  obtain ⟨p, hp, captured⟩ := tokenGroups?_eq_some_iff.mp h
  obtain ⟨tree, r, m, hparse, hr, rfl⟩ := Pattern.compile_eq_ok_iff.mp hp
  have zero : 0 ∉ r.groups := fun hz =>
    Syntax.zero_notMem_groups_parse hparse (Syntax.groups_toTerm _ hr 0 hz)
  obtain ⟨i, j, hi, matched, hg⟩ := Pattern.head?_captures?_ofTerm zero captured
  exact ⟨tree, r, m, i, j, hparse, hr, by simpa using hi, matched, hg⟩

/-- A pattern that keeps the anchors finds whole tokens only. The one anchor settles where the match
begins, and the other where it ends. -/
theorem KeepsAnchors.head?_groups {pattern : String} (kept : KeepsAnchors pattern) {token : String}
    {groups : List String} (h : tokenGroups? pattern token = some groups) :
    groups[0]? = some token := by
  obtain ⟨parts, hparts⟩ := kept
  obtain ⟨tree, r, m, i, j, hparse, hr, hi, matched, hg⟩ := exists_match_of_tokenGroups? h
  obtain rfl := Except.ok.inj (hparse.symm.trans hparts)
  obtain ⟨front, _, rest, hfront, hrest, split⟩ := toTerm_sequence_cons hr
  cases hfront
  obtain ⟨k, first, later⟩ := split.mp matched
  obtain ⟨rfl, rfl⟩ := (Term.matches_textStart_iff hi).mp first
  obtain rfl := eq_size_of_matches_sequence hrest (Nat.zero_le _) later
  simpa using hg

/-- Group zero is there, and it is a part of the token. For patterns that lose an anchor nothing
more can be said. -/
theorem exists_part_of_tokenGroups? {pattern token : String} {groups : List String}
    (h : tokenGroups? pattern token = some groups) :
    ∃ part, groups[0]? = some part ∧ part.toList <:+: token.toList := by
  obtain ⟨_, _, _, i, j, _, _, _, _, hg⟩ := exists_match_of_tokenGroups? h
  refine ⟨_, hg, ?_⟩
  rw [String.toList_ofList]
  exact (List.take_prefix _ _).isInfix.trans (List.drop_suffix _ _).isInfix

/-- The template `$0` stands for group zero. -/
theorem expand_whole {groups : List String} {whole : String} (h : groups[0]? = some whole) :
    Template.expand "$0" groups = whole := by
  refine String.toList_inj.mp ?_
  rw [Template.toList_expand_of_whole (by decide) h]
  exact List.append_nil _

/-! ## Tables -/

variable {α : Type}

/-- A hit comes from the first entry whose pattern matches the token, and its group zero is a part
of the token. If the pattern keeps the anchors, as one does that is a regular expression by itself,
it is the whole token, and that is then what `$0` stands for. -/
theorem lookup?_whole {entries : List (Entry α)} {t : PatternTable α}
    (h : PatternTable.build entries = .ok t) {token : String} {value : α} {groups : List String}
    (hit : t.lookup? token = some (value, groups)) :
    ∃ e, entries.find? (fun e => matchesToken e.pattern token) = some e ∧ e.value = value ∧
      (∃ part, groups[0]? = some part ∧ part.toList <:+: token.toList) ∧
      (CompilesAlone e.pattern ∨ KeepsAnchors e.pattern →
        groups[0]? = some token ∧ Template.expand "$0" groups = token) := by
  rw [PatternTable.lookup?_of_build h] at hit
  obtain ⟨before, e, after, rfl, found, missed⟩ := List.findSome?_eq_some_iff.mp hit
  obtain ⟨groups', hg, heq⟩ := Option.map_eq_some_iff.mp found
  obtain ⟨rfl, rfl⟩ := Prod.mk.inj heq
  have first : (before ++ e :: after).find? (fun e => matchesToken e.pattern token) = some e := by
    refine List.find?_eq_some_iff_append.mpr ⟨?_, before, after, rfl, fun e' mem => ?_⟩
    · rw [matchesToken, hg]
      rfl
    · rw [matchesToken, Option.map_eq_none_iff.mp (missed e' mem)]
      rfl
  refine ⟨e, first, rfl, exists_part_of_tokenGroups? hg, fun bound => ?_⟩
  have kept : KeepsAnchors e.pattern := by
    rcases bound with alone | kept
    · exact keepsAnchors_of_compilesAlone alone (compiles_of_tokenGroups? hg)
    · exact kept
  have whole := kept.head?_groups hg
  exact ⟨whole, expand_whole whole⟩

/-- What the table of a list of entries answers for a token. -/
def hit? (entries : List (Entry α)) (token : String) : Option (α × List String) :=
  (PatternTable.build entries).toOption.bind (·.lookup? token)

/-- What a table answers, and that there is the table, can be had by one evaluation. It serves for
examples. -/
theorem exists_of_hit? {entries : List (Entry α)} {token : String} {hit : α × List String}
    (h : hit? entries token = some hit) :
    ∃ t, PatternTable.build entries = .ok t ∧ t.lookup? token = some hit := by
  unfold hit? at h
  cases ht : PatternTable.build entries with
  | error e =>
    rw [ht] at h
    cases h
  | ok t =>
    rw [ht] at h
    exact ⟨t, rfl, h⟩

/-- Two patterns. The second one is no regular expression by itself: it crosses the parentheses that
are put around it. -/
def crossedEntries : List (Entry Nat) :=
  [⟨"if|while", 0, .item "words" 0⟩, ⟨"a)(?:b|c", 1, .item "words" 1⟩]

/-- The second pattern is no regular expression by itself and keeps the anchors all the same, so its
hits are whole tokens. -/
theorem lookup?_whole_crossed :
    ∃ t groups, PatternTable.build crossedEntries = .ok t ∧
      t.lookup? "ac" = some (1, groups) ∧ groups[0]? = some "ac" ∧
      Template.expand "$0" groups = "ac" := by
  obtain ⟨t, ht, hit⟩ := @exists_of_hit? _ crossedEntries "ac" (1, ["ac"]) (by decide +kernel)
  obtain ⟨e, first, _, _, whole⟩ := lookup?_whole ht hit
  have second : crossedEntries.find? (fun e => matchesToken e.pattern "ac") =
      some ⟨"a)(?:b|c", 1, .item "words" 1⟩ := by decide +kernel
  obtain rfl := Option.some.inj (second.symm.trans first)
  have kept : KeepsAnchors "a)(?:b|c" :=
    ⟨[.scope [] (.ofChar 'a'), .scope [] (.alt (.ofChar 'b') (.ofChar 'c'))], by decide +kernel⟩
  exact ⟨t, ["ac"], ht, hit, whole (.inr kept)⟩

/-- A pattern can lose the anchor at the end, by a further alternative or by a comment, and find a
proper part of the token then. For each there is a pattern that compiles between the anchors, so a
table takes it. -/
theorem lookup?_part :
    (∃ (t : PatternTable Nat) (groups : List String),
      PatternTable.build [⟨"a)|(?:b", 0, .item "words" 0⟩] = .ok t ∧
      t.lookup? "ab" = some (0, groups) ∧ groups[0]? = some "a" ∧
      Template.expand "$0" groups ≠ "ab") ∧
    ∃ (t : PatternTable Nat) (groups : List String),
      PatternTable.build [⟨"a)(?x)#", 0, .item "words" 0⟩] = .ok t ∧
      t.lookup? "ab" = some (0, groups) ∧ groups[0]? = some "a" ∧
      Template.expand "$0" groups ≠ "ab" := by
  constructor
  · obtain ⟨t, ht, hit⟩ := @exists_of_hit? _ [⟨"a)|(?:b", 0, .item "words" 0⟩] "ab" (0, ["a"])
      (by decide +kernel)
    exact ⟨t, ["a"], ht, hit, rfl, by decide +kernel⟩
  · obtain ⟨t, ht, hit⟩ := @exists_of_hit? _ [⟨"a)(?x)#", 0, .item "words" 0⟩] "ab" (0, ["a"])
      (by decide +kernel)
    exact ⟨t, ["a"], ht, hit, rfl, by decide +kernel⟩

end TokenClassifier
