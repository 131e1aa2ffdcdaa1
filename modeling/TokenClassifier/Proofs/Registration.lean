import TokenClassifier.Proofs.WholeToken

/-!
# The first registration wins

A table keeps three columns: the patterns as a set, the patterns one by one, and the values. The set
tells which patterns find something in a token, and the place of the first of them leads into the
other two columns. Since the columns stay in step (`PatternTable.InStep`), the answer is the value
that was registered with this pattern and the groups that the pattern finds by itself, whatever
other patterns find in the same token and however many groups they have
(`PatternTable.build_answers_first`).

What a pattern finds is said here by its expression, without a table (`FindsIn`, `OwnGroups`). The
groups are those of the expression: a group that no match can enter, as in `(a){0}b`, is none of
them.
-/

namespace TokenClassifier

open Regex

/-! ## Patterns by themselves -/

/-- A pattern, with the anchors around it, matches some part of a token. -/
def FindsIn (pattern token : String) : Prop :=
  ∃ r, Pattern.expression (anchor pattern) = .ok r ∧
    ∃ i j, i ≤ token.toList.length ∧ r.Matches (Pattern.chars token) i j

/-- The texts of the groups that a pattern, with the anchors around it, finds in a token: first the
part of the token that it matches, and then one for each number up to that of its last group, which
is empty for a group that took no part. -/
def OwnGroups (pattern token : String) (groups : List String) : Prop :=
  ∃ r found, Pattern.expression (anchor pattern) = .ok r ∧
    (Pattern.ofTerm r).find? token = some found ∧ groups = found.map (·.getD "") ∧
    (∀ k, k < groups.length ↔ k = 0 ∨ ∃ number ∈ r.groups, k ≤ number) ∧
    ∃ i j, i ≤ token.toList.length ∧ r.Matches (Pattern.chars token) i j ∧
      groups[0]? = some (String.ofList ((token.toList.drop i).take (j - i)))

/-- An expression has no group with the number zero, so the group zero is the match. -/
theorem zero_notMem_groups_expression {source : String} {r : Term}
    (h : Pattern.expression source = .ok r) : 0 ∉ r.groups := by
  obtain ⟨tree, m, hparse, hterm⟩ := Pattern.expression_eq_ok_iff.mp h
  intro mem
  exact Syntax.zero_notMem_groups_parse hparse (Syntax.groups_toTerm _ hterm 0 mem)

/-- A pattern finds something in a token exactly if the token has groups under it. The one is said
by the expression, the other by the search. -/
theorem findsIn_iff {pattern token : String} :
    FindsIn pattern token ↔ ∃ groups, tokenGroups? pattern token = some groups := by
  constructor
  · rintro ⟨r, hr, matched⟩
    obtain ⟨groups, captured⟩ :=
      Option.isSome_iff_exists.mp (Pattern.isSome_captures?_ofTerm.mpr matched)
    have compiled := Pattern.compile_eq_ok_iff_expression.mpr ⟨r, hr, rfl⟩
    exact ⟨groups, tokenGroups?_eq_some_iff.mpr ⟨_, compiled, captured⟩⟩
  · rintro ⟨groups, h⟩
    obtain ⟨p, hp, captured⟩ := tokenGroups?_eq_some_iff.mp h
    obtain ⟨r, hr, rfl⟩ := Pattern.compile_eq_ok_iff_expression.mp hp
    exact ⟨r, hr, Pattern.isSome_captures?_ofTerm.mp (Option.isSome_iff_exists.mpr ⟨_, captured⟩)⟩

/-- The groups that a pattern finds by itself are those that the token has under it. Both sides of
`OwnGroups`, the texts and the numbers, come from the same search. -/
theorem ownGroups_iff {pattern token : String} {groups : List String} :
    OwnGroups pattern token groups ↔ tokenGroups? pattern token = some groups := by
  rw [tokenGroups?_eq_some_iff]
  constructor
  · rintro ⟨r, found, hr, hfound, rfl, _⟩
    refine ⟨_, Pattern.compile_eq_ok_iff_expression.mpr ⟨r, hr, rfl⟩, ?_⟩
    rw [Pattern.captures?, hfound, Option.map_some]
  · rintro ⟨p, hp, captured⟩
    obtain ⟨r, hr, rfl⟩ := Pattern.compile_eq_ok_iff_expression.mp hp
    have whole := Pattern.head?_captures?_ofTerm (zero_notMem_groups_expression hr) captured
    obtain ⟨found, hfound, rfl⟩ := Option.map_eq_some_iff.mp captured
    refine ⟨r, found, hr, hfound, rfl, fun k => ?_, whole⟩
    rw [List.length_map, Pattern.length_find?_ofTerm hfound, Pattern.lt_groupCount_iff]

/-! ## Patterns in tables -/

namespace PatternTable

variable {α : Type} {entries : List (Entry α)} {t : PatternTable α}

/-- In a table that is built, a token is found exactly if some pattern finds something in it. -/
theorem isSome_lookup?_iff (h : build entries = .ok t) (token : String) :
    (t.lookup? token).isSome = true ↔ ∃ e ∈ entries, FindsIn e.pattern token := by
  rw [lookup?_of_build h, List.findSome?_isSome_iff]
  simp only [Option.isSome_map, Option.isSome_iff_exists, findsIn_iff]

/-- What is found for a token is the value of the first pattern that finds something in it, and the
groups of this pattern. Those of other patterns have no part in it, however many they are. -/
theorem lookup?_eq_some_iff (h : build entries = .ok t) {token : String} {value : α}
    {groups : List String} :
    t.lookup? token = some (value, groups) ↔
      ∃ i e, FirstAt (fun e => FindsIn e.pattern token) entries i e ∧ e.value = value ∧
        OwnGroups e.pattern token groups := by
  have misses (e : Entry α) (_ : Nat) :
      ((tokenGroups? e.pattern token).map fun groups => (e.value, groups)) = none ↔
        ¬ FindsIn e.pattern token := by
    rw [Option.map_eq_none_iff, findsIn_iff, ← Option.isSome_iff_exists,
      Option.not_isSome_iff_eq_none]
  rw [lookup?_of_build h, ← findSome?_zipIdx, findSome?_zipIdx_eq_some_iff misses]
  refine exists₂_congr fun i e => and_congr_right fun _ => ?_
  rw [Option.map_eq_some_iff, ownGroups_iff]
  constructor
  · rintro ⟨groups, found, heq⟩
    cases heq
    exact ⟨rfl, found⟩
  · rintro ⟨rfl, found⟩
    exact ⟨groups, found, rfl⟩

/-- Looking up and matching agree, although only one of them goes through the columns. -/
theorem isMatch_eq_isSome_lookup? (h : build entries = .ok t) (token : String) :
    t.isMatch token = (t.lookup? token).isSome := by
  rw [isMatch_of_build h, lookup?_of_build h, Bool.eq_iff_iff, List.any_eq_true,
    List.findSome?_isSome_iff]
  simp only [matchesToken, Option.isSome_map]

/-- A table of two rows of entries is built from the tables of both. Where the first has an answer,
the second is not asked. -/
theorem build_append {before after : List (Entry α)} (h : build (before ++ after) = .ok t) :
    ∃ t₁ t₂, build before = .ok t₁ ∧ build after = .ok t₂ ∧
      ∀ token, t.lookup? token = (t₁.lookup? token).or (t₂.lookup? token) := by
  have compiles := exists_build_iff.mp ⟨t, h⟩
  obtain ⟨t₁, h₁⟩ := exists_build_iff.mpr fun e he => compiles e (List.mem_append_left _ he)
  obtain ⟨t₂, h₂⟩ := exists_build_iff.mpr fun e he => compiles e (List.mem_append_right _ he)
  refine ⟨t₁, t₂, h₁, h₂, fun token => ?_⟩
  rw [lookup?_of_build h, lookup?_of_build h₁, lookup?_of_build h₂, List.findSome?_append]

/-- A table cannot be built exactly if some pattern does not compile. The first of these is
reported, with its own origin and why it does not. -/
theorem build_eq_error_iff {e : PatternError} :
    build entries = .error e ↔
      ∃ i x, FirstAt (fun x => ¬ Compiles x.pattern) entries i x ∧ e.origin = x.origin ∧
        e.pattern = x.pattern ∧ Pattern.compile (anchor x.pattern) = .error e.fault := by
  have misses (x : Entry α) (_ : Nat) :
      patternFault? x.origin x.pattern = none ↔ ¬ ¬ Compiles x.pattern := by
    rw [patternFault?_eq_none_iff, not_not]
  rw [← error?_eq_some_iff, error?_build, ← findSome?_zipIdx, findSome?_zipIdx_eq_some_iff misses]
  refine exists₂_congr fun i x => and_congr_right fun _ => ?_
  rw [patternFault?_eq_some_iff]
  constructor
  · rintro ⟨fault, refused, rfl⟩
    exact ⟨rfl, rfl, refused⟩
  · rintro ⟨origin, pattern, refused⟩
    exact ⟨e.fault, refused, by rw [← origin, ← pattern]⟩

/-- A table answers for a token exactly if some pattern finds something in it, and then with the
value of the first pattern that does and the groups which that pattern finds by itself. Whether a
token is matched is told just so. The table of two rows of entries answers as that of the first row,
and where this has no answer as that of the second one. No table is built exactly if some pattern
does not compile, and then the first of these is reported, with its origin. -/
theorem build_answers_first (entries : List (Entry α)) :
    (∀ t, build entries = .ok t → ∀ token,
      ((t.lookup? token).isSome = true ↔ ∃ e ∈ entries, FindsIn e.pattern token) ∧
      (∀ value groups, t.lookup? token = some (value, groups) ↔
        ∃ i e, FirstAt (fun e => FindsIn e.pattern token) entries i e ∧ e.value = value ∧
          OwnGroups e.pattern token groups) ∧
      t.isMatch token = (t.lookup? token).isSome) ∧
    (∀ before after t, entries = before ++ after → build entries = .ok t →
      ∃ t₁ t₂, build before = .ok t₁ ∧ build after = .ok t₂ ∧
        ∀ token, t.lookup? token = (t₁.lookup? token).or (t₂.lookup? token)) ∧
    ∀ e, build entries = .error e ↔
      ∃ i x, FirstAt (fun x => ¬ Compiles x.pattern) entries i x ∧ e.origin = x.origin ∧
        e.pattern = x.pattern ∧ Pattern.compile (anchor x.pattern) = .error e.fault := by
  refine ⟨fun t h token => ⟨isSome_lookup?_iff h token, fun value groups => lookup?_eq_some_iff h,
    isMatch_eq_isSome_lookup? h token⟩, ?_, fun e => build_eq_error_iff⟩
  rintro before after t rfl h
  exact build_append h

/-- Three patterns that find something in the same token, with different numbers of groups. -/
def overlappingEntries : List (Entry Nat) :=
  [⟨"if", 0, .item "words" 0⟩, ⟨"a(b)?(c)?", 1, .item "words" 1⟩, ⟨"(.)(.)", 2, .item "words" 2⟩]

/-- The second of them answers, with its own three groups, one of which took no part. The third
finds something in the token too, and is not asked. -/
theorem build_answers_first_overlapping :
    ∃ t i e, build overlappingEntries = .ok t ∧ t.lookup? "ac" = some (1, ["ac", "", "c"]) ∧
      FirstAt (fun e => FindsIn e.pattern "ac") overlappingEntries i e ∧ e.value = 1 ∧
      OwnGroups e.pattern "ac" ["ac", "", "c"] := by
  obtain ⟨t, ht, hit⟩ := @exists_of_hit? _ overlappingEntries "ac" (1, ["ac", "", "c"])
    (by decide +kernel)
  obtain ⟨_, answers, _⟩ := (build_answers_first overlappingEntries).1 t ht "ac"
  obtain ⟨i, e, first, value, groups⟩ := (answers 1 ["ac", "", "c"]).mp hit
  exact ⟨t, i, e, ht, hit, first, value, groups⟩

end PatternTable

end TokenClassifier
