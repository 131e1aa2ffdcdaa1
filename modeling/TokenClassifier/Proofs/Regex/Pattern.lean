import Mathlib.Order.MinMax
import TokenClassifier.Regex.Pattern
import TokenClassifier.Proofs.Except
import TokenClassifier.Proofs.Regex.Search

/-!
# What a compiled pattern finds

Search, program and expression put together: a compiled pattern has groups for a text exactly if
its expression matches some part of the text (`isSome_captures?_ofTerm`). Where no group inside of
the expression bears the number zero, group zero is the part that was matched
(`head?_captures?_ofTerm`).
-/

namespace TokenClassifier.Regex

namespace Pattern

/-- The characters of a text, by place. -/
def chars (text : String) : Array Char := text.toList.toArray

@[simp] theorem size_chars (text : String) : (chars text).size = text.toList.length := by
  simp [chars]

@[simp] theorem getElem?_chars (text : String) (i : Nat) : (chars text)[i]? = text.toList[i]? := by
  simp [chars]

/-- The notes of a search tell of a match of the expression: where it begins and ends, and in
between only places of its own groups. That no other number is noted inside is what makes group zero
the match. -/
theorem matches_of_search {r : Term} {text : String} {notes : List (Nat × Nat)}
    (h : search? r.program text.toList.toArray = some notes) :
    ∃ i j added, i ≤ text.toList.length ∧ r.Matches (chars text) i j ∧
      (∀ note ∈ added, note.1 / 2 ∈ r.groups) ∧ notes = (1, j) :: added ++ [(0, i)] := by
  obtain ⟨i, hi, run⟩ := run_of_search h
  obtain ⟨j, added, matched, slots, rfl⟩ := Term.matches_of_run_program r run
  exact ⟨i, j, added, by simpa using hi, matched, slots, rfl⟩

/-- A pattern finds something exactly where its expression matches a part of the text. Which of
several matches it finds is a matter of preference, and not said here. -/
theorem isSome_captures?_ofTerm {r : Term} {text : String} :
    ((ofTerm r).captures? text).isSome = true ↔
      ∃ i j, i ≤ text.toList.length ∧ r.Matches (chars text) i j := by
  unfold captures? find? ofTerm
  rw [Option.isSome_map, Option.isSome_map]
  constructor
  · intro h
    obtain ⟨notes, h⟩ := Option.isSome_iff_exists.mp h
    obtain ⟨i, j, _, hi, matched, _⟩ := matches_of_search h
    exact ⟨i, j, hi, matched⟩
  · rintro ⟨i, j, hi, matched⟩
    rw [← Option.ne_none_iff_isSome]
    intro h
    obtain ⟨n, final, run⟩ := matched.run_program
    exact no_run_of_search h (by simpa [chars] using hi) run

/-! ## Group zero -/

/-- The groups are numbered up to the last one, and zero counts as one. Numbers that are left out on
the way count too. -/
theorem lt_groupCount_iff {r : Term} {k : Nat} :
    k < r.groupCount ↔ k = 0 ∨ ∃ number ∈ r.groups, k ≤ number := by
  induction r with
  | empty | chars | look => simp [Term.groupCount, Term.groups]
  | capture index r ih =>
    simp only [Term.groupCount, Term.groups, List.mem_cons, exists_eq_or_imp, lt_max_iff, ih,
      Nat.lt_succ_iff]
    exact or_left_comm
  | seq a b iha ihb | alt a b iha ihb =>
    simp only [Term.groupCount, Term.groups, List.mem_append, lt_max_iff, iha, ihb, or_and_right,
      exists_or]
    exact or_or_distrib_left.symm
  | opt _ r ih | star _ r ih | plus _ r ih => exact ih

/-- There is always the group of the whole match. -/
theorem groupCount_pos (r : Term) : 0 < r.groupCount := lt_groupCount_iff.mpr (.inl rfl)

/-- The places noted by a program around the match of its expression. What is noted in between hides
neither of them if it bears other numbers. -/
theorem noted?_program (i j : Nat) {added : List (Nat × Nat)}
    (inner : ∀ note ∈ added, note.1 / 2 ≠ 0) :
    noted? ((1, j) :: added ++ [(0, i)]) 0 = some i ∧
      noted? ((1, j) :: added ++ [(0, i)]) 1 = some j := by
  have none₀ : added.find? (fun x => x.1 == 0) = none := by
    refine List.find?_eq_none.mpr fun note h e => inner note h ?_
    rw [beq_iff_eq.mp e]
  constructor
  · simp [noted?, List.find?_append, none₀]
  · simp [noted?]

/-- There is a place for each group in what is found, whether the group took part in the match or
not. -/
theorem length_find?_ofTerm {r : Term} {text : String} {found : List (Option String)}
    (h : (ofTerm r).find? text = some found) : found.length = r.groupCount := by
  obtain ⟨notes, _, rfl⟩ := Option.map_eq_some_iff.mp h
  rw [List.length_map, List.length_range, ofTerm]

/-- Group zero is the part of the text that the expression matched. The hypothesis that no group has
the number zero is settled for all patterns by `Syntax.zero_notMem_groups_parse`. -/
theorem getElem?_find?_ofTerm {r : Term} (inner : 0 ∉ r.groups) {text : String}
    {found : List (Option String)} (h : (ofTerm r).find? text = some found) :
    ∃ i j, i ≤ text.toList.length ∧ r.Matches (chars text) i j ∧
      found[0]? = some (some (String.ofList ((text.toList.drop i).take (j - i)))) := by
  obtain ⟨notes, hnotes, rfl⟩ := Option.map_eq_some_iff.mp h
  obtain ⟨i, j, added, hi, matched, slots, rfl⟩ := matches_of_search hnotes
  obtain ⟨lo, hj⟩ := noted?_program i j fun note mem e => inner (e ▸ slots note mem)
  refine ⟨i, j, hi, matched, ?_⟩
  rw [ofTerm, List.getElem?_map, List.getElem?_range (groupCount_pos r), Option.map_some,
    groupText?, Nat.mul_zero, lo, hj]
  rfl

/-- The same for the texts of the groups as `captures?` gives them, with an empty text for a group
that took no part. -/
theorem head?_captures?_ofTerm {r : Term} (inner : 0 ∉ r.groups) {text : String}
    {groups : List String} (h : (ofTerm r).captures? text = some groups) :
    ∃ i j, i ≤ text.toList.length ∧ r.Matches (chars text) i j ∧
      groups[0]? = some (String.ofList ((text.toList.drop i).take (j - i))) := by
  obtain ⟨found, hfound, rfl⟩ := Option.map_eq_some_iff.mp h
  obtain ⟨i, j, hi, matched, whole⟩ := getElem?_find?_ofTerm inner hfound
  refine ⟨i, j, hi, matched, ?_⟩
  rw [List.getElem?_map, whole]
  rfl

/-! ## Texts of groups -/

/-- The text of a group is cut out of the text that was searched, so it has only characters of
it. -/
theorem mem_groupText? {text : List Char} {notes : List (Nat × Nat)} {index : Nat} {group : String}
    (h : groupText? text notes index = some group) {c : Char} (hc : c ∈ group.toList) :
    c ∈ text := by
  obtain ⟨lo, _, h⟩ := Option.bind_eq_some_iff.mp h
  obtain ⟨hi, _, h⟩ := Option.bind_eq_some_iff.mp h
  obtain rfl := Option.some.inj h
  rw [String.toList_ofList] at hc
  exact List.mem_of_mem_drop (List.mem_of_mem_take hc)

/-- A group has no character that the text does not have. A group that took no part is empty and has
none at all. -/
theorem mem_of_captures? {p : Pattern} {text : String} {groups : List String}
    (h : p.captures? text = some groups) {group : String} (mem : group ∈ groups) {c : Char}
    (hc : c ∈ group.toList) : c ∈ text.toList := by
  obtain ⟨found, hfound, rfl⟩ := Option.map_eq_some_iff.mp h
  obtain ⟨notes, _, rfl⟩ := Option.map_eq_some_iff.mp hfound
  obtain ⟨_, taken, rfl⟩ := List.mem_map.mp mem
  obtain ⟨index, _, rfl⟩ := List.mem_map.mp taken
  cases hgroup : groupText? text.toList notes index with
  | none =>
    rw [hgroup] at hc
    cases hc
  | some group =>
    rw [hgroup] at hc
    exact mem_groupText? hgroup hc

/-! ## Compiling -/

/-- Compiling a pattern is reading it and settling its flags, with no step besides. The proofs about
particular patterns begin here. -/
theorem compile_eq_ok_iff {source : String} {p : Pattern} :
    compile source = .ok p ↔
      ∃ tree r m, Syntax.parse source = .ok tree ∧ tree.toTerm {} = .ok (r, m) ∧ p = ofTerm r := by
  unfold compile
  rw [bind_eq_ok_iff]
  constructor
  · rintro ⟨tree, hparse, h⟩
    obtain ⟨⟨r, m⟩, hterm, heq⟩ := bind_eq_ok_iff.mp h
    cases heq
    exact ⟨tree, r, m, hparse, hterm, rfl⟩
  · rintro ⟨tree, r, m, hparse, hterm, rfl⟩
    exact ⟨tree, hparse, bind_eq_ok_iff.mpr ⟨(r, m), hterm, rfl⟩⟩

/-- Whether a pattern compiles can be told from its characters, token by token. Stated for a list of
characters, so that escapes and splices can be followed on lists. -/
theorem exists_compile_iff {source : String} {cs : List Char} (h : source.toList = cs) :
    (∃ p, compile source = .ok p) ↔ ∃ out : Term × Mode,
      (do (← Syntax.ofTokens (← Token.scan cs)).toTerm {}) = (.ok out : Except Fault _) := by
  subst h
  constructor
  · rintro ⟨p, hp⟩
    obtain ⟨tree, r, m, hparse, hterm, _⟩ := compile_eq_ok_iff.mp hp
    obtain ⟨ts, hts, htree⟩ := bind_eq_ok_iff.mp hparse
    exact ⟨(r, m), bind_eq_ok_iff.mpr ⟨ts, hts, bind_eq_ok_iff.mpr ⟨tree, htree, hterm⟩⟩⟩
  · rintro ⟨⟨r, m⟩, h⟩
    obtain ⟨ts, hts, h⟩ := bind_eq_ok_iff.mp h
    obtain ⟨tree, htree, hterm⟩ := bind_eq_ok_iff.mp h
    exact ⟨ofTerm r, compile_eq_ok_iff.mpr
      ⟨tree, r, m, bind_eq_ok_iff.mpr ⟨ts, hts, htree⟩, hterm, rfl⟩⟩

/-- The expression of a pattern that compiles. -/
def expression (source : String) : Except Fault Term := do
  let tree ← Syntax.parse source
  let (r, _) ← tree.toTerm {}
  return r

/-- The expression of a pattern is there exactly if the pattern is read and its flags are
settled. -/
theorem expression_eq_ok_iff {source : String} {r : Term} :
    expression source = .ok r ↔
      ∃ tree m, Syntax.parse source = .ok tree ∧ tree.toTerm {} = .ok (r, m) := by
  unfold expression
  rw [bind_eq_ok_iff]
  constructor
  · rintro ⟨tree, hparse, h⟩
    obtain ⟨⟨r, m⟩, hterm, heq⟩ := bind_eq_ok_iff.mp h
    cases heq
    exact ⟨tree, m, hparse, hterm⟩
  · rintro ⟨tree, m, hparse, hterm⟩
    exact ⟨tree, hparse, bind_eq_ok_iff.mpr ⟨(r, m), hterm, rfl⟩⟩

/-- A pattern that compiles is that of its expression. -/
theorem compile_eq_ok_iff_expression {source : String} {p : Pattern} :
    compile source = .ok p ↔ ∃ r, expression source = .ok r ∧ p = ofTerm r := by
  rw [compile_eq_ok_iff]
  constructor
  · rintro ⟨tree, r, m, hparse, hterm, rfl⟩
    exact ⟨r, expression_eq_ok_iff.mpr ⟨tree, m, hparse, hterm⟩, rfl⟩
  · rintro ⟨r, hr, rfl⟩
    obtain ⟨tree, m, hparse, hterm⟩ := expression_eq_ok_iff.mp hr
    exact ⟨tree, r, m, hparse, hterm, rfl⟩

end Pattern

/-! ## Sets -/

namespace PatternSet

/-- A set is compiled exactly if each of its patterns is, and then holds them in the same order. -/
theorem compile_eq_ok_iff {sources : List String} {s : PatternSet} :
    compile sources = .ok s ↔
      List.Forall₂ (fun source p => Pattern.compile source = .ok p) sources s.patterns := by
  rw [← mapM_eq_ok_iff, compile, bind_eq_ok_iff]
  constructor
  · rintro ⟨patterns, h, heq⟩
    cases heq
    exact h
  · intro h
    exact ⟨s.patterns, h, rfl⟩

/-- The place of the first pattern that matches a text. -/
theorem head?_hits (s : PatternSet) (text : String) :
    (s.hits text).head? = s.patterns.findIdx? (·.isMatch text) := by
  rw [hits, List.head?_filterMap, List.findIdx?_eq_findSome?_zipIdx]

end PatternSet

end TokenClassifier.Regex
