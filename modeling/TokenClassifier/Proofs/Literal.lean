import TokenClassifier.Proofs.Forms

/-!
# Texts that stand for themselves

Constant templates and the ends found in a stream are put into the end table as escaped texts. An
escaped text is read back as the row of its characters, with the anchors around it and nothing that
takes a part of it for itself: no group, no repetition, no alternative. So it is found in the text
itself, as a whole, and in no other text (`Regex.Pattern.captures?_escape`).

Rules whose endings are all of this kind need no patterns to be understood: the end table is then
a list of texts, and a token closes the form of the first rule that has it among them
(`escaped_stands_for_itself`).
-/

namespace TokenClassifier

namespace Regex.Pattern

open Template

/-- An expression without groups has the match as a whole for its only group. -/
theorem groupCount_eq_one {r : Term} (none : r.groups = []) : r.groupCount = 1 := by
  have most : ¬ 1 < r.groupCount := by
    rw [lt_groupCount_iff, none]
    simp
  have := groupCount_pos r
  omega

/-- What an escaped text compiles to has no groups, since it is a row of characters between the
anchors. -/
theorem compile_escape {s : String} {pattern : Pattern}
    (compiled : compile (anchor (escape s)) = .ok pattern) :
    ∃ r : Term, r.groups = [] ∧ pattern = ofTerm r.anchored := by
  have alone := readsAlone_splice readsAlone_nil [.literal s.toList]
  rw [← toList_escape] at alone
  obtain ⟨d, took, means⟩ := compile_anchor alone compiled
  rw [spliceTokens, spliceTokens, List.append_nil, Draft.foldlM_ofChar] at took
  cases took
  obtain ⟨r, m, hr, _, rfl⟩ := means rfl
  refine ⟨r, List.eq_nil_iff_forall_not_mem.mpr fun k hk => ?_, rfl⟩
  have row : k ∈ (Syntax.sequence (s.toList.map .ofChar)).groups := by
    simpa [Branches.toSyntax, Branches.bar, Draft.anchored, Branches.empty, Syntax.alternation]
      using Syntax.groups_toTerm _ hr k hk
  obtain ⟨part, written, here⟩ := Syntax.mem_groups_sequence.mp row
  obtain ⟨c, _, rfl⟩ := List.mem_map.mp written
  cases here

/-- An escaped text is found in itself, as a whole, and in no other text. -/
theorem captures?_escape {s : String} {pattern : Pattern}
    (compiled : compile (anchor (escape s)) = .ok pattern) (text : String) :
    pattern.captures? text = if text = s then some [text] else none := by
  have hit : (pattern.captures? text).isSome = true ↔ text = s := isMatch_escape compiled
  split
  next same =>
    obtain ⟨groups, captured⟩ := Option.isSome_iff_exists.mp (hit.mpr same)
    obtain ⟨r, none, rfl⟩ := compile_escape compiled
    have whole := head?_captures?_anchored (by simp [none]) captured
    have one : groups.length = 1 := by
      obtain ⟨found, hfound, rfl⟩ := Option.map_eq_some_iff.mp captured
      rw [List.length_map, length_find?_ofTerm hfound]
      exact groupCount_eq_one (by simpa [Term.anchored, Term.groups] using none)
    obtain ⟨group, rfl⟩ := List.length_eq_one_iff.mp one
    obtain rfl := Option.some.inj whole
    exact captured
  next other =>
    rw [← Option.not_isSome_iff_eq_none, hit]
    exact other

end Regex.Pattern

namespace Forms

open Regex

variable {α : Type}

/-- The table of one escaped text finds this text, with itself for the only group, and nothing
else. -/
theorem exists_build_escape (s : String) (value : α) (origin : Origin) :
    ∃ t, PatternTable.build [⟨escape s, value, origin⟩] = .ok t ∧
      ∀ token, t.lookup? token = if token = s then some (value, [token]) else none := by
  obtain ⟨p, hp⟩ := Pattern.exists_compile_escape s
  have compiles : ∀ e ∈ [Entry.mk (escape s) value origin], Compiles e.pattern := by
    rw [List.forall_mem_singleton]
    exact ⟨p, hp⟩
  obtain ⟨t, ht⟩ := PatternTable.exists_build_iff.mpr compiles
  refine ⟨t, ht, fun token => ?_⟩
  rw [PatternTable.lookup?_of_build ht, List.findSome?_singleton, tokenGroups?_of_compile hp,
    Pattern.captures?_escape hp]
  split <;> rfl

/-- A rule has no end pattern, and its templates refer to nothing. -/
structure Literal (rule : SurroundRule) : Prop where
  endless : rule.endPattern? = none
  constant : ∀ template ∈ rule.endings, ∀ index, ¬ Template.Refers template index

namespace Literal

variable {rule : SurroundRule}

/-- A template that refers to nothing is constant. -/
theorem shape (literal : Literal rule) {template : String} (mem : template ∈ rule.endings) :
    Template.shape template = .constant :=
  Template.shape_eq_constant_iff.mpr (literal.constant template mem)

/-- A rule whose templates refer to nothing is not deferred. Nothing is looked for in the stream on
its behalf. -/
theorem isDeferred (literal : Literal rule) : isDeferred rule = false := by
  rw [isDeferred_eq_false_iff]
  intro _ template mem
  rw [literal.shape mem]
  exact nofun

/-- What closes the forms of such a rule is what its templates are written for, whatever groups
there are. -/
theorem closes_iff (literal : Literal rule) {token : String} (groups : List String) :
    closes rule token = true ↔
      ∃ template ∈ rule.endings, Template.expand template groups = token := by
  rw [closes, literal.endless]
  simp only [List.any_eq_true]
  refine exists_congr fun template => and_congr_right fun mem => ?_
  have constant := literal.shape mem
  rw [templateMatches, constant, Template.expand_eq_of_constant constant groups []]
  exact beq_iff_eq.trans eq_comm

end Literal

/-- An escaped text builds a table that finds the text itself, as the only group, and nothing else.
For rules without end patterns whose templates refer to nothing, the tables can be made as soon as
the start patterns compile, and a token closes the forms of the first rule that has a template which
expands to it. The starts are patterns like any others: only what is escaped stands for itself. -/
theorem escaped_stands_for_itself :
    (∀ (s : String) (value : α) (origin : Origin), ∃ t,
      PatternTable.build [⟨escape s, value, origin⟩] = .ok t ∧
        ∀ token, t.lookup? token = if token = s then some (value, [token]) else none) ∧
    ∀ rules : List SurroundRule, (∀ rule ∈ rules, Literal rule) → ∀ tokens,
        ((∃ t, build rules tokens = .ok t) ↔
          ∀ rule ∈ rules, rule.start ≠ "" → Compiles rule.start) ∧
        ∀ t, build rules tokens = .ok t → ∀ groups token i, t.lookupEnd? token = some i ↔
          ∃ rule, FirstAt (fun rule => ∃ template ∈ rule.endings,
            Template.expand template groups = token) rules i rule := by
  refine ⟨exists_build_escape, fun rules literal tokens => ?_⟩
  constructor
  · rw [exists_build_iff_patterns]
    refine forall₂_congr fun rule mem => and_iff_left ?_
    refine ⟨fun stop h => ?_, fun _ template written h => ?_⟩
    · rw [(literal rule mem).endless] at h
      cases h
    · rw [(literal rule mem).shape written] at h
      cases h
  · intro t ht groups token i
    rw [lookupEnd?_of_build (fun rule mem => (literal rule mem).isDeferred) ht]
    exact findIdx?_eq_some_iff_firstAt fun rule mem => (literal rule mem).closes_iff groups

/-- Three rules of this kind, two of them with the same end token, in which nearly every character
means something in a pattern. -/
def literalRules : List SurroundRule :=
  [⟨"a+", none, ["b", "."]⟩, ⟨"\\(", some "", ["c", "[.*)|$$\n "]⟩, ⟨"", none, ["[.*)|$$\n "]⟩]

/-- A token in which nearly every character means something in a pattern leads to the first of the
two rules that have it for a template. -/
theorem escaped_stands_for_itself_metacharacters :
    ∃ t rule, build literalRules ["a", "("] = .ok t ∧ t.lookupEnd? "[.*)|$\n " = some 1 ∧
      FirstAt (fun rule => ∃ template ∈ rule.endings,
        Template.expand template [] = "[.*)|$\n ") literalRules 1 rule := by
  obtain ⟨t, ht, hit⟩ := @exists_of_built? literalRules ["a", "("]
    (fun t => t.lookupEnd? "[.*)|$\n " == some 1) (by decide +kernel)
  have constant : ∀ rule ∈ literalRules, rule.endPattern? = none ∧
      ∀ template ∈ rule.endings, Template.shape template = .constant := by decide +kernel
  have literal : ∀ rule ∈ literalRules, Literal rule := fun rule mem =>
    ⟨(constant rule mem).1, fun template written =>
      Template.shape_eq_constant_iff.mp ((constant rule mem).2 template written)⟩
  obtain ⟨_, answers⟩ := (@escaped_stands_for_itself Nat).2 literalRules literal ["a", "("]
  obtain ⟨rule, first⟩ := (answers t ht [] _ 1).mp (beq_iff_eq.mp hit)
  exact ⟨t, rule, ht, beq_iff_eq.mp hit, first⟩

end Forms

end TokenClassifier
