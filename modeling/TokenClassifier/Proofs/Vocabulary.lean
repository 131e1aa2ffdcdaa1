import Mathlib.Algebra.GroupWithZero.Nat
import TokenClassifier.Proofs.Forms

/-!
# The vocabulary of ends

Which tokens the table of ends recognises, for rules that need not have passed any check. A rule
with an end pattern has the tokens that the pattern matches. A rule without one has the tokens that
its templates stand for, as far as this can be told without the stream. If one of its templates
refers to a capture, the rule is deferred, and it has in addition all that its templates expand to
for the tokens of the stream that open its forms. This is the whole vocabulary (`end_vocabulary`).

Which rule a token leads to is another matter. What is found in the stream is asked for after the
ends that rules have by themselves, and in the order of the stream. So a token leads to the first of
the rules that have it for an end, unless it was found for a deferred rule that stands before
(`lookupEnd?_least_iff`).
-/

namespace TokenClassifier

open Template

/-! ## Ends of rules -/

/-- A rule whose ends depend on the stream: it has no end pattern, and one of its templates refers
to a capture. -/
def SurroundRule.Deferred (rule : SurroundRule) : Prop :=
  rule.endPattern? = none ∧ ∃ template ∈ rule.endings, RefersToCapture template

/-- The end pattern of a rule matches a token. -/
def SurroundRule.StopMatches (rule : SurroundRule) (token : String) : Prop :=
  ∃ stop, rule.endPattern? = some stop ∧ matchesToken stop token = true

/-- A template without references expands to a token, or the pattern that is made from a template
with references to the whole token only matches it. -/
def SurroundRule.StandsFor (rule : SurroundRule) (template token : String) : Prop :=
  (∀ index, ¬ Refers template index) ∧ expand template [] = token ∨
    Refers template 0 ∧ ¬ RefersToCapture template ∧
      matchesToken (Forms.wholeMatchPattern template rule.start) token = true

/-- A rule has no end pattern, and one of its templates stands for a token. -/
def SurroundRule.TemplateMatches (rule : SurroundRule) (token : String) : Prop :=
  rule.endPattern? = none ∧ ∃ template ∈ rule.endings, rule.StandsFor template token

/-- A token is found for the rule at an index: a token of the stream opens a form of the rule, the
rule is deferred, and one of its templates, of whatever kind, expands to the token. -/
def FoundAt (rules : List SurroundRule) (tokens : List String) (index : Nat) (e : String) : Prop :=
  ∃ token ∈ tokens, ∃ rule groups, Forms.opening? rules token = some (index, rule, groups) ∧
    rule.Deferred ∧ ∃ template ∈ rule.endings, expand template groups = e

/-- A token is an end of the rule at an index. -/
def HasEnd (rules : List SurroundRule) (tokens : List String) (index : Nat) (e : String) : Prop :=
  (∃ rule, rules[index]? = some rule ∧ (rule.StopMatches e ∨ rule.TemplateMatches e)) ∨
    FoundAt rules tokens index e

/-! ## Reading the definitions of the tables -/

/-- Whether a rule is deferred can be computed. -/
theorem SurroundRule.deferred_iff {rule : SurroundRule} :
    rule.Deferred ↔ Forms.isDeferred rule = true := by
  simp only [Deferred, Forms.isDeferred, Bool.and_eq_true, Option.isNone_iff_eq_none,
    List.any_eq_true, hasCapture_iff]

/-- Whether a template of a rule stands for a token can be computed. The start of the rule enters
only where the template refers to the token. -/
theorem SurroundRule.standsFor_iff {rule : SurroundRule} {template token : String} :
    rule.StandsFor template token ↔ Forms.templateMatches rule token template = true := by
  unfold StandsFor Forms.templateMatches
  rw [← shape_eq_constant_iff, ← and_assoc, ← shape_eq_whole_iff]
  cases shape template with
  | constant =>
    simp only [true_and, reduceCtorEq, false_and, or_false, beq_iff_eq]
    exact eq_comm
  | whole => simp
  | captures => simp

/-- A rule closes a form with a token if its end pattern matches it or, without one, a template
stands for it. -/
theorem SurroundRule.closes_iff {rule : SurroundRule} {token : String} :
    rule.StopMatches token ∨ rule.TemplateMatches token ↔ Forms.closes rule token = true := by
  unfold StopMatches TemplateMatches Forms.closes
  cases rule.endPattern? with
  | some stop => simp
  | none => simp [standsFor_iff]

/-- What is found in a stream can be listed, with the rule that it is found for. -/
theorem foundAt_iff {rules : List SurroundRule} {tokens : List String} {index : Nat} {e : String} :
    FoundAt rules tokens index e ↔ (e, index) ∈ Forms.found rules tokens := by
  simp only [FoundAt, SurroundRule.deferred_iff, Forms.mem_found_iff]

/-- The different tokens that are found in a stream. -/
def foundTokens (rules : List SurroundRule) (tokens : List String) : List String :=
  ((Forms.found rules tokens).map Prod.fst).eraseDups

/-- The list of the tokens that are found has each of them. -/
theorem mem_foundTokens_iff {rules : List SurroundRule} {tokens : List String} {e : String} :
    e ∈ foundTokens rules tokens ↔ ∃ index, FoundAt rules tokens index e := by
  simp [foundTokens, List.mem_eraseDups, foundAt_iff]

/-- It has each of them once, so its length is a number of tokens. -/
theorem nodup_foundTokens (rules : List SurroundRule) (tokens : List String) :
    (foundTokens rules tokens).Nodup := by
  rw [foundTokens, ← OrderedSet.toList_ofList]
  exact OrderedSet.nodup _

/-! ## Counting -/

/-- The number of patterns that a rule has by itself. -/
def SurroundRule.endCount (rule : SurroundRule) : Nat :=
  if rule.endPattern?.isSome then 1
  else rule.endings.countP fun template => ¬ RefersToCapture template

/-- A template makes an entry exactly if it refers to no capture. -/
theorem isSome_entryOfTemplate? (rule : SurroundRule) (index j : Nat) (template : String) :
    (Forms.entryOfTemplate? rule index template j).isSome = decide (¬ RefersToCapture template) := by
  rw [Bool.eq_iff_iff, decide_eq_true_iff, ← shape_eq_captures_iff]
  unfold Forms.entryOfTemplate?
  cases shape template with
  | constant | whole => simp
  | captures => simp

/-- A rule makes as many entries as its ends are counted: one for its end pattern, or else one for
each template without captures. -/
theorem length_ruleEntries (rule : SurroundRule) (index : Nat) :
    (Forms.ruleEntries rule index).length = rule.endCount := by
  unfold Forms.ruleEntries Forms.entryOfEnd? SurroundRule.endCount
  cases rule.endPattern? with
  | some stop => rfl
  | none =>
    dsimp only [Option.map_none]
    rw [List.length_filterMap_eq_countP]
    simp only [isSome_entryOfTemplate?]
    exact countP_zipIdx (fun template => decide (¬ RefersToCapture template)) rule.endings

/-- The patterns that the rules have by themselves are as many as their ends are counted
together. -/
theorem length_declaredEntries (rules : List SurroundRule) :
    (Forms.declaredEntries rules).length = (rules.map SurroundRule.endCount).sum := by
  rw [Forms.declaredEntries, List.length_flatMap]
  simp only [length_ruleEntries]
  rw [map_zipIdx]

/-- They are one for each rule with an end pattern, and for each other rule its templates without
references to captures. -/
theorem sum_endCount (rules : List SurroundRule) :
    (rules.map SurroundRule.endCount).sum =
      (rules.countP fun rule => rule.endPattern?.isSome) +
        ((rules.filter fun rule => rule.endPattern?.isNone).map fun rule =>
          rule.endings.countP fun template => ¬ RefersToCapture template).sum := by
  induction rules with
  | nil => rfl
  | cons rule rules ih =>
    rw [List.map_cons, List.sum_cons, ih, List.countP_cons, List.filter_cons]
    unfold SurroundRule.endCount
    cases rule.endPattern? with
    | some stop =>
      simp only [Option.isSome_some, Option.isNone_some, if_true, Bool.false_eq_true, if_false]
      omega
    | none =>
      simp only [Option.isSome_none, Option.isNone_none, if_true, Bool.false_eq_true, if_false,
        List.map_cons, List.sum_cons]
      omega

/-! ## The vocabulary -/

variable {rules : List SurroundRule} {tokens : List String} {t : FormTables}

/-- The tokens that are recognised as an end are those that an end pattern of a rule matches, those
that a template of a rule without one stands for, and those that are found in the stream. There are
as many patterns for them as there are rules of the first kind, templates of rules of the second
kind that do not refer to captures, and different tokens that are found. The three kinds may
overlap, but each token is counted once in the third. -/
theorem end_vocabulary (h : Forms.build rules tokens = .ok t) :
    (∀ e, (t.lookupEnd? e).isSome = true ↔
      (∃ rule ∈ rules, rule.StopMatches e) ∨ (∃ rule ∈ rules, rule.TemplateMatches e) ∨
        ∃ index, FoundAt rules tokens index e) ∧
    ∃ found : List String, found.Nodup ∧
      (∀ e, e ∈ found ↔ ∃ index, FoundAt rules tokens index e) ∧
      t.endPatternCount = (rules.countP fun rule => rule.endPattern?.isSome) +
        ((rules.filter fun rule => rule.endPattern?.isNone).map fun rule =>
          rule.endings.countP fun template => ¬ RefersToCapture template).sum + found.length := by
  constructor
  · intro e
    rw [Forms.lookupEnd?_eq h, Option.isSome_or, Bool.or_eq_true, List.findIdx?_isSome,
      List.any_eq_true, List.lookup_isSome_iff, ← or_assoc]
    refine or_congr ?_ ?_
    · simp only [← SurroundRule.closes_iff]
      constructor
      · rintro ⟨rule, mem, stops | templates⟩
        · exact .inl ⟨rule, mem, stops⟩
        · exact .inr ⟨rule, mem, templates⟩
      · rintro (⟨rule, mem, stops⟩ | ⟨rule, mem, templates⟩)
        · exact ⟨rule, mem, .inl stops⟩
        · exact ⟨rule, mem, .inr templates⟩
    · simp [foundAt_iff]
  · refine ⟨foundTokens rules tokens, nodup_foundTokens rules tokens,
      fun e => mem_foundTokens_iff, ?_⟩
    rw [Forms.endPatternCount_eq h, length_declaredEntries, sum_endCount, foundTokens]

/-- A deferred rule before a rule of the same vocabulary, and a rule with an end pattern. -/
def closeRules : List SurroundRule :=
  [{ start := "open_(.*)", endings := ["close_$1", "done", "no$0"] },
    { start := "begin", endings := ["close_b", "end$0"] },
    { start := "do", stop := some "o?d" }]

/-- Among these rules there is each of the three kinds: a token that an end pattern matches, one
that a template stands for, and one that is found. -/
theorem end_vocabulary_closeRules :
    ∃ t, Forms.build closeRules ["open_a", "open_b", "open_a"] = .ok t ∧
      (t.lookupEnd? "close_a").isSome = true ∧ (t.lookupEnd? "noopen_c").isSome = true ∧
      (t.lookupEnd? "d").isSome = true ∧ t.endPatternCount = 10 := by
  obtain ⟨t, h, _⟩ := @Forms.exists_of_built? closeRules ["open_a", "open_b", "open_a"]
    (fun _ => true) (by decide +kernel)
  obtain ⟨recognised, found, nodup, members, count⟩ := end_vocabulary h
  have closeA : FoundAt closeRules ["open_a", "open_b", "open_a"] 0 "close_a" :=
    foundAt_iff.mpr (by decide +kernel)
  have noOpen : closeRules[0].TemplateMatches "noopen_c" :=
    ⟨by decide, "no$0", by decide, SurroundRule.standsFor_iff.mpr (by decide +kernel)⟩
  have done : closeRules[2].StopMatches "d" := ⟨"o?d", by decide, by decide +kernel⟩
  have same : found.Perm (foundTokens closeRules ["open_a", "open_b", "open_a"]) := by
    refine (List.perm_ext_iff_of_nodup nodup (nodup_foundTokens _ _)).mpr fun e => ?_
    rw [members, mem_foundTokens_iff]
  refine ⟨t, h, (recognised _).mpr (.inr (.inr ⟨0, closeA⟩)),
    (recognised _).mpr (.inr (.inl ⟨_, by decide, noOpen⟩)),
    (recognised _).mpr (.inl ⟨_, by decide, done⟩), ?_⟩
  rw [count, same.length_eq]
  decide +kernel

/-! ## Priority -/

/-- Before the rule that a token leads to, the token is an end of those rules only for which it is
found in the stream. An end that a rule has by itself is registered in the order of the rules, and
would have been the one that is found. -/
theorem hasEnd_iff_foundAt (h : Forms.build rules tokens = .ok t) {e : String} {index : Nat}
    (leads : t.lookupEnd? e = some index) {j : Nat} (before : j < index) :
    HasEnd rules tokens j e ↔ FoundAt rules tokens j e := by
  refine or_iff_right ?_
  rintro ⟨rule, at', closed⟩
  rw [SurroundRule.closes_iff] at closed
  obtain ⟨i, le, first⟩ :=
    exists_findIdx?_le (p := fun rule => Forms.closes rule e) at' closed
  rw [Forms.lookupEnd?_eq h, first] at leads
  obtain rfl := Option.some.inj leads
  omega

/-- A token that leads to a rule is an end of this rule. -/
theorem hasEnd_of_lookupEnd? (h : Forms.build rules tokens = .ok t) {e : String} {index : Nat}
    (leads : t.lookupEnd? e = some index) : HasEnd rules tokens index e := by
  rw [Forms.lookupEnd?_eq h, Option.or_eq_some_iff] at leads
  rcases leads with first | ⟨_, later⟩
  · obtain ⟨lt, closed, _⟩ := List.findIdx?_eq_some_iff_getElem.mp first
    exact .inl ⟨_, List.getElem?_eq_getElem lt, SurroundRule.closes_iff.mpr closed⟩
  · exact .inr (foundAt_iff.mpr (mem_of_lookup_eq_some later))

/-- A token that leads to a rule is an end of it. It leads to the first rule that has it for an end,
unless it was found in the stream for a rule before, as can happen only where rules are deferred. In
records that have passed their check there are none. -/
theorem lookupEnd?_least_iff (h : Forms.build rules tokens = .ok t) {e : String} {index : Nat}
    (leads : t.lookupEnd? e = some index) :
    HasEnd rules tokens index e ∧
    ((∀ j < index, ¬ HasEnd rules tokens j e) ↔ ∀ j < index, ¬ FoundAt rules tokens j e) ∧
    ((∀ rule ∈ rules, ¬ rule.Deferred) → ∀ j < index, ¬ HasEnd rules tokens j e) := by
  have same : (∀ j < index, ¬ HasEnd rules tokens j e) ↔
      ∀ j < index, ¬ FoundAt rules tokens j e :=
    forall₂_congr fun j before => not_congr (hasEnd_iff_foundAt h leads before)
  refine ⟨hasEnd_of_lookupEnd? h leads, same, fun declared => same.mpr fun j _ found => ?_⟩
  obtain ⟨_, _, rule, _, ho, deferred, _⟩ := found
  exact declared rule (List.mem_of_getElem? (Forms.getElem?_of_opening? ho).1) deferred

/-- Here the token leads to the second rule, and the first does not have it for an end. -/
theorem lookupEnd?_least_iff_closeRules :
    ∃ t, Forms.build closeRules ["open_a", "open_b"] = .ok t ∧ t.lookupEnd? "endbegin" = some 1 ∧
      HasEnd closeRules ["open_a", "open_b"] 1 "endbegin" ∧
      ∀ j < 1, ¬ HasEnd closeRules ["open_a", "open_b"] j "endbegin" := by
  obtain ⟨t, h, leads⟩ := @Forms.exists_of_built? closeRules ["open_a", "open_b"]
    (fun t => t.lookupEnd? "endbegin" == some 1) (by decide +kernel)
  rw [beq_iff_eq] at leads
  obtain ⟨hasEnd, least, _⟩ := lookupEnd?_least_iff h leads
  refine ⟨t, h, leads, hasEnd, least.mpr fun j before => ?_⟩
  obtain rfl := Nat.lt_one_iff.mp before
  rw [foundAt_iff]
  decide +kernel

/-- A token that leads to the second rule, and is found for the first. -/
theorem exists_lookupEnd?_not_least {e : String}
    (h : ((Forms.built? rules tokens).any fun t => t.lookupEnd? e == some 1 &&
      (Forms.found rules tokens).contains (e, 0)) = true) :
    ∃ t, Forms.build rules tokens = .ok t ∧ t.lookupEnd? e = some 1 ∧ HasEnd rules tokens 0 e := by
  obtain ⟨t, h, holds⟩ := Forms.exists_of_built? _ h
  rw [Bool.and_eq_true, beq_iff_eq, List.contains_iff_mem] at holds
  exact ⟨t, h, holds.1, .inr (foundAt_iff.mpr holds.2)⟩

/-- A token can lead to a rule although a rule before it has it for an end: what the later rule has
by itself goes before what is found in the stream, and among what is found the order of the stream
decides. There is a pair of rules for each of the two reasons. -/
theorem lookupEnd?_not_least :
    (∃ t, Forms.build [{ start := "a(b)", endings := ["e$1"] }, { start := "x", endings := ["eb"] }]
        ["ab"] = .ok t ∧ t.lookupEnd? "eb" = some 1 ∧
      HasEnd [{ start := "a(b)", endings := ["e$1"] }, { start := "x", endings := ["eb"] }] ["ab"]
        0 "eb") ∧
    ∃ t, Forms.build
        [{ start := "a(.)", endings := ["e$1"] }, { start := "b(.)", endings := ["e$1"] }]
        ["bx", "ax"] = .ok t ∧ t.lookupEnd? "ex" = some 1 ∧
      HasEnd [{ start := "a(.)", endings := ["e$1"] }, { start := "b(.)", endings := ["e$1"] }]
        ["bx", "ax"] 0 "ex" := by
  constructor
  · exact exists_lookupEnd?_not_least (by decide +kernel)
  · exact exists_lookupEnd?_not_least (by decide +kernel)

end TokenClassifier
