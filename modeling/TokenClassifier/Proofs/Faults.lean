import TokenClassifier.Proofs.Classification

/-!
# Which fault is reported

Rules can be at fault in many places at once, and one of the faults is reported. This module says
which.

A record is read in an order of its own: whether every surround rule says what closes its forms,
then the patterns of labels, prefixes and variables, category by category, then whether every
operator has a pattern, and last the operator patterns. `RuleSet.Fault` is the first thing that is
wrong with a record in this order, and compiling reports just that (`compile_reports_first_fault`).

Patterns of surround rules are looked at when the rules are bound, table by table, so not rule by
rule: the start patterns of all rules, then the end patterns from which rules learn, and then
what recognises the ends. `Forms.asked` lists them with their places. The first of them that does
not compile is reported, whatever the stream (`Forms.build_reports_first_fault`): what a
constant template or a token of the stream adds to a table is an escaped text, and that compiles.
-/

namespace TokenClassifier

/-- The fault of the first pattern that does not compile in a row of patterns with their places. -/
def FirstFault (asked : List (Origin × String)) (e : PatternError) : Prop :=
  ∃ k, FirstAt (fun x => ¬ Compiles x.2) asked k (e.origin, e.pattern) ∧
    Regex.Pattern.compile (anchor e.pattern) = .error e.fault

/-- Going through patterns until one does not compile finds the first fault among them. Both the
tables of surround rules and the lists of patterns are searched this way. -/
theorem findSome?_patternFault?_eq_some_iff {asked : List (Origin × String)} {e : PatternError} :
    (asked.findSome? fun x => patternFault? x.1 x.2) = some e ↔ FirstFault asked e := by
  have misses (x : Origin × String) (_ : Nat) :
      patternFault? x.1 x.2 = none ↔ ¬ ¬ Compiles x.2 := by
    rw [patternFault?_eq_none_iff, not_not]
  rw [← findSome?_zipIdx, findSome?_zipIdx_eq_some_iff misses]
  constructor
  · rintro ⟨k, ⟨origin, pattern⟩, first, wrong⟩
    obtain ⟨fault, refused, rfl⟩ := patternFault?_eq_some_iff.mp wrong
    exact ⟨k, first, refused⟩
  · rintro ⟨k, first, refused⟩
    exact ⟨k, _, first, patternFault?_eq_some_iff.mpr ⟨e.fault, refused, rfl⟩⟩

/-! ## Patterns of surround rules -/

namespace Forms

/-- The pattern at a place of the surround rules: a start pattern or an end pattern as it is
written, or the pattern that is made from a template which refers to the token and to no capture.
There is none for an empty text, and none for a template beside an end pattern. -/
def patternAt? (rules : List SurroundRule) : Origin → Option String
  | .item .. | .table => none
  | .start i => do
    let rule ← rules[i]?
    if rule.start = "" then none else rule.start
  | .stop i => do
    let rule ← rules[i]?
    rule.endPattern?
  | .ending i j => do
    let rule ← rules[i]?
    let template ← rule.endings[j]?
    if rule.endPattern? = none ∧ Template.Refers template 0 ∧
        ¬ Template.RefersToCapture template then
      wholeMatchPattern template rule.start
    else none

/-- The places of the surround rules in the order in which their patterns are compiled. The end of a
rule without templates comes twice: the rule learns from it, and it recognises ends. -/
def places (rules : List SurroundRule) : List Origin :=
  let indices := List.range rules.length
  let templates (i : Nat) := rules[i]?.elim [] SurroundRule.endings
  indices.map .start ++ (indices.filter fun i => templates i = []).map .stop ++
    indices.flatMap fun i => .stop i :: (List.range (templates i).length).map (.ending i)

/-- The patterns of the surround rules in the order in which they are compiled, each with its
place. -/
def asked (rules : List SurroundRule) : List (Origin × String) :=
  (places rules).filterMap fun place => (patternAt? rules place).map fun pattern => (place, pattern)

variable {rules : List SurroundRule} {index : Nat} {rule : SurroundRule}

/-- What is wrong with the pattern at a place. -/
def faultAt? (rules : List SurroundRule) (place : Origin) : Option PatternError :=
  (patternAt? rules place).bind (patternFault? place)

/-- The first fault among the patterns that are compiled is the first among the places where
patterns can stand. A place without a pattern has no fault. -/
theorem findSome?_asked (rules : List SurroundRule) :
    ((asked rules).findSome? fun x => patternFault? x.1 x.2) =
      (places rules).findSome? (faultAt? rules) := by
  rw [asked, findSome?_filterMap]
  refine findSome?_congr fun place _ => ?_
  rw [Option.bind_map]
  rfl

/-- To go through the indices is to go through the rules. It lets the places, which name rules by
their indices, be compared with the entries, which are made from the rules. -/
theorem findSome?_indices {α β : Type} (f : Nat → Option β) (g : α → Nat → Option β) (xs : List α)
    (h : ∀ i a, xs[i]? = some a → f i = g a i) :
    (List.range xs.length).findSome? f = xs.zipIdx.findSome? fun x => g x.1 x.2 := by
  have seconds : xs.zipIdx.map Prod.snd = List.range xs.length := by
    rw [List.zipIdx_map_snd, List.range_eq_range']
  rw [← seconds, List.findSome?_map]
  refine findSome?_congr fun x mem => ?_
  exact h x.2 x.1 (List.mem_zipIdx_iff_getElem?.mp mem)

/-- At the place of a start, what can be wrong is what is wrong with the entry of the start, if the
rule has one. -/
theorem faultAt?_start (at' : rules[index]? = some rule) :
    faultAt? rules (.start index) =
      (entryOfStart? rule index).bind fun e => patternFault? e.origin e.pattern := by
  simp only [faultAt?, patternAt?, at', entryOfStart?, String.isEmpty_iff, Option.bind_eq_bind,
    Option.bind_some]
  split <;> rfl

/-- At the place of an end, it is what is wrong with the entry of the end pattern, if the rule has
one. -/
theorem faultAt?_stop (at' : rules[index]? = some rule) :
    faultAt? rules (.stop index) =
      (entryOfEnd? rule index).bind fun e => patternFault? e.origin e.pattern := by
  simp only [faultAt?, patternAt?, at', entryOfEnd?, Option.bind_eq_bind, Option.bind_some]
  cases rule.endPattern? <;> rfl

/-- A template stands for a pattern only in a rule without an end pattern. -/
theorem faultAt?_ending_of_stop {stop : String} (at' : rules[index]? = some rule)
    (h : rule.endPattern? = some stop) (j : Nat) : faultAt? rules (.ending index j) = none := by
  simp only [faultAt?, patternAt?, at', h, Option.bind_eq_bind, Option.bind_some]
  cases rule.endings[j]? <;> rfl

/-- There it is to blame if it refers to the token and to no capture. A constant template is written
out as an escaped text, which compiles, and one that refers to a capture waits for the stream. -/
theorem faultAt?_ending {j : Nat} {template : String} (at' : rules[index]? = some rule)
    (h : rule.endPattern? = none) (written : rule.endings[j]? = some template) :
    faultAt? rules (.ending index j) =
      (entryOfTemplate? rule index template j).bind fun e => patternFault? e.origin e.pattern := by
  have escaped : patternFault? (.ending index j) (Regex.escape (Template.expand template [])) =
      none := patternFault?_eq_none_iff.mpr (Regex.Pattern.exists_compile_escape _)
  simp only [faultAt?, patternAt?, at', h, written, entryOfTemplate?, ← Template.shape_eq_whole_iff,
    Option.bind_eq_bind, Option.bind_some, true_and]
  cases Template.shape template with
  | constant => simp only [reduceCtorEq, if_false, Option.bind_none, Option.bind_some, escaped]
  | whole => rfl
  | captures => rfl

/-- What is wrong with the entries of a rule that can be told without the stream: its end pattern
comes first, then its templates in their order. At most one of the two kinds has entries. -/
theorem findSome?_ruleEntries (at' : rules[index]? = some rule) :
    ((ruleEntries rule index).findSome? fun e => patternFault? e.origin e.pattern) =
      (Origin.stop index :: (List.range rule.endings.length).map (.ending index)).findSome?
        (faultAt? rules) := by
  rw [findSome?_cons_or, faultAt?_stop at', ruleEntries, List.findSome?_map]
  unfold entryOfEnd?
  cases hp : rule.endPattern? with
  | some stop =>
    have none :
        (List.range rule.endings.length).findSome? (faultAt? rules ∘ .ending index) = none :=
      List.findSome?_eq_none_iff.mpr fun j _ => faultAt?_ending_of_stop at' hp j
    simp only [none, Option.map_some, Option.bind_some, findSome?_cons_or, List.findSome?_nil]
  | none =>
    rw [Option.map_none, Option.bind_none, Option.none_or, findSome?_filterMap]
    exact (findSome?_indices _ (fun template j =>
      (entryOfTemplate? rule index template j).bind fun e => patternFault? e.origin e.pattern)
      rule.endings fun j template written => faultAt?_ending at' hp written).symm

/-- The first fault among the places is the first among the entries of the three tables. This is
where the order of `places`, with the ends of some rules twice, is seen to be the order of
compiling. -/
theorem findSome?_places (rules : List SurroundRule) :
    (places rules).findSome? (faultAt? rules) =
      (startEntries rules ++ inferenceEntries rules ++ declaredEntries rules).findSome? fun e =>
        patternFault? e.origin e.pattern := by
  let fault? (e : Entry Nat) := patternFault? e.origin e.pattern
  rw [places, List.findSome?_append, List.findSome?_append, List.findSome?_append,
    List.findSome?_append]
  congr 1
  · congr 1
    · rw [List.findSome?_map, startEntries, findSome?_filterMap]
      exact findSome?_indices _ (fun rule i => (entryOfStart? rule i).bind fault?) rules
        fun i rule at' => faultAt?_start at'
    · rw [List.findSome?_map, ← List.filterMap_eq_filter, findSome?_filterMap, inferenceEntries,
        findSome?_filterMap]
      refine findSome?_indices _ (fun rule i =>
        (if rule.endings.isEmpty then entryOfEnd? rule i else none).bind fault?) rules
        fun i rule at' => ?_
      simp only [at', Option.elim_some, Option.guard, List.isEmpty_iff, decide_eq_true_eq]
      split
      next => exact faultAt?_stop at'
      next => rfl
  · rw [findSome?_flatMap, declaredEntries, findSome?_flatMap]
    refine findSome?_indices _ (fun rule i => (ruleEntries rule i).findSome? fault?) rules
      fun i rule at' => ?_
    simp only [at', Option.elim_some]
    exact (findSome?_ruleEntries at').symm

/-- The tables can be made for a stream exactly if every pattern of the surround rules compiles, and
otherwise the fault of the first that does not is reported, with its place. The stream has no say in
either: all that it adds to the tables are escaped texts, which come last and compile. -/
theorem build_reports_first_fault (rules : List SurroundRule) (tokens : List String) :
    ((∃ t, build rules tokens = .ok t) ↔ ∀ x ∈ asked rules, Compiles x.2) ∧
      ∀ e, build rules tokens = .error e ↔ FirstFault (asked rules) e := by
  have fault : error? (build rules tokens) =
      (asked rules).findSome? fun x => patternFault? x.1 x.2 := by
    rw [error?_build, findSome?_asked, findSome?_places]
  constructor
  · rw [← error?_eq_none_iff, fault, List.findSome?_eq_none_iff]
    exact forall₂_congr fun _ _ => patternFault?_eq_none_iff
  · intro e
    rw [← error?_eq_some_iff, fault, findSome?_patternFault?_eq_some_iff]

/-- Two rules, each with a pattern that does not compile: the first in its end, and the second in
its start. -/
def brokenRules : List SurroundRule :=
  [{ start := "if", stop := some "(" }, { start := "[", endings := ["end$0"] }]

example : (asked brokenRules).map Prod.fst =
    [.start 0, .start 1, .stop 0, .stop 0, .ending 1 0] := by
  decide +kernel

-- All starts come before any end.
example (tokens : List String) :
    (error? (build brokenRules tokens)).map PatternError.origin = some (.start 1) := by
  rfl

end Forms

/-! ## Records -/

/-- A rule that does not say what closes its forms: it has no end pattern, and no templates either
or one that refers to a capture. -/
def SurroundRule.Endless (rule : SurroundRule) : Prop :=
  rule.endPattern? = none ∧
    (rule.endings = [] ∨ ∃ template ∈ rule.endings, Template.RefersToCapture template)

/-- A pattern of a list that does not compile. An empty one is not compiled. -/
def Broken (pattern : String) : Prop := pattern ≠ "" ∧ ¬ Compiles pattern

/-- The lists of a record that are nothing but patterns, in the order in which they are compiled. -/
def RuleSet.flagLists (rules : RuleSet) : List (String × List String) :=
  [("compound-label-regexp", rules.compoundLabels), ("simple-label-regexp", rules.simpleLabels),
    ("form-prefix-regexp", rules.formPrefixes), ("variable-regexp", rules.variableNames)]

/-- Every surround rule says what closes its forms. -/
def RuleSet.Ended (rules : RuleSet) : Prop := ∀ rule ∈ rules.surround, ¬ rule.Endless

/-- No pattern of any of the lists is broken. -/
def Unbroken (lists : List (String × List String)) : Prop :=
  ∀ list ∈ lists, ∀ pattern ∈ list.2, ¬ Broken pattern

/-- Every operator has a pattern. -/
def RuleSet.Named (rules : RuleSet) : Prop := ∀ operator ∈ rules.operators, operator.pattern ≠ ""

/-- A record in which nothing is wrong but for the patterns of surround rules, which are not looked
at before the rules are bound. -/
structure RuleSet.Sound (rules : RuleSet) : Prop where
  ended : rules.Ended
  unbroken : Unbroken rules.flagLists
  named : rules.Named
  operators : ∀ operator ∈ rules.operators, Compiles operator.pattern

/-- The first thing that is wrong with a record. -/
inductive RuleSet.Fault (rules : RuleSet) : CompileError → Prop
  | missingEnd {i : Nat} {rule : SurroundRule}
      (endless : FirstAt SurroundRule.Endless rules.surround i rule) (empty : rule.endings = []) :
      Fault rules (.rule (.missingEnd i))
  | captureWithoutEnd {i j : Nat} {rule : SurroundRule} {template : String}
      (endless : FirstAt SurroundRule.Endless rules.surround i rule)
      (captures : FirstAt Template.RefersToCapture rule.endings j template) :
      Fault rules (.rule (.captureWithoutEnd i j))
  | flag {before after : List (String × List String)} {name : String} {patterns : List String}
      {k : Nat} {pattern : String} {fault : Regex.Fault} (ended : rules.Ended)
      (lists : rules.flagLists = before ++ (name, patterns) :: after) (unbroken : Unbroken before)
      (broken : FirstAt Broken patterns k pattern)
      (refused : Regex.Pattern.compile (anchor pattern) = .error fault) :
      Fault rules (.pattern ⟨.item name k, pattern, fault⟩)
  | emptyOperator {k : Nat} {operator : OperatorRule} (ended : rules.Ended)
      (unbroken : Unbroken rules.flagLists)
      (empty : FirstAt (fun operator => operator.pattern = "") rules.operators k operator) :
      Fault rules (.rule (.emptyOperator k))
  | operator {k : Nat} {operator : OperatorRule} {fault : Regex.Fault} (ended : rules.Ended)
      (unbroken : Unbroken rules.flagLists) (named : rules.Named)
      (broken : FirstAt (fun operator => ¬ Compiles operator.pattern) rules.operators k operator)
      (refused : Regex.Pattern.compile (anchor operator.pattern) = .error fault) :
      Fault rules (.pattern ⟨.item "operator-regexp" k, operator.pattern, fault⟩)

/-- A category with a table of `n` patterns or, if `n` is zero, without a table. -/
def Fills {α : Type} (table : Option (PatternTable α)) (n : Nat) : Prop :=
  table.map PatternTable.size = if n = 0 then none else some n

/-! ### Surround rules -/

/-- A rule that does not say what closes its forms is one that is not declared. The one notion is
that of what is reported, the other that of what a check lets pass. -/
theorem SurroundRule.endless_iff {rule : SurroundRule} : rule.Endless ↔ ¬ rule.Declared := by
  unfold Endless Declared
  simp only [← Template.shape_eq_captures_iff, Classical.not_imp, not_and_or, ne_eq, not_not,
    not_forall]

/-- A rule passes its check exactly if it says what closes its forms, wherever it stands among the
rules. -/
theorem SurroundRule.error?_check_eq_none_iff {rule : SurroundRule} {index : Nat} :
    error? (rule.check index) = none ↔ ¬ rule.Endless := by
  rw [endless_iff, not_not, error?_eq_none_iff]
  constructor
  · rintro ⟨_, passed⟩
    exact check_eq_ok_iff.mp passed
  · intro declared
    exact ⟨(), check_eq_ok_iff.mpr declared⟩

/-- What is reported of a rule that does not say what closes its forms: that it has no templates, or
the first of its templates that refers to a capture. The index is that of the rule. -/
theorem SurroundRule.error?_check_eq_some_iff {rule : SurroundRule} {index : Nat} {e : RuleError} :
    error? (rule.check index) = some e ↔ rule.Endless ∧
      (rule.endings = [] ∧ e = .missingEnd index ∨
        ∃ j template, FirstAt Template.RefersToCapture rule.endings j template ∧
          e = .captureWithoutEnd index j) := by
  unfold check Endless
  cases hp : rule.endPattern? with
  | some stop => simp
  | none =>
    rw [if_neg (by simp)]
    by_cases empty : rule.endings = []
    · have none : ∀ j template, ¬ FirstAt Template.RefersToCapture [] j template :=
        fun j template first => nomatch first.here
      simp [empty, none, eq_comm]
    · rw [if_neg (by simpa using empty)]
      have captures (j : Nat) : rule.endings.findIdx? Template.hasCapture = some j ↔
          ∃ template, FirstAt Template.RefersToCapture rule.endings j template :=
        findIdx?_eq_some_iff_firstAt fun _ _ => Template.hasCapture_iff
      constructor
      · intro h
        split at h
        next j found =>
          obtain ⟨template, first⟩ := (captures j).mp found
          have written := List.mem_of_getElem? first.here
          refine ⟨⟨rfl, .inr ⟨template, written, first.holds⟩⟩, .inr ⟨j, template, first, ?_⟩⟩
          exact (Option.some.inj h).symm
        next => cases h
      · rintro ⟨_, ⟨none, _⟩ | ⟨j, template, first, rfl⟩⟩
        · exact absurd none empty
        · rw [(captures j).mpr ⟨template, first⟩]
          rfl

/-- Rules are checked one after the other, and the first one that does not pass is reported, with
its own index. By induction on the rules, for every index of the first one. -/
theorem SurroundRule.error?_checkAll (rules : List SurroundRule) (index : Nat) :
    error? (checkAll index rules) =
      (rules.zipIdx index).findSome? fun x => error? (x.1.check x.2) := by
  induction rules generalizing index with
  | nil => rfl
  | cons rule rules ih =>
    rw [checkAll, error?_bind fun _ _ => ih (index + 1), List.zipIdx_cons, findSome?_cons_or]

variable {rules : RuleSet}

/-- A record passes the check exactly if each of its surround rules says what closes its forms. -/
theorem RuleSet.error?_check_eq_none_iff :
    error? rules.check = none ↔ rules.Ended := by
  rw [check, SurroundRule.error?_checkAll, List.findSome?_eq_none_iff]
  exact forall_mem_zipIdx fun _ _ => SurroundRule.error?_check_eq_none_iff

/-- Of a record, the first rule that does not is reported, with what is wrong with it. -/
theorem RuleSet.error?_check_eq_some_iff {e : RuleError} :
    error? rules.check = some e ↔ ∃ i rule, FirstAt SurroundRule.Endless rules.surround i rule ∧
      (rule.endings = [] ∧ e = .missingEnd i ∨
        ∃ j template, FirstAt Template.RefersToCapture rule.endings j template ∧
          e = .captureWithoutEnd i j) := by
  have misses (rule : SurroundRule) (index : Nat) :
      error? (rule.check index) = none ↔ ¬ rule.Endless :=
    SurroundRule.error?_check_eq_none_iff
  rw [check, SurroundRule.error?_checkAll, findSome?_zipIdx_eq_some_iff misses]
  simp only [Nat.zero_add, SurroundRule.error?_check_eq_some_iff]
  refine exists₂_congr fun i rule => and_congr_right fun first => ?_
  exact and_iff_right first.holds

/-! ### Lists of patterns -/

variable {α : Type}

/-- What is wrong with a table is what is wrong with the first of its patterns that does not
compile. A category without patterns has no table, and nothing is wrong with it. -/
theorem error?_tableOf? (entries : List (Entry α)) :
    error? (tableOf? entries) = entries.findSome? fun e => patternFault? e.origin e.pattern := by
  rw [← PatternTable.error?_build, tableOf?]
  cases entries with
  | nil => rfl
  | cons e entries =>
    show error? ((PatternTable.build (e :: entries)).map some) = _
    cases PatternTable.build (e :: entries) <;> rfl

/-- What is wrong with a pattern of a list. -/
def flagFault? (list : String) (pattern : String) (k : Nat) : Option PatternError :=
  if pattern = "" then none else patternFault? (.item list k) pattern

/-- Nothing is wrong with a pattern of a list if it is not broken. An empty pattern is not compiled,
so it is not broken. -/
theorem flagFault?_eq_none_iff {list pattern : String} {k : Nat} :
    flagFault? list pattern k = none ↔ ¬ Broken pattern := by
  unfold flagFault? Broken
  split
  next empty => simp [empty]
  next some => simp [some, patternFault?_eq_none_iff]

/-- What is wrong with a list of patterns is what is wrong with the first one of them. Patterns are
counted with the empty ones, so the index that is reported is that in the list as it was written. -/
theorem error?_flags (list : String) (patterns : List String) :
    error? (tableOf? (flagEntries list patterns)) =
      patterns.zipIdx.findSome? fun x => flagFault? list x.1 x.2 := by
  rw [error?_tableOf?, flagEntries, findSome?_filterMap]
  apply findSome?_congr
  rintro ⟨pattern, k⟩ _
  simp only [flagFault?, String.isEmpty_iff]
  split <;> rfl

/-- A list of patterns makes a table, or none, exactly if no pattern of it is broken. -/
theorem error?_flags_eq_none_iff {list : String} {patterns : List String} :
    error? (tableOf? (flagEntries list patterns)) = none ↔
      ∀ pattern ∈ patterns, ¬ Broken pattern := by
  rw [error?_flags, List.findSome?_eq_none_iff]
  exact forall_mem_zipIdx fun _ _ => flagFault?_eq_none_iff

/-- Of a list with broken patterns, the first one is reported: its index, the pattern as it was
written, and why it does not compile between the anchors. -/
theorem error?_flags_eq_some_iff {list : String} {patterns : List String} {e : PatternError} :
    error? (tableOf? (flagEntries list patterns)) = some e ↔ ∃ k pattern fault,
      FirstAt Broken patterns k pattern ∧
        Regex.Pattern.compile (anchor pattern) = .error fault ∧
        e = ⟨.item list k, pattern, fault⟩ := by
  rw [error?_flags, findSome?_zipIdx_eq_some_iff fun _ _ => flagFault?_eq_none_iff]
  refine exists₂_congr fun k pattern => ?_
  rw [exists_and_left]
  refine and_congr_right fun first => ?_
  rw [flagFault?, if_neg first.holds.1, patternFault?_eq_some_iff, Nat.zero_add]

/-- What is wrong with the first list that has a broken pattern. -/
def RuleSet.flagFault? (rules : RuleSet) : Option PatternError :=
  rules.flagLists.findSome? fun list => error? (tableOf? (flagEntries list.1 list.2))

/-- Nothing is wrong with the lists exactly if no pattern of any of them is broken. -/
theorem RuleSet.flagFault?_eq_none_iff : rules.flagFault? = none ↔ Unbroken rules.flagLists := by
  rw [flagFault?, List.findSome?_eq_none_iff]
  exact forall₂_congr fun _ _ => error?_flags_eq_none_iff

/-- Of the lists, the first with a broken pattern is reported, and of that list its first broken
pattern. The lists before it are unbroken; those after it do not matter. -/
theorem RuleSet.flagFault?_eq_some_iff {e : PatternError} :
    rules.flagFault? = some e ↔ ∃ before name patterns after k pattern fault,
      rules.flagLists = before ++ (name, patterns) :: after ∧ Unbroken before ∧
        FirstAt Broken patterns k pattern ∧
        Regex.Pattern.compile (anchor pattern) = .error fault ∧
        e = ⟨.item name k, pattern, fault⟩ := by
  rw [flagFault?, List.findSome?_eq_some_iff]
  constructor
  · rintro ⟨before, ⟨name, patterns⟩, after, lists, wrong, missed⟩
    obtain ⟨k, pattern, fault, broken, refused, rfl⟩ := error?_flags_eq_some_iff.mp wrong
    exact ⟨before, name, patterns, after, k, pattern, fault, lists,
      fun list mem => error?_flags_eq_none_iff.mp (missed list mem), broken, refused, rfl⟩
  · rintro ⟨before, name, patterns, after, k, pattern, fault, lists, unbroken, broken, refused, rfl⟩
    exact ⟨before, (name, patterns), after, lists,
      error?_flags_eq_some_iff.mpr ⟨k, pattern, fault, broken, refused, rfl⟩,
      fun list mem => error?_flags_eq_none_iff.mpr (unbroken list mem)⟩

/-! ### Operators -/

/-- What is wrong with the operators before any of them is compiled is the first without a
pattern. -/
theorem error?_operatorEntries (rules : List OperatorRule) :
    error? (operatorEntries rules) =
      (rules.findIdx? fun rule => rule.pattern.isEmpty).map .emptyOperator := by
  unfold operatorEntries
  cases rules.findIdx? fun rule => rule.pattern.isEmpty <;> rfl

/-- Operators make entries exactly if every one of them has a pattern. -/
theorem error?_operatorEntries_eq_none_iff :
    error? (operatorEntries rules.operators) = none ↔ rules.Named := by
  rw [error?_operatorEntries, Option.map_eq_none_iff, List.findIdx?_eq_none_iff]
  simp [RuleSet.Named]

/-- Of the operators without a pattern, the index of the first is reported. -/
theorem error?_operatorEntries_eq_some_iff {e : RuleError} :
    error? (operatorEntries rules.operators) = some e ↔ ∃ k operator,
      FirstAt (fun operator => operator.pattern = "") rules.operators k operator ∧
        e = .emptyOperator k := by
  rw [error?_operatorEntries, Option.map_eq_some_iff]
  refine exists_congr fun k => ?_
  rw [findIdx?_eq_some_iff_firstAt fun _ _ => String.isEmpty_iff, exists_and_right]
  exact and_congr_right fun _ => eq_comm

/-- What is wrong with the first operator pattern that does not compile. -/
def RuleSet.operatorFault? (rules : RuleSet) : Option PatternError :=
  rules.operators.zipIdx.findSome? fun x => patternFault? (.item "operator-regexp" x.2) x.1.pattern

/-- What is wrong with the table of operators, once each has a pattern, is what is wrong with the
first pattern that does not compile. -/
theorem error?_operators {entries : List (Entry Precedence)}
    (h : operatorEntries rules.operators = .ok entries) :
    error? (tableOf? entries) = rules.operatorFault? := by
  unfold operatorEntries at h
  split at h
  next => cases h
  next =>
    obtain rfl := Except.ok.inj h
    rw [error?_tableOf?, List.findSome?_map]
    rfl

/-- Nothing is wrong with the patterns of the operators exactly if all of them compile. -/
theorem RuleSet.operatorFault?_eq_none_iff :
    rules.operatorFault? = none ↔ ∀ operator ∈ rules.operators, Compiles operator.pattern := by
  rw [operatorFault?, List.findSome?_eq_none_iff]
  exact forall_mem_zipIdx fun _ _ => patternFault?_eq_none_iff

/-- Of the operator patterns that do not compile, the first is reported, with its index and the
reason. -/
theorem RuleSet.operatorFault?_eq_some_iff {e : PatternError} :
    rules.operatorFault? = some e ↔ ∃ k operator fault,
      FirstAt (fun operator => ¬ Compiles operator.pattern) rules.operators k operator ∧
        Regex.Pattern.compile (anchor operator.pattern) = .error fault ∧
        e = ⟨.item "operator-regexp" k, operator.pattern, fault⟩ := by
  have misses (operator : OperatorRule) (k : Nat) :
      patternFault? (.item "operator-regexp" k) operator.pattern = none ↔
        ¬ ¬ Compiles operator.pattern := by
    rw [patternFault?_eq_none_iff, not_not]
  rw [operatorFault?, findSome?_zipIdx_eq_some_iff misses]
  refine exists₂_congr fun k operator => ?_
  rw [exists_and_left, patternFault?_eq_some_iff, Nat.zero_add]

/-! ### Records as a whole -/

/-- A record is compiled in stages, and the first that fails is reported. The check comes first,
then the lists, then whether operators have patterns, and last these patterns. Faults of a later
stage are seen only when the earlier ones have passed. -/
theorem error?_compile (rules : RuleSet) :
    error? (compile rules) =
      ((error? rules.check).map .rule).or ((rules.flagFault?.map .pattern).or
        (((error? (operatorEntries rules.operators)).map .rule).or
          (rules.operatorFault?.map .pattern))) := by
  simp only [RuleSet.flagFault?, RuleSet.flagLists, findSome?_cons_or, List.findSome?_nil,
    Option.or_none, Option.map_or, Option.or_assoc, ← error?_mapError]
  unfold compile asRule asPattern
  refine error?_bind fun _ _ => error?_bind fun _ _ => error?_bind fun _ _ => error?_bind fun _ _ =>
    error?_bind fun _ _ => error?_bind fun entries h => ?_
  rw [error?_bind (e := none) fun _ _ => rfl, Option.or_none, error?_mapError,
    error?_operators (mapError_eq_ok h)]

/-- A fault of a record is just what compiling it reports. Read from the left, every fault of
`RuleSet.Fault` is reported; read from the right, nothing else is. -/
theorem RuleSet.fault_iff {e : CompileError} : rules.Fault e ↔ error? (compile rules) = some e := by
  simp only [error?_compile, Option.or_eq_some_iff, Option.map_eq_some_iff, Option.map_eq_none_iff,
    error?_check_eq_none_iff, flagFault?_eq_none_iff, error?_operatorEntries_eq_none_iff]
  constructor
  · intro h
    cases h with
    | missingEnd endless empty =>
      exact .inl ⟨_, error?_check_eq_some_iff.mpr ⟨_, _, endless, .inl ⟨empty, rfl⟩⟩, rfl⟩
    | captureWithoutEnd endless captures =>
      exact .inl ⟨_, error?_check_eq_some_iff.mpr
        ⟨_, _, endless, .inr ⟨_, _, captures, rfl⟩⟩, rfl⟩
    | flag ended lists unbroken broken refused =>
      refine .inr ⟨ended, .inl ⟨_, flagFault?_eq_some_iff.mpr ?_, rfl⟩⟩
      exact ⟨_, _, _, _, _, _, _, lists, unbroken, broken, refused, rfl⟩
    | emptyOperator ended unbroken empty =>
      refine .inr ⟨ended, .inr ⟨unbroken, .inl ⟨_, ?_, rfl⟩⟩⟩
      exact error?_operatorEntries_eq_some_iff.mpr ⟨_, _, empty, rfl⟩
    | operator ended unbroken named broken refused =>
      refine .inr ⟨ended, .inr ⟨unbroken, .inr ⟨named, _, operatorFault?_eq_some_iff.mpr ?_, rfl⟩⟩⟩
      exact ⟨_, _, _, broken, refused, rfl⟩
  · rintro (⟨_, wrong, rfl⟩ | ⟨ended, ⟨_, wrong, rfl⟩ | ⟨unbroken, ⟨_, wrong, rfl⟩ |
      ⟨named, _, wrong, rfl⟩⟩⟩)
    · obtain ⟨i, rule, endless, ⟨empty, rfl⟩ | ⟨j, template, captures, rfl⟩⟩ :=
        error?_check_eq_some_iff.mp wrong
      · exact .missingEnd endless empty
      · exact .captureWithoutEnd endless captures
    · obtain ⟨before, name, patterns, after, k, pattern, fault, lists, sound, broken, refused,
        rfl⟩ := flagFault?_eq_some_iff.mp wrong
      exact .flag ended lists sound broken refused
    · obtain ⟨k, operator, empty, rfl⟩ := error?_operatorEntries_eq_some_iff.mp wrong
      exact .emptyOperator ended unbroken empty
    · obtain ⟨k, operator, fault, broken, refused, rfl⟩ := operatorFault?_eq_some_iff.mp wrong
      exact .operator ended unbroken named broken refused

/-- A record is sound exactly if compiling it reports nothing. The four parts of `RuleSet.Sound` are
the four stages. -/
theorem RuleSet.sound_iff : rules.Sound ↔ error? (compile rules) = none := by
  simp only [error?_compile, Option.or_eq_none_iff, Option.map_eq_none_iff,
    error?_check_eq_none_iff, flagFault?_eq_none_iff, error?_operatorEntries_eq_none_iff,
    operatorFault?_eq_none_iff]
  exact ⟨fun h => ⟨h.ended, h.unbroken, h.named, h.operators⟩,
    fun ⟨ended, unbroken, named, operators⟩ => ⟨ended, unbroken, named, operators⟩⟩

/-- What is made from entries is a table of as many patterns, or no table if there are none. -/
theorem fills_of_tableOf? {entries : List (Entry α)} {table : Option (PatternTable α)}
    (h : tableOf? entries = .ok table) : Fills table entries.length := by
  rcases tableOf?_eq_ok h with ⟨rfl, rfl⟩ | ⟨t, hb, rfl⟩
  · rfl
  · have some : entries ≠ [] := by
      rintro rfl
      cases h
    rw [Fills, Option.map_some, PatternTable.size_of_build hb, if_neg (by simpa using some)]

/-- A list gives an entry for each pattern that is not empty. -/
theorem length_flagEntries (list : String) (patterns : List String) :
    (flagEntries list patterns).length = patterns.countP (· ≠ "") := by
  rw [flagEntries, List.length_filterMap_eq_countP, ← countP_zipIdx (· ≠ "") patterns]
  apply List.countP_congr
  rintro ⟨pattern, k⟩ _
  by_cases empty : pattern = "" <;> simp [empty]

/-- A list that compiles fills its table with all its patterns that are not empty. -/
theorem fills_flags {list : String} {patterns : List String} {table : Option (PatternTable Unit)}
    (h : tableOf? (flagEntries list patterns) = .ok table) :
    Fills table (patterns.countP (· ≠ "")) :=
  length_flagEntries list patterns ▸ fills_of_tableOf? h

/-- The operators that compile fill their table, one pattern for each. None of them is empty by
then. -/
theorem fills_operators {entries : List (Entry Precedence)}
    {table : Option (PatternTable Precedence)} (h : operatorEntries rules.operators = .ok entries)
    (ht : tableOf? entries = .ok table) : Fills table rules.operators.length := by
  unfold operatorEntries at h
  split at h
  next => cases h
  next =>
    obtain rfl := Except.ok.inj h
    simpa using fills_of_tableOf? ht

/-- A record compiles exactly if nothing is wrong with it, and otherwise the first thing that is
wrong is reported. What was compiled has the surround rules as they are, and in the tables all
patterns that are not empty. The patterns of surround rules are not among what can be wrong here:
they are compiled with a stream, by `Forms.build`. -/
theorem compile_reports_first_fault (rules : RuleSet) :
    (∀ e, compile rules = .error e ↔ rules.Fault e) ∧
    ((∃ compiled, compile rules = .ok compiled) ↔ rules.Sound) ∧
    ∀ compiled, compile rules = .ok compiled →
      compiled.surround = rules.surround ∧
      Fills compiled.statics.compoundLabels (rules.compoundLabels.countP (· ≠ "")) ∧
      Fills compiled.statics.simpleLabels (rules.simpleLabels.countP (· ≠ "")) ∧
      Fills compiled.statics.formPrefixes (rules.formPrefixes.countP (· ≠ "")) ∧
      Fills compiled.statics.variableNames (rules.variableNames.countP (· ≠ "")) ∧
      Fills compiled.statics.operators rules.operators.length := by
  refine ⟨fun e => ?_, ?_, fun compiled h => ?_⟩
  · rw [RuleSet.fault_iff, error?_eq_some_iff]
  · rw [RuleSet.sound_iff, error?_eq_none_iff]
  · have made := compiledFrom_of_compile h
    obtain ⟨entries, hentries, hoperators⟩ := made.operators
    exact ⟨made.surround, fills_flags made.compoundLabels, fills_flags made.simpleLabels,
      fills_flags made.formPrefixes, fills_flags made.variableNames,
      fills_operators hentries hoperators⟩

example : compile { operators := [{ pattern := "(" }, { pattern := "" }] } =
    .error (.rule (.emptyOperator 1)) := by
  rfl

end TokenClassifier
