import TokenClassifier.Forms
import TokenClassifier.Proofs.Endings
import TokenClassifier.Proofs.PatternTable
import TokenClassifier.Proofs.Regex.Copies

/-!
# What the tables of forms answer

The rules can be read without any table: which rule a token opens, which rule learns from it, which
rules it closes. The tables that are made for a stream answer in just this way
(`lookupStart?_of_build`, `lookupEnd?_eq`). The stream comes in twice: as the endings that rules
learn from it, and as the tokens that it is found to need for closing the forms of deferred rules
(`found`). The table of ends asks for the latter last, after all that the rules say by themselves.

Rules that have passed their check are not deferred (`SurroundRule.Declared.isDeferred`). Nothing is
looked for in the stream to close them, and a token closes the first rule that has it for an end
(`lookupEnd?_of_build`).

Whether the tables can be made at all is a matter of the rules alone
(`exists_build_iff_patterns`): what is added for the stream are escaped texts, and they compile.
-/

namespace TokenClassifier

namespace Forms

/-! ## Reading the rules -/

/-- The form that a token opens: the index of the first rule whose start pattern matches it, the
rule, and the groups of the match. An empty start pattern opens nothing. -/
def opening? (rules : List SurroundRule) (token : String) :
    Option (Nat × SurroundRule × List String) :=
  rules.zipIdx.findSome? fun (rule, index) =>
    if rule.start.isEmpty then none
    else (tokenGroups? rule.start token).map fun groups => (index, rule, groups)

/-- The first rule that takes a token for one of its endings: a rule without templates whose end
pattern matches it. -/
def learner? (rules : List SurroundRule) (token : String) : Option Nat :=
  rules.findIdx? fun rule =>
    rule.endings.isEmpty && rule.endPattern?.any fun pattern => matchesToken pattern token

/-- The tokens of a stream that a rule takes for its endings. -/
def learned (rules : List SurroundRule) (tokens : List String) (index : Nat) : List String :=
  tokens.filter fun token => learner? rules token == some index

/-- Whether a template of a rule stands for a token whatever opened the form. -/
def templateMatches (rule : SurroundRule) (token template : String) : Bool :=
  match Template.shape template with
  | .constant => token == Template.expand template []
  | .whole => matchesToken (wholeMatchPattern template rule.start) token
  | .captures => false

/-- Whether a token closes the forms of a rule: it matches the rule's end pattern or, if the rule
has none, one of its templates stands for it. -/
def closes (rule : SurroundRule) (token : String) : Bool :=
  match rule.endPattern? with
  | some pattern => matchesToken pattern token
  | none => rule.endings.any (templateMatches rule token)

/-- The tokens that close what a token opens, each with the index of the rule. Only for a deferred
rule are they looked for. -/
def foundBy (rules : List SurroundRule) (token : String) : List (String × Nat) :=
  match opening? rules token with
  | some (index, rule, groups) =>
    if isDeferred rule then
      rule.endings.map fun template => (Template.expand template groups, index)
    else []
  | none => []

/-- The tokens found to close what a stream opens, in the order in which they are found. -/
def found (rules : List SurroundRule) (tokens : List String) : List (String × Nat) :=
  tokens.flatMap (foundBy rules)

/-- The rule of an opening is the one at its index. Its start is not empty, and the groups are those
that the start finds in the token. -/
theorem getElem?_of_opening? {rules : List SurroundRule} {token : String} {index : Nat}
    {rule : SurroundRule} {groups : List String}
    (h : opening? rules token = some (index, rule, groups)) :
    rules[index]? = some rule ∧ rule.start.isEmpty = false ∧
      tokenGroups? rule.start token = some groups := by
  obtain ⟨⟨rule', index'⟩, mem, h⟩ := List.exists_of_findSome?_eq_some h
  have at' := List.mem_zipIdx_iff_getElem?.mp mem
  dsimp only at h at'
  split at h
  next => cases h
  next nonempty =>
    obtain ⟨groups', hg, heq⟩ := Option.map_eq_some_iff.mp h
    cases heq
    exact ⟨at', by simpa using nonempty, hg⟩

/-- Only a rule without templates learns. What a rule with templates lists is settled before any
stream. -/
theorem learned_eq_nil {rules : List SurroundRule} {index : Nat} {rule : SurroundRule}
    (h : rules[index]? = some rule) (templates : rule.endings ≠ []) (tokens : List String) :
    learned rules tokens index = [] := by
  refine List.filter_eq_nil_iff.mpr fun token _ e => ?_
  obtain ⟨lt, learns, _⟩ := List.findIdx?_eq_some_iff_getElem.mp (beq_iff_eq.mp e)
  obtain ⟨_, rfl⟩ := List.getElem?_eq_some_iff.mp h
  simp only [Bool.and_eq_true, List.isEmpty_iff] at learns
  exact templates learns.1

/-! ## Starts -/

variable {rules : List SurroundRule} {table : PatternTable Nat}

/-- Looking up in the table of starts finds the form that a token opens. -/
theorem lookup?_starts (h : PatternTable.build (startEntries rules) = .ok table) (token : String) :
    table.lookup? token =
      (opening? rules token).map fun (index, _, groups) => (index, groups) := by
  rw [PatternTable.lookup?_of_build h, startEntries, findSome?_filterMap, opening?,
    List.map_findSome?]
  refine findSome?_congr fun (rule, index) _ => ?_
  simp only [Function.comp_apply, entryOfStart?]
  split
  next => rfl
  next => simp [Function.comp_def]

/-! ## Learning -/

/-- Looking up in the table that is learnt with finds the rule that takes a token for an ending. -/
theorem lookup?_inference (h : PatternTable.build (inferenceEntries rules) = .ok table)
    (token : String) : (table.lookup? token).map Prod.fst = learner? rules token := by
  rw [PatternTable.value_of_build h, inferenceEntries, findSome?_filterMap, learner?,
    List.findIdx?_eq_findSome?_zipIdx]
  refine findSome?_congr fun (rule, index) _ => ?_
  dsimp only
  cases rule.endings.isEmpty with
  | false => rfl
  | true =>
    simp only [Bool.true_and, if_true, entryOfEnd?]
    cases rule.endPattern? with
    | none => rfl
    | some pattern => rfl

/-- One token is learnt by its learner and by no other rule. Stated for a row whose templates so far
are known, so that a stream can be learnt from one token after the other. -/
theorem getElem?_learn (h : PatternTable.build (inferenceEntries rules) = .ok table)
    {infos : List StartInfo} {index : Nat} {templates : List String}
    (known : infos[index]? = some ⟨index, .ofList templates⟩) (token : String) :
    (learn table infos token)[index]? = some
      ⟨index, .ofList (templates ++ (learned rules [token] index).map Template.ofLiteral)⟩ := by
  have learns := lookup?_inference h token
  rw [learn, learned, List.filter_singleton]
  cases found : table.lookup? token with
  | none =>
    rw [found] at learns
    simp [← learns, known]
  | some hit =>
    obtain ⟨rule, groups⟩ := hit
    rw [found] at learns
    rw [← learns]
    dsimp only [Option.map_some]
    by_cases own : rule = index
    · subst own
      rw [List.getElem?_modify_eq, known]
      simp [Endings.insertLiteral_ofList]
    · have other : (rule == index) = false := beq_false_of_ne own
      rw [List.getElem?_modify_ne _ _ own, known]
      simp [other]

/-- What is known about a rule after a stream: its templates, and then what it learnt, in the order
of the stream. By induction on the tokens. -/
theorem getElem?_learnAll (h : PatternTable.build (inferenceEntries rules) = .ok table)
    {infos : List StartInfo} {index : Nat} {templates : List String}
    (known : infos[index]? = some ⟨index, .ofList templates⟩) (tokens : List String) :
    (learnAll table infos tokens)[index]? = some
      ⟨index, .ofList (templates ++ (learned rules tokens index).map Template.ofLiteral)⟩ := by
  unfold learnAll
  induction tokens generalizing infos templates with
  | nil => simpa [learned] using known
  | cons token tokens ih =>
    rw [List.foldl_cons, ih (getElem?_learn h known token)]
    simp only [learned, List.append_assoc, ← List.map_append, ← List.filter_append,
      List.singleton_append]

/-- Before any token, what is known about a rule is its templates. -/
theorem getElem?_declaredInfos {index : Nat} {rule : SurroundRule}
    (h : rules[index]? = some rule) :
    (declaredInfos rules)[index]? = some ⟨index, .ofList rule.endings⟩ := by
  simp [declaredInfos, List.getElem?_zipIdx, h]

/-! ## Ends -/

/-- A rule is not deferred exactly if it has an end pattern or templates without captures only. -/
theorem isDeferred_eq_false_iff {rule : SurroundRule} :
    isDeferred rule = false ↔
      rule.endPattern? = none → ∀ template ∈ rule.endings, Template.shape template ≠ .captures := by
  unfold isDeferred Template.hasCapture
  cases rule.endPattern? <;> simp

/-- Where no rule is deferred, nothing is looked for in the stream. The table of ends is then the
same for all streams. -/
theorem foundEntries_eq_nil (declared : ∀ rule ∈ rules, isDeferred rule = false)
    (starts : PatternTable Nat) (tokens : List String) : foundEntries rules starts tokens = [] := by
  have none : ∀ token, foundFor rules starts token = [] := by
    intro token
    unfold foundFor
    split
    next => rfl
    next index groups _ =>
      split
      next => rfl
      next rule hr =>
        rw [declared rule (List.mem_of_getElem? hr)]
        rfl
  rw [foundEntries, List.flatMap_eq_nil_iff.mpr fun token _ => none token]
  rfl

/-- An escaped token stands for itself. What is registered for a constant template or for a token
that was found matches this token and no other. -/
theorem matchesToken_escape (s token : String) :
    matchesToken (Regex.escape s) token = (token == s) := by
  obtain ⟨p, hp⟩ := Regex.Pattern.exists_compile_escape s
  rw [matchesToken_of_compile hp, Bool.eq_iff_iff, Regex.Pattern.isMatch_escape hp, beq_iff_eq]

/-- The entry of a template matches the tokens that the template stands for: its expansion if it is
constant, and otherwise what its pattern matches. One that refers to a capture has no entry and
stands for nothing. -/
theorem value_entryOfTemplate? (rule : SurroundRule) (index j : Nat) (template token : String) :
    ((entryOfTemplate? rule index template j).bind fun e =>
        if matchesToken e.pattern token then some e.value else none) =
      if templateMatches rule token template then some index else none := by
  unfold entryOfTemplate? templateMatches
  cases Template.shape template with
  | constant => simp only [Option.bind_some, matchesToken_escape]
  | whole => rfl
  | captures => rfl

/-- The entries of a rule match the tokens that close its forms, and each of them leads to the
rule. -/
theorem value_ruleEntries (rule : SurroundRule) (index : Nat) (token : String) :
    ((ruleEntries rule index).findSome? fun e =>
        if matchesToken e.pattern token then some e.value else none) =
      if closes rule token then some index else none := by
  unfold ruleEntries entryOfEnd? closes
  cases rule.endPattern? with
  | some pattern => simp
  | none =>
    dsimp only [Option.map_none]
    rw [findSome?_filterMap, ← any_zipIdx, ← findSome?_constant]
    refine findSome?_congr fun (template, j) _ => ?_
    exact value_entryOfTemplate? rule index j template token

/-- The entries that can be told without the stream lead to the first rule that a token closes. The
entries of a rule stand together, in the order of the rules. -/
theorem value_declaredEntries (rules : List SurroundRule) (token : String) :
    ((declaredEntries rules).findSome? fun e =>
        if matchesToken e.pattern token then some e.value else none) =
      rules.findIdx? fun rule => closes rule token := by
  rw [declaredEntries, findSome?_flatMap, List.findIdx?_eq_findSome?_zipIdx]
  refine findSome?_congr fun (rule, index) _ => ?_
  exact value_ruleEntries rule index token

/-! ## Ends found in the stream -/

/-- What is found for a token are the expansions of the templates of the rule that it opens, if this
rule is deferred. -/
theorem mem_foundBy_iff {token e : String} {index : Nat} :
    (e, index) ∈ foundBy rules token ↔ ∃ rule groups,
      opening? rules token = some (index, rule, groups) ∧ isDeferred rule = true ∧
        ∃ template ∈ rule.endings, Template.expand template groups = e := by
  unfold foundBy
  cases opening? rules token with
  | none => simp
  | some opened =>
    obtain ⟨first, rule, groups⟩ := opened
    simp only [Option.some.injEq, Prod.mk.injEq]
    constructor
    · intro mem
      split at mem
      next deferred =>
        obtain ⟨template, declared, heq⟩ := List.mem_map.mp mem
        cases heq
        exact ⟨rule, groups, ⟨rfl, rfl, rfl⟩, deferred, template, declared, rfl⟩
      next => cases mem
    · rintro ⟨_, _, ⟨rfl, rfl, rfl⟩, deferred, template, mem, rfl⟩
      rw [if_pos deferred]
      exact List.mem_map.mpr ⟨template, mem, rfl⟩

/-- What is found in a stream is found for one of its tokens. -/
theorem mem_found_iff {tokens : List String} {e : String} {index : Nat} :
    (e, index) ∈ found rules tokens ↔ ∃ token ∈ tokens, ∃ rule groups,
      opening? rules token = some (index, rule, groups) ∧ isDeferred rule = true ∧
        ∃ template ∈ rule.endings, Template.expand template groups = e := by
  simp only [found, List.mem_flatMap, mem_foundBy_iff]

/-- What is found for a token with the table of starts is what the rules read by themselves find.
The places of the templates are for error messages only, and forgotten here. -/
theorem map_foundFor (h : PatternTable.build (startEntries rules) = .ok table) (token : String) :
    ((foundFor rules table token).map fun (e, index, _) => (e, index)) = foundBy rules token := by
  rw [foundFor, lookup?_starts h, foundBy]
  cases ho : opening? rules token with
  | none => rfl
  | some opened =>
    obtain ⟨index, rule, groups⟩ := opened
    have known := (getElem?_of_opening? ho).1
    simp only [Option.map_some, known]
    cases isDeferred rule with
    | false => rfl
    | true =>
      simp only [if_true, List.map_map]
      exact map_zipIdx (fun template => (Template.expand template groups, index)) rule.endings

/-- What is kept for a token is the first of its entries, unless the token is known. By induction on
the entries; `known` grows by each that is kept. -/
theorem lookup_keepFirst (known : List String) (xs : List (String × Nat × Nat)) (token : String) :
    (keepFirst known xs).lookup token = if token ∈ known then none else xs.lookup token := by
  induction xs generalizing known with
  | nil => simp [keepFirst]
  | cons x xs ih =>
    obtain ⟨first, place⟩ := x
    rw [keepFirst, List.lookup_cons]
    by_cases same : token = first
    · subst same
      by_cases mem : token ∈ known
      · simp [mem, ih]
      · simp [mem]
    · have other : (token == first) = false := beq_false_of_ne same
      rw [other]
      by_cases mem : first ∈ known
      · simp [mem, ih]
      · simp [mem, List.lookup_cons, other, ih, same]

/-- The tokens for which an entry is kept are those that are not known, without repeats. So there
are as many entries as different tokens. -/
theorem map_fst_keepFirst (known : List String) (xs : List (String × Nat × Nat)) :
    (keepFirst known xs).map Prod.fst =
      ((xs.map Prod.fst).filter fun token => !known.contains token).eraseDups := by
  induction xs generalizing known with
  | nil => rfl
  | cons x xs ih =>
    obtain ⟨first, place⟩ := x
    rw [keepFirst, List.map_cons, List.filter_cons]
    cases mem : known.contains first with
    | true => exact ih known
    | false =>
      have kept : ∀ token, (!(first :: known).contains token) =
          (!token == first && !known.contains token) := by
        intro token
        rw [List.contains_cons, Bool.not_or]
      simp only [Bool.false_eq_true, if_false, Bool.not_false, if_true, List.map_cons, ih, kept,
        List.eraseDups_cons, List.filter_filter]

/-- What is found in a stream with the table of starts. -/
theorem map_flatMap_foundFor (h : PatternTable.build (startEntries rules) = .ok table)
    (tokens : List String) :
    ((tokens.flatMap (foundFor rules table)).map fun (e, index, _) => (e, index)) =
      found rules tokens := by
  rw [List.map_flatMap]
  exact List.flatMap_congr fun token _ => map_foundFor h token

/-- The entries for what is found in a stream lead to the rule for which a token is found first.
Their patterns are escaped tokens, so there is no other match to look for. -/
theorem value_foundEntries (h : PatternTable.build (startEntries rules) = .ok table)
    (tokens : List String) (token : String) :
    ((foundEntries rules table tokens).findSome? fun e =>
        if matchesToken e.pattern token then some e.value else none) =
      (found rules tokens).lookup token := by
  let pairs (xs : List (String × Nat × Nat)) := xs.map fun x => (x.1, x.2.1)
  calc _ = (pairs (keepFirst [] (tokens.flatMap (foundFor rules table)))).lookup token := by
        rw [foundEntries, List.findSome?_map, List.lookup_eq_findSome?, List.findSome?_map]
        simp only [Function.comp_def, matchesToken_escape]
    _ = (pairs (tokens.flatMap (foundFor rules table))).lookup token := by
        rw [lookup_map_snd, lookup_map_snd, lookup_keepFirst, if_neg List.not_mem_nil]
    _ = (found rules tokens).lookup token := congrArg _ (map_flatMap_foundFor h tokens)

/-- There are as many of them as there are tokens found. -/
theorem length_foundEntries (h : PatternTable.build (startEntries rules) = .ok table)
    (tokens : List String) : (foundEntries rules table tokens).length =
      ((found rules tokens).map Prod.fst).eraseDups.length := by
  rw [foundEntries, List.length_map, ← List.length_map Prod.fst, map_fst_keepFirst,
    ← map_flatMap_foundFor h, List.map_map]
  simp [Function.comp_def]

/-- None of them can fail, since each is an escaped token. -/
theorem compiles_foundEntries (table : PatternTable Nat) (tokens : List String) :
    ∀ e ∈ foundEntries rules table tokens, Compiles e.pattern := by
  intro e mem
  obtain ⟨⟨token, index, j⟩, _, rfl⟩ := List.mem_map.mp mem
  exact Regex.Pattern.exists_compile_escape token

/-! ## All tables -/

/-- Tables are made for a stream in three steps: the starts, then what rules learn, then the ends.
The table that is learnt with is not kept. -/
theorem build_eq_ok_iff {tokens : List String} {t : FormTables} :
    build rules tokens = .ok t ↔ ∃ inference,
      PatternTable.build (startEntries rules) = .ok t.starts ∧
      PatternTable.build (inferenceEntries rules) = .ok inference ∧
      t.infos = learnAll inference (declaredInfos rules) tokens ∧
      PatternTable.build (declaredEntries rules ++ foundEntries rules t.starts tokens) =
        .ok t.ends := by
  unfold build
  constructor
  · intro h
    obtain ⟨starts, hstarts, h⟩ := bind_eq_ok_iff.mp h
    obtain ⟨inference, hinference, h⟩ := bind_eq_ok_iff.mp h
    obtain ⟨ends, hends, heq⟩ := bind_eq_ok_iff.mp h
    cases heq
    exact ⟨inference, hstarts, hinference, rfl, hends⟩
  · rintro ⟨inference, hstarts, hinference, hinfos, hends⟩
    obtain ⟨starts, infos, ends⟩ := t
    dsimp only at hstarts hinfos hends
    rw [hstarts, ok_bind, hinference, ok_bind, hends, ok_bind, hinfos]
    rfl

variable {tokens : List String} {t : FormTables}

/-- What is known about a rule: its templates, and then what it has learnt. There is such a row for
each rule, at its index. -/
theorem getElem?_infos (h : build rules tokens = .ok t) {index : Nat} {rule : SurroundRule}
    (at' : rules[index]? = some rule) : t.infos[index]? = some
      ⟨index, .ofList (rule.endings ++ (learned rules tokens index).map Template.ofLiteral)⟩ := by
  obtain ⟨_, _, hinference, hinfos, _⟩ := build_eq_ok_iff.mp h
  rw [hinfos]
  exact getElem?_learnAll hinference (getElem?_declaredInfos at') tokens

/-- The start that a token makes: the endings are the rule's templates and what it has learnt. -/
theorem lookupStart?_of_build (h : build rules tokens = .ok t) (token : String) :
    t.lookupStart? token = (opening? rules token).map fun (index, rule, groups) =>
      (⟨index, .ofList (rule.endings ++ (learned rules tokens index).map Template.ofLiteral)⟩,
        groups) := by
  obtain ⟨_, hstarts, _, _, _⟩ := build_eq_ok_iff.mp h
  rw [FormTables.lookupStart?, lookup?_starts hstarts]
  cases ho : opening? rules token with
  | none => rfl
  | some opened =>
    obtain ⟨index, rule, groups⟩ := opened
    simp [getElem?_infos h (getElem?_of_opening? ho).1]

/-- The end that a token makes: the first rule that has it for an end by itself or, if there is
none, the rule for which it was found first. That one comes before the other regardless of the
indices is what makes the least index fail for deferred rules. -/
theorem lookupEnd?_eq (h : build rules tokens = .ok t) (token : String) :
    t.lookupEnd? token =
      (rules.findIdx? fun rule => closes rule token).or ((found rules tokens).lookup token) := by
  obtain ⟨_, hstarts, _, _, hends⟩ := build_eq_ok_iff.mp h
  rw [FormTables.lookupEnd?, PatternTable.value_of_build hends, List.findSome?_append,
    value_declaredEntries, value_foundEntries hstarts]

/-- The patterns that recognise an end: those that the rules have by themselves, and one for each
token that is found. They are counted with the order in which they were registered left out. -/
theorem endPatternCount_eq (h : build rules tokens = .ok t) :
    t.endPatternCount =
      (declaredEntries rules).length + ((found rules tokens).map Prod.fst).eraseDups.length := by
  obtain ⟨_, hstarts, _, _, hends⟩ := build_eq_ok_iff.mp h
  rw [FormTables.endPatternCount, PatternTable.size_of_build hends, List.length_append,
    length_foundEntries hstarts]

/-- The tables cannot be made if one of the patterns does not compile that the rules have by
themselves, and the first of them is to blame. The stream has no say in it, though the table of ends
is made with what it adds. -/
theorem error?_build (tokens : List String) :
    error? (build rules tokens) =
      (startEntries rules ++ inferenceEntries rules ++ declaredEntries rules).findSome? fun e =>
        patternFault? e.origin e.pattern := by
  have ends : ∀ table, error? (PatternTable.build
      (declaredEntries rules ++ foundEntries rules table tokens)) =
        (declaredEntries rules).findSome? fun e => patternFault? e.origin e.pattern := by
    intro table
    have found : ((foundEntries rules table tokens).findSome? fun e =>
        patternFault? e.origin e.pattern) = none :=
      List.findSome?_eq_none_iff.mpr fun e mem =>
        patternFault?_eq_none_iff.mpr (compiles_foundEntries table tokens e mem)
    rw [PatternTable.error?_build, List.findSome?_append, found, Option.or_none]
  rw [build, List.findSome?_append, List.findSome?_append, Option.or_assoc,
    ← PatternTable.error?_build, ← PatternTable.error?_build]
  refine error?_bind fun starts _ => error?_bind fun inference _ => ?_
  rw [error?_bind (e := none) fun _ _ => rfl, Option.or_none, ends]

/-- The tables can be made exactly if all patterns compile that the rules have by themselves. -/
theorem exists_build_iff (tokens : List String) :
    (∃ t, build rules tokens = .ok t) ↔
      ∀ e ∈ startEntries rules ++ inferenceEntries rules ++ declaredEntries rules,
        Compiles e.pattern := by
  rw [← error?_eq_none_iff, error?_build, List.findSome?_eq_none_iff]
  exact forall₂_congr fun _ _ => patternFault?_eq_none_iff

/-- Rules for which the tables can be made for one stream have them for every stream. Where a stream
is extended or replaced, the other tables are there. -/
theorem exists_build_of_build (h : build rules tokens = .ok t) (others : List String) :
    ∃ t', build rules others = .ok t' :=
  (exists_build_iff others).mpr ((exists_build_iff tokens).mp ⟨t, h⟩)

/-- If the tables cannot be made for one stream, they cannot be made for another, for the same
reason. -/
theorem build_eq_error {e : PatternError} (h : build rules tokens = .error e)
    (others : List String) : build rules others = .error e := by
  rw [← error?_eq_some_iff, error?_build] at h ⊢
  exact h

/-! ### Which patterns have to compile -/

/-- The entries of starts compile exactly if the start patterns that are not empty do. -/
theorem forall_startEntries_iff :
    (∀ e ∈ startEntries rules, Compiles e.pattern) ↔
      ∀ rule ∈ rules, rule.start ≠ "" → Compiles rule.start := by
  rw [startEntries, List.forall_mem_filterMap]
  refine forall_mem_zipIdx fun rule index => ?_
  simp only [String.isEmpty_iff, entryOfStart?]
  split
  next empty => simp [empty]
  next some => simp [some]

/-- The entries that are learnt with compile exactly if the end patterns of the rules without
templates do. -/
theorem forall_inferenceEntries_iff :
    (∀ e ∈ inferenceEntries rules, Compiles e.pattern) ↔
      ∀ rule ∈ rules, rule.endings = [] → ∀ stop, rule.endPattern? = some stop →
        Compiles stop := by
  rw [inferenceEntries, List.forall_mem_filterMap]
  refine forall_mem_zipIdx fun rule index => ?_
  simp only [List.isEmpty_iff, entryOfEnd?]
  split
  next none => simp [none]
  next some => simp [some]

/-- Of the patterns made from templates, those of constant templates compile in any case. Those that
refer to the whole token compile or not, depending on the start. -/
theorem forall_entryOfTemplate?_iff (rule : SurroundRule) (index j : Nat) (template : String) :
    (∀ e, entryOfTemplate? rule index template j = some e → Compiles e.pattern) ↔
      (Template.shape template = .whole → Compiles (wholeMatchPattern template rule.start)) := by
  unfold entryOfTemplate?
  cases Template.shape template with
  | constant =>
    have compiles : Compiles (Regex.escape (Template.expand template [])) :=
      Regex.Pattern.exists_compile_escape _
    simp [compiles]
  | whole => simp
  | captures => simp

/-- The entries of ends compile exactly if every end pattern does, and of the rules without one,
every pattern that is made from a template. -/
theorem forall_declaredEntries_iff :
    (∀ e ∈ declaredEntries rules, Compiles e.pattern) ↔
      ∀ rule ∈ rules, (∀ stop, rule.endPattern? = some stop → Compiles stop) ∧
        (rule.endPattern? = none → ∀ template ∈ rule.endings,
          Template.shape template = .whole → Compiles (wholeMatchPattern template rule.start)) := by
  rw [declaredEntries, List.forall_mem_flatMap]
  refine forall_mem_zipIdx fun rule index => ?_
  simp only [ruleEntries, entryOfEnd?]
  cases rule.endPattern? with
  | some stop => simp
  | none =>
    simp only [Option.map_none, List.forall_mem_filterMap, forall_entryOfTemplate?_iff]
    refine (and_iff_right nofun).symm.trans (and_congr_right fun _ => ?_)
    exact (forall_mem_zipIdx fun template j => Iff.rfl).trans (forall_const _).symm

/-- The tables can be made exactly if the start patterns compile, the end patterns do, and so does
what is made from the templates of the rules without an end pattern. Nothing is said of the places
of the rules, nor of the stream. -/
theorem exists_build_iff_patterns (tokens : List String) :
    (∃ t, build rules tokens = .ok t) ↔ ∀ rule ∈ rules,
      (rule.start ≠ "" → Compiles rule.start) ∧
      (∀ stop, rule.endPattern? = some stop → Compiles stop) ∧
      (rule.endPattern? = none → ∀ template ∈ rule.endings,
        Template.shape template = .whole → Compiles (wholeMatchPattern template rule.start)) := by
  rw [exists_build_iff, List.forall_mem_append, List.forall_mem_append,
    forall_startEntries_iff, forall_inferenceEntries_iff, forall_declaredEntries_iff]
  constructor
  · rintro ⟨⟨starts, _⟩, others⟩ rule mem
    exact ⟨starts rule mem, others rule mem⟩
  · intro all
    exact ⟨⟨fun rule mem => (all rule mem).1, fun rule mem _ => (all rule mem).2.1⟩,
      fun rule mem => (all rule mem).2⟩

/-- The tables of rules for a stream, if they can be made. -/
def built? (rules : List SurroundRule) (tokens : List String) : Option FormTables :=
  (build rules tokens).toOption

/-- A property of the tables for a stream, which can be computed, holds of them. It serves for
examples: both that the tables are there and the property come by one evaluation. -/
theorem exists_of_built? (p : FormTables → Bool) (h : (built? rules tokens).any p = true) :
    ∃ t, build rules tokens = .ok t ∧ p t = true := by
  unfold built? at h
  cases hb : build rules tokens with
  | error e =>
    rw [hb] at h
    cases h
  | ok t =>
    rw [hb] at h
    exact ⟨t, rfl, h⟩

/-! ### Rules that are not deferred -/

variable (declared : ∀ rule ∈ rules, isDeferred rule = false)
include declared

/-- Where no rule is deferred, the table of ends is made from the rules alone. -/
theorem build_ends (h : build rules tokens = .ok t) :
    PatternTable.build (declaredEntries rules) = .ok t.ends := by
  obtain ⟨_, _, _, _, hends⟩ := build_eq_ok_iff.mp h
  rwa [foundEntries_eq_nil declared, List.append_nil] at hends

/-- The end that a token makes: the first rule whose forms it closes. This holds for rules that have
passed their check, and there is nothing about the stream in it. -/
theorem lookupEnd?_of_build (h : build rules tokens = .ok t) (token : String) :
    t.lookupEnd? token = rules.findIdx? fun rule => closes rule token := by
  rw [FormTables.lookupEnd?, PatternTable.value_of_build (build_ends declared h),
    value_declaredEntries]

/-- The patterns that recognise an end are then those that the rules have by themselves. -/
theorem endPatternCount_of_build (h : build rules tokens = .ok t) :
    t.endPatternCount = (declaredEntries rules).length :=
  PatternTable.size_of_build (build_ends declared h)

end Forms

end TokenClassifier
