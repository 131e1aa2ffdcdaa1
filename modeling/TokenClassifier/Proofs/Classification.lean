import TokenClassifier.Classifier
import TokenClassifier.Proofs.Forms
import TokenClassifier.Proofs.Rules

/-!
# Classification without tables

`RuleSet.meaning` reads a record as it is written: category by category, rule by rule, with nothing
said about tables or about the order in which they are made. A classifier that was compiled from the
record and bound to a stream answers just so for every token, in the stream or not
(`classify_eq_meaning`).
-/

namespace TokenClassifier

/-! ## The plain reading -/

/-- Whether a list of patterns claims a token. An empty pattern claims nothing. -/
def claimedBy (patterns : List String) (token : String) : Bool :=
  patterns.any fun pattern => !pattern.isEmpty && matchesToken pattern token

/-- What closes the form that a rule opens for a match: the rule's templates for the groups of the
match or, if it has none, the tokens of the stream that it takes for its endings. -/
def endTokens (rules : List SurroundRule) (tokens : List String) (index : Nat)
    (rule : SurroundRule) (groups : List String) : List String :=
  if rule.endings.isEmpty then (Forms.learned rules tokens index).eraseDups
  else (rule.endings.map fun template => Template.expand template groups).eraseDups

/-- What a token is in a stream, as the record has it. -/
def RuleSet.meaning (rules : RuleSet) (tokens : List String) (token : String) : Classification :=
  if claimedBy rules.compoundLabels token then .compound
  else if claimedBy rules.simpleLabels token then .label
  else if claimedBy rules.formPrefixes token then .formPrefix
  else
    match Forms.opening? rules.surround token with
    | some (index, rule, groups) => .start (endTokens rules.surround tokens index rule groups)
    | none =>
      if rules.surround.any fun rule => Forms.closes rule token then .stop
      else
        match rules.operators.find? fun rule => matchesToken rule.pattern token with
        | some rule => .operator rule.precedence
        | none => if claimedBy rules.variableNames token then .variableName else .unclassified

/-! ## Tables of a record -/

variable {α : Type}

/-- What is made from entries is no table if there are none, and otherwise the table that is built
from them. -/
theorem tableOf?_eq_ok {entries : List (Entry α)} {table : Option (PatternTable α)}
    (h : tableOf? entries = .ok table) :
    entries = [] ∧ table = none ∨ ∃ t, PatternTable.build entries = .ok t ∧ table = some t := by
  unfold tableOf? at h
  split at h
  next none =>
    cases h
    exact .inl ⟨List.isEmpty_iff.mp none, rfl⟩
  next =>
    cases hb : PatternTable.build entries with
    | error e =>
      rw [hb] at h
      cases h
    | ok t =>
      rw [hb] at h
      cases h
      exact .inr ⟨t, rfl, rfl⟩

/-- Looking up in what is made from entries finds the value of the first whose pattern matches, also
where there is no table. -/
theorem lookup?_tableOf? {entries : List (Entry α)} {table : Option (PatternTable α)}
    (h : tableOf? entries = .ok table) (token : String) :
    (table.bind (·.lookup? token)).map Prod.fst =
      entries.findSome? fun e => if matchesToken e.pattern token then some e.value else none := by
  rcases tableOf?_eq_ok h with ⟨rfl, rfl⟩ | ⟨t, hb, rfl⟩
  · rfl
  · exact PatternTable.value_of_build hb token

/-- A category claims what one of its patterns matches. Empty patterns are not among the entries,
and `claimedBy` passes over them too. -/
theorem claims_tableOf? {list : String} {patterns : List String}
    {table : Option (PatternTable Unit)} (h : tableOf? (flagEntries list patterns) = .ok table)
    (token : String) : Classifier.claims table token = claimedBy patterns token := by
  have entries : (flagEntries list patterns).any (fun e => matchesToken e.pattern token) =
      claimedBy patterns token := by
    rw [flagEntries, List.any_filterMap, claimedBy,
      ← any_zipIdx (fun pattern => !pattern.isEmpty && matchesToken pattern token) patterns]
    refine List.any_congr rfl fun (pattern, index) => ?_
    cases hp : pattern.isEmpty <;> simp [hp]
  rcases tableOf?_eq_ok h with ⟨none, rfl⟩ | ⟨t, hb, rfl⟩
  · rw [← entries, none]
    rfl
  · rw [← entries]
    exact PatternTable.isMatch_of_build hb token

/-- An operator is claimed by the first operator pattern that matches it, with the precedences of
this one. Those of later patterns for the same token do not count. -/
theorem lookup?_operators {rules : List OperatorRule} {entries : List (Entry Precedence)}
    (h : operatorEntries rules = .ok entries) {table : Option (PatternTable Precedence)}
    (ht : tableOf? entries = .ok table) (token : String) :
    (table.bind (·.lookup? token)).map Prod.fst =
      (rules.find? fun rule => matchesToken rule.pattern token).map OperatorRule.precedence := by
  rw [lookup?_tableOf? ht]
  unfold operatorEntries at h
  split at h
  next => cases h
  next =>
    obtain rfl := Except.ok.inj h
    let value (rule : OperatorRule) : Option Precedence :=
      if matchesToken rule.pattern token then some rule.precedence else none
    calc _ = rules.zipIdx.findSome? (fun x => value x.1) := List.findSome?_map
      _ = rules.findSome? value := findSome?_zipIdx value rules
      _ = _ := ?_
    rw [List.find?_eq_findSome?_guard, List.map_findSome?]
    refine findSome?_congr fun rule _ => ?_
    cases matched : matchesToken rule.pattern token <;> simp [value, matched, Option.guard]

/-! ## Classifiers of a record -/

/-- What compiling a record makes of it: a table for each category, while the surround rules stay as
they are. Each of them has passed its check. -/
structure CompiledFrom (rules : RuleSet) (compiled : CompiledRules) : Prop where
  declared : ∀ rule ∈ rules.surround, rule.Declared
  surround : compiled.surround = rules.surround
  compoundLabels : tableOf? (flagEntries "compound-label-regexp" rules.compoundLabels) =
    .ok compiled.statics.compoundLabels
  simpleLabels : tableOf? (flagEntries "simple-label-regexp" rules.simpleLabels) =
    .ok compiled.statics.simpleLabels
  formPrefixes : tableOf? (flagEntries "form-prefix-regexp" rules.formPrefixes) =
    .ok compiled.statics.formPrefixes
  variableNames : tableOf? (flagEntries "variable-regexp" rules.variableNames) =
    .ok compiled.statics.variableNames
  operators : ∃ entries, operatorEntries rules.operators = .ok entries ∧
    tableOf? entries = .ok compiled.statics.operators

variable {rules : RuleSet} {compiled : CompiledRules}

/-- What has succeeded with its errors renamed has succeeded without. -/
theorem mapError_eq_ok {ε ε' β : Type} {f : ε → ε'} {x : Except ε β} {b : β}
    (h : x.mapError f = .ok b) : x = .ok b := by
  cases x with
  | error e => cases h
  | ok a => cases h; rfl

/-- A record that compiles gives rules that are compiled from it: the surround rules as they are and
declared, and a table for each list. What is said of compiled rules is said of this. -/
theorem compiledFrom_of_compile (h : compile rules = .ok compiled) :
    CompiledFrom rules compiled := by
  obtain ⟨_, hcheck, h⟩ := bind_eq_ok_iff.mp h
  obtain ⟨compoundLabels, hcompound, h⟩ := bind_eq_ok_iff.mp h
  obtain ⟨simpleLabels, hsimple, h⟩ := bind_eq_ok_iff.mp h
  obtain ⟨formPrefixes, hprefixes, h⟩ := bind_eq_ok_iff.mp h
  obtain ⟨variableNames, hvariables, h⟩ := bind_eq_ok_iff.mp h
  obtain ⟨entries, hentries, h⟩ := bind_eq_ok_iff.mp h
  obtain ⟨operators, hoperators, heq⟩ := bind_eq_ok_iff.mp h
  cases heq
  exact {
    declared := RuleSet.check_eq_ok_iff.mp (mapError_eq_ok hcheck)
    surround := rfl
    compoundLabels := mapError_eq_ok hcompound
    simpleLabels := mapError_eq_ok hsimple
    formPrefixes := mapError_eq_ok hprefixes
    variableNames := mapError_eq_ok hvariables
    operators := ⟨entries, mapError_eq_ok hentries, mapError_eq_ok hoperators⟩ }

/-- A rule that passed its check waits for no stream. -/
theorem SurroundRule.Declared.isDeferred {rule : SurroundRule} (h : rule.Declared) :
    Forms.isDeferred rule = false :=
  Forms.isDeferred_eq_false_iff.mpr fun none => (h none).2

/-- Binding compiled rules to a stream makes the tables of forms for it, and leaves all other tables
as they are. -/
theorem bind_eq_ok_iff_build {tokens : List String} {c : Classifier} :
    compiled.bind tokens = .ok c ↔
      c.statics = compiled.statics ∧ Forms.build compiled.surround tokens = .ok c.forms := by
  unfold CompiledRules.bind
  rw [bind_eq_ok_iff]
  constructor
  · rintro ⟨forms, hforms, heq⟩
    cases heq
    exact ⟨rfl, hforms⟩
  · rintro ⟨statics, hforms⟩
    obtain ⟨statics', forms⟩ := c
    exact ⟨forms, hforms, by rw [← statics]; rfl⟩

/-- Rules can be bound to a stream if the tables for it can be made. The other tables were made when
the record was compiled, so nothing else can fail. -/
theorem exists_bind_iff_build (made : CompiledFrom rules compiled) {tokens : List String} :
    (∃ c, compiled.bind tokens = .ok c) ↔ ∃ t, Forms.build rules.surround tokens = .ok t := by
  simp only [bind_eq_ok_iff_build, made.surround]
  constructor
  · rintro ⟨c, _, hc⟩
    exact ⟨c.forms, hc⟩
  · rintro ⟨t, ht⟩
    exact ⟨⟨compiled.statics, t⟩, rfl, ht⟩

section Bound

variable {tokens : List String} {c : Classifier} (made : CompiledFrom rules compiled)
include made

/-- No rule that was compiled waits for a stream. The tables of ends are thus the same whatever the
stream. -/
theorem CompiledFrom.isDeferred : ∀ rule ∈ rules.surround, Forms.isDeferred rule = false :=
  fun rule mem => (made.declared rule mem).isDeferred

/-- The tables of forms are those of the record's surround rules, for the stream that was bound. -/
theorem CompiledFrom.build (bound : compiled.bind tokens = .ok c) :
    Forms.build rules.surround tokens = .ok c.forms := by
  rw [← made.surround]
  exact (bind_eq_ok_iff_build.mp bound).2

/-- A start is the opening of a form, with what its rule has and has learnt for endings. Its
templates come first, then the tokens of the stream. -/
theorem exists_opening_of_lookupStart? (bound : compiled.bind tokens = .ok c) {token : String}
    {info : StartInfo} {groups : List String}
    (opens : c.forms.lookupStart? token = some (info, groups)) :
    ∃ index rule, Forms.opening? rules.surround token = some (index, rule, groups) ∧
      info = ⟨index, .ofList (rule.endings ++
        (Forms.learned rules.surround tokens index).map Template.ofLiteral)⟩ := by
  have start := Forms.lookupStart?_of_build (made.build bound) token
  rw [opens] at start
  obtain ⟨⟨index, rule, _⟩, ho, heq⟩ := Option.map_eq_some_iff.mp start.symm
  cases heq
  exact ⟨index, rule, ho, rfl⟩

/-- An end is what closes the forms of some rule, and it leads to the first such rule. -/
theorem lookupEnd?_of_bind (bound : compiled.bind tokens = .ok c) (token : String) :
    c.forms.lookupEnd? token = rules.surround.findIdx? fun rule => Forms.closes rule token :=
  Forms.lookupEnd?_of_build made.isDeferred (made.build bound) token

end Bound

/-- The classifier of a record for a stream, if there is one. -/
def bound? (rules : RuleSet) (tokens : List String) : Option Classifier :=
  (compile rules).toOption.bind fun compiled => (compiled.bind tokens).toOption

/-- A property of a bound classifier, which can be computed, holds of one that the record compiles
to. It serves for examples. -/
theorem exists_of_bound? {tokens : List String} (p : Classifier → Bool)
    (h : (bound? rules tokens).any p = true) :
    ∃ compiled c, compile rules = .ok compiled ∧ compiled.bind tokens = .ok c ∧ p c = true := by
  unfold bound? at h
  cases hc : compile rules with
  | error e =>
    rw [hc] at h
    cases h
  | ok compiled =>
    rw [hc] at h
    cases hb : compiled.bind tokens with
    | error e => simp [Except.toOption, hb] at h
    | ok c =>
      refine ⟨compiled, c, rfl, hb, ?_⟩
      simpa [Except.toOption, hb] using h

/-- The end tokens that a start lists are those that the record gives it, in the same order and
without repeats. -/
theorem endTokens_eq {rules : List SurroundRule} {index : Nat} {rule : SurroundRule}
    (h : rules[index]? = some rule) (tokens groups : List String) :
    StartInfo.endTokens ⟨index, .ofList (rule.endings ++
        (Forms.learned rules tokens index).map Template.ofLiteral)⟩ groups =
      endTokens rules tokens index rule groups := by
  unfold StartInfo.endTokens endTokens
  cases he : rule.endings with
  | nil =>
    rw [List.nil_append]
    exact Endings.tokens_ofList_literals _ groups
  | cons template rest =>
    rw [← he, Forms.learned_eq_nil h (by simp [he]), List.map_nil, List.append_nil,
      Endings.tokens_ofList, if_neg (by simp [he])]

/-- A classifier reads every token as its record has it: what `RuleSet.meaning` says of the token,
without tables, is what the classifier finds with them. The tokens of the stream enter only through
what rules have learnt, so the token that is read need not be one of them. -/
theorem classify_eq_meaning (h : compile rules = .ok compiled) {tokens : List String}
    {c : Classifier} (bound : compiled.bind tokens = .ok c) (token : String) :
    c.classify token = rules.meaning tokens token := by
  have made := compiledFrom_of_compile h
  obtain ⟨statics, forms⟩ := bind_eq_ok_iff_build.mp bound
  rw [made.surround] at forms
  have declared : ∀ rule ∈ rules.surround, Forms.isDeferred rule = false :=
    fun rule mem => (made.declared rule mem).isDeferred
  obtain ⟨entries, hentries, hoperators⟩ := made.operators
  unfold Classifier.classify RuleSet.meaning
  rw [statics, claims_tableOf? made.compoundLabels, claims_tableOf? made.simpleLabels,
    claims_tableOf? made.formPrefixes, claims_tableOf? made.variableNames,
    Forms.lookupStart?_of_build forms, Forms.lookupEnd?_of_build declared forms]
  cases ho : Forms.opening? rules.surround token with
  | some opened =>
    obtain ⟨index, rule, groups⟩ := opened
    have listed := endTokens_eq (Forms.getElem?_of_opening? ho).1 tokens groups
    simp only [Option.map_some, listed]
  | none =>
    have operator := lookup?_operators hentries hoperators token
    simp only [Option.map_none, List.findIdx?_isSome]
    cases hf : rules.operators.find? fun rule => matchesToken rule.pattern token with
    | none =>
      rw [hf, Option.map_none, Option.map_eq_none_iff] at operator
      rw [operator]
    | some rule =>
      rw [hf, Option.map_some] at operator
      obtain ⟨hit, hhit, hp⟩ := Option.map_eq_some_iff.mp operator
      rw [hhit]
      simp only [hp]

/-- A record with forms of both kinds: those that are closed by templates, and those whose endings
are learnt. -/
def loopRules : RuleSet where
  surround := [{ start := "if|while", endings := ["end$0", "end"] },
    { start := "begin", stop := some "stop.*" }]
  operators := [{ pattern := "=", precedence := { between := 990 } }]
  variableNames := ["[a-z]+"]

/-- In this stream the start lists what its rule has learnt, and the classifier reads it so. -/
theorem classify_eq_meaning_loopRules :
    ∃ compiled c, compile loopRules = .ok compiled ∧
      compiled.bind ["begin", "while", "stop", "endwhile", "stop_all", "stop"] = .ok c ∧
      c.classify "begin" = loopRules.meaning
        ["begin", "while", "stop", "endwhile", "stop_all", "stop"] "begin" := by
  obtain ⟨compiled, c, h, bound, _⟩ := @exists_of_bound? loopRules
    ["begin", "while", "stop", "endwhile", "stop_all", "stop"] (fun _ => true) (by decide +kernel)
  exact ⟨compiled, c, h, bound, classify_eq_meaning h bound "begin"⟩

example : loopRules.meaning ["begin", "while", "stop", "endwhile", "stop_all", "stop"] "begin" =
    .start ["stop", "stop_all"] := by
  decide +kernel

end TokenClassifier
