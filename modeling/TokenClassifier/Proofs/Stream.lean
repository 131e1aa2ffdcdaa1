import TokenClassifier.Proofs.Classification

/-!
# What a stream can change

Binding the same rules to two streams gives two classifiers that differ in one respect only. The
tables of labels, prefixes, operators and variables are those of the rules, so a token can only be
read differently as the start of a form, and there only in the endings that its rule has learnt
(`bind_streams`).

This rests on the check of the rules: a rule either has an end pattern or can tell all of its ends
without the stream, so the pass that looks for ends in the stream has nothing to do.
-/

namespace TokenClassifier

/-! ## Where the stream comes in -/

/-- The categories that are asked before starts and ends. -/
def StaticTables.before? (s : StaticTables) (token : String) : Option Classification :=
  if Classifier.claims s.compoundLabels token then some .compound
  else if Classifier.claims s.simpleLabels token then some .label
  else if Classifier.claims s.formPrefixes token then some .formPrefix
  else none

/-- The categories that are asked after starts and ends. -/
def StaticTables.after (s : StaticTables) (token : String) : Classification :=
  match s.operators.bind (·.lookup? token) with
  | some (p, _) => .operator p
  | none => if Classifier.claims s.variableNames token then .variableName else .unclassified

/-- What the tables of forms say of a token. -/
def FormTables.classify? (t : FormTables) (token : String) : Option Classification :=
  match t.lookupStart? token with
  | some (info, groups) => some (.start (info.endTokens groups))
  | none => if (t.lookupEnd? token).isSome then some .stop else none

/-- Only the tables of forms know the stream. What is asked before them and after them is the same
for all streams. -/
theorem Classifier.classify_eq (c : Classifier) (token : String) :
    c.classify token =
      ((c.statics.before? token).or (c.forms.classify? token)).getD (c.statics.after token) := by
  unfold classify StaticTables.before? FormTables.classify? StaticTables.after
  by_cases compound : claims c.statics.compoundLabels token = true
  · simp [compound]
  by_cases simple : claims c.statics.simpleLabels token = true
  · simp [compound, simple]
  by_cases formPrefix : claims c.statics.formPrefixes token = true
  · simp [compound, simple, formPrefix]
  simp only [compound, simple, formPrefix]
  cases c.forms.lookupStart? token with
  | some opened => rfl
  | none =>
    cases c.forms.lookupEnd? token with
    | some rule => rfl
    | none => rfl

/-- The categories before the forms never make a token a start. -/
theorem StaticTables.before?_ne_start (s : StaticTables) (token : String) (endings : List String) :
    s.before? token ≠ some (.start endings) := by
  unfold before?
  repeat' split
  all_goals simp

/-- Neither do those behind them. -/
theorem StaticTables.after_ne_start (s : StaticTables) (token : String) (endings : List String) :
    s.after token ≠ .start endings := by
  unfold after
  repeat' split
  all_goals simp

/-- A token is read as a start exactly if no earlier category claims it and it opens a form. The end
tokens are those of the row that it leads to. -/
theorem Classifier.classify_eq_start_iff {c : Classifier} {token : String} {endings : List String} :
    c.classify token = .start endings ↔ c.statics.before? token = none ∧
      ∃ info groups, c.forms.lookupStart? token = some (info, groups) ∧
        info.endTokens groups = endings := by
  rw [classify_eq]
  cases hb : c.statics.before? token with
  | some category =>
    refine iff_of_false (fun h => ?_) (by simp)
    have e : category = .start endings := h
    exact StaticTables.before?_ne_start _ _ _ (e ▸ hb)
  | none =>
    rw [Option.none_or, FormTables.classify?]
    cases c.forms.lookupStart? token with
    | some opened =>
      obtain ⟨info, groups⟩ := opened
      simp
    | none =>
      dsimp only
      refine iff_of_false (fun h => ?_) (by simp)
      split at h
      next => cases h
      next => exact StaticTables.after_ne_start _ _ _ h

/-! ## Two streams -/

/-- Two classifiers read a token alike, but for endings that a rule has learnt. -/
structure SameButLearnt (rules : List SurroundRule) (c d : Classifier) (token : String) : Prop where
  code : (c.classify token).code = (d.classify token).code
  precedence : ∀ p, c.classify token = .operator p ↔ d.classify token = .operator p
  stop : c.forms.lookupEnd? token = d.forms.lookupEnd? token
  /-- If the one reads a start, the other reads a start of the same rule, with the same end tokens
  unless the rule learns its endings. -/
  start : ∀ endings, c.classify token = .start endings →
    ∃ info groups info' groups' rule,
      c.forms.lookupStart? token = some (info, groups) ∧
      d.forms.lookupStart? token = some (info', groups') ∧
      info'.rule = info.rule ∧ rules[info.rule]? = some rule ∧
      endings = info.endTokens groups ∧ d.classify token = .start (info'.endTokens groups') ∧
      (info'.endTokens groups' = endings ∨ rule.endPattern?.isSome = true ∧ rule.endings = [])

variable {rules : RuleSet} {compiled : CompiledRules}

/-- Classifiers for two streams have the same tables but for what rules have learnt. Ends are the
same because no rule is deferred, and all other tables because they were made before any stream. -/
theorem sameButLearnt (made : CompiledFrom rules compiled) {ts us : List String} {c d : Classifier}
    (hc : compiled.bind ts = .ok c) (hd : compiled.bind us = .ok d) (token : String) :
    SameButLearnt rules.surround c d token := by
  have statics := (bind_eq_ok_iff_build.mp hc).1
  have statics' := (bind_eq_ok_iff_build.mp hd).1
  have stop : c.forms.lookupEnd? token = d.forms.lookupEnd? token := by
    rw [lookupEnd?_of_bind made hc, lookupEnd?_of_bind made hd]
  have start := Forms.lookupStart?_of_build (made.build hc) token
  have start' := Forms.lookupStart?_of_build (made.build hd) token
  have reads := c.classify_eq token
  have reads' := d.classify_eq token
  rw [statics] at reads
  rw [statics'] at reads'
  unfold FormTables.classify? at reads reads'
  refine { code := ?_, precedence := ?_, stop, start := ?_ }
  · rw [reads, reads', start, start', stop]
    cases Forms.opening? rules.surround token with
    | none => rfl
    | some opened => cases compiled.statics.before? token <;> rfl
  · intro p
    rw [reads, reads', start, start', stop]
    cases Forms.opening? rules.surround token with
    | none => rfl
    | some opened => cases compiled.statics.before? token <;> simp
  · intro endings h
    obtain ⟨unclaimed, info, groups, opens, rfl⟩ := Classifier.classify_eq_start_iff.mp h
    obtain ⟨index, rule, ho, rfl⟩ := exists_opening_of_lookupStart? made hc opens
    rw [ho] at start'
    have at' := (Forms.getElem?_of_opening? ho).1
    refine ⟨_, groups, _, groups, rule, opens, start', rfl, at', rfl, ?_, ?_⟩
    · rw [Classifier.classify_eq_start_iff, statics', ← statics]
      exact ⟨unclaimed, _, groups, start', rfl⟩
    · by_cases learns : rule.endings = []
      · refine .inr ⟨?_, learns⟩
        have told := made.declared rule (List.mem_of_getElem? at')
        rw [Option.isSome_iff_ne_none]
        exact fun none => (told none).1 learns
      · -- a rule with templates learns nothing from either stream
        rw [Forms.learned_eq_nil at' learns, Forms.learned_eq_nil at' learns]
        exact .inl rfl

/-- What a stream can influence: not whether the rules can be bound to it, and of what they tell
about a token, only endings that a rule without templates has learnt. No rule waits for the pass
that looks for ends in the stream. -/
theorem bind_streams (h : compile rules = .ok compiled) (ts us : List String) :
    ((∃ c, compiled.bind ts = .ok c) ↔ ∃ d, compiled.bind us = .ok d) ∧
    (∀ c d, compiled.bind ts = .ok c → compiled.bind us = .ok d →
      c.forms.endPatternCount = d.forms.endPatternCount ∧
        ∀ token, SameButLearnt rules.surround c d token) ∧
    (∀ rule ∈ rules.surround, Forms.isDeferred rule = false) ∧
    ∀ starts, Forms.foundEntries rules.surround starts ts = [] := by
  have made := compiledFrom_of_compile h
  have declared : ∀ rule ∈ rules.surround, Forms.isDeferred rule = false :=
    fun rule mem => (made.declared rule mem).isDeferred
  refine ⟨?_, ?_, declared, fun starts => Forms.foundEntries_eq_nil declared starts ts⟩
  · rw [exists_bind_iff_build made, exists_bind_iff_build made, Forms.exists_build_iff,
      Forms.exists_build_iff]
  · intro c d hc hd
    have forms := (bind_eq_ok_iff_build.mp hc).2
    have forms' := (bind_eq_ok_iff_build.mp hd).2
    rw [made.surround] at forms forms'
    refine ⟨?_, sameButLearnt made hc hd⟩
    rw [Forms.endPatternCount_of_build declared forms,
      Forms.endPatternCount_of_build declared forms']

/-- The second stream has something to learn from, and the first one nothing. -/
theorem bind_streams_loopRules :
    ∃ compiled c d, compile loopRules = .ok compiled ∧ compiled.bind [] = .ok c ∧
      compiled.bind ["begin", "stop"] = .ok d ∧
      ∀ token, SameButLearnt loopRules.surround c d token := by
  obtain ⟨compiled, c, h, hc, _⟩ :=
    @exists_of_bound? loopRules [] (fun _ => true) (by decide +kernel)
  obtain ⟨bindable, alike, _⟩ := bind_streams h [] ["begin", "stop"]
  obtain ⟨d, hd⟩ := bindable.mp ⟨c, hc⟩
  exact ⟨compiled, c, d, h, hc, hd, (alike c d hc hd).2⟩

end TokenClassifier
