import TokenClassifier.Proofs.Forms
import TokenClassifier.Proofs.Registration

/-!
# Every index is in range

The tables refer to rules by their indices, and a table refers to its own columns by place. Rules
are left out of some tables and come into others in the order of the stream, so that places in a
table and indices of rules have nothing to do with each other. Where an index leads nowhere, the
definitions pass over it: a token is not looked up any further, and nothing is learnt or found.

Here the same work is done with strict indices: one that leads nowhere halts it. Making the tables
for a stream never halts that way, whatever the rules and the stream are, nor does a look-up in them
(`indices_inRange`).

Two invariants carry this. The columns of a table stay in step (`PatternTable.InStep`), so that every
place that is hit is there in each of them. And the rows of what is known about the rules keep their
numbers while tokens are learnt (`map_rule_learnAll`), so that an index of a rule is one of a row.
-/

namespace TokenClassifier

open Regex

/-! ## Strict indices -/

/-- Why work with strict indices ends without a result. -/
inductive Halt where
  /-- A pattern does not compile. -/
  | pattern (e : PatternError)
  /-- An index leads nowhere: there are only `size` members. -/
  | outOfRange (index size : Nat)
  deriving DecidableEq, Repr

section Members

variable {α : Type}

/-- The member at an index, which has to be in range. -/
def memberAt (xs : List α) (index : Nat) : Except Halt α :=
  match xs[index]? with
  | some a => .ok a
  | none => .error (.outOfRange index xs.length)

/-- The list with another member at an index, which has to be in range. -/
def replaceAt (xs : List α) (index : Nat) (a : α) : Except Halt (List α) :=
  if index < xs.length then .ok (xs.set index a) else .error (.outOfRange index xs.length)

/-- Where a row has a member at an index, taking it strictly gives the member. -/
theorem memberAt_of_getElem? {xs : List α} {index : Nat} {a : α} (h : xs[index]? = some a) :
    memberAt xs index = .ok a := by
  rw [memberAt, h]

/-- Where an index is in range, replacing there strictly replaces. -/
theorem replaceAt_of_lt {xs : List α} {index : Nat} (h : index < xs.length) (a : α) :
    replaceAt xs index a = .ok (xs.set index a) := if_pos h

end Members

/-! ## Looking up -/

namespace PatternTable

variable {α : Type}

/-- Looks up a token with strict places. -/
def lookupStrict? (t : PatternTable α) (token : String) :
    Except Halt (Option (α × List String)) :=
  match (t.set.hits token).head? with
  | none => .ok none
  | some place => do
    let pattern ← memberAt t.patterns place
    match pattern.captures? token with
    | none => return none
    | some groups =>
      let value ← memberAt t.values place
      return some (value, groups)

variable {entries : List (Entry α)} {t : PatternTable α}

/-- A place that is hit is there in each column, since the columns of a table that was built are of
one length. -/
theorem lt_of_mem_hits (h : build entries = .ok t) {token : String} {place : Nat}
    (hit : place ∈ t.set.hits token) : place < t.patterns.length ∧ place < t.values.length := by
  have inStep := build_eq_ok_iff.mp h
  rw [inStep.set, PatternSet.hits, List.mem_filterMap] at hit
  obtain ⟨⟨p, i⟩, mem, hit⟩ := hit
  dsimp only at hit
  split at hit
  next =>
    obtain rfl := Option.some.inj hit
    have lt := (List.mem_zipIdx' mem).1
    refine ⟨lt, ?_⟩
    rwa [inStep.values, List.length_map, inStep.patterns.length_eq]
  next => cases hit

/-- In a table that was built, looking up with strict indices is never halted and finds the same. -/
theorem lookupStrict?_of_build (h : build entries = .ok t) (token : String) :
    t.lookupStrict? token = .ok (t.lookup? token) := by
  unfold lookupStrict? lookup?
  cases hplace : (t.set.hits token).head? with
  | none => rfl
  | some place =>
    obtain ⟨ltPatterns, ltValues⟩ := lt_of_mem_hits h (List.mem_of_head? hplace)
    have pattern := List.getElem?_eq_getElem ltPatterns
    have value := List.getElem?_eq_getElem ltValues
    simp only [memberAt_of_getElem? pattern, ok_bind, pattern, Option.bind_eq_bind,
      Option.bind_some]
    cases t.patterns[place].captures? token with
    | none => rfl
    | some groups =>
      simp only [memberAt_of_getElem? value, ok_bind, value, Option.bind_some]
      rfl

/-- A token leads to a value that was registered. Whatever all the values have, the one that is
found has. -/
theorem mem_values_of_lookup? {token : String} {value : α} {groups : List String}
    (h : t.lookup? token = some (value, groups)) : value ∈ t.values := by
  obtain ⟨place, _, h⟩ := Option.bind_eq_some_iff.mp h
  obtain ⟨pattern, _, h⟩ := Option.bind_eq_some_iff.mp h
  obtain ⟨groups', _, h⟩ := Option.bind_eq_some_iff.mp h
  obtain ⟨value', at', heq⟩ := Option.bind_eq_some_iff.mp h
  cases heq
  exact List.mem_of_getElem? at'

end PatternTable

namespace FormTables

/-- What is known about the form that a token opens, with strict indices. -/
def lookupStartStrict? (t : FormTables) (token : String) :
    Except Halt (Option (StartInfo × List String)) := do
  match ← t.starts.lookupStrict? token with
  | none => return none
  | some (rule, groups) =>
    let info ← memberAt t.infos rule
    return some (info, groups)

/-- The rule whose form a token closes, with strict indices. -/
def lookupEndStrict? (t : FormTables) (token : String) : Except Halt (Option Nat) := do
  let hit ← t.ends.lookupStrict? token
  return hit.map (·.1)

end FormTables

namespace Forms

/-! ## Making the tables -/

/-- Learns from one token, with strict indices. -/
def learnStrict (table : PatternTable Nat) (infos : List StartInfo) (token : String) :
    Except Halt (List StartInfo) := do
  match ← table.lookupStrict? token with
  | none => return infos
  | some (rule, _) =>
    let info ← memberAt infos rule
    replaceAt infos rule { info with endings := Endings.insertLiteral info.endings token }

/-- Learns from a stream, with strict indices. -/
def learnAllStrict (table : PatternTable Nat) (infos : List StartInfo) (tokens : List String) :
    Except Halt (List StartInfo) :=
  tokens.foldlM (learnStrict table) infos

/-- Marks a rule at its index, if it is deferred. -/
def mark (marks : List Bool) : SurroundRule × Nat → Except Halt (List Bool)
  | (rule, index) => if isDeferred rule then replaceAt marks index true else .ok marks

/-- Marks the deferred rules. At first no rule is marked. -/
def markDeferred (rules : List SurroundRule) : Except Halt (List Bool) :=
  rules.zipIdx.foldlM mark (List.replicate rules.length false)

/-- The tokens that close what one token opens, if its rule is marked, with strict indices. -/
def foundForStrict (rules : List SurroundRule) (marks : List Bool) (starts : PatternTable Nat)
    (token : String) : Except Halt (List (String × Nat × Nat)) := do
  match ← starts.lookupStrict? token with
  | none => return []
  | some (index, groups) =>
    if ← memberAt marks index then
      let rule ← memberAt rules index
      return rule.endings.zipIdx.map fun (template, j) =>
        (Template.expand template groups, index, j)
    else return []

/-- Makes the tables for a stream, with strict indices. -/
def buildStrict (rules : List SurroundRule) (tokens : List String) : Except Halt FormTables := do
  let starts ← (PatternTable.build (startEntries rules)).mapError .pattern
  let inference ← (PatternTable.build (inferenceEntries rules)).mapError .pattern
  let infos ← learnAllStrict inference (declaredInfos rules) tokens
  let marks ← markDeferred rules
  let found ← tokens.mapM (foundForStrict rules marks starts)
  let entries := (keepFirst [] found.flatten).map fun (token, index, j) =>
    ⟨Regex.escape token, index, .ending index j⟩
  let ends ← (PatternTable.build (declaredEntries rules ++ entries)).mapError .pattern
  return ⟨starts, infos, ends⟩

/-! ## Values of entries -/

variable {rules : List SurroundRule} {table : PatternTable Nat} {tokens : List String}
  {t : FormTables}

/-- An entry of the table of starts bears the index of a rule with a start pattern. -/
theorem value_of_mem_startEntries {e : Entry Nat} (mem : e ∈ startEntries rules) :
    ∃ rule, rules[e.value]? = some rule ∧ rule.start ≠ "" := by
  obtain ⟨⟨rule, index⟩, memRules, h⟩ := List.mem_filterMap.mp mem
  have at' := List.mem_zipIdx_iff_getElem?.mp memRules
  unfold entryOfStart? at h
  dsimp only at h at'
  split at h
  next => cases h
  next nonempty =>
    obtain rfl := Option.some.inj h
    exact ⟨rule, at', by simpa using nonempty⟩

/-- The entry of an end bears the index of its rule, which has an end pattern. -/
theorem value_of_entryOfEnd? {rule : SurroundRule} {index : Nat} {e : Entry Nat}
    (h : entryOfEnd? rule index = some e) : e.value = index ∧ rule.endPattern?.isSome = true := by
  obtain ⟨stop, hp, rfl⟩ := Option.map_eq_some_iff.mp h
  exact ⟨rfl, by rw [hp]; rfl⟩

/-- An entry of the table that is learnt with bears the index of a rule that learns: it has an end
pattern and no templates. -/
theorem value_of_mem_inferenceEntries {e : Entry Nat} (mem : e ∈ inferenceEntries rules) :
    ∃ rule, rules[e.value]? = some rule ∧ rule.endPattern?.isSome = true ∧ rule.endings = [] := by
  obtain ⟨⟨rule, index⟩, memRules, h⟩ := List.mem_filterMap.mp mem
  have at' := List.mem_zipIdx_iff_getElem?.mp memRules
  dsimp only at h at'
  split at h
  next none =>
    obtain ⟨rfl, stops⟩ := value_of_entryOfEnd? h
    exact ⟨rule, at', stops, List.isEmpty_iff.mp none⟩
  next => cases h

/-- The entry of a template bears the index of its rule, whichever kind of template it is. -/
theorem value_of_entryOfTemplate? {rule : SurroundRule} {index j : Nat} {template : String}
    {e : Entry Nat} (h : entryOfTemplate? rule index template j = some e) : e.value = index := by
  unfold entryOfTemplate? at h
  split at h
  next => rw [← Option.some.inj h]
  next => rw [← Option.some.inj h]
  next => cases h

/-- An entry of a rule bears its index, and it comes from its end pattern or from a template. So a
rule with neither has no entry. -/
theorem value_of_mem_ruleEntries {rule : SurroundRule} {index : Nat} {e : Entry Nat}
    (mem : e ∈ ruleEntries rule index) :
    e.value = index ∧ (rule.endPattern?.isSome = true ∨ rule.endings ≠ []) := by
  unfold ruleEntries at mem
  split at mem
  next entry h =>
    obtain rfl := List.mem_singleton.mp mem
    obtain ⟨value, stops⟩ := value_of_entryOfEnd? h
    exact ⟨value, .inl stops⟩
  next =>
    obtain ⟨⟨template, j⟩, memTemplates, h⟩ := List.mem_filterMap.mp mem
    have value := value_of_entryOfTemplate? h
    exact ⟨value, .inr (List.ne_nil_of_mem (List.fst_mem_of_mem_zipIdx memTemplates))⟩

/-- An entry of the rules themselves in the table of ends bears the index of a rule with an end
pattern or with templates. -/
theorem value_of_mem_declaredEntries {e : Entry Nat} (mem : e ∈ declaredEntries rules) :
    ∃ rule, rules[e.value]? = some rule ∧
      (rule.endPattern?.isSome = true ∨ rule.endings ≠ []) := by
  obtain ⟨⟨rule, index⟩, memRules, mem⟩ := List.mem_flatMap.mp mem
  obtain ⟨rfl, has⟩ := value_of_mem_ruleEntries mem
  exact ⟨rule, List.mem_zipIdx_iff_getElem?.mp memRules, has⟩

/-- What is found for a token bears the index of a rule with templates. -/
theorem value_of_mem_foundFor {token e : String} {index j : Nat}
    (mem : (e, index, j) ∈ foundFor rules table token) :
    ∃ rule, rules[index]? = some rule ∧ rule.endings ≠ [] := by
  unfold foundFor at mem
  split at mem
  next => cases mem
  next first groups _ =>
    split at mem
    next => cases mem
    next rule at' =>
      split at mem
      next =>
        obtain ⟨⟨template, j⟩, memTemplates, heq⟩ := List.mem_map.mp mem
        cases heq
        exact ⟨rule, at', List.ne_nil_of_mem (List.fst_mem_of_mem_zipIdx memTemplates)⟩
      next => cases mem

/-- Only entries that were there are kept, whatever tokens are known before. -/
theorem keepFirst_subset (known : List String) (xs : List (String × Nat × Nat)) :
    keepFirst known xs ⊆ xs := by
  induction xs generalizing known with
  | nil => exact List.Subset.refl []
  | cons x xs ih =>
    obtain ⟨token, place⟩ := x
    rw [keepFirst]
    split
    next => exact List.subset_cons_of_subset _ (ih known)
    next => exact List.cons_subset_cons _ (ih _)

/-- An entry that the stream adds bears the index of a rule with templates. -/
theorem value_of_mem_foundEntries {e : Entry Nat} (mem : e ∈ foundEntries rules table tokens) :
    ∃ rule, rules[e.value]? = some rule ∧ rule.endings ≠ [] := by
  obtain ⟨⟨token, index, j⟩, kept, rfl⟩ := List.mem_map.mp mem
  obtain ⟨_, _, mem⟩ := List.mem_flatMap.mp (keepFirst_subset _ _ kept)
  exact value_of_mem_foundFor mem

/-- If each entry bears the index of a rule with some property, then so does each value. The three
tables differ only in the property. -/
theorem forall_mem_values {entries : List (Entry Nat)} {p : SurroundRule → Prop}
    (h : PatternTable.build entries = .ok table)
    (all : ∀ e ∈ entries, ∃ rule, rules[e.value]? = some rule ∧ p rule) :
    ∀ value ∈ table.values, ∃ _ : value < rules.length, p rules[value] := by
  rw [(PatternTable.build_eq_ok_iff.mp h).values, List.forall_mem_map]
  intro e mem
  obtain ⟨rule, at', holds⟩ := all e mem
  obtain ⟨lt, rfl⟩ := List.getElem?_eq_some_iff.mp at'
  exact ⟨lt, holds⟩

/-- The values in the table of starts are indices of rules with start patterns. -/
theorem forall_mem_values_starts (h : PatternTable.build (startEntries rules) = .ok table) :
    ∀ value ∈ table.values, ∃ _ : value < rules.length, rules[value].start ≠ "" :=
  forall_mem_values h fun _ => value_of_mem_startEntries

/-- The values in the table that is learnt with are indices of rules that learn. -/
theorem forall_mem_values_inference
    (h : PatternTable.build (inferenceEntries rules) = .ok table) :
    ∀ value ∈ table.values, ∃ _ : value < rules.length,
      rules[value].endPattern?.isSome = true ∧ rules[value].endings = [] :=
  forall_mem_values (p := fun rule => rule.endPattern?.isSome = true ∧ rule.endings = []) h
    fun _ => value_of_mem_inferenceEntries

/-- The values in the table of ends are indices of rules that have an end pattern or templates,
those of the stream included. -/
theorem forall_mem_values_ends {starts : PatternTable Nat}
    (h : PatternTable.build (declaredEntries rules ++ foundEntries rules starts tokens) =
      .ok table) :
    ∀ value ∈ table.values, ∃ _ : value < rules.length,
      rules[value].endPattern?.isSome = true ∨ rules[value].endings ≠ [] := by
  refine forall_mem_values (p := fun rule => rule.endPattern?.isSome = true ∨ rule.endings ≠ []) h
    fun e mem => ?_
  rcases List.mem_append.mp mem with declared | found
  · exact value_of_mem_declaredEntries declared
  · obtain ⟨rule, at', templates⟩ := value_of_mem_foundEntries found
    exact ⟨rule, at', .inr templates⟩

/-! ## Learning -/

/-- Learning from a token leaves the rows in their places: what changes is what one of them has
learnt. -/
theorem map_rule_learn (infos : List StartInfo) (token : String) :
    (learn table infos token).map StartInfo.rule = infos.map StartInfo.rule := by
  unfold learn
  split
  next rule groups _ =>
    refine List.ext_getElem? fun index => ?_
    rw [List.getElem?_map, List.getElem?_map, List.getElem?_modify]
    split <;> simp [Function.comp_def]
  next => rfl

/-- Learning from a stream leaves the rows in their places. By induction on the tokens. -/
theorem map_rule_learnAll (infos : List StartInfo) (tokens : List String) :
    (learnAll table infos tokens).map StartInfo.rule = infos.map StartInfo.rule := by
  unfold learnAll
  induction tokens generalizing infos with
  | nil => rfl
  | cons token tokens ih => rw [List.foldl_cons, ih, map_rule_learn]

/-- To begin with, there is a row for each rule, with its index. -/
theorem map_rule_declaredInfos (rules : List SurroundRule) :
    (declaredInfos rules).map StartInfo.rule = List.range rules.length := by
  rw [declaredInfos, List.map_map]
  exact (List.zipIdx_map_snd 0 rules).trans List.range_eq_range'.symm

/-- Where there is a row for each rule, there is one for the rule that learns a token. So learning
from a token with strict indices is not halted, and ends with the same rows. -/
theorem learnStrict_eq (h : PatternTable.build (inferenceEntries rules) = .ok table)
    {infos : List StartInfo} (rows : infos.map StartInfo.rule = List.range rules.length)
    (token : String) : learnStrict table infos token = .ok (learn table infos token) := by
  rw [learnStrict, PatternTable.lookupStrict?_of_build h, ok_bind, learn]
  cases hit : table.lookup? token with
  | none => rfl
  | some found =>
    obtain ⟨index, groups⟩ := found
    obtain ⟨lt, _⟩ :=
      forall_mem_values_inference h index (PatternTable.mem_values_of_lookup? hit)
    have length : infos.length = rules.length := by simpa using congrArg List.length rows
    have row : index < infos.length := length ▸ lt
    dsimp only
    rw [memberAt_of_getElem? (List.getElem?_eq_getElem row), ok_bind, replaceAt_of_lt row,
      List.modify_eq_set_getElem?, List.getElem?_eq_getElem row]
    rfl

/-- Nor is learning from a stream. By induction on the tokens, since the rows stay where they
are. -/
theorem learnAllStrict_eq (h : PatternTable.build (inferenceEntries rules) = .ok table)
    {infos : List StartInfo} (rows : infos.map StartInfo.rule = List.range rules.length)
    (tokens : List String) :
    learnAllStrict table infos tokens = .ok (learnAll table infos tokens) := by
  unfold learnAllStrict learnAll
  induction tokens generalizing infos with
  | nil => rfl
  | cons token tokens ih =>
    rw [List.foldlM_cons, learnStrict_eq h rows, ok_bind, List.foldl_cons,
      ih ((map_rule_learn infos token).trans rows)]

/-! ## Deferred rules -/

/-- The marks of the rules that come before are settled, and there is a place for the mark of each
rule to come. By induction on the rules to come. -/
theorem foldlM_mark (settled : List Bool) (rules : List SurroundRule) :
    (rules.zipIdx settled.length).foldlM mark (settled ++ List.replicate rules.length false) =
      .ok (settled ++ rules.map isDeferred) := by
  induction rules generalizing settled with
  | nil => rfl
  | cons rule rules ih =>
    have step : mark (settled ++ List.replicate (rules.length + 1) false) (rule, settled.length) =
        .ok ((settled ++ [isDeferred rule]) ++ List.replicate rules.length false) := by
      rw [mark]
      cases isDeferred rule with
      | false => simp [List.replicate_succ]
      | true =>
        rw [if_pos rfl, replaceAt_of_lt (by simp)]
        simp [List.replicate_succ]
    rw [List.zipIdx_cons, List.foldlM_cons, List.length_cons, step, ok_bind]
    simpa using ih (settled ++ [isDeferred rule])

/-- Marking the deferred rules is not halted, and marks just these. -/
theorem markDeferred_eq (rules : List SurroundRule) :
    markDeferred rules = .ok (rules.map isDeferred) := foldlM_mark [] rules

/-- What a token adds is found with strict indices too: a rule that its start leads to has a mark
and is there. -/
theorem foundForStrict_eq (h : PatternTable.build (startEntries rules) = .ok table)
    (token : String) :
    foundForStrict rules (rules.map isDeferred) table token = .ok (foundFor rules table token) := by
  rw [foundForStrict, PatternTable.lookupStrict?_of_build h, ok_bind, foundFor]
  cases hit : table.lookup? token with
  | none => rfl
  | some found =>
    obtain ⟨index, groups⟩ := found
    obtain ⟨lt, _⟩ := forall_mem_values_starts h index (PatternTable.mem_values_of_lookup? hit)
    have at' : rules[index]? = some rules[index] := List.getElem?_eq_getElem lt
    have marked : (rules.map isDeferred)[index]? = some (isDeferred rules[index]) := by
      rw [List.getElem?_map, at', Option.map_some]
    dsimp only
    rw [memberAt_of_getElem? marked, ok_bind, at']
    dsimp only
    split
    next => rw [memberAt_of_getElem? at']; rfl
    next => rfl

/-! ## All tables -/

/-- Work with strict indices ends as it does without, for a pattern that does not compile or with
the tables. No hypothesis is needed: where a table cannot be built, what would index it is not
reached. -/
theorem buildStrict_eq (rules : List SurroundRule) (tokens : List String) :
    buildStrict rules tokens = (build rules tokens).mapError .pattern := by
  -- what comes between the tables looks up only, and goes through
  refine mapError_bind fun starts hstarts => mapError_bind fun inference hinference => ?_
  have found : tokens.mapM (foundForStrict rules (rules.map isDeferred) starts) =
      .ok (tokens.map (foundFor rules starts)) := by
    rw [mapM_eq_ok_iff, List.forall₂_map_right_iff, List.forall₂_same]
    exact fun token _ => foundForStrict_eq hstarts token
  rw [learnAllStrict_eq hinference (map_rule_declaredInfos rules), ok_bind, markDeferred_eq,
    ok_bind, found, ok_bind]
  exact mapError_bind fun ends _ => rfl

/-- The rows of what is known about the rules bear the indices of the rules, in order, after
learning from any stream. -/
theorem map_rule_infos (h : build rules tokens = .ok t) :
    t.infos.map StartInfo.rule = List.range rules.length := by
  obtain ⟨inference, _, _, hinfos, _⟩ := build_eq_ok_iff.mp h
  rw [hinfos, map_rule_learnAll, map_rule_declaredInfos]

/-- In the tables for a stream, looking up a start is not halted: the index found is that of a
row. -/
theorem lookupStartStrict?_of_build (h : build rules tokens = .ok t) (token : String) :
    t.lookupStartStrict? token = .ok (t.lookupStart? token) := by
  obtain ⟨_, hstarts, _, _, _⟩ := build_eq_ok_iff.mp h
  rw [FormTables.lookupStartStrict?, PatternTable.lookupStrict?_of_build hstarts, ok_bind,
    FormTables.lookupStart?]
  cases hit : t.starts.lookup? token with
  | none => rfl
  | some found =>
    obtain ⟨index, groups⟩ := found
    obtain ⟨lt, _⟩ :=
      forall_mem_values_starts hstarts index (PatternTable.mem_values_of_lookup? hit)
    have known := getElem?_infos h (List.getElem?_eq_getElem lt)
    dsimp only
    rw [memberAt_of_getElem? known, Option.bind_eq_bind, Option.bind_some, known]
    rfl

/-- Nor is looking up an end, which gives the index itself. -/
theorem lookupEndStrict?_of_build (h : build rules tokens = .ok t) (token : String) :
    t.lookupEndStrict? token = .ok (t.lookupEnd? token) := by
  obtain ⟨_, _, _, _, hends⟩ := build_eq_ok_iff.mp h
  rw [FormTables.lookupEndStrict?, PatternTable.lookupStrict?_of_build hends]
  rfl

/-! ## Starts -/

/-- The form that a token opens is that of the first rule whose start pattern finds something in the
token. -/
theorem opening?_eq_some_iff {token : String} {index : Nat} {rule : SurroundRule}
    {groups : List String} :
    opening? rules token = some (index, rule, groups) ↔
      FirstAt (fun rule => rule.start ≠ "" ∧ FindsIn rule.start token) rules index rule ∧
        OwnGroups rule.start token groups := by
  have misses (rule : SurroundRule) (i : Nat) :
      (if rule.start.isEmpty then none
        else (tokenGroups? rule.start token).map fun groups => (i, rule, groups)) = none ↔
        ¬ (rule.start ≠ "" ∧ FindsIn rule.start token) := by
    rw [findsIn_iff, ← Option.isSome_iff_exists]
    by_cases empty : rule.start = "" <;> simp [empty]
  rw [opening?, findSome?_zipIdx_eq_some_iff misses, ownGroups_iff]
  constructor
  · rintro ⟨i, rule', first, found⟩
    dsimp only at found
    rw [if_neg (by simpa using first.holds.1), Nat.zero_add] at found
    obtain ⟨groups', own, heq⟩ := Option.map_eq_some_iff.mp found
    cases heq
    exact ⟨first, own⟩
  · rintro ⟨first, own⟩
    refine ⟨index, rule, first, ?_⟩
    dsimp only
    rw [if_neg (by simpa using first.holds.1), own, Option.map_some, Nat.zero_add]

/-- In the tables for a stream, a token leads to the row of the first rule whose start pattern finds
something in the token, and to the groups that this pattern finds. It is the whole of what looking
up a start gives. -/
theorem lookupStart?_eq_some_iff (h : build rules tokens = .ok t) {token : String}
    {info : StartInfo} {groups : List String} :
    t.lookupStart? token = some (info, groups) ↔ ∃ rule,
      FirstAt (fun rule => rule.start ≠ "" ∧ FindsIn rule.start token) rules info.rule rule ∧
        OwnGroups rule.start token groups ∧ t.infos[info.rule]? = some info := by
  simp only [← and_assoc, ← opening?_eq_some_iff]
  rw [lookupStart?_of_build h, Option.map_eq_some_iff]
  constructor
  · rintro ⟨⟨index, rule, groups⟩, opened, heq⟩
    cases heq
    exact ⟨rule, opened, getElem?_infos h (getElem?_of_opening? opened).1⟩
  · rintro ⟨rule, opened, known⟩
    refine ⟨(info.rule, rule, groups), opened, ?_⟩
    rw [getElem?_infos h (getElem?_of_opening? opened).1] at known
    exact congrArg (·, groups) (Option.some.inj known)

end Forms

/-- The indices in the tables for a stream are in range, and they are those of the right rules. -/
structure IndicesInRange (rules : List SurroundRule) (t : FormTables) : Prop where
  /-- A value in the table of starts is the index of a rule with a start pattern. -/
  starts : ∀ value ∈ t.starts.values, ∃ _ : value < rules.length, rules[value].start ≠ ""
  /-- A value in the table that is learnt with is the index of a rule that learns. -/
  inference : ∃ table, PatternTable.build (Forms.inferenceEntries rules) = .ok table ∧
    ∀ value ∈ table.values, ∃ _ : value < rules.length,
      rules[value].endPattern?.isSome = true ∧ rules[value].endings = []
  /-- A value in the table of ends is the index of a rule with an end pattern or with templates. -/
  ends : ∀ value ∈ t.ends.values, ∃ _ : value < rules.length,
    rules[value].endPattern?.isSome = true ∨ rules[value].endings ≠ []
  /-- There is a row for each rule, and it bears the index of the rule. -/
  rows : t.infos.map StartInfo.rule = List.range rules.length
  /-- Looking up with strict indices is not halted. -/
  lookups : ∀ token, t.lookupStartStrict? token = .ok (t.lookupStart? token) ∧
    t.lookupEndStrict? token = .ok (t.lookupEnd? token)
  /-- A token that opens a form leads to the row of the first rule whose start pattern, which is not
  empty, finds something in the token, and to the groups that this pattern finds. -/
  opens : ∀ token info groups, t.lookupStart? token = some (info, groups) ↔ ∃ rule,
    FirstAt (fun rule => rule.start ≠ "" ∧ FindsIn rule.start token) rules info.rule rule ∧
      OwnGroups rule.start token groups ∧ t.infos[info.rule]? = some info

/-- No index is out of range, neither while the tables for a stream are made, whether they come
about or not, nor in any look-up in them. Nothing is asked of the rules: they need not have passed
their check, and their starts may be empty. -/
theorem indices_inRange (rules : List SurroundRule) (tokens : List String) :
    Forms.buildStrict rules tokens = (Forms.build rules tokens).mapError .pattern ∧
    ∀ t, Forms.build rules tokens = .ok t → IndicesInRange rules t := by
  refine ⟨Forms.buildStrict_eq rules tokens, fun t h => ?_⟩
  obtain ⟨inference, hstarts, hinference, _, hends⟩ := Forms.build_eq_ok_iff.mp h
  exact {
    starts := Forms.forall_mem_values_starts hstarts
    inference := ⟨inference, hinference, Forms.forall_mem_values_inference hinference⟩
    ends := Forms.forall_mem_values_ends hends
    rows := Forms.map_rule_infos h
    lookups := fun token =>
      ⟨Forms.lookupStartStrict?_of_build h token, Forms.lookupEndStrict?_of_build h token⟩
    opens := fun _ _ _ => Forms.lookupStart?_eq_some_iff h }

/-- Rules that some table leaves out: the first has no start pattern, the second learns its endings,
the third is deferred, and the last has an end pattern beside its templates. -/
def gappedRules : List SurroundRule :=
  [{ start := "", endings := ["end"] },
    { start := "begin", stop := some "stop.*" },
    { start := "open_(.*)", endings := ["close_$1"] },
    { start := "", stop := some "fi", endings := ["fi"] }]

/-- The indices of the rules stand in the tables, and not the places of their patterns: what is
found for the deferred rule comes last. -/
theorem indices_inRange_gappedRules :
    ∃ t, Forms.buildStrict gappedRules ["open_a", "stop_it"] = .ok t ∧
      t.starts.values = [1, 2] ∧ t.ends.values = [0, 1, 3, 2] ∧ IndicesInRange gappedRules t := by
  obtain ⟨strict, inRange⟩ := indices_inRange gappedRules ["open_a", "stop_it"]
  obtain ⟨t, h, values⟩ := @Forms.exists_of_built? gappedRules ["open_a", "stop_it"]
    (fun t => t.starts.values == [1, 2] && t.ends.values == [0, 1, 3, 2]) (by decide +kernel)
  rw [Bool.and_eq_true, beq_iff_eq, beq_iff_eq] at values
  rw [h] at strict
  exact ⟨t, strict, values.1, values.2, inRange t h⟩

end TokenClassifier
