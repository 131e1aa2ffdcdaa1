import TokenClassifier.Proofs.Classification

/-!
# Records with more entries

A configuration grows at the end of its lists. What it said of a token before, it says still, unless
the new entries claim the token for a category that is asked earlier (`classify_append`): nothing
that is added takes a token from an older entry of its own list, nor an ending from an older rule.

A classifier asks its categories one after the other. In each of them an older entry comes before
all new ones, so an answer that the category has given it gives again (`RuleSet.Begins.ask`), and a
category whose list has not grown gives the same answer in any case
(`RuleSet.ask_append_of_notMem`). The first answer can then only be replaced by one from a grown
list, and only if that list is asked before (`findSome?_of_kept`).

Surround rules need more than that. They are read for starts, for ends and for learning all at
once, and an older rule keeps its endings because a token that it learns is never learnt by a rule
behind it (`Forms.learned_of_isPrefix`).
-/

namespace TokenClassifier

/-! ## Growing a record -/

/-- Entries for the end of one of the lists of a record. -/
inductive Addition where
  | surround (rules : List SurroundRule)
  | formPrefixes (patterns : List String)
  | simpleLabels (patterns : List String)
  | compoundLabels (patterns : List String)
  | variableNames (patterns : List String)
  | operators (rules : List OperatorRule)
  deriving DecidableEq, Repr

/-- A record with entries put at the end of one of its lists. -/
def RuleSet.append (rules : RuleSet) : Addition → RuleSet
  | .surround more => { rules with surround := rules.surround ++ more }
  | .formPrefixes more => { rules with formPrefixes := rules.formPrefixes ++ more }
  | .simpleLabels more => { rules with simpleLabels := rules.simpleLabels ++ more }
  | .compoundLabels more => { rules with compoundLabels := rules.compoundLabels ++ more }
  | .variableNames more => { rules with variableNames := rules.variableNames ++ more }
  | .operators more => { rules with operators := rules.operators ++ more }

/-- The letters of the categories that a list has entries for. -/
def Addition.codes : Addition → List Char
  | .surround _ => ['S', 'E']
  | .formPrefixes _ => ['P']
  | .simpleLabels _ => ['L']
  | .compoundLabels _ => ['C']
  | .variableNames _ => ['V']
  | .operators _ => ['O']

/-! ## The order of the categories -/

/-- The letters of the categories in the order in which they are asked. The last one stands for
tokens that none of the others claims. -/
def codeOrder : List Char := ['C', 'L', 'P', 'S', 'E', 'O', 'V', 'U']

/-- The place of a classification in the order of the categories. -/
def Classification.rank (x : Classification) : Nat := codeOrder.idxOf x.code

/-- What a token can be claimed for. -/
inductive Category where
  | compound
  | label
  | formPrefix
  | start
  | stop
  | operator
  | variableName
  deriving DecidableEq, Repr

namespace Category

/-- The categories in the order in which they are asked. -/
def all : List Category := [compound, label, formPrefix, start, stop, operator, variableName]

/-- The letter of a category. -/
def code : Category → Char
  | compound => 'C'
  | label => 'L'
  | formPrefix => 'P'
  | start => 'S'
  | stop => 'E'
  | operator => 'O'
  | variableName => 'V'

/-- The categories are asked in the order of their letters. -/
theorem pairwise_all :
    all.Pairwise fun k k' => codeOrder.idxOf k.code < codeOrder.idxOf k'.code := by
  decide

/-- The letter of what no category claims comes after those of all of them. -/
theorem idxOf_code_lt_unclassified (k : Category) :
    codeOrder.idxOf k.code < Classification.unclassified.rank := by
  cases k <;> decide

end Category

/-- What a category says of a token. -/
def Classifier.ask (c : Classifier) (token : String) : Category → Option Classification
  | .compound => if claims c.statics.compoundLabels token then some .compound else none
  | .label => if claims c.statics.simpleLabels token then some .label else none
  | .formPrefix => if claims c.statics.formPrefixes token then some .formPrefix else none
  | .start => (c.forms.lookupStart? token).map fun (info, groups) => .start (info.endTokens groups)
  | .stop => if (c.forms.lookupEnd? token).isSome then some .stop else none
  | .operator => (c.statics.operators.bind (·.lookup? token)).map fun (p, _) => .operator p
  | .variableName => if claims c.statics.variableNames token then some .variableName else none

/-- The first category that has something to say decides. This turns the branches of `classify` into
one search, in which a category can be looked at by itself. -/
theorem Classifier.classify_eq_ask (c : Classifier) (token : String) :
    c.classify token = (Category.all.findSome? (c.ask token)).getD .unclassified := by
  unfold classify
  simp only [Category.all, List.findSome?_cons, List.findSome?_nil, ask]
  by_cases compound : claims c.statics.compoundLabels token = true
  · simp only [compound, if_true, Option.getD_some]
  by_cases simple : claims c.statics.simpleLabels token = true
  · simp only [compound, simple, Bool.false_eq_true, if_false, if_true, Option.getD_some]
  by_cases formPrefix : claims c.statics.formPrefixes token = true
  · simp only [compound, simple, formPrefix, Bool.false_eq_true, if_false, if_true,
      Option.getD_some]
  simp only [compound, simple, formPrefix, Bool.false_eq_true, if_false]
  cases c.forms.lookupStart? token with
  | some opened => rfl
  | none =>
    cases c.forms.lookupEnd? token with
    | some rule => rfl
    | none =>
      cases c.statics.operators.bind (·.lookup? token) with
      | some hit => rfl
      | none => cases claims c.statics.variableNames token <;> rfl

/-! ## What the record has each category say -/

/-- What a category says of a token in a stream, as the record has it. -/
def RuleSet.ask (rules : RuleSet) (tokens : List String) (token : String) :
    Category → Option Classification
  | .compound => if claimedBy rules.compoundLabels token then some .compound else none
  | .label => if claimedBy rules.simpleLabels token then some .label else none
  | .formPrefix => if claimedBy rules.formPrefixes token then some .formPrefix else none
  | .start => (Forms.opening? rules.surround token).map fun (index, rule, groups) =>
      .start (endTokens rules.surround tokens index rule groups)
  | .stop => if rules.surround.any fun rule => Forms.closes rule token then some .stop else none
  | .operator => (rules.operators.find? fun rule => matchesToken rule.pattern token).map fun rule =>
      .operator rule.precedence
  | .variableName => if claimedBy rules.variableNames token then some .variableName else none

/-- What a category says bears the letter of the category. -/
theorem RuleSet.code_of_ask {rules : RuleSet} {tokens : List String} {token : String}
    {k : Category} {x : Classification} (h : rules.ask tokens token k = some x) :
    x.code = k.code := by
  cases k with
  | start =>
    obtain ⟨_, _, rfl⟩ := Option.map_eq_some_iff.mp h
    rfl
  | operator =>
    obtain ⟨_, _, rfl⟩ := Option.map_eq_some_iff.mp h
    rfl
  | compound | label | formPrefix | stop | variableName =>
    obtain ⟨_, e⟩ := Option.ite_none_right_eq_some.mp h
    cases e
    rfl

section Bound

variable {rules : RuleSet} {compiled : CompiledRules} {tokens : List String} {c : Classifier}

/-- Each category of a classifier says what the record has it say. So two classifiers can be
compared by their records, without their tables. -/
theorem ask_eq (made : CompiledFrom rules compiled) (bound : compiled.bind tokens = .ok c)
    (token : String) (k : Category) : c.ask token k = rules.ask tokens token k := by
  have statics := (bind_eq_ok_iff_build.mp bound).1
  unfold Classifier.ask RuleSet.ask
  rw [statics]
  cases k with
  | compound => simp only [claims_tableOf? made.compoundLabels]
  | label => simp only [claims_tableOf? made.simpleLabels]
  | formPrefix => simp only [claims_tableOf? made.formPrefixes]
  | variableName => simp only [claims_tableOf? made.variableNames]
  | start =>
    dsimp only
    rw [Forms.lookupStart?_of_build (made.build bound), Option.map_map]
    refine Option.map_congr fun (index, rule, groups) ho => ?_
    have listed := endTokens_eq (Forms.getElem?_of_opening? ho).1 tokens groups
    simp only [Function.comp_apply, listed]
  | stop => simp only [lookupEnd?_of_bind made bound, List.findIdx?_isSome]
  | operator =>
    obtain ⟨entries, hentries, hoperators⟩ := made.operators
    have operator := lookup?_operators hentries hoperators token
    have same := congrArg (Option.map Classification.operator) operator
    rw [Option.map_map, Option.map_map] at same
    exact same

/-- The first category that claims a token, as the record has it, decides. If none does, the token
is unclassified. -/
theorem classify_eq_first (made : CompiledFrom rules compiled)
    (bound : compiled.bind tokens = .ok c) (token : String) :
    c.classify token = (Category.all.findSome? (rules.ask tokens token)).getD .unclassified := by
  rw [c.classify_eq_ask]
  congr 1
  exact findSome?_congr fun k _ => ask_eq made bound token k

end Bound

/-! ## What older entries keep -/

/-- A token that patterns claim is claimed with more patterns behind them. -/
theorem claimedBy_of_isPrefix {old new : List String} (h : old <+: new) {token : String}
    (claimed : claimedBy old token = true) : claimedBy new token = true := by
  unfold claimedBy at claimed ⊢
  rw [List.any_eq_true] at claimed ⊢
  obtain ⟨pattern, mem, matched⟩ := claimed
  exact ⟨pattern, h.subset mem, matched⟩

section Surround

variable {old new : List SurroundRule} (h : old <+: new)
include h

namespace Forms

/-- A token that opens a form of a rule opens the same form with more rules behind it: the first
rule that it opens a form of is still the first. -/
theorem opening?_of_isPrefix {token : String} {opened : Nat × SurroundRule × List String}
    (opens : opening? old token = some opened) : opening? new token = some opened := by
  obtain ⟨more, rfl⟩ := h
  have places : old.zipIdx <+: (old ++ more).zipIdx := by
    rw [List.zipIdx_append]
    exact List.prefix_append _ _
  exact places.findSome?_eq_some opens

/-- A rule learns a token exactly if it does so with more rules behind it. Both directions are
needed here, since a rule that learnt more would announce more. -/
theorem learner?_eq_some_iff_of_isPrefix {index : Nat} (lt : index < old.length) (token : String) :
    learner? new token = some index ↔ learner? old token = some index := by
  refine ⟨fun learns => ?_, fun learns => h.findIdx?_eq_some learns⟩
  cases first : learner? old token with
  | some j =>
    have again : learner? new token = some j := h.findIdx?_eq_some first
    rw [← again, learns]
  | none =>
    -- only a rule behind the old ones could learn the token then
    obtain ⟨more, rfl⟩ := h
    obtain ⟨_, learns, _⟩ := List.findIdx?_eq_some_iff_getElem.mp learns
    rw [List.getElem_append_left lt] at learns
    have misses := List.findIdx?_eq_none_iff.mp first _ (List.getElem_mem lt)
    rw [learns] at misses
    cases misses

/-- An older rule has learnt the same tokens of a stream as it would with more rules behind it. -/
theorem learned_of_isPrefix {index : Nat} (lt : index < old.length) (tokens : List String) :
    learned new tokens index = learned old tokens index := by
  unfold learned
  refine List.filter_congr fun token _ => ?_
  rw [Bool.eq_iff_iff, beq_iff_eq, beq_iff_eq]
  exact learner?_eq_some_iff_of_isPrefix h lt token

end Forms

/-- The end tokens of an older rule stay what they are, in the same order. -/
theorem endTokens_of_isPrefix {index : Nat} (lt : index < old.length) (tokens : List String)
    (rule : SurroundRule) (groups : List String) :
    endTokens new tokens index rule groups = endTokens old tokens index rule groups := by
  unfold endTokens
  rw [Forms.learned_of_isPrefix h lt]

end Surround

/-- An answer that depends on a condition stays if the condition does. -/
theorem ite_eq_some_of_imp {α : Type} {p q : Prop} [Decidable p] [Decidable q] {a b : α}
    (said : (if p then some a else none) = some b) (stays : p → q) :
    (if q then some a else none) = some b := by
  obtain ⟨hp, e⟩ := Option.ite_none_right_eq_some.mp said
  rw [if_pos (stays hp), e]

namespace RuleSet

/-- Every list of the one record begins the same list of the other. -/
structure Begins (old new : RuleSet) : Prop where
  surround : old.surround <+: new.surround
  formPrefixes : old.formPrefixes <+: new.formPrefixes
  simpleLabels : old.simpleLabels <+: new.simpleLabels
  compoundLabels : old.compoundLabels <+: new.compoundLabels
  variableNames : old.variableNames <+: new.variableNames
  operators : old.operators <+: new.operators

/-- Each list of a record begins the list that it has after growing. Only one of them has become
longer. -/
theorem begins_append (rules : RuleSet) (addition : Addition) :
    rules.Begins (rules.append addition) := by
  cases addition <;> constructor <;> simp [append]

variable {tokens : List String} {token : String} {k : Category}

/-- What a token is said to be by a category, it is said to be with more entries behind the old
ones. There is one case for each category, and only starts and operators say more than yes. -/
theorem Begins.ask {old new : RuleSet} (h : old.Begins new) {x : Classification}
    (said : old.ask tokens token k = some x) : new.ask tokens token k = some x := by
  cases k with
  | compound => exact ite_eq_some_of_imp said (claimedBy_of_isPrefix h.compoundLabels)
  | label => exact ite_eq_some_of_imp said (claimedBy_of_isPrefix h.simpleLabels)
  | formPrefix => exact ite_eq_some_of_imp said (claimedBy_of_isPrefix h.formPrefixes)
  | variableName => exact ite_eq_some_of_imp said (claimedBy_of_isPrefix h.variableNames)
  | start =>
    obtain ⟨⟨index, rule, groups⟩, opens, rfl⟩ := Option.map_eq_some_iff.mp said
    obtain ⟨lt, _⟩ := List.getElem?_eq_some_iff.mp (Forms.getElem?_of_opening? opens).1
    refine Option.map_eq_some_iff.mpr ⟨_, Forms.opening?_of_isPrefix h.surround opens, ?_⟩
    exact congrArg Classification.start (endTokens_of_isPrefix h.surround lt tokens rule groups)
  | stop =>
    refine ite_eq_some_of_imp said fun closed => ?_
    rw [List.any_eq_true] at closed ⊢
    obtain ⟨rule, mem, closes⟩ := closed
    exact ⟨rule, h.surround.subset mem, closes⟩
  | operator =>
    obtain ⟨rule, found, rfl⟩ := Option.map_eq_some_iff.mp said
    exact Option.map_eq_some_iff.mpr ⟨rule, h.operators.find?_eq_some found, rfl⟩

/-- A category whose list has not grown says the same, also where it says nothing. -/
theorem ask_append_of_notMem {rules : RuleSet} {addition : Addition}
    (h : k.code ∉ addition.codes) :
    (rules.append addition).ask tokens token k = rules.ask tokens token k := by
  cases addition <;> cases k <;>
    first | rfl | exact absurd (by simp [Category.code, Addition.codes]) h

end RuleSet

/-! ## Growing is conservative -/

/-- Entries at the end of one of the lists of a record take nothing from the entries before them.
Every token is read as it was, with the same precedences and the same end tokens, or it is read for
a category that the list has entries for and was read for a later one. The second case cannot be
left out: a new entry may claim what a later category had claimed. -/
theorem classify_append {rules : RuleSet} {addition : Addition} {compiled compiled' : CompiledRules}
    (h : compile rules = .ok compiled) (h' : compile (rules.append addition) = .ok compiled')
    {tokens : List String} {c c' : Classifier} (bound : compiled.bind tokens = .ok c)
    (bound' : compiled'.bind tokens = .ok c') (token : String) :
    c'.classify token = c.classify token ∨
      (c'.classify token).code ∈ addition.codes ∧
        (c'.classify token).rank < (c.classify token).rank := by
  rw [classify_eq_first (compiledFrom_of_compile h) bound,
    classify_eq_first (compiledFrom_of_compile h') bound']
  have kept : ∀ k x, rules.ask tokens token k = some x →
      (rules.append addition).ask tokens token k = some x := by
    intro k x said
    exact (rules.begins_append addition).ask said
  rcases findSome?_of_kept Category.pairwise_all kept with
    same | ⟨k, x, silent, answers, first, later⟩
  · rw [same]
    exact .inl rfl
  · right
    rw [first, Option.getD_some]
    have code : x.code = k.code := RuleSet.code_of_ask answers
    constructor
    · rw [code]
      -- without new entries for `k` it would be silent as before
      by_contra notGrown
      rw [RuleSet.ask_append_of_notMem notGrown, silent] at answers
      cases answers
    · unfold Classification.rank
      rw [code]
      -- the category that answered before, if any did, is asked after `k`
      cases was : Category.all.findSome? (rules.ask tokens token) with
      | none => exact k.idxOf_code_lt_unclassified
      | some y =>
        obtain ⟨k', lt, said⟩ := later y was
        rw [Option.getD_some, RuleSet.code_of_ask said]
        exact lt

/-- A rule that opens forms at tokens from which `loopRules` learns. -/
def resumeRule : Addition := .surround [{ start := "stop", endings := ["resume"] }]

/-- Here the rule that is added opens forms at a token that was read as an end before. -/
theorem classify_append_loopRules :
    ∃ compiled compiled' c c', compile loopRules = .ok compiled ∧
      compile (loopRules.append resumeRule) = .ok compiled' ∧
      compiled.bind ["begin", "stop"] = .ok c ∧ compiled'.bind ["begin", "stop"] = .ok c' ∧
      ∀ token, c'.classify token = c.classify token ∨
        (c'.classify token).code ∈ resumeRule.codes ∧
          (c'.classify token).rank < (c.classify token).rank := by
  obtain ⟨compiled, c, h, bound, _⟩ :=
    @exists_of_bound? loopRules ["begin", "stop"] (fun _ => true) (by decide +kernel)
  obtain ⟨compiled', c', h', bound', _⟩ := @exists_of_bound? (loopRules.append resumeRule)
    ["begin", "stop"] (fun _ => true) (by decide +kernel)
  exact ⟨compiled, compiled', c, c', h, h', bound, bound',
    fun token => classify_append h h' bound bound' token⟩

/-- The end becomes a start, and the older rule still learns it. -/
example : (["stop", "begin"].map ((loopRules.append resumeRule).meaning ["begin", "stop"])) =
    [.start ["resume"], .start ["stop"]] := by
  decide +kernel

end TokenClassifier
