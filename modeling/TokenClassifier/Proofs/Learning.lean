import TokenClassifier.Proofs.Forms

/-!
# Endings that are learnt and ends that are recognised

A rule with an end pattern and no templates learns its endings from the stream. Learning asks the
end patterns of such rules only, while the table of ends has the ends of all rules, and after them
the tokens found for deferred rules. The two agree nevertheless (`learnt_agrees`).

What leads to a rule that learns matches its end pattern, since the rule has no other entry in the
table; and no rule before it that learns has a matching end pattern, since the table would have led
there. So the rule has learnt the token, if the stream has it (`learner?_of_lookupEnd?`). What a
rule has learnt matches its end pattern, which the table has in the place of the rule, so it leads
there or to a place before (`exists_lookupEnd?_of_learner?`).
-/

namespace TokenClassifier

namespace Forms

variable {rules : List SurroundRule} {tokens : List String} {t : FormTables}

/-- The rule at an index learns its endings: it has the end pattern `stop` and no templates. -/
def Learns (rules : List SurroundRule) (index : Nat) (stop : String) : Prop :=
  ∃ rule, rules[index]? = some rule ∧ rule.endPattern? = some stop ∧ rule.endings = []

/-! ## From the table of ends to learning -/

/-- A token that a rule can learn closes the forms of the rule, since both ask whether its end
pattern matches the token. -/
theorem closes_of_learnable {rule : SurroundRule} {token : String}
    (h : (rule.endings.isEmpty &&
      rule.endPattern?.any fun pattern => matchesToken pattern token) = true) :
    closes rule token = true := by
  rw [Bool.and_eq_true, Option.any_eq_true] at h
  obtain ⟨_, stop, hp, matched⟩ := h
  rwa [closes, hp]

/-- A token that leads to a rule with an end pattern does so by that pattern: what is found in the
stream leads to rules without one. So no rule before it closes its forms with the token. -/
theorem findIdx?_of_lookupEnd? (h : build rules tokens = .ok t) {index : Nat}
    {rule : SurroundRule} (at' : rules[index]? = some rule)
    (stops : rule.endPattern?.isSome = true) {token : String}
    (leads : t.lookupEnd? token = some index) :
    (rules.findIdx? fun rule => closes rule token) = some index := by
  rw [lookupEnd?_eq h, Option.or_eq_some_iff] at leads
  rcases leads with first | ⟨_, later⟩
  · exact first
  obtain ⟨_, _, rule', _, ho, deferred, _⟩ := mem_found_iff.mp (mem_of_lookup_eq_some later)
  have known := (getElem?_of_opening? ho).1
  rw [at'] at known
  obtain rfl := Option.some.inj known
  rw [isDeferred, Bool.and_eq_true, Option.isNone_iff_eq_none] at deferred
  rw [deferred.1] at stops
  cases stops

/-- A rule that learns takes every token that leads to it for one of its endings. No rule before it
matches the token with its end pattern, and those that learn are among these. -/
theorem learner?_of_lookupEnd? (h : build rules tokens = .ok t) {index : Nat} {stop token : String}
    (learns : Learns rules index stop) (leads : t.lookupEnd? token = some index) :
    learner? rules token = some index := by
  obtain ⟨rule, at', hp, noTemplates⟩ := learns
  have first := findIdx?_of_lookupEnd? h at' (by rw [hp]; rfl) leads
  obtain ⟨lt, closed, before⟩ := List.findIdx?_eq_some_iff_getElem.mp first
  obtain ⟨_, rfl⟩ := List.getElem?_eq_some_iff.mp at'
  rw [closes, hp] at closed
  refine List.findIdx?_eq_some_iff_getElem.mpr ⟨lt, ?_, fun j earlier learnable => ?_⟩
  · rw [noTemplates, hp]
    exact closed
  · exact before j earlier (closes_of_learnable learnable)

/-! ## From learning to the table of ends -/

/-- A rule learns tokens that its end pattern matches. -/
theorem matches_of_learner? {index : Nat} {stop token : String} (learns : Learns rules index stop)
    (h : learner? rules token = some index) : matchesToken stop token = true := by
  obtain ⟨rule, at', hp, noTemplates⟩ := learns
  obtain ⟨_, learnable, _⟩ := List.findIdx?_eq_some_iff_getElem.mp h
  obtain ⟨_, rfl⟩ := List.getElem?_eq_some_iff.mp at'
  rwa [noTemplates, hp] at learnable

/-- A token that a rule learns leads to the rule, or to a rule before it. A rule before it that does
not learn may have the token for an end, and this is why there are two cases. -/
theorem exists_lookupEnd?_of_learner? (h : build rules tokens = .ok t) {index : Nat}
    {token : String} (learns : learner? rules token = some index) :
    ∃ j ≤ index, t.lookupEnd? token = some j := by
  obtain ⟨lt, learnable, _⟩ := List.findIdx?_eq_some_iff_getElem.mp learns
  obtain ⟨j, le, first⟩ := exists_findIdx?_le (p := fun rule => closes rule token)
    (List.getElem?_eq_getElem lt) (closes_of_learnable learnable)
  exact ⟨j, le, by rw [lookupEnd?_eq h, first]; rfl⟩

/-! ## What is listed -/

/-- A rule that learns lists the tokens that it has learnt, as they are and whatever the groups. It
has no templates, so there is nothing else to list. -/
theorem mem_endTokens_iff (h : build rules tokens = .ok t) {index : Nat} {stop : String}
    (learns : Learns rules index stop) {info : StartInfo} (known : t.infos[index]? = some info)
    {groups : List String} {token : String} :
    token ∈ info.endTokens groups ↔ token ∈ tokens ∧ learner? rules token = some index := by
  obtain ⟨rule, at', _, noTemplates⟩ := learns
  rw [getElem?_infos h at', noTemplates, List.nil_append] at known
  obtain rfl := Option.some.inj known
  rw [StartInfo.endTokens, Endings.tokens_ofList_literals, List.mem_eraseDups, learned,
    List.mem_filter, beq_iff_eq]

end Forms

/-- What a rule has learnt from a stream, and what the table of ends says of the tokens of the
stream, agree. -/
structure LearntAgrees (t : FormTables) (tokens : List String) (index : Nat) (stop : String)
    (info : StartInfo) : Prop where
  /-- A token of the stream that leads to the rule is listed, as it is and whatever the groups. -/
  listed : ∀ groups, ∀ token ∈ tokens, t.lookupEnd? token = some index →
    token ∈ info.endTokens groups
  /-- A token that is listed is one of the stream. The end pattern of the rule matches it, and it
  leads to the rule or to one before. -/
  recognised : ∀ groups, ∀ token ∈ info.endTokens groups, token ∈ tokens ∧
    matchesToken stop token = true ∧ ∃ j ≤ index, t.lookupEnd? token = some j

/-- The endings that a rule has learnt agree with the table of ends, in both directions, and no
token is an ending of two rules that learn. Nothing is asked of the other rules, which may be
deferred. -/
theorem learnt_agrees {rules : List SurroundRule} {tokens : List String} {t : FormTables}
    (h : Forms.build rules tokens = .ok t) :
    (∀ index stop, Forms.Learns rules index stop → ∃ info, t.infos[index]? = some info ∧
      info.rule = index ∧ LearntAgrees t tokens index stop info) ∧
    ∀ index index' stop stop' info info', Forms.Learns rules index stop →
      Forms.Learns rules index' stop' → index ≠ index' → t.infos[index]? = some info →
      t.infos[index']? = some info' → ∀ groups groups',
        (info.endTokens groups).Disjoint (info'.endTokens groups') := by
  constructor
  · intro index stop learns
    obtain ⟨rule, at', _⟩ := id learns
    have known := Forms.getElem?_infos h at'
    refine ⟨_, known, rfl, fun groups token mem leads => ?_, fun groups token listed => ?_⟩
    · rw [Forms.mem_endTokens_iff h learns known]
      exact ⟨mem, Forms.learner?_of_lookupEnd? h learns leads⟩
    · obtain ⟨mem, learnt⟩ := (Forms.mem_endTokens_iff h learns known).mp listed
      exact ⟨mem, Forms.matches_of_learner? learns learnt,
        Forms.exists_lookupEnd?_of_learner? h learnt⟩
  · intro index index' stop stop' info info' learns learns' ne known known' groups groups' token
      listed listed'
    obtain ⟨_, learnt⟩ := (Forms.mem_endTokens_iff h learns known).mp listed
    obtain ⟨_, learnt'⟩ := (Forms.mem_endTokens_iff h learns' known').mp listed'
    rw [learnt] at learnt'
    exact ne (Option.some.inj learnt')

/-- Two rules that learn, the first of which takes endings of the second, and a deferred rule that
has an ending in common with them. -/
def overlappingRules : List SurroundRule :=
  [{ start := "begin", stop := some "\\$?end.*" },
    { start := "do", stop := some "(end|stop)_do" },
    { start := "open_(.*)", endings := ["close_$1", "$$end"] }]

/-- The two rules that learn share a token that both end patterns match, and only the first one
lists it. -/
theorem learnt_agrees_overlappingRules :
    ∃ t info info', Forms.build overlappingRules ["open_a", "end_do", "$end", "stop_do"] = .ok t ∧
      t.infos[0]? = some info ∧ t.infos[1]? = some info' ∧
      "$end" ∈ info.endTokens ["begin"] ∧ "stop_do" ∈ info'.endTokens ["do"] ∧
      (info.endTokens ["begin"]).Disjoint (info'.endTokens ["do"]) := by
  obtain ⟨t, h, leads⟩ := @Forms.exists_of_built? overlappingRules
    ["open_a", "end_do", "$end", "stop_do"]
    (fun t => t.lookupEnd? "$end" == some 0 && t.lookupEnd? "stop_do" == some 1) (by decide +kernel)
  rw [Bool.and_eq_true, beq_iff_eq, beq_iff_eq] at leads
  have learns : Forms.Learns overlappingRules 0 "\\$?end.*" := ⟨_, rfl, by decide, rfl⟩
  have learns' : Forms.Learns overlappingRules 1 "(end|stop)_do" := ⟨_, rfl, by decide, rfl⟩
  obtain ⟨agree, apart⟩ := learnt_agrees h
  obtain ⟨info, known, _, agrees⟩ := agree 0 _ learns
  obtain ⟨info', known', _, agrees'⟩ := agree 1 _ learns'
  exact ⟨t, info, info', h, known, known', agrees.listed _ _ (by decide) leads.1,
    agrees'.listed _ _ (by decide) leads.2,
    apart 0 1 _ _ _ _ learns learns' (by decide) known known' _ _⟩

end TokenClassifier
