import TokenClassifier.Proofs.Stream

/-!
# End tokens that are announced and end tokens that are recognised

A start announces the tokens that its rule's templates expand to. Which tokens close a form is
decided elsewhere: by the end pattern of a rule that has one, and otherwise by patterns made from
the templates. This module says how far the two agree.

A rule with an end pattern is recognised by that pattern alone. Its templates have no say in it, so
what it announces is recognised exactly where an end pattern happens to match it
(`announced_beside_stop`).

A rule without one is recognised by its templates, with the start pattern in place of `$0`. The
pattern that is put together in this way sees the token inside of a longer text. It is sure to match
if the start pattern is a regular expression by itself and still matches the token at the places
where the template has it, which it does unless it asks for what is around
(`announced_by_templates`).
-/

namespace TokenClassifier

open Regex

/-! ## What is recognised -/

/-- A token that closes some form is not taken for anything that is asked after ends: an operator, a
variable, or nothing known. -/
theorem code_of_lookupEnd? {c : Classifier} {token : String} {index : Nat}
    (h : c.forms.lookupEnd? token = some index) : (c.classify token).code ∉ ['O', 'V', 'U'] := by
  rw [Classifier.classify_eq, FormTables.classify?, h]
  cases hb : c.statics.before? token with
  | some category =>
    unfold StaticTables.before? at hb
    repeat' split at hb
    all_goals cases hb
    all_goals simp [Classification.code]
  | none =>
    cases c.forms.lookupStart? token with
    | some opened => simp [Classification.code]
    | none => simp [Classification.code]

variable {rules : RuleSet} {compiled : CompiledRules} {tokens : List String} {c : Classifier}

/-- What closes the forms of a rule is taken for an end, of this rule or of an earlier one. Labels,
prefixes and starts are asked for before ends, which is why only three codes are excluded. -/
theorem recognised_of_closes (made : CompiledFrom rules compiled)
    (bound : compiled.bind tokens = .ok c) {index : Nat} {rule : SurroundRule}
    (at' : rules.surround[index]? = some rule) {token : String}
    (closes : Forms.closes rule token = true) :
    ∃ j ≤ index, c.forms.lookupEnd? token = some j ∧ (c.classify token).code ∉ ['O', 'V', 'U'] := by
  obtain ⟨j, le, found⟩ :=
    exists_findIdx?_le (p := fun rule => Forms.closes rule token) at' closes
  rw [← lookupEnd?_of_bind made bound] at found
  exact ⟨j, le, found, code_of_lookupEnd? found⟩

/-! ## What is announced -/

/-- A rule with templates announces what they expand to, and nothing that it has learnt, for it
learns nothing. -/
theorem listed_of_lookupStart? (made : CompiledFrom rules compiled)
    (bound : compiled.bind tokens = .ok c) {token : String} {info : StartInfo}
    {groups : List String} (opens : c.forms.lookupStart? token = some (info, groups))
    {rule : SurroundRule} (at' : rules.surround[info.rule]? = some rule)
    (templates : rule.endings ≠ []) :
    tokenGroups? rule.start token = some groups ∧ info.endTokens groups =
      (rule.endings.map fun template => Template.expand template groups).eraseDups := by
  obtain ⟨index, rule', ho, rfl⟩ := exists_opening_of_lookupStart? made bound opens
  obtain ⟨known, _, matched⟩ := Forms.getElem?_of_opening? ho
  obtain rfl := Option.some.inj (known.symm.trans at')
  refine ⟨matched, ?_⟩
  rw [Forms.learned_eq_nil known templates, List.map_nil, List.append_nil]
  exact Endings.tokens_ofList rule'.endings groups

/-- What is listed among the expansions is the expansion of a template. -/
theorem exists_template_of_listed {templates groups : List String} {token : String}
    (listed : token ∈ (templates.map fun template => Template.expand template groups).eraseDups) :
    ∃ template ∈ templates, Template.expand template groups = token :=
  List.mem_map.mp (List.mem_eraseDups.mp listed)

/-- Whether a classifier announces an end token for the start of a form of a rule. -/
def Classifier.announces (c : Classifier) (token : String) (index : Nat) (e : String) : Bool :=
  match c.forms.lookupStart? token with
  | some (info, groups) => info.rule == index && (info.endTokens groups).contains e
  | none => false

/-- A token that a classifier announces is an end token of a start that it finds. -/
theorem exists_of_announces {token e : String} {index : Nat}
    (h : c.announces token index e = true) :
    ∃ info groups, c.forms.lookupStart? token = some (info, groups) ∧ info.rule = index ∧
      e ∈ info.endTokens groups := by
  unfold Classifier.announces at h
  split at h
  next info groups opens =>
    rw [Bool.and_eq_true, beq_iff_eq, List.contains_iff_mem] at h
    exact ⟨info, groups, opens, h.1, h.2⟩
  next => cases h

/-- An end token that is announced and then not taken for anything. It serves for examples, by one
evaluation of the classifier. -/
theorem exists_unrecognised {token e : String}
    (h : ((bound? rules [token]).any fun c => c.announces token 0 e &&
      (c.forms.lookupEnd? e == none && c.classify e == .unclassified)) = true) :
    ∃ compiled c info groups, compile rules = .ok compiled ∧ compiled.bind [token] = .ok c ∧
      c.forms.lookupStart? token = some (info, groups) ∧ info.rule = 0 ∧
      e ∈ info.endTokens groups ∧ c.forms.lookupEnd? e = none ∧ c.classify e = .unclassified := by
  obtain ⟨compiled, c, h, bound, found⟩ := exists_of_bound? _ h
  simp only [Bool.and_eq_true, beq_iff_eq] at found
  obtain ⟨announced, nothing, reads⟩ := found
  obtain ⟨info, groups, opens, first, listed⟩ := exists_of_announces announced
  exact ⟨compiled, c, info, groups, h, bound, opens, first, listed, nothing, reads⟩

/-! ## Beside an end pattern -/

/-- What a rule with an end pattern and templates announces is recognised exactly if some rule's
ends match it. It is if the rule's own end pattern does. Beside an end pattern the templates are not
registered, so nothing follows from the token having been announced. -/
theorem announced_beside_stop (h : compile rules = .ok compiled)
    (bound : compiled.bind tokens = .ok c) {token : String} {info : StartInfo}
    {groups : List String} (opens : c.forms.lookupStart? token = some (info, groups))
    {rule : SurroundRule} (at' : rules.surround[info.rule]? = some rule) {stop : String}
    (hp : rule.endPattern? = some stop) (templates : rule.endings ≠ []) {e : String}
    (listed : e ∈ info.endTokens groups) :
    (∃ template ∈ rule.endings, Template.expand template groups = e) ∧
    ((c.forms.lookupEnd? e).isSome = true ↔
      ∃ other ∈ rules.surround, Forms.closes other e = true) ∧
    (matchesToken stop e = true → ∃ j ≤ info.rule, c.forms.lookupEnd? e = some j ∧
      (c.classify e).code ∉ ['O', 'V', 'U']) := by
  have made := compiledFrom_of_compile h
  refine ⟨?_, ?_, fun matched => ?_⟩
  · rw [(listed_of_lookupStart? made bound opens at' templates).2] at listed
    exact exists_template_of_listed listed
  · rw [lookupEnd?_of_bind made bound, List.findIdx?_isSome, List.any_eq_true]
  · have closes : Forms.closes rule e = true := by rwa [Forms.closes, hp]
    exact recognised_of_closes made bound at' closes

/-- A rule whose end pattern matches what its template expands to. -/
def blockRule : SurroundRule where
  start := "begin (.*)"
  stop := some "end.*"
  endings := ["end $1"]

/-- The end pattern of this rule matches what the rule announces, so that is recognised. -/
theorem announced_beside_stop_block :
    ∃ compiled c info groups, compile { surround := [blockRule] } = .ok compiled ∧
      compiled.bind ["begin loop"] = .ok c ∧
      c.forms.lookupStart? "begin loop" = some (info, groups) ∧ "end loop" ∈ info.endTokens groups ∧
      ∃ j ≤ info.rule, c.forms.lookupEnd? "end loop" = some j ∧
        (c.classify "end loop").code ∉ ['O', 'V', 'U'] := by
  obtain ⟨compiled, c, h, bound, announced⟩ := @exists_of_bound? { surround := [blockRule] }
    ["begin loop"] (fun c => c.announces "begin loop" 0 "end loop") (by decide +kernel)
  obtain ⟨info, groups, opens, first, listed⟩ := exists_of_announces announced
  have at' : [blockRule][info.rule]? = some blockRule := by rw [first]; rfl
  have stated := announced_beside_stop h bound opens at' rfl (by decide) listed
  exact ⟨compiled, c, info, groups, h, bound, opens, listed, stated.2.2 (by decide +kernel)⟩

/-- A rule with an end pattern can announce a token that nothing recognises: here the end pattern
does not match it, and there is no other rule. -/
theorem announced_beside_stop_unrecognised :
    ∃ compiled c info groups,
      compile { surround := [{ start := "a", stop := some "b", endings := ["c"] }] } =
        .ok compiled ∧
      compiled.bind ["a"] = .ok c ∧ c.forms.lookupStart? "a" = some (info, groups) ∧
      info.rule = 0 ∧ "c" ∈ info.endTokens groups ∧
      c.forms.lookupEnd? "c" = none ∧ c.classify "c" = .unclassified :=
  exists_unrecognised (by decide +kernel)

/-! ## Without an end pattern -/

/-- Whether a template is sure to be recognised in what it expands to for a token. A constant one
is. One that depends on the whole token is if the start pattern is a regular expression by itself
that asks for nothing around the token, or that finds what it asks for at each place where the
template has the token. -/
def KeepsToken (rule : SurroundRule) (token template e : String) : Prop :=
  Template.shape template = .constant ∨
    ∃ r, Pattern.expression rule.start = .ok r ∧ (r.lookFree = true ∨
      InPlace (Pattern.chars e) r token.toList.length (Template.segments template) 0)

/-- A start pattern that is an expression by itself matches a token as the expression does, and the
first group of the match is the token. For other patterns both can fail. -/
theorem matches_of_tokenGroups? {start token : String} {groups : List String} {r : Term}
    (hr : Pattern.expression start = .ok r) (h : tokenGroups? start token = some groups) :
    r.Matches (Pattern.chars token) 0 token.toList.length ∧ groups[0]? = some token := by
  obtain ⟨tree, m, hparse, hterm⟩ := Pattern.expression_eq_ok_iff.mp hr
  obtain ⟨p, hp, captured⟩ := tokenGroups?_eq_some_iff.mp h
  refine ⟨(Pattern.isMatch_anchor_alone hparse hterm hp).mp ?_, ?_⟩
  · rw [Pattern.isMatch, captured]
    rfl
  · obtain ⟨s, _, zero, rfl⟩ := Pattern.compile_anchor_alone hparse hterm hp
    exact Pattern.head?_captures?_anchored zero captured

/-- The pattern of a template that depends on the whole token matches what the template expands to,
if the token is kept. That the start matches the token by itself is not enough, since it may ask for
what stands around it. -/
theorem matches_wholeMatchPattern {start template token : String} {groups : List String} {r : Term}
    (hr : Pattern.expression start = .ok r) (h : tokenGroups? start token = some groups)
    (whole : Template.shape template ≠ .captures)
    (compiles : Compiles (Forms.wholeMatchPattern template start))
    (kept : r.lookFree = true ∨ InPlace (Pattern.chars (Template.expand template groups)) r
      token.toList.length (Template.segments template) 0) :
    matchesToken (Forms.wholeMatchPattern template start) (Template.expand template groups) =
      true := by
  obtain ⟨matched, first⟩ := matches_of_tokenGroups? hr h
  obtain ⟨tree, m, hparse, hterm⟩ := Pattern.expression_eq_ok_iff.mp hr
  obtain ⟨p, hp⟩ := compiles
  have filled := Template.toList_expand_of_whole whole first
  obtain ⟨q, hq⟩ := compiles_of_tokenGroups? h
  obtain ⟨anchored, _, _, hanchored, _⟩ := Pattern.compile_eq_ok_iff.mp hq
  obtain ⟨ts, _, alone, htree⟩ := readsAlone_of_anchor hparse hanchored
  rw [matchesToken_of_compile hp, Pattern.isMatch_splice alone htree hterm
    (toList_wholeMatchPattern template start) hp]
  rw [Pattern.chars, filled] at kept ⊢
  have placed : InPlace ([] ++ Template.fill token.toList (Template.segments template)).toArray r
      token.toList.length (Template.segments template) ([] : List Char).length := by
    rcases kept with free | placed
    · exact inPlace_of_lookFree free matched _
    · exact placed
  exact fits_fill placed

/-- The patterns made from the templates of a rule are in the table of ends, and so they have
compiled where the rules are bound. -/
theorem compiles_wholeMatchPattern (made : CompiledFrom rules compiled)
    (bound : compiled.bind tokens = .ok c) {index : Nat} {rule : SurroundRule}
    (at' : rules.surround[index]? = some rule) (noStop : rule.endPattern? = none)
    {template : String} (mem : template ∈ rule.endings)
    (whole : Template.shape template = .whole) :
    Compiles (Forms.wholeMatchPattern template rule.start) := by
  have forms := (bind_eq_ok_iff_build.mp bound).2
  rw [made.surround] at forms
  have patterns := (Forms.exists_build_iff_patterns tokens).mp ⟨_, forms⟩
  exact (patterns rule (List.mem_of_getElem? at')).2.2 noStop template mem whole

/-- What a rule without an end pattern announces is recognised, if it comes from a template that is
sure to be. The rule that it leads to may be an earlier one whose ends match it too. -/
theorem announced_by_templates (h : compile rules = .ok compiled)
    (bound : compiled.bind tokens = .ok c) {token : String} {info : StartInfo}
    {groups : List String} (opens : c.forms.lookupStart? token = some (info, groups))
    {rule : SurroundRule} (at' : rules.surround[info.rule]? = some rule)
    (noStop : rule.endPattern? = none) {e : String} (listed : e ∈ info.endTokens groups) :
    (∃ template ∈ rule.endings, Template.expand template groups = e) ∧
    ((∃ template ∈ rule.endings, Template.expand template groups = e ∧
        KeepsToken rule token template e) →
      ∃ j ≤ info.rule, c.forms.lookupEnd? e = some j ∧ (c.classify e).code ∉ ['O', 'V', 'U']) := by
  have made := compiledFrom_of_compile h
  obtain ⟨templates, noCaptures⟩ := made.declared rule (List.mem_of_getElem? at') noStop
  obtain ⟨matched, hlisted⟩ := listed_of_lookupStart? made bound opens at' templates
  refine ⟨exists_template_of_listed (hlisted ▸ listed), ?_⟩
  rintro ⟨template, mem, rfl, keeps⟩
  refine recognised_of_closes made bound at' ?_
  rw [Forms.closes, noStop, List.any_eq_true]
  refine ⟨template, mem, ?_⟩
  unfold Forms.templateMatches
  cases shape : Template.shape template with
  | constant => exact beq_iff_eq.mpr (Template.expand_eq_of_constant shape groups [])
  | whole =>
    rcases keeps with constant | ⟨r, hr, kept⟩
    · rw [shape] at constant
      cases constant
    · have compiles := compiles_wholeMatchPattern made bound at' noStop mem shape
      exact matches_wholeMatchPattern hr matched (noCaptures template mem) compiles kept
  | captures => exact absurd shape (noCaptures template mem)

/-- A rule whose start pattern asks for a word boundary on each side of the token. -/
def wordRule : SurroundRule where
  start := "\\bif\\b"
  endings := ["end $0"]

/-- The start pattern of `wordRule`. -/
def wholeWordIf : Term :=
  .seq (.look (.word true .boundary)) (.seq (.chars (.one 'i'))
    (.seq (.chars (.one 'f')) (.look (.word true .boundary))))

/-- The start pattern asks for a word boundary on either side, and in what the template expands to
there is one on either side of the token. So the token is kept, although the pattern looks around
it. -/
theorem announced_by_templates_word :
    ∃ compiled c info groups, compile { surround := [wordRule] } = .ok compiled ∧
      compiled.bind ["if"] = .ok c ∧ c.forms.lookupStart? "if" = some (info, groups) ∧
      "end if" ∈ info.endTokens groups ∧
      ∃ j ≤ info.rule, c.forms.lookupEnd? "end if" = some j ∧
        (c.classify "end if").code ∉ ['O', 'V', 'U'] := by
  obtain ⟨compiled, c, h, bound, announced⟩ := @exists_of_bound? { surround := [wordRule] } ["if"]
    (fun c => c.announces "if" 0 "end if") (by decide +kernel)
  obtain ⟨info, groups, opens, first, listed⟩ := exists_of_announces announced
  have at' : [wordRule][info.rule]? = some wordRule := by rw [first]; rfl
  refine ⟨compiled, c, info, groups, h, bound, opens, listed, ?_⟩
  obtain ⟨told, recognised⟩ := announced_by_templates h bound opens at' rfl listed
  obtain ⟨template, mem, expands⟩ := told
  obtain rfl := List.mem_singleton.mp mem
  have reads : Pattern.expression wordRule.start = .ok wholeWordIf := by decide +kernel
  have boundary : wholeWordIf.Matches (Pattern.chars "end if") 4 6 :=
    .seq (.look (by decide +kernel)) (.seq (.chars (c := 'i') rfl rfl)
      (.seq (.chars (c := 'f') rfl rfl) (.look (by decide +kernel))))
  have placed : InPlace (Pattern.chars "end if") wholeWordIf 2 (Template.segments "end $0") 0 :=
    ⟨boundary, trivial⟩
  exact recognised ⟨"end $0", mem, expands, Or.inr ⟨wholeWordIf, reads, Or.inr placed⟩⟩

/-- A rule without an end pattern can announce a token that nothing recognises, if its start pattern
asks for what is around the token, or reaches beyond the parentheses that are put around it. There
is a rule for each of the two. -/
theorem announced_by_templates_unrecognised :
    (∃ compiled c info groups,
      compile { surround := [{ start := "\\bif\\b", endings := ["end$0"] }] } = .ok compiled ∧
      compiled.bind ["if"] = .ok c ∧ c.forms.lookupStart? "if" = some (info, groups) ∧
      info.rule = 0 ∧ "endif" ∈ info.endTokens groups ∧
      c.forms.lookupEnd? "endif" = none ∧ c.classify "endif" = .unclassified) ∧
    ∃ compiled c info groups,
      compile { surround := [{ start := "a)|(?:b", endings := ["x$0y"] }] } = .ok compiled ∧
      compiled.bind ["a"] = .ok c ∧ c.forms.lookupStart? "a" = some (info, groups) ∧
      info.rule = 0 ∧ "xay" ∈ info.endTokens groups ∧
      c.forms.lookupEnd? "xay" = none ∧ c.classify "xay" = .unclassified := by
  constructor
  · exact exists_unrecognised (by decide +kernel)
  · exact exists_unrecognised (by decide +kernel)

end TokenClassifier
