import TokenClassifier.Proofs.Decode
import TokenClassifier.Proofs.Yaml.Blank

/-!
# Layouts of a configuration

A configuration can be written down as a document in many ways. The fields of its records may come
in any order, fields that have their default may be left out, and fields of other names may stand
between them. `Layout.RuleSetAt` describes the documents of a configuration, from the texts and the
numbers up to the whole, without saying how they are read. Each of them is read as just this
configuration (`RuleSet.ofText_layout`).

A field of a record that is given twice is none of these liberties, and neither is a rule without
its pattern. A document with such a fault anywhere is refused, whatever the rest of it is like.
-/

namespace TokenClassifier

open Yaml

namespace Layout

variable (d : Document) {α : Type}

/-! ## Scalars -/

/-- A text in quotes. -/
def Quotes (n : Node) (s : String) : Prop :=
  ∃ tag style, (style = .singleQuoted ∨ style = .doubleQuoted) ∧
    d.follow n = .scalar ⟨tag, style, s.toList⟩

/-- A text in quotes, or a word for its absence, or nothing at all. -/
def QuotesOption (n : Node) : Option String → Prop
  | some s => Quotes d n s
  | none => ∃ word ∈ ["", "null", "Null", "NULL", "~"],
      d.follow n = .scalar ⟨none, .plain, word.toList⟩

/-- The ways to write a number: in decimal, or in another base behind a mark for it, with or without
a plus sign before it. -/
def Spells (cs : List Char) (n : Nat) : Prop :=
  ∃ sign ∈ ["", "+"], ∃ base ∈ [("", 10), ("0x", 16), ("0o", 8), ("0b", 2)],
    cs = sign.toList ++ base.1.toList ++ Nat.toDigits base.2 n

/-- A number, without quotes. -/
def Counts (n : Node) (p : UInt16) : Prop :=
  ∃ tag text, d.follow n = .scalar ⟨tag, .plain, text⟩ ∧ Spells text p.toNat

/-! ## Collections -/

/-- A sequence of nodes for the members of a list. The empty list may be nothing at all. -/
def Lists (R : Node → α → Prop) (n : Node) (as : List α) : Prop :=
  (∃ items, d.follow n = .sequence items ∧ List.Forall₂ R items as) ∨
    as = [] ∧ ∃ tag, d.follow n = .scalar ⟨tag, .plain, []⟩

variable (pairs : List (Node × Node))

/-- A field is given once. -/
def Gives (name : String) (R : Node → α → Prop) (a : α) : Prop :=
  ∃ value, d.valuesOf name pairs = [value] ∧ R value a

/-- A field is given once, or it is left out and has its default. -/
def GivesOr (default : α) (name : String) (R : Node → α → Prop) (a : α) : Prop :=
  Gives d pairs name R a ∨ d.valuesOf name pairs = [] ∧ a = default

/-- All fields have texts for their names, and those with names of no interest have texts for their
values too. -/
def Keyed (names : List String) : Prop :=
  ∀ pair ∈ pairs, ∃ name, d.text? pair.1 = some name ∧
    (name ∈ names ∨ ∃ s, d.text? pair.2 = some s)

/-! ## Records -/

/-- The names of the fields of a surround rule. -/
def surroundNames : List String := ["start", "end", "endings"]

/-- The fields of a surround rule. -/
structure SurroundLaid (rule : SurroundRule) : Prop where
  keyed : Keyed d pairs surroundNames
  start : Gives d pairs "start" (Quotes d) rule.start
  stop : GivesOr d pairs none "end" (QuotesOption d) rule.stop
  endings : GivesOr d pairs [] "endings" (Lists d (Quotes d)) rule.endings

/-- A mapping with the fields of a surround rule. -/
def SurroundAt (n : Node) (rule : SurroundRule) : Prop :=
  ∃ pairs, d.follow n = .mapping pairs ∧ SurroundLaid d pairs rule

/-- The names of the fields of an operator rule. -/
def operatorNames : List String := ["pattern", "prefix-prec", "infix-prec", "postfix-prec"]

/-- The fields of an operator rule. -/
structure OperatorLaid (rule : OperatorRule) : Prop where
  keyed : Keyed d pairs operatorNames
  pattern : Gives d pairs "pattern" (Quotes d) rule.pattern
  before : GivesOr d pairs 0 "prefix-prec" (Counts d) rule.precedence.before
  between : GivesOr d pairs 0 "infix-prec" (Counts d) rule.precedence.between
  after : GivesOr d pairs 0 "postfix-prec" (Counts d) rule.precedence.after

/-- A mapping with the fields of an operator rule. -/
def OperatorAt (n : Node) (rule : OperatorRule) : Prop :=
  ∃ pairs, d.follow n = .mapping pairs ∧ OperatorLaid d pairs rule

/-- The names of the fields of a configuration. -/
def ruleSetNames : List String :=
  ["surround-regexp", "form-prefix-regexp", "simple-label-regexp", "compound-label-regexp",
    "variable-regexp", "operator-regexp"]

/-- The fields of a configuration. -/
structure RuleSetLaid (rules : RuleSet) : Prop where
  keyed : Keyed d pairs ruleSetNames
  surround : GivesOr d pairs [] "surround-regexp" (Lists d (SurroundAt d)) rules.surround
  formPrefixes :
    GivesOr d pairs [] "form-prefix-regexp" (Lists d (Quotes d)) rules.formPrefixes
  simpleLabels :
    GivesOr d pairs [] "simple-label-regexp" (Lists d (Quotes d)) rules.simpleLabels
  compoundLabels :
    GivesOr d pairs [] "compound-label-regexp" (Lists d (Quotes d)) rules.compoundLabels
  variableNames : GivesOr d pairs [] "variable-regexp" (Lists d (Quotes d)) rules.variableNames
  operators : GivesOr d pairs [] "operator-regexp" (Lists d (OperatorAt d)) rules.operators

/-- A mapping with the fields of a configuration. -/
def RuleSetAt (n : Node) (rules : RuleSet) : Prop :=
  ∃ pairs, d.follow n = .mapping pairs ∧ RuleSetLaid d pairs rules

/-! ## Faults -/

/-- A field with one of some names is given more than once. -/
def Repeats (names : List String) : Prop := ∃ name ∈ names, 1 < (d.valuesOf name pairs).length

/-- A mapping among the members of a list that stands under a name. -/
def MemberAt (name : String) (member : List (Node × Node)) : Prop :=
  ∃ value ∈ d.valuesOf name pairs, ∃ items, d.follow value = .sequence items ∧
    ∃ item ∈ items, d.follow item = .mapping member

/-- A field is given twice, or a rule has no pattern. -/
inductive Faulty (n : Node) : Prop
  | repeats {pairs : List (Node × Node)} : d.follow n = .mapping pairs →
      Repeats d pairs ruleSetNames → Faulty n
  | surround {pairs rule : List (Node × Node)} : d.follow n = .mapping pairs →
      MemberAt d pairs "surround-regexp" rule →
      Repeats d rule surroundNames ∨ d.valuesOf "start" rule = [] → Faulty n
  | operator {pairs rule : List (Node × Node)} : d.follow n = .mapping pairs →
      MemberAt d pairs "operator-regexp" rule →
      Repeats d rule operatorNames ∨ d.valuesOf "pattern" rule = [] → Faulty n

end Layout

/-! ## Reading what was laid out -/

namespace Decode

open Layout

variable {d : Document} {α : Type}

/-- A node that stands for a scalar has the text of the scalar, however it is quoted. -/
theorem text?_of_follow {n : Node} {s : Scalar} (h : d.follow n = .scalar s) :
    d.text? n = some (String.ofList s.text) := by
  rw [Document.text?, h]

/-- A text in quotes is read as this text. -/
theorem text_of_quotes {n : Node} {s : String} (h : Quotes d n s) : text d n = .ok s := by
  obtain ⟨tag, style, _, h⟩ := h
  rw [text_eq_ok_iff, text?_of_follow h, String.ofList_toList]

/-- A text in quotes is read as this text where it may be absent too, and the words for its absence
as none. Quotes make the difference: the word itself, in quotes, is a text. -/
theorem optionalText_of_quotes {n : Node} {s : Option String} (h : QuotesOption d n s) :
    optionalText d n = .ok s := by
  cases s with
  | some s =>
    obtain ⟨tag, style, quoted, h⟩ := h
    have styled : style ≠ .plain := by
      rintro rfl
      simp at quoted
    simp [optionalText, h, styled]
  | none =>
    obtain ⟨word, mem, h⟩ := h
    have absent : ∀ word ∈ ["", "null", "Null", "NULL", "~"],
        (word.toList.isEmpty || isNull word.toList) = true := by decide
    simp [optionalText, h, absent word mem]

/-! ### Numbers -/

/-- However a number is spelled, it is read as the number. The four bases have a case each, and the
sign before them changes nothing. -/
theorem natural?_of_spells {cs : List Char} {n : Nat} (h : Spells cs n) : natural? cs = some n := by
  obtain ⟨sign, hsign, base, hbase, rfl⟩ := h
  have unsigned : natural? (base.1.toList ++ Nat.toDigits base.2 n) = some n ∧
      (base.1.toList ++ Nat.toDigits base.2 n).head? ≠ some '+' := by
    simp only [List.mem_cons, List.not_mem_nil, or_false] at hbase
    rcases hbase with rfl | rfl | rfl | rfl
    · exact ⟨natural?_toDigits n, head?_toDigits_ne_plus n⟩
    · exact ⟨digits?_toDigits (by decide) (by decide) n, nofun⟩
    · exact ⟨digits?_toDigits (by decide) (by decide) n, nofun⟩
    · exact ⟨digits?_toDigits (by decide) (by decide) n, nofun⟩
  simp only [List.mem_cons, List.not_mem_nil, or_false] at hsign
  rcases hsign with rfl | rfl
  · exact unsigned.1
  · exact (natural?_plus unsigned.2).trans unsigned.1

/-- A number of at most sixteen bits is read as a precedence, in whatever way it is spelled. -/
theorem precedence_of_counts {n : Node} {p : UInt16} (h : Counts d n p) :
    precedence d n = .ok p := by
  obtain ⟨tag, text, h, spelled⟩ := h
  simp [precedence, h, natural?_of_spells spelled, p.toNat_lt]

/-! ### Lists -/

/-- A sequence of nodes for the members of a list is read as the list, if nodes for members are read
as members. The empty scalar is read as the list without members. -/
theorem list_of_lists {R : Node → α → Prop} {decode : Node → Except DecodeError α} {n : Node}
    {as : List α} (h : Lists d R n as) (read : ∀ n a, R n a → decode n = .ok a) :
    list d decode n = .ok as := by
  unfold list
  rcases h with ⟨items, h, members⟩ | ⟨rfl, tag, h⟩
  · rw [h]
    dsimp only
    rw [each_eq_mapM, mapM_eq_ok_iff]
    exact members.imp read
  · rw [h]
    rfl

/-! ### Records -/

section Record

variable {pairs : List (Node × Node)} {name : String} {R : Node → α → Prop}
  {decode : Node → Except DecodeError α} {σ : Type} {slots : Slots σ} {f f' : σ}

/-- A field that is given once fills its slot. -/
theorem filled_of_gives {a : α} (h : Gives d pairs name R a)
    (read : ∀ n a, R n a → decode n = .ok a) :
    Filled decode none (d.valuesOf name pairs) (some a) := by
  obtain ⟨value, one, here⟩ := h
  exact .inr ⟨rfl, value, a, one, read value a here, rfl⟩

/-- A field that may be left out fills its slot with what was given, or leaves it empty for the
default. -/
theorem filled_of_givesOr {a default : α} (h : GivesOr d pairs default name R a)
    (read : ∀ n a, R n a → decode n = .ok a) :
    ∃ found, Filled decode none (d.valuesOf name pairs) found ∧ found.getD default = a := by
  rcases h with given | ⟨nothing, rfl⟩
  · exact ⟨some a, filled_of_gives given read, rfl⟩
  · exact ⟨none, .inl ⟨nothing, rfl⟩, rfl⟩

/-- A record is read off pairs that are laid out for its slots, and each slot then holds what stands
under its name. Nothing is said of the order of the pairs, nor of what stands between them. -/
theorem record_of_keyed (given : ∀ slot ∈ slots.all, slot.kept f = none ∧
      ∃ found, Filled slot.decode none (d.valuesOf slot.name pairs) found)
    (keyed : Keyed d pairs slots.names) :
    ∃ f', record d slots.take f pairs = .ok f' ∧
      ∀ slot ∈ slots.all, Filled slot.decode none (d.valuesOf slot.name pairs) (slot.kept f') := by
  obtain ⟨f', h⟩ : ∃ f', record d slots.take f pairs = .ok f' := by
    refine exists_record (fun pair mem => ?_) fun slot mem => ?_
    · obtain ⟨name, hname, known | ⟨s, value⟩⟩ := keyed pair mem
      · exact ⟨name, hname, .inl known⟩
      · exact ⟨name, hname, .inr (isWhole_of_text? value)⟩
    · obtain ⟨free, filled⟩ := given slot mem
      rwa [free]
  refine ⟨f', h, fun slot mem => ?_⟩
  have filled := filled_of_record h slot mem
  rwa [(given slot mem).1] at filled

/-- Pairs off which a record was read have no field twice, since a slot that is filled takes nothing
more. -/
theorem not_repeats_of_record (h : record d slots.take f pairs = .ok f') :
    ¬ Repeats d pairs slots.names := by
  rintro ⟨name, known, more⟩
  obtain ⟨slot, mem, rfl⟩ := List.mem_map.mp known
  exact Nat.not_lt.mpr (filled_of_record h slot mem).length_le more

end Record

/-- A sequence of texts in quotes is read as the list of the texts. -/
theorem texts_of_lists (n : Node) (as : List String) (h : Lists d (Quotes d) n as) :
    list d (text d) n = .ok as :=
  list_of_lists h fun _ _ => text_of_quotes

/-- A surround rule is read off each of its layouts. -/
theorem surroundRule_of_laid {n : Node} {rule : SurroundRule} (h : SurroundAt d n rule) :
    surroundRule d n = .ok rule := by
  obtain ⟨pairs, hn, laid⟩ := h
  have start := filled_of_gives laid.start fun _ _ => text_of_quotes
  obtain ⟨stop, hstop, isStop⟩ := filled_of_givesOr laid.stop fun _ _ => optionalText_of_quotes
  obtain ⟨endings, hendings, areEndings⟩ := filled_of_givesOr laid.endings texts_of_lists
  have given : ∀ slot ∈ (surroundSlots d).all, slot.kept {} = none ∧
      ∃ found, Filled slot.decode none (d.valuesOf slot.name pairs) found := by
    simp only [surroundSlots, List.forall_mem_cons]
    exact ⟨⟨trivial, _, start⟩, ⟨trivial, _, hstop⟩, ⟨trivial, _, hendings⟩, List.forall_mem_nil _⟩
  obtain ⟨f, read, filled⟩ := record_of_keyed given laid.keyed
  -- a slot is filled in one way only, so with what was laid out for it
  simp only [surroundSlots, List.forall_mem_cons] at filled
  obtain ⟨start', stop', endings', _⟩ := filled
  rw [surroundRule, fields_of_mapping hn, ok_bind, surroundField_eq, read, ok_bind,
    start'.unique start, stop'.unique hstop, endings'.unique hendings, isStop, areEndings]
  rfl

/-- A surround rule that can be read has its start pattern, and no field twice. These are the two
faults of a rule that a document can have. -/
theorem sound_of_surroundRule {n : Node} {pairs : List (Node × Node)} {rule : SurroundRule}
    (h : surroundRule d n = .ok rule) (hn : d.follow n = .mapping pairs) :
    ¬ Repeats d pairs surroundNames ∧ d.valuesOf "start" pairs ≠ [] := by
  rw [surroundRule, fields_of_mapping hn, ok_bind, surroundField_eq] at h
  obtain ⟨f, read, h⟩ := bind_eq_ok_iff.mp h
  obtain ⟨start, found, _⟩ := bind_eq_ok_iff.mp h
  have filled := filled_of_record read
  simp only [surroundSlots, List.forall_mem_cons, required_eq_ok_iff.mp found] at filled
  exact ⟨not_repeats_of_record read, filled.1.ne_nil⟩

/-- An operator rule is read off each of its layouts. Precedences that are left out are zero. -/
theorem operatorRule_of_laid {n : Node} {rule : OperatorRule} (h : OperatorAt d n rule) :
    operatorRule d n = .ok rule := by
  obtain ⟨pairs, hn, laid⟩ := h
  have pattern := filled_of_gives laid.pattern fun _ _ => text_of_quotes
  obtain ⟨before, hbefore, isBefore⟩ :=
    filled_of_givesOr laid.before fun _ _ => precedence_of_counts
  obtain ⟨between, hbetween, isBetween⟩ :=
    filled_of_givesOr laid.between fun _ _ => precedence_of_counts
  obtain ⟨after, hafter, isAfter⟩ := filled_of_givesOr laid.after fun _ _ => precedence_of_counts
  have given : ∀ slot ∈ (operatorSlots d).all, slot.kept {} = none ∧
      ∃ found, Filled slot.decode none (d.valuesOf slot.name pairs) found := by
    simp only [operatorSlots, List.forall_mem_cons]
    exact ⟨⟨trivial, _, pattern⟩, ⟨trivial, _, hbefore⟩, ⟨trivial, _, hbetween⟩,
      ⟨trivial, _, hafter⟩, List.forall_mem_nil _⟩
  obtain ⟨f, read, filled⟩ := record_of_keyed given laid.keyed
  simp only [operatorSlots, List.forall_mem_cons] at filled
  obtain ⟨pattern', before', between', after', _⟩ := filled
  rw [operatorRule, fields_of_mapping hn, ok_bind, operatorField_eq, read, ok_bind,
    pattern'.unique pattern, before'.unique hbefore, between'.unique hbetween,
    after'.unique hafter, isBefore, isBetween, isAfter]
  rfl

/-- An operator rule that can be read has its pattern, and no field twice. -/
theorem sound_of_operatorRule {n : Node} {pairs : List (Node × Node)} {rule : OperatorRule}
    (h : operatorRule d n = .ok rule) (hn : d.follow n = .mapping pairs) :
    ¬ Repeats d pairs operatorNames ∧ d.valuesOf "pattern" pairs ≠ [] := by
  rw [operatorRule, fields_of_mapping hn, ok_bind, operatorField_eq] at h
  obtain ⟨f, read, h⟩ := bind_eq_ok_iff.mp h
  obtain ⟨pattern, found, _⟩ := bind_eq_ok_iff.mp h
  have filled := filled_of_record read
  simp only [operatorSlots, List.forall_mem_cons, required_eq_ok_iff.mp found] at filled
  exact ⟨not_repeats_of_record read, filled.1.ne_nil⟩

/-- A configuration is read off each of its layouts. The members of its lists are laid out in ways
of their own, and are read by the lemmas above. -/
theorem ruleSet_of_laid {n : Node} {rules : RuleSet} (h : RuleSetAt d n rules) :
    ruleSet d n = .ok rules := by
  obtain ⟨pairs, hn, laid⟩ := h
  obtain ⟨surround, hsurround, areSurround⟩ := filled_of_givesOr laid.surround
    fun _ _ h => list_of_lists h fun _ _ => surroundRule_of_laid
  obtain ⟨formPrefixes, hformPrefixes, areFormPrefixes⟩ :=
    filled_of_givesOr laid.formPrefixes texts_of_lists
  obtain ⟨simpleLabels, hsimpleLabels, areSimpleLabels⟩ :=
    filled_of_givesOr laid.simpleLabels texts_of_lists
  obtain ⟨compoundLabels, hcompoundLabels, areCompoundLabels⟩ :=
    filled_of_givesOr laid.compoundLabels texts_of_lists
  obtain ⟨variableNames, hvariableNames, areVariableNames⟩ :=
    filled_of_givesOr laid.variableNames texts_of_lists
  obtain ⟨operators, hoperators, areOperators⟩ := filled_of_givesOr laid.operators
    fun _ _ h => list_of_lists h fun _ _ => operatorRule_of_laid
  have given : ∀ slot ∈ (ruleSetSlots d).all, slot.kept {} = none ∧
      ∃ found, Filled slot.decode none (d.valuesOf slot.name pairs) found := by
    simp only [ruleSetSlots, List.forall_mem_cons]
    exact ⟨⟨trivial, _, hsurround⟩, ⟨trivial, _, hformPrefixes⟩, ⟨trivial, _, hsimpleLabels⟩,
      ⟨trivial, _, hcompoundLabels⟩, ⟨trivial, _, hvariableNames⟩, ⟨trivial, _, hoperators⟩,
      List.forall_mem_nil _⟩
  obtain ⟨f, read, filled⟩ := record_of_keyed given laid.keyed
  simp only [ruleSetSlots, List.forall_mem_cons] at filled
  obtain ⟨surround', formPrefixes', simpleLabels', compoundLabels', variableNames', operators',
    _⟩ := filled
  rw [ruleSet, fields_of_mapping hn, ok_bind, ruleSetField_eq, read, ok_bind,
    surround'.unique hsurround, formPrefixes'.unique hformPrefixes,
    simpleLabels'.unique hsimpleLabels, compoundLabels'.unique hcompoundLabels,
    variableNames'.unique hvariableNames, operators'.unique hoperators, areSurround,
    areFormPrefixes, areSimpleLabels, areCompoundLabels, areVariableNames, areOperators]
  rfl

/-- If a configuration can be read, so can the rules of its lists: a member that stands under a name
has been read on the way. -/
theorem exists_member_of_filled {pairs member : List (Node × Node)}
    {decode : Node → Except DecodeError α} {name : String} {before after : Option (List α)}
    (filled : Filled (list d decode) before (d.valuesOf name pairs) after)
    (mem : MemberAt d pairs name member) :
    ∃ item a, d.follow item = .mapping member ∧ decode item = .ok a := by
  obtain ⟨value, here, items, hvalue, item, hitem, hmember⟩ := mem
  rcases filled with ⟨nothing, _⟩ | ⟨_, value', as, one, decoded, _⟩
  · rw [nothing] at here
    cases here
  · rw [one, List.mem_singleton] at here
    subst here
    obtain ⟨a, h⟩ := exists_member_of_list decoded hvalue hitem
    exact ⟨item, a, hmember, h⟩

/-- A document with a fault is no configuration. Wherever the fault is, the record that it is in
cannot be read, and then neither can the whole. -/
theorem not_faulty_of_ruleSet {n : Node} {rules : RuleSet} (h : ruleSet d n = .ok rules) :
    ¬ Faulty d n := by
  have read {pairs} (hn : d.follow n = .mapping pairs) :
      ∃ f', record d (ruleSetSlots d).take {} pairs = .ok f' := by
    rw [ruleSet, fields_of_mapping hn, ok_bind, ruleSetField_eq] at h
    obtain ⟨f', read, _⟩ := bind_eq_ok_iff.mp h
    exact ⟨f', read⟩
  intro faulty
  cases faulty with
  | repeats hn repeated =>
    obtain ⟨f', read⟩ := read hn
    exact not_repeats_of_record read repeated
  | surround hn member fault =>
    obtain ⟨f', read⟩ := read hn
    have filled := filled_of_record read
    simp only [ruleSetSlots, List.forall_mem_cons] at filled
    obtain ⟨item, rule, hitem, hrule⟩ := exists_member_of_filled filled.1 member
    obtain ⟨unrepeated, given⟩ := sound_of_surroundRule hrule hitem
    exact fault.elim unrepeated given
  | operator hn member fault =>
    obtain ⟨f', read⟩ := read hn
    have filled := filled_of_record read
    simp only [ruleSetSlots, List.forall_mem_cons] at filled
    obtain ⟨item, rule, hitem, hrule⟩ := exists_member_of_filled filled.2.2.2.2.2.1 member
    obtain ⟨unrepeated, given⟩ := sound_of_operatorRule hrule hitem
    exact fault.elim unrepeated given

end Decode

/-! ## Documents -/

namespace RuleSet

variable {text : String} {d : Document}

/-- A text that holds a mapping is not blank, so it is read as its document is. That blank texts
hold none is what the scanner's invariants are for. -/
theorem ofText_of_mapping (read : Document.ofText text.toList = d) {pairs : List (Node × Node)}
    (h : d.follow d.root = .mapping pairs) : ofText text = ofDocument d := by
  subst read
  refine if_neg fun blank => ?_
  rw [List.all_eq_true] at blank
  rcases Document.root_ofText_of_blank blank with broken | ⟨s, scalar⟩
  · rw [broken] at h
    cases h
  · rw [scalar] at h
    cases h

/-- A document of a configuration is read as this configuration, however its mappings are laid out.
A document in which a field is given twice in one mapping, or in which a rule has no pattern, is
refused. Only the first half asks for `d.complete`, that the document ends as it should with nothing
after it: a fault in it is reported before its end is looked at. -/
theorem ofText_layout (read : Document.ofText text.toList = d) :
    (∀ rules, d.complete = true → Layout.RuleSetAt d d.root rules → ofText text = .ok rules) ∧
    (Layout.Faulty d d.root → ∃ e, ofText text = .error e) := by
  constructor
  · intro rules complete laid
    have decoded := Decode.ruleSet_of_laid laid
    obtain ⟨pairs, hroot, _⟩ := laid
    rw [ofText_of_mapping read hroot, ofDocument, decoded, ok_bind, if_pos complete]
    rfl
  · intro faulty
    have mapping : ∃ pairs, d.follow d.root = .mapping pairs := by
      cases faulty with
      | repeats hroot | surround hroot | operator hroot => exact ⟨_, hroot⟩
    obtain ⟨pairs, hroot⟩ := mapping
    rw [ofText_of_mapping read hroot]
    cases h : ofDocument d with
    | error e => exact ⟨e, rfl⟩
    | ok rules =>
      obtain ⟨rules', decoded, _⟩ := bind_eq_ok_iff.mp h
      exact absurd faulty (Decode.not_faulty_of_ruleSet decoded)

example : ofText "variable-regexp: []\nvariable-regexp: []" =
    .error (.duplicate "variable-regexp") := by
  decide +kernel

/-- A scalar without quotes. -/
def plainScalar (s : String) : Scalar := ⟨none, .plain, s.toList⟩

/-- A scalar in single quotes. -/
def quotedScalar (s : String) : Scalar := ⟨none, .singleQuoted, s.toList⟩

/-- An operator rule with its fields the other way round and one more between them, in a mapping
with an unknown field as well. -/
def shuffledText : String :=
  "zone: 'x'\noperator-regexp:\n- infix-prec: 0x14\n  zone: ''\n  pattern: '+'"

/-- The pairs of the operator rule in `shuffledText`, as they stand. -/
def shuffledOperator : List (Node × Node) :=
  [(.scalar (plainScalar "infix-prec"), .scalar (plainScalar "0x14")),
    (.scalar (plainScalar "zone"), .scalar (quotedScalar "")),
    (.scalar (plainScalar "pattern"), .scalar (quotedScalar "+"))]

/-- The pairs of the mapping around it. -/
def shuffledPairs : List (Node × Node) :=
  [(.scalar (plainScalar "zone"), .scalar (quotedScalar "x")),
    (.scalar (plainScalar "operator-regexp"), .sequence [.mapping shuffledOperator])]

/-- The document of `shuffledText`. -/
def shuffledDocument : Document where
  root := .mapping shuffledPairs

/-- The text holds one document, with the nodes as they stand in it. -/
theorem ofText_shuffledText : Document.ofText shuffledText.toList = shuffledDocument := by
  have events : Event.ofTokens (Token.scan shuffledText.toList).1 =
      [.documentStart, .mappingStart none, .scalar none (plainScalar "zone"),
        .scalar none (quotedScalar "x"), .scalar none (plainScalar "operator-regexp"),
        .sequenceStart none, .mappingStart none, .scalar none (plainScalar "infix-prec"),
        .scalar none (plainScalar "0x14"), .scalar none (plainScalar "zone"),
        .scalar none (quotedScalar ""), .scalar none (plainScalar "pattern"),
        .scalar none (quotedScalar "+"), .mappingEnd, .sequenceEnd, .mappingEnd, .documentEnd,
        .streamEnd] := by decide +kernel
  rw [Document.ofText, events]
  rfl

/-- The member of its list is an operator rule, in spite of the order of its fields. The precedence
is spelled in another base, and those that are left out are zero. -/
theorem operatorAt_shuffled :
    Layout.OperatorAt shuffledDocument (.mapping shuffledOperator) ⟨"+", ⟨0, 20, 0⟩⟩ := by
  refine ⟨shuffledOperator, rfl, ?_, ?_, ?_, ?_, ?_⟩
  · simp [Layout.Keyed, shuffledOperator, Document.text?, Document.follow, plainScalar,
      Layout.operatorNames]
  · refine ⟨.scalar (quotedScalar "+"), ?_, none, _, .inl rfl, rfl⟩
    simp [Document.valuesOf, shuffledOperator, Document.text?, Document.follow, plainScalar]
  · refine .inr ⟨?_, rfl⟩
    simp [Document.valuesOf, shuffledOperator, Document.text?, Document.follow, plainScalar]
  · refine .inl ⟨.scalar (plainScalar "0x14"), ?_, none, _, rfl, ?_⟩
    · simp [Document.valuesOf, shuffledOperator, Document.text?, Document.follow, plainScalar]
    · exact ⟨"", by simp, ("0x", 16), by simp, rfl⟩
  · refine .inr ⟨?_, rfl⟩
    simp [Document.valuesOf, shuffledOperator, Document.text?, Document.follow, plainScalar]

/-- The document is a configuration with this operator and nothing else. Five of its six fields are
left out, and the one with a name of no interest is passed over. -/
theorem ruleSetAt_shuffled : Layout.RuleSetAt shuffledDocument shuffledDocument.root
    { operators := [⟨"+", ⟨0, 20, 0⟩⟩] } := by
  have none : ∀ name ∈ Layout.ruleSetNames, name ≠ "operator-regexp" →
      shuffledDocument.valuesOf name shuffledPairs = [] := by
    simp [Layout.ruleSetNames, Document.valuesOf, shuffledPairs, Document.text?, Document.follow,
      plainScalar]
  have left (name : String) (mem : name ∈ Layout.ruleSetNames) (other : name ≠ "operator-regexp")
      {α : Type} (R : Node → List α → Prop) :
      Layout.GivesOr shuffledDocument shuffledPairs [] name R [] :=
    .inr ⟨none name mem other, rfl⟩
  refine ⟨shuffledPairs, rfl, ?_, left "surround-regexp" (by decide) (by decide) _,
    left "form-prefix-regexp" (by decide) (by decide) _,
    left "simple-label-regexp" (by decide) (by decide) _,
    left "compound-label-regexp" (by decide) (by decide) _,
    left "variable-regexp" (by decide) (by decide) _,
    .inl ⟨.sequence [.mapping shuffledOperator], ?_, ?_⟩⟩
  · simp [Layout.Keyed, shuffledPairs, Document.text?, Document.follow, plainScalar,
      Layout.ruleSetNames]
  · simp [Document.valuesOf, shuffledPairs, Document.text?, Document.follow, plainScalar]
  · exact .inl ⟨_, rfl, .cons operatorAt_shuffled .nil⟩

/-- The text is read as that configuration. -/
theorem ofText_layout_shuffled :
    ofText shuffledText = .ok { operators := [⟨"+", ⟨0, 20, 0⟩⟩] } :=
  (ofText_layout ofText_shuffledText).1 _ rfl ruleSetAt_shuffled

end RuleSet

end TokenClassifier
