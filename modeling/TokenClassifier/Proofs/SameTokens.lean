import TokenClassifier.Proofs.Forms

/-!
# Streams with the same tokens

A stream has tokens, has them in an order, and may have them more than once. The tables for two
streams with the same tokens differ in two respects only: in the order of the end tokens that a form
lists, and in the rule to which a token leads that was found in the stream. Whether the tables can
be made, which form a token opens, which end tokens a form has and which tokens are ends is the same
(`build_sameTokens`). These are all questions of which tokens the stream has, and not of where.

Repeats make no difference at all: without its later repeats a stream has the very same tables
(`build_eraseDups`). Both passes over the stream drop what they have met before, the one into a set
of templates and the other against a list of tokens already kept.
-/

namespace TokenClassifier

namespace StartInfo

/-- The same rule with the same end tokens, in one order or another. -/
structure SameEnds (info info' : StartInfo) : Prop where
  rule : info'.rule = info.rule
  listed : ∀ groups, (info.endTokens groups).Perm (info'.endTokens groups)

/-- End tokens are listed once, so it is enough to know which there are. -/
theorem perm_endTokens {info info' : StartInfo} {groups : List String}
    (same : ∀ e, e ∈ info.endTokens groups ↔ e ∈ info'.endTokens groups) :
    (info.endTokens groups).Perm (info'.endTokens groups) :=
  (List.perm_ext_iff_of_nodup (Endings.nodup_tokens _ _) (Endings.nodup_tokens _ _)).mpr same

end StartInfo

namespace FormTables

/-- Two pairs of tables say the same of a token, but for the order of end tokens and the rule to
which an end leads. -/
structure SameButOrder (t t' : FormTables) (token : String) : Prop where
  /-- The token opens a form for both or for neither. The rule, the groups and the end tokens are
  the same. -/
  start : Option.Rel (fun opened opened' => opened.1.SameEnds opened'.1 ∧ opened'.2 = opened.2)
    (t.lookupStart? token) (t'.lookupStart? token)
  /-- The token is an end for both or for neither. -/
  stop : (t'.lookupEnd? token).isSome = (t.lookupEnd? token).isSome

end FormTables

namespace Forms

variable {rules : List SurroundRule} {ts us : List String} {t t' : FormTables}

/-! ## The same tokens in another order -/

section SameTokens

variable (same : ∀ token, token ∈ ts ↔ token ∈ us)
include same

/-- A rule learns the same tokens from streams of the same tokens. -/
theorem mem_learned_congr (index : Nat) (token : String) :
    token ∈ learned rules ts index ↔ token ∈ learned rules us index := by
  simp only [learned, List.mem_filter, same]

/-- The same is found in streams of the same tokens, though it may be found in another order. -/
theorem mem_found_congr (x : String × Nat) : x ∈ found rules ts ↔ x ∈ found rules us := by
  obtain ⟨e, index⟩ := x
  simp only [mem_found_iff, same]

/-- A token opens the same form, with the same end tokens. Those that are learnt may come in another
order. -/
theorem lookupStart?_of_sameTokens (h : build rules ts = .ok t) (h' : build rules us = .ok t')
    (token : String) :
    Option.Rel (fun opened opened' => opened.1.SameEnds opened'.1 ∧ opened'.2 = opened.2)
      (t.lookupStart? token) (t'.lookupStart? token) := by
  rw [lookupStart?_of_build h, lookupStart?_of_build h']
  cases opening? rules token with
  | none => exact .none
  | some opened =>
    obtain ⟨index, rule, groups⟩ := opened
    refine .some ⟨⟨rfl, fun given => StartInfo.perm_endTokens fun e => ?_⟩, rfl⟩
    simp only [StartInfo.endTokens, Endings.mem_tokens_iff, OrderedSet.mem_toList_ofList,
      List.mem_append, List.mem_map, mem_learned_congr same]

/-- A token is an end or none, whatever the order. For which rule it was found first does depend on
the order. -/
theorem isSome_lookupEnd?_of_sameTokens (h : build rules ts = .ok t)
    (h' : build rules us = .ok t') (token : String) :
    (t'.lookupEnd? token).isSome = (t.lookupEnd? token).isSome := by
  rw [lookupEnd?_eq h, lookupEnd?_eq h', Option.isSome_or, Option.isSome_or]
  congr 1
  rw [Bool.eq_iff_iff, List.lookup_isSome_iff, List.lookup_isSome_iff]
  simp only [mem_found_congr same]

end SameTokens

/-! ## Without later repeats -/

/-- From a stream without later repeats a rule learns what it learns from the stream, without later
repeats. -/
theorem learned_eraseDups (rules : List SurroundRule) (tokens : List String) (index : Nat) :
    learned rules tokens.eraseDups index = (learned rules tokens index).eraseDups :=
  filter_eraseDups _ _

/-- Learning changes no number of rows. -/
theorem length_learnAll (table : PatternTable Nat) (infos : List StartInfo)
    (tokens : List String) : (learnAll table infos tokens).length = infos.length := by
  unfold learnAll
  induction tokens generalizing infos with
  | nil => rfl
  | cons token tokens ih =>
    rw [List.foldl_cons, ih, learn]
    split
    next => exact List.length_modify ..
    next => rfl

/-- A rule learns a token once: learning it again changes nothing. Row by row, the endings are sets
of the same tokens. -/
theorem learnAll_eraseDups {table : PatternTable Nat}
    (h : PatternTable.build (inferenceEntries rules) = .ok table) (tokens : List String) :
    learnAll table (declaredInfos rules) tokens.eraseDups =
      learnAll table (declaredInfos rules) tokens := by
  refine List.ext_getElem? fun index => ?_
  cases at' : rules[index]? with
  | some rule =>
    have known := getElem?_declaredInfos at'
    rw [getElem?_learnAll h known, getElem?_learnAll h known, learned_eraseDups,
      OrderedSet.ofList_append_map_eraseDups]
  | none =>
    have beyond : (declaredInfos rules).length ≤ index := by
      simpa [declaredInfos] using at'
    rw [List.getElem?_eq_none (by rwa [length_learnAll]),
      List.getElem?_eq_none (by rwa [length_learnAll])]

/-- What is kept depends on which tokens are known, and not on their order, nor on how often they
are. -/
theorem keepFirst_congr {known known' : List String}
    (same : ∀ token, token ∈ known ↔ token ∈ known') (xs : List (String × Nat × Nat)) :
    keepFirst known xs = keepFirst known' xs := by
  induction xs generalizing known known' with
  | nil => rfl
  | cons x xs ih =>
    obtain ⟨first, place⟩ := x
    have contains : known.contains first = known'.contains first := by
      rw [Bool.eq_iff_iff, List.contains_iff_mem, List.contains_iff_mem, same]
    have more : ∀ token, token ∈ first :: known ↔ token ∈ first :: known' := by
      intro token
      rw [List.mem_cons, List.mem_cons, same]
    rw [keepFirst, keepFirst, contains, ih same, ih more]

/-- Of two rows, the tokens of the first one are known when the second one is looked through. By
induction on the first. -/
theorem keepFirst_append (known : List String) (xs ys : List (String × Nat × Nat)) :
    keepFirst known (xs ++ ys) =
      keepFirst known xs ++ keepFirst (xs.map Prod.fst ++ known) ys := by
  induction xs generalizing known with
  | nil => rfl
  | cons x xs ih =>
    obtain ⟨first, place⟩ := x
    rw [List.cons_append, keepFirst, keepFirst, List.map_cons]
    cases mem : known.contains first with
    | true =>
      rw [if_pos rfl, if_pos rfl, ih]
      congr 1
      refine keepFirst_congr (fun token => ?_) ys
      have there := List.contains_iff_mem.mp mem
      simp only [List.cons_append, List.mem_cons, List.mem_append]
      exact ⟨.inr, fun e => e.elim (fun e => .inr (e ▸ there)) id⟩
    | false =>
      rw [if_neg Bool.false_ne_true, if_neg Bool.false_ne_true, ih, List.cons_append]
      congr 2
      refine keepFirst_congr (fun token => ?_) ys
      simp only [List.cons_append, List.mem_cons, List.mem_append]
      exact or_left_comm

/-- A row of which all tokens are known adds nothing. -/
theorem keepFirst_eq_nil {known : List String} {xs : List (String × Nat × Nat)}
    (h : ∀ x ∈ xs, x.1 ∈ known) : keepFirst known xs = [] := by
  induction xs with
  | nil => rfl
  | cons x xs ih =>
    obtain ⟨first, place⟩ := x
    obtain ⟨there, later⟩ := List.forall_mem_cons.mp h
    rw [keepFirst, if_pos (List.contains_iff_mem.mpr there), ih later]

/-- What is found for a token is found once. By induction from the end of the stream: a last token
that was there before finds nothing that is not known by then. -/
theorem keepFirst_flatMap_eraseDups (finds : String → List (String × Nat × Nat))
    (tokens : List String) :
    keepFirst [] (tokens.eraseDups.flatMap finds) = keepFirst [] (tokens.flatMap finds) := by
  induction tokens using List.reverseRecOn with
  | nil => rfl
  | append_singleton tokens token ih =>
    rw [eraseDups_concat, List.flatMap_append, List.flatMap_singleton, keepFirst_append]
    split
    next known =>
      have nothing : ∀ x ∈ finds token, x.1 ∈ (tokens.flatMap finds).map Prod.fst ++ [] := by
        intro x mem
        rw [List.append_nil]
        exact List.mem_map_of_mem (List.mem_flatMap.mpr ⟨token, known, mem⟩)
      rw [ih, keepFirst_eq_nil nothing, List.append_nil]
    next =>
      rw [List.flatMap_append, List.flatMap_singleton, keepFirst_append, ih]
      congr 1
      refine keepFirst_congr (fun e => ?_) _
      simp only [List.append_nil, List.mem_map, List.mem_flatMap, List.mem_eraseDups]

/-- A stream without its later repeats adds the same entries to the table of ends, in the same
order. -/
theorem foundEntries_eraseDups (rules : List SurroundRule) (starts : PatternTable Nat)
    (tokens : List String) :
    foundEntries rules starts tokens.eraseDups = foundEntries rules starts tokens := by
  rw [foundEntries, foundEntries, keepFirst_flatMap_eraseDups]

/-- A stream without its later repeats has the same tables, or fails in the same way. The tables are
equal, not only alike. -/
theorem build_eraseDups (rules : List SurroundRule) (tokens : List String) :
    build rules tokens.eraseDups = build rules tokens := by
  unfold build
  cases PatternTable.build (startEntries rules) with
  | error e => rfl
  | ok starts =>
    cases hi : PatternTable.build (inferenceEntries rules) with
    | error e => rfl
    | ok inference => simp only [ok_bind, learnAll_eraseDups hi, foundEntries_eraseDups]

end Forms

/-! ## Both together -/

/-- Where two streams have the same tokens, either both have tables, and these differ in order only,
or both have none for the same reason. The tables are the very same if the one stream is the other
without its later repeats. -/
theorem build_sameTokens (rules : List SurroundRule) {ts us : List String}
    (same : ∀ token, token ∈ ts ↔ token ∈ us) :
    ((∃ t t', Forms.build rules ts = .ok t ∧ Forms.build rules us = .ok t' ∧
        ∀ token, t.SameButOrder t' token) ∨
      ∃ e, Forms.build rules ts = .error e ∧ Forms.build rules us = .error e) ∧
    (us = ts.eraseDups → Forms.build rules us = Forms.build rules ts) := by
  constructor
  · cases h : Forms.build rules ts with
    | error e => exact .inr ⟨e, rfl, Forms.build_eq_error h us⟩
    | ok t =>
      obtain ⟨t', h'⟩ := Forms.exists_build_of_build h us
      refine .inl ⟨t, t', rfl, h', fun token => ⟨?_, ?_⟩⟩
      · exact Forms.lookupStart?_of_sameTokens same h h' token
      · exact Forms.isSome_lookupEnd?_of_sameTokens same h h' token
  · rintro rfl
    exact Forms.build_eraseDups rules ts

/-- Two deferred rules with an ending in common, and a rule that learns its endings. -/
def sharedRules : List SurroundRule :=
  [{ start := "a(.)", endings := ["e$1"] }, { start := "b(.)", endings := ["e$1"] },
    { start := "begin", stop := some "end.*" }]

/-- In these streams a rule learns two endings in different orders, and a token that is found for
two rules leads to the one that is met first. -/
theorem build_sameTokens_sharedRules :
    ∃ t t', (∀ token, token ∈ ["bx", "end_a", "ax", "end", "bx"] ↔
        token ∈ ["end", "ax", "bx", "end_a", "end"]) ∧
      Forms.build sharedRules ["bx", "end_a", "ax", "end", "bx"] = .ok t ∧
      Forms.build sharedRules ["end", "ax", "bx", "end_a", "end"] = .ok t' ∧
      t.lookupEnd? "ex" = some 1 ∧ (t'.lookupEnd? "ex").isSome = true ∧
      ∃ info info', t.lookupStart? "begin" = some (info, ["begin"]) ∧
        t'.lookupStart? "begin" = some (info', ["begin"]) ∧
        info.endTokens ["begin"] = ["end_a", "end"] ∧
        (info.endTokens ["begin"]).Perm (info'.endTokens ["begin"]) := by
  have same : ∀ token, token ∈ ["bx", "end_a", "ax", "end", "bx"] ↔
      token ∈ ["end", "ax", "bx", "end_a", "end"] := by
    intro token
    simp only [List.mem_cons, List.not_mem_nil, or_false]
    tauto
  obtain ⟨t, h, said⟩ := @Forms.exists_of_built? sharedRules ["bx", "end_a", "ax", "end", "bx"]
    (fun t => t.lookupEnd? "ex" == some 1 && (t.lookupStart? "begin").any fun opened =>
      opened.2 == ["begin"] && opened.1.endTokens ["begin"] == ["end_a", "end"])
    (by decide +kernel)
  simp only [Bool.and_eq_true, beq_iff_eq, Option.any_eq_true] at said
  obtain ⟨leads, ⟨info, groups⟩, opens, rfl, listed⟩ := said
  obtain ⟨⟨t₁, t', h₁, h', alike⟩ | ⟨e, failed, _⟩, _⟩ := build_sameTokens sharedRules same
  · obtain rfl := Except.ok.inj (h.symm.trans h₁)
    have opens' := (alike "begin").start
    rw [opens] at opens'
    cases after : t'.lookupStart? "begin" with
    | none =>
      rw [after] at opens'
      cases opens'
    | some opened' =>
      obtain ⟨info', groups'⟩ := opened'
      rw [after] at opens'
      obtain ⟨ends, rfl⟩ := Option.rel_some_some.mp opens'
      refine ⟨t, t', same, h, h', leads, ?_, info, info', opens, after, listed, ends.listed _⟩
      rw [(alike "ex").stop, leads]
      rfl
  · rw [h] at failed
    cases failed

/-- The order of the stream decides for which rule an ending in common is found. -/
example : [["bx", "ax"], ["ax", "bx"]].map (fun tokens =>
    (Forms.built? sharedRules tokens).bind fun t => t.lookupEnd? "ex") = [some 1, some 0] := by
  decide +kernel

end TokenClassifier
