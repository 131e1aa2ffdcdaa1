import TokenClassifier.Proofs.Forms

/-!
# Streams that grow

What the tables say for a stream they still say for a longer one: `build_append_grows`. A token
opens what it opened, since the stream has no part in that. What is learnt, and what is found, from
the longer stream begins with what is learnt and found from the first (`learned_append`,
`found_append`); so end tokens are added to the list of a form only after those that it had, and an
end keeps its rule, since a look-up asks what was found first. A token that was no end may become
one.
-/

namespace TokenClassifier

namespace StartInfo

/-- The same rule with more end tokens: those that were listed come first, in their order, whatever
the groups. -/
structure Grows (info info' : StartInfo) : Prop where
  rule : info'.rule = info.rule
  listed : ∀ groups, info.endTokens groups <+: info'.endTokens groups

end StartInfo

namespace FormTables

/-- What one pair of tables says of a token the other does not take back. -/
structure Grows (t t' : FormTables) (token : String) : Prop where
  /-- The token opens a form for both or for neither. The rule and the groups are the same. -/
  start : Option.Rel (fun opened opened' => opened.1.Grows opened'.1 ∧ opened'.2 = opened.2)
    (t.lookupStart? token) (t'.lookupStart? token)
  /-- The token leads to the rule that it led to. -/
  stop : ∀ index, t.lookupEnd? token = some index → t'.lookupEnd? token = some index

end FormTables

namespace Forms

variable {rules : List SurroundRule} {tokens more : List String} {t t' : FormTables}

/-! ## What a stream adds to the rules -/

/-- What a rule learns from a longer stream is what it learnt, and then what it learns from the
rest. -/
theorem learned_append (rules : List SurroundRule) (tokens more : List String) (index : Nat) :
    learned rules (tokens ++ more) index =
      learned rules tokens index ++ learned rules more index :=
  List.filter_append tokens more

/-- What is found in a longer stream is what was found, and then what is found in the rest. -/
theorem found_append (rules : List SurroundRule) (tokens more : List String) :
    found rules (tokens ++ more) = found rules tokens ++ found rules more :=
  List.flatMap_append

/-! ## What the tables say -/

/-- A token opens what it opened, with more endings. The rule and the groups are those of before,
and a token that opened nothing still opens nothing. -/
theorem lookupStart?_append (h : build rules tokens = .ok t)
    (h' : build rules (tokens ++ more) = .ok t') (token : String) :
    Option.Rel (fun opened opened' => opened.1.Grows opened'.1 ∧ opened'.2 = opened.2)
      (t.lookupStart? token) (t'.lookupStart? token) := by
  rw [lookupStart?_of_build h, lookupStart?_of_build h']
  cases opening? rules token with
  | none => exact .none
  | some opened =>
    obtain ⟨index, rule, groups⟩ := opened
    refine .some ⟨⟨rfl, fun given => ?_⟩, rfl⟩
    dsimp only [StartInfo.endTokens]
    rw [learned_append, List.map_append, ← List.append_assoc]
    exact Endings.tokens_ofList_prefix _ _ given

/-- A token leads to the rule that it led to. What is found later comes behind what was found
before, and a look-up asks what was found first. -/
theorem lookupEnd?_append (h : build rules tokens = .ok t)
    (h' : build rules (tokens ++ more) = .ok t') {token : String} {index : Nat}
    (leads : t.lookupEnd? token = some index) : t'.lookupEnd? token = some index := by
  rw [lookupEnd?_eq h] at leads
  rw [lookupEnd?_eq h', found_append, List.lookup_append, ← Option.or_assoc, leads, Option.some_or]

end Forms

/-- If the tables can be made for a stream, they can be made for every longer stream, and what
they say of a token is not taken back. That a token is no end is nothing said of it: it may
become one. -/
theorem build_append_grows {rules : List SurroundRule} {tokens : List String} {t : FormTables}
    (h : Forms.build rules tokens = .ok t) (more : List String) :
    ∃ t', Forms.build rules (tokens ++ more) = .ok t' ∧ ∀ token, t.Grows t' token := by
  obtain ⟨t', h'⟩ := Forms.exists_build_of_build h (tokens ++ more)
  refine ⟨t', h', fun token => ⟨Forms.lookupStart?_append h h' token, fun index leads => ?_⟩⟩
  exact Forms.lookupEnd?_append h h' leads

/-- A deferred rule, and a rule that learns its endings. -/
def growingRules : List SurroundRule :=
  [{ start := "open_(.*)", endings := ["close_$1"] }, { start := "begin", stop := some "end.*" }]

/-- In this stream a learnt ending is added behind the first one, and an end that was found keeps
its rule. -/
theorem build_append_grows_growingRules :
    ∃ t t', Forms.build growingRules ["open_a", "end"] = .ok t ∧
      Forms.build growingRules ["open_a", "end", "end_all", "open_b"] = .ok t' ∧
      t.lookupEnd? "close_a" = some 0 ∧ t'.lookupEnd? "close_a" = some 0 ∧
      ∃ info info', t.lookupStart? "begin" = some (info, ["begin"]) ∧
        t'.lookupStart? "begin" = some (info', ["begin"]) ∧
        info.endTokens ["begin"] = ["end"] ∧
        info.endTokens ["begin"] <+: info'.endTokens ["begin"] := by
  obtain ⟨t, h, said⟩ := @Forms.exists_of_built? growingRules ["open_a", "end"]
    (fun t => t.lookupEnd? "close_a" == some 0 && (t.lookupStart? "begin").any fun opened =>
      opened.2 == ["begin"] && opened.1.endTokens ["begin"] == ["end"]) (by decide +kernel)
  simp only [Bool.and_eq_true, beq_iff_eq, Option.any_eq_true] at said
  obtain ⟨leads, ⟨info, groups⟩, opens, rfl, listed⟩ := said
  obtain ⟨t', h', grows⟩ := build_append_grows h ["end_all", "open_b"]
  have opens' := (grows "begin").start
  rw [opens] at opens'
  cases after : t'.lookupStart? "begin" with
  | none =>
    rw [after] at opens'
    cases opens'
  | some opened' =>
    obtain ⟨info', groups'⟩ := opened'
    rw [after] at opens'
    obtain ⟨grown, rfl⟩ := Option.rel_some_some.mp opens'
    exact ⟨t, t', h, h', leads, (grows "close_a").stop 0 leads, info, info', opens, after, listed,
      grown.listed _⟩

end TokenClassifier
