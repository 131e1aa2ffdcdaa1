import TokenClassifier.Proofs.Run
import TokenClassifier.Proofs.Stream
import TokenClassifier.Proofs.Text.Tokens

/-!
# Lines of output

A run writes a line for every line of its input that is not blank, and the number that it returns
says so. Whether the lines can be told apart in what was written is another question: a line is only
a line if it has no line feed inside.

Most of what a line is made of has none. Letters and numbers do not, and neither does a token or a
part of one, since tokens are cut out of lines. What is left are the characters of templates. A
template may have any, and a line feed in it goes into every end token that it stands for. So the
output of a run has the lines that it should have exactly if no token opens a form whose templates
have a line feed (`run_lines`).
-/

namespace TokenClassifier

/-! ## Line feeds in a line -/

/-- Only digits are in the decimal digits of a number. -/
theorem notMem_toDigits {c : Char} (other : c.isDigit = false) (n : Nat) :
    c ∉ Nat.toDigits 10 n := by
  intro mem
  have digit := Nat.isDigit_of_mem_toDigits (by decide) (by decide) mem
  rw [other] at digit
  cases digit

/-- A line that lists tokens has a line feed if it had one before them, or one of the tokens has. By
induction on the tokens. -/
theorem newline_mem_foldl {tokens : List String} {line : String} :
    '\n' ∈ (tokens.foldl (fun line token => line ++ " " ++ token) line).toList ↔
      '\n' ∈ line.toList ∨ ∃ token ∈ tokens, '\n' ∈ token.toList := by
  induction tokens generalizing line with
  | nil => simp
  | cons token tokens ih => simp [ih, or_assoc]

/-- A line has a line feed inside exactly if it lists an end token that has one. The letter in front, the spaces and the precedences have none. -/
theorem Classification.newline_mem_line {c : Classification} :
    '\n' ∈ c.line.toList ↔ ∃ endings, c = .start endings ∧ ∃ e ∈ endings, '\n' ∈ e.toList := by
  cases c with
  | start endings => simp [line, newline_mem_foldl, code]
  | operator p =>
    simp [line, code, Precedence.text, @notMem_toDigits '\n' rfl]
  | _ => simp [line, code]

/-- The letter of starts stands for starts only. -/
theorem Classification.code_eq_start_iff {c : Classification} :
    c.code = 'S' ↔ ∃ endings, c = .start endings := by
  cases c <;> simp [code]

/-! ## Line feeds in templates -/

/-- An expansion for groups without line feeds has a line feed exactly if the template has. Neither
a reference nor a doubled dollar can take one away. -/
theorem newline_mem_expand {template : String} {groups : List String}
    (plain : ∀ group ∈ groups, '\n' ∉ group.toList) :
    '\n' ∈ (Template.expand template groups).toList ↔ '\n' ∈ template.toList := by
  rw [Template.toList_expand_eq_expandChars]
  refine Template.mem_expandChars_iff (by decide) (by decide) ?_ _
  intro text mem
  obtain ⟨group, hg, rfl⟩ := List.mem_map.mp mem
  exact plain group hg

/-- What closes a form has a line feed exactly if a template of the form's rule has one. What rules
learn are tokens of the stream, and these have none. -/
theorem newline_mem_endTokens {rules : List SurroundRule} {tokens : List String}
    (plain : ∀ token ∈ tokens, '\n' ∉ token.toList) {groups : List String}
    (plainGroups : ∀ group ∈ groups, '\n' ∉ group.toList) (index : Nat) (rule : SurroundRule) :
    (∃ e ∈ endTokens rules tokens index rule groups, '\n' ∈ e.toList) ↔
      ∃ template ∈ rule.endings, '\n' ∈ template.toList := by
  unfold endTokens
  cases he : rule.endings with
  | nil =>
    -- what was learnt are tokens of the stream
    refine iff_of_false ?_ (by simp)
    rintro ⟨e, listed, newline⟩
    exact plain e (List.mem_of_mem_filter (List.mem_eraseDups.mp listed)) newline
  | cons template rest =>
    rw [← he, if_neg (by simp [he])]
    simp [newline_mem_expand plainGroups]

/-! ## The lines of a run -/

variable {rules : RuleSet} {compiled : CompiledRules} {tokens : List String} {c : Classifier}

/-- A token that is read as a start opens a form of a rule, and lists what closes it. -/
theorem exists_opening_of_start (made : CompiledFrom rules compiled)
    (bound : compiled.bind tokens = .ok c) {token : String} {endings : List String}
    (h : c.classify token = .start endings) :
    ∃ index rule groups, Forms.opening? rules.surround token = some (index, rule, groups) ∧
      endings = endTokens rules.surround tokens index rule groups := by
  obtain ⟨_, info, groups, opens, rfl⟩ := Classifier.classify_eq_start_iff.mp h
  obtain ⟨index, rule, ho, rfl⟩ := exists_opening_of_lookupStart? made bound opens
  exact ⟨index, rule, groups, ho, endTokens_eq (Forms.getElem?_of_opening? ho).1 tokens groups⟩

/-- The line of a token has a line feed inside exactly if the token opens a form and a template of
the form's rule has one. The tokens have none themselves, for they were cut out of lines. -/
theorem newline_mem_line_iff (made : CompiledFrom rules compiled)
    (bound : compiled.bind tokens = .ok c) (plain : ∀ token ∈ tokens, '\n' ∉ token.toList)
    {token : String} (mem : token ∈ tokens) :
    '\n' ∈ (c.classify token).line.toList ↔ (c.classify token).code = 'S' ∧
      ∃ index rule groups, Forms.opening? rules.surround token = some (index, rule, groups) ∧
        ∃ template ∈ rule.endings, '\n' ∈ template.toList := by
  rw [Classification.newline_mem_line, Classification.code_eq_start_iff]
  have plainGroups {index : Nat} {rule : SurroundRule} {groups : List String}
      (ho : Forms.opening? rules.surround token = some (index, rule, groups)) :
      ∀ group ∈ groups, '\n' ∉ group.toList := by
    intro group hg newline
    have matched := (Forms.getElem?_of_opening? ho).2.2
    exact plain token mem (mem_of_tokenGroups? matched hg newline)
  constructor
  · rintro ⟨endings, h, broken⟩
    obtain ⟨index, rule, groups, ho, rfl⟩ := exists_opening_of_start made bound h
    refine ⟨⟨_, h⟩, index, rule, groups, ho, ?_⟩
    exact (newline_mem_endTokens plain (plainGroups ho) index rule).mp broken
  · rintro ⟨⟨endings, h⟩, index, rule, groups, ho, broken⟩
    obtain ⟨index', rule', groups', ho', rfl⟩ := exists_opening_of_start made bound h
    rw [ho] at ho'
    cases ho'
    exact ⟨_, h, (newline_mem_endTokens plain (plainGroups ho) index rule).mpr broken⟩

/-- The lines of classifications are the bytes of each line with a line feed behind it. -/
theorem linesOf_eq_flatMap (records : List Classification) :
    linesOf records = (records.map fun c => Utf8.ofString c.line).flatMap (· ++ [10]) := by
  have newline : Utf8.ofString "\n" = [10] := by decide
  simp [linesOf, List.flatMap_map, Utf8.ofString_append, newline]

/-- The lines of classifications can be told apart exactly if none has a line feed inside. Otherwise
there are more pieces than classifications, and reading them line by line goes astray. -/
theorem splitAt_linesOf_iff (records : List Classification) :
    Text.splitAt (· == 10) (linesOf records) =
        (records.map fun c => Utf8.ofString c.line) ++ [[]] ↔
      ∀ c ∈ records, '\n' ∉ c.line.toList := by
  rw [linesOf_eq_flatMap, Text.splitAt_eq_concat_nil_iff, and_iff_right rfl, List.forall_mem_map]
  exact forall₂_congr fun c _ => not_congr Utf8.newline_mem_ofString

/-- A run that succeeds returns the number of the lines of its input that are not blank. Its output
has just so many lines, each ended by a line feed, and each of them the line of the token in its
place, exactly if no token opens a form of a rule with a line feed in a template. The number and the
bytes are given whatever the templates are; only telling the lines apart depends on them. -/
theorem run_lines (h : compile rules = .ok compiled) {bytes : List UInt8} {room : Option Nat}
    {refusal : String} {n : Nat} {left : Sink}
    (ran : compiled.run { bytes } { room, refusal } = (.ok n, left)) :
    ∃ c, compiled.bind (Text.tokens bytes) = .ok c ∧
      n = ((Text.splitAt (· == 10) bytes).countP fun line =>
        !(Text.trim (Utf8.decode line)).isEmpty) ∧
      (Text.tokens bytes).length = n ∧
      left.taken.toList = linesOf ((Text.tokens bytes).map c.classify) ∧
      (Text.splitAt (· == 10) left.taken.toList =
          ((Text.tokens bytes).map fun token => Utf8.ofString (c.classify token).line) ++ [[]] ↔
        ∀ token ∈ Text.tokens bytes, (c.classify token).code = 'S' →
          ∀ index rule groups, Forms.opening? rules.surround token = some (index, rule, groups) →
            ∀ template ∈ rule.endings, '\n' ∉ template.toList) := by
  have made := compiledFrom_of_compile h
  obtain ⟨c, bound, count, written⟩ := exists_bind_of_run ran
  have text : left.taken.toList = linesOf ((Text.tokens bytes).map c.classify) := written
  refine ⟨c, bound, ?_, count.symm, text, ?_⟩
  · rw [count, Text.length_tokens]
  · have plain : ∀ token ∈ Text.tokens bytes, '\n' ∉ token.toList :=
      fun token mem => Text.newline_notMem_of_mem_tokens mem
    have cut := splitAt_linesOf_iff ((Text.tokens bytes).map c.classify)
    rw [List.map_map, List.forall_mem_map] at cut
    rw [text]
    refine cut.trans (forall₂_congr fun token mem => ?_)
    rw [newline_mem_line_iff made bound plain mem]
    simp only [not_and, not_exists]

/-- A receiver without a limit gets the lines of a run to the last. It serves for examples, with a
property of the classifier that can be computed. -/
theorem exists_run_of_bound? {bytes : List UInt8} (p : Classifier → Bool)
    (h : (bound? rules (Text.tokens bytes)).any p = true) :
    ∃ compiled c left, compile rules = .ok compiled ∧ p c = true ∧
      compiled.run { bytes } {} = (.ok (Text.tokens bytes).length, left) ∧
      left.taken.toList = linesOf ((Text.tokens bytes).map c.classify) := by
  obtain ⟨compiled, c, h, bound, found⟩ := exists_of_bound? p h
  obtain ⟨_, all, _⟩ := @run_of_bind compiled { bytes } {} c rfl bound
  let left := (compiled.run { bytes } {}).2
  have ran : compiled.run { bytes } {} = (.ok (Text.tokens bytes).length, left) :=
    Prod.ext (all (Sink.takes_iff.mpr nofun)) rfl
  obtain ⟨c', bound', _, written⟩ := exists_bind_of_run ran
  obtain rfl := Except.ok.inj (bound.symm.trans bound')
  exact ⟨compiled, c, left, h, found, ran, written⟩

/-- In this run every token has its line, since there is no line feed in any template. -/
theorem run_lines_loopRules :
    ∃ (compiled : CompiledRules) (c : Classifier) (left : Sink),
      compile loopRules = .ok compiled ∧ compiled.bind ["while", "x"] = .ok c ∧
      compiled.run { bytes := Utf8.ofString "while\n\n  x\n" } {} = (.ok 2, left) ∧
      Text.splitAt (· == 10) left.taken.toList =
        (["while", "x"].map fun token => Utf8.ofString (c.classify token).line) ++ [[]] := by
  have read : Text.tokens (Utf8.ofString "while\n\n  x\n") = ["while", "x"] := by decide +kernel
  obtain ⟨compiled, _, left, h, _, ran, _⟩ := @exists_run_of_bound? loopRules
    (Utf8.ofString "while\n\n  x\n") (fun _ => true) (by decide +kernel)
  obtain ⟨c, bound, _, _, _, framed⟩ := run_lines h ran
  rw [read] at bound ran framed
  refine ⟨compiled, c, left, h, bound, ran, framed.mpr ?_⟩
  intro token _ _ index rule groups ho
  have mem := List.mem_of_getElem? (Forms.getElem?_of_opening? ho).1
  have plain : ∀ rule ∈ loopRules.surround, ∀ template ∈ rule.endings, '\n' ∉ template.toList := by
    decide
  exact plain rule mem

/-- A line feed in a template makes two lines of one record. -/
theorem run_lines_broken_by_template :
    ∃ compiled left, compile { surround := [{ start := "a", endings := ["x\ny"] }] } =
        .ok compiled ∧
      compiled.run { bytes := Utf8.ofString "a\n" } {} = (.ok 1, left) ∧
      Text.splitAt (· == 10) left.taken.toList =
        [Utf8.ofString "S x", Utf8.ofString "y", []] := by
  have read : Text.tokens (Utf8.ofString "a\n") = ["a"] := by decide +kernel
  obtain ⟨compiled, c, left, h, found, ran, written⟩ :=
    @exists_run_of_bound? { surround := [{ start := "a", endings := ["x\ny"] }] }
      (Utf8.ofString "a\n") (fun c => c.classify "a" == .start ["x\ny"]) (by decide +kernel)
  rw [read] at ran written
  refine ⟨compiled, left, h, ran, ?_⟩
  rw [written, List.map_singleton, beq_iff_eq.mp found]
  decide +kernel

end TokenClassifier
