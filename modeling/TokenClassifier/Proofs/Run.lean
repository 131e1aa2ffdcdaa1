import TokenClassifier.Proofs.Except
import TokenClassifier.Proofs.Output
import TokenClassifier.Run

/-!
# What a run leaves behind

The bytes of a run are those of its lines, one after the other (`linesOf`), whatever the pieces in
which they are written and whatever the buffer between.
-/

namespace TokenClassifier

/-! ## Lines -/

/-- The bytes of two texts put together are the bytes of the one and then of the other. -/
theorem Utf8.ofString_append (a b : String) :
    Utf8.ofString (a ++ b) = Utf8.ofString a ++ Utf8.ofString b := by
  simp [Utf8.ofString, Utf8.encode]

/-- The bytes of the lines of classifications. -/
def linesOf (records : List Classification) : List UInt8 :=
  records.flatMap fun c => Utf8.ofString (c.line ++ "\n")

/-- The bytes of a line with tokens put behind it are those of the line and of each token, with a
space before it. -/
theorem ofString_foldl (tokens : List String) (line : String) :
    Utf8.ofString (tokens.foldl (fun line token => line ++ " " ++ token) line) =
      Utf8.ofString line ++ (tokens.flatMap fun token => [" ", token]).flatMap Utf8.ofString := by
  induction tokens generalizing line with
  | nil => simp
  | cons token tokens ih =>
    rw [List.foldl_cons, ih, Utf8.ofString_append, Utf8.ofString_append]
    simp

/-- The pieces in which a classification is written make up its line, with the line feed behind it.
Nothing is left out or written twice by writing piece by piece. -/
theorem Classification.flatMap_pieces (c : Classification) :
    c.pieces.flatMap Utf8.ofString = Utf8.ofString (c.line ++ "\n") := by
  rw [Utf8.ofString_append]
  cases c with
  | start endings =>
    rw [line, ofString_foldl]
    simp [pieces]
  | operator p =>
    simp [pieces, line, Precedence.text, Utf8.ofString_append]
  | _ => simp [pieces, line]

/-! ## Writing -/

/-- Writing lines through a buffer gives the receiver what offering it all of them at once would,
and succeeds exactly if it takes them all. -/
theorem writeRecords_eq (records : List Classification) (sink : Sink) :
    ((writeRecords records sink).1 = true ↔ sink.Takes (linesOf records).toArray) ∧
      (writeRecords records sink).2 = (sink.offer (linesOf records).toArray).1 := by
  have bytes : ((records.flatMap Classification.pieces).map fun piece =>
      (Utf8.ofString piece).toArray).flatMap Array.toList = linesOf records := by
    rw [linesOf, List.flatMap_map, List.flatMap_assoc]
    simp only [Classification.flatMap_pieces]
  rw [writeRecords, ← bytes]
  exact sink.writeAll_iff _

/-! ## Runs -/

variable {rules : CompiledRules} {input : Input} {sink : Sink}

/-- An input that cannot be read to its end stops a run before anything is written, even if the
rules could not be bound either. -/
theorem run_of_failure {reason : String} (h : input.failure = some reason) :
    rules.run input sink = (.error (.unreadable reason), sink) := by
  simp only [CompiledRules.run, Input.tokens, h]

/-- So do rules that cannot be bound to the tokens. The receiver is left as it was. -/
theorem run_of_bind_error {e : PatternError} (h : input.failure = none)
    (unbound : rules.bind (Text.tokens input.bytes) = .error e) :
    rules.run input sink = (.error (.pattern e), sink) := by
  simp only [CompiledRules.run, Input.tokens, h, CompiledRules.classifyAll, unbound]
  rfl

/-- Otherwise the receiver is offered the lines of the tokens. If it takes them the run returns
their number, and if not, it ends with the words in which the receiver refuses. -/
theorem run_of_bind {c : Classifier} (h : input.failure = none)
    (bound : rules.bind (Text.tokens input.bytes) = .ok c) :
    let lines := (linesOf ((Text.tokens input.bytes).map c.classify)).toArray
    (rules.run input sink).2 = (sink.offer lines).1 ∧
      (sink.Takes lines → (rules.run input sink).1 = .ok (Text.tokens input.bytes).length) ∧
      (¬ sink.Takes lines → (rules.run input sink).1 = .error (.unwritable sink.refusal)) := by
  intro lines
  let records := (Text.tokens input.bytes).map c.classify
  obtain ⟨all, left⟩ : ((writeRecords records sink).1 = true ↔ sink.Takes lines) ∧
      (writeRecords records sink).2 = (sink.offer lines).1 := writeRecords_eq records sink
  have classified : rules.classifyAll (Text.tokens input.bytes) = .ok records := by
    rw [CompiledRules.classifyAll, bound]
    rfl
  have count : records.length = (Text.tokens input.bytes).length := List.length_map _
  unfold CompiledRules.run
  simp only [Input.tokens, h, classified]
  rcases hw : writeRecords records sink with ⟨ok, sink'⟩
  rw [hw] at all left
  cases ok with
  | true =>
    refine ⟨left, fun _ => ?_, fun refused => absurd (all.mp rfl) refused⟩
    rw [← count]
  | false =>
    have refused : ¬ sink.Takes lines := fun taken => Bool.false_ne_true (all.mpr taken)
    have same : sink'.refusal = sink.refusal := by
      rw [show sink' = (sink.offer lines).1 from left, Sink.refusal_offer]
    refine ⟨left, fun taken => absurd taken refused, fun _ => ?_⟩
    rw [← same]

/-- A run that succeeds has read its input to the end, has bound the rules, and has written the
lines of all tokens. There is no other way to succeed, so each of the three is known from the
result. -/
theorem exists_bind_of_run {n : Nat} {left : Sink} (ran : rules.run input sink = (.ok n, left)) :
    ∃ c, rules.bind (Text.tokens input.bytes) = .ok c ∧ n = (Text.tokens input.bytes).length ∧
      left.taken.toList =
        sink.taken.toList ++ linesOf ((Text.tokens input.bytes).map c.classify) := by
  cases hf : input.failure with
  | some reason =>
    rw [run_of_failure hf] at ran
    cases ran
  | none =>
    cases hb : rules.bind (Text.tokens input.bytes) with
    | error e =>
      rw [run_of_bind_error hf hb] at ran
      cases ran
    | ok c =>
      obtain ⟨sent, all, cut⟩ := @run_of_bind rules input sink c hf hb
      rw [ran] at sent all cut
      by_cases took : sink.Takes (linesOf ((Text.tokens input.bytes).map c.classify)).toArray
      · refine ⟨c, rfl, Except.ok.inj (all took), ?_⟩
        rw [show left = _ from sent, Sink.toList_taken_of_takes took]
      · cases cut took

/-- A run leaves behind a prefix of its right output: nothing if the input cannot be read or the
rules cannot be bound to its tokens, and otherwise the lines of the tokens as far as the receiver
has room for them. It succeeds exactly if there is room for all. Where the prefix ends is up to the
receiver, so it may be in the middle of a line. -/
theorem run_leaves_prefix (rules : CompiledRules) (input : Input) (n : Nat) (refusal : String) :
    let left := rules.run input { room := some n, refusal }
    match input.failure, rules.bind (Text.tokens input.bytes) with
    | some reason, _ => left.1 = .error (.unreadable reason) ∧ left.2.taken = #[]
    | none, .error e => left.1 = .error (.pattern e) ∧ left.2.taken = #[]
    | none, .ok c =>
      let tokens := Text.tokens input.bytes
      let full := linesOf (tokens.map c.classify)
      if full.length ≤ n then left.1 = .ok tokens.length ∧ left.2.taken.toList = full
      else left.1 = .error (.unwritable refusal) ∧
        RunError.message (.unwritable refusal) = "failed to write output: " ++ refusal ∧
        left.2.taken.toList = full.take n := by
  intro left
  cases hf : input.failure with
  | some reason =>
    have stopped : left = _ := run_of_failure hf
    rw [stopped]
    exact ⟨rfl, rfl⟩
  | none =>
    cases hb : rules.bind (Text.tokens input.bytes) with
    | error e =>
      have stopped : left = _ := run_of_bind_error hf hb
      rw [stopped]
      exact ⟨rfl, rfl⟩
    | ok c =>
      let full := linesOf ((Text.tokens input.bytes).map c.classify)
      let sink : Sink := { room := some n, refusal }
      obtain ⟨sent, all, cut⟩ := @run_of_bind rules input sink c hf hb
      have taken : left.2.taken.toList = full.take n := by
        rw [show left.2 = (sink.offer full.toArray).1 from sent, Sink.toList_taken_offer rfl]
        exact List.nil_append _
      have room : sink.Takes full.toArray ↔ full.length ≤ n := by
        simp [Sink.takes_iff, sink]
      dsimp only
      split
      next fits =>
        refine ⟨all (room.mpr fits), ?_⟩
        rw [taken, List.take_of_length_le fits]
      next long => exact ⟨cut (mt room.mp long), rfl, taken⟩

end TokenClassifier
