import TokenClassifier.CommandLine
import TokenClassifier.Proofs.Classification
import TokenClassifier.Proofs.Run

/-!
# Checking and running

A check binds the rules of a configuration to no tokens at all, and a run to the tokens of its
input. Both come to the same, since rules that have compiled do not look for patterns in a stream:
either no stream can be bound, with the same error for each, or every one can. So a configuration
passes its check exactly if it can be run, and what is wrong with it is reported in the same words
(`check_agrees_with_run`).
-/

namespace TokenClassifier

variable {rules : RuleSet} {compiled : CompiledRules}

/-- Rules that cannot be bound to one stream cannot be bound to another, for the same reason. A
check binds to no tokens at all, and so finds what a run would find. -/
theorem bind_eq_error (made : CompiledFrom rules compiled) {tokens : List String} {e : PatternError}
    (h : compiled.bind tokens = .error e) (others : List String) :
    compiled.bind others = .error e := by
  unfold CompiledRules.bind at h ⊢
  rw [made.surround] at h ⊢
  cases hb : Forms.build rules.surround tokens with
  | ok forms =>
    rw [hb] at h
    cases h
  | error e' =>
    rw [hb] at h
    cases h
    rw [Forms.build_eq_error hb others]
    rfl

namespace CommandLine

/-! ## Arguments -/

/-- Whether an argument is taken for a file name: it does not begin with a hyphen, or is one. -/
def isPath (arg : String) : Bool :=
  match arg.toList with
  | '-' :: _ :: _ => false
  | _ => true

/-- A path is read as a path, and the arguments behind it as what they are. -/
theorem readArguments_path {path : String} (h : isPath path = true) (r : Request)
    (rest : List String) :
    readArguments r (path :: rest) = readArguments { r with paths := r.paths ++ [path] } rest := by
  unfold isPath at h
  rw [readArguments]
  split
  -- an option has two characters at least
  next e => simp [e] at h
  next e => simp [e] at h
  next e => simp [e] at h
  next e => simp [e] at h
  next => rfl

/-- The option for checking is read as such, before a path. -/
theorem readArguments_check (rest : List String) :
    readArguments {} ("--check" :: rest) = readArguments { check := true } rest := by
  rfl

/-- A path alone asks for a run of its file. -/
theorem answer_run {path : String} (h : isPath path = true) (files : Files) (input : Input) :
    answer [path] files input = classifyInput files path input := by
  rw [answer, readArguments_path h]
  rfl

/-- A path behind the option asks for a check of its file. -/
theorem answer_check {path : String} (h : isPath path = true) (files : Files) (input : Input) :
    answer ["--check", path] files input = checkFile files path := by
  rw [answer, readArguments_check, readArguments_path h]
  rfl

/-! ## Checking and running -/

variable {files : Files} {path : String}

/-- What is loaded from a file was compiled from a record, so the tables in it are those of the
record's lists. -/
theorem compiledFrom_of_load (h : load files path = .ok compiled) :
    ∃ rules, CompiledFrom rules compiled := by
  unfold load at h
  split at h
  next => cases h
  next =>
    split at h
    next => cases h
    next =>
      split at h
      next => cases h
      next rules _ => exact ⟨rules, compiledFrom_of_compile (mapError_eq_ok h)⟩

/-- A run that may write as much as it likes writes the lines of all tokens, once its rules are
bound. -/
theorem classifyInput_of_bind {bytes : List UInt8} {c : Classifier}
    (loaded : load files path = .ok compiled)
    (bound : compiled.bind (Text.tokens bytes) = .ok c) :
    classifyInput files path { bytes } =
      { output := linesOf ((Text.tokens bytes).map c.classify) } := by
  obtain ⟨sent, all, _⟩ := @run_of_bind compiled { bytes } {} c rfl bound
  have unlimited : ({} : Sink).Takes (linesOf ((Text.tokens bytes).map c.classify)).toArray :=
    Sink.takes_iff.mpr nofun
  rw [classifyInput, loaded]
  dsimp only
  rcases hr : compiled.run { bytes } {} with ⟨result, left⟩
  rw [hr] at sent all
  obtain rfl : result = _ := all unlimited
  have written : left.taken.toList = linesOf ((Text.tokens bytes).map c.classify) := by
    rw [show left = _ from sent, Sink.toList_taken_of_takes unlimited]
    rfl
  rw [← written]

/-- A run whose rules cannot be bound writes nothing, and ends with the fault of the pattern. -/
theorem classifyInput_of_bind_error {bytes : List UInt8} {e : PatternError}
    (loaded : load files path = .ok compiled)
    (unbound : compiled.bind (Text.tokens bytes) = .error e) :
    classifyInput files path { bytes } = (Failure.run (.pattern e)).response [] := by
  rw [classifyInput, loaded]
  dsimp only
  rw [@run_of_bind_error compiled { bytes } {} e rfl unbound]

/-- A configuration passes its check exactly if it can be run, whatever the input. If it cannot,
both end with the same error and write nothing. If it can, a check writes its one line, and a run
the line of each token. The bytes of the configuration may be any, and the check is answered
whatever its own standard input is. -/
theorem check_agrees_with_run (files : Files) {path : String} (isFile : isPath path = true)
    (bytes : List UInt8) (unread : Input) :
    let checked := answer ["--check", path] files unread
    let ran := answer [path] files { bytes }
    checked.code = ran.code ∧ checked.message = ran.message ∧
      ((∃ e : Failure, ran.code = 1 ∧ checked = e.response [] ∧ ran = e.response []) ∨
        ran.code = 0 ∧ checked = { output := Utf8.ofString checkedLine } ∧
          ∃ compiled c, load files path = .ok compiled ∧
            compiled.bind (Text.tokens bytes) = .ok c ∧
            ran = { output := linesOf ((Text.tokens bytes).map c.classify) }) := by
  rw [answer_check isFile, answer_run isFile]
  cases hl : load files path with
  | error e =>
    have checked : checkFile files path = e.response [] := by rw [checkFile, hl]
    have ran : classifyInput files path { bytes } = e.response [] := by rw [classifyInput, hl]
    rw [checked, ran]
    exact ⟨rfl, rfl, .inl ⟨e, rfl, rfl, rfl⟩⟩
  | ok compiled =>
    obtain ⟨rules, made⟩ := compiledFrom_of_load hl
    cases hb : compiled.bind [] with
    | error e =>
      have checked : checkFile files path = (Failure.run (.pattern e)).response [] := by
        rw [checkFile, hl]
        dsimp only
        rw [hb]
      have unbound := bind_eq_error made hb (Text.tokens bytes)
      rw [checked, classifyInput_of_bind_error hl unbound]
      exact ⟨rfl, rfl, .inl ⟨_, rfl, rfl, rfl⟩⟩
    | ok c₀ =>
      have checked : checkFile files path = { output := Utf8.ofString checkedLine } := by
        rw [checkFile, hl]
        dsimp only
        rw [hb]
      cases ht : compiled.bind (Text.tokens bytes) with
      | error e =>
        rw [bind_eq_error made ht []] at hb
        cases hb
      | ok c =>
        rw [checked, classifyInput_of_bind hl ht]
        exact ⟨rfl, rfl, .inr ⟨rfl, rfl, compiled, c, rfl, ht, rfl⟩⟩

/-- A file with a rule whose end pattern does not compile, which is found out when the rule is
bound. -/
def brokenStop : Files := fun _ =>
  .ok (Utf8.ofString "surround-regexp: [\x7bstart: a, end: '('\x7d]")

/-- A file whose end pattern does not compile is refused by both, with the same error. The check has
not seen the input of the run. -/
theorem check_agrees_with_run_brokenStop :
    isPath "rules.yaml" = true ∧ ∃ e : Failure,
      answer ["--check", "rules.yaml"] brokenStop { bytes := [] } = e.response [] ∧
      answer ["rules.yaml"] brokenStop { bytes := Utf8.ofString "a\n" } = e.response [] := by
  have isFile : isPath "rules.yaml" = true := by decide
  have refused : (answer ["--check", "rules.yaml"] brokenStop { bytes := [] }).code = 1 := by
    decide +kernel
  obtain ⟨code, _, ⟨e, _, checked, ran⟩ | ⟨accepted, _⟩⟩ :=
    check_agrees_with_run brokenStop isFile (Utf8.ofString "a\n") { bytes := [] }
  · exact ⟨isFile, e, checked, ran⟩
  · rw [← code, refused] at accepted
    cases accepted

end CommandLine

end TokenClassifier
