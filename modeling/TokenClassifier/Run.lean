import TokenClassifier.Classifier
import TokenClassifier.Output
import TokenClassifier.Text.Lines

/-!
# Classifying an input

A run reads all tokens of an input, binds the rules to them, and then writes a line for each
token, in order. Nothing is written before all tokens are read and the rules are bound, so a run
that fails by then leaves its output untouched.
-/

namespace TokenClassifier

/-- Why a run ends early. -/
inductive RunError where
  /-- The input could not be read to its end. -/
  | unreadable (reason : String)
  /-- The rules could not be bound. -/
  | pattern (e : PatternError)
  /-- The output did not take everything. -/
  | unwritable (reason : String)
  deriving DecidableEq, Repr

/-- A run error in words. -/
def RunError.message : RunError → String
  | .unreadable reason => "failed to read tokens: " ++ reason
  | .pattern e => e.message
  | .unwritable reason => "failed to write output: " ++ reason

/-- Classifies every token of a stream, bound to that stream. -/
def CompiledRules.classifyAll (rules : CompiledRules) (tokens : List String) :
    Except PatternError (List Classification) := do
  let c ← rules.bind tokens
  return tokens.map c.classify

/-- The pieces in which a classification is written as a line of output. -/
def Classification.pieces (c : Classification) : List String :=
  match c with
  | .start endings =>
    String.singleton c.code :: endings.flatMap (fun token => [" ", token]) ++ ["\n"]
  | .operator p =>
    [String.singleton c.code, " ", toString p.before.toNat, " ", toString p.between.toNat, " ",
      toString p.after.toNat, "\n"]
  | _ => [String.singleton c.code, "\n"]

/-- Writes a line for every classification. The result tells whether all of it was taken. -/
def writeRecords (records : List Classification) (sink : Sink) : Bool × Sink :=
  sink.writeAll <| (records.flatMap Classification.pieces).map fun piece =>
    (Utf8.ofString piece).toArray

/-- Runs: the number of lines written, or the reason why not all were, and the receiver. -/
def CompiledRules.run (rules : CompiledRules) (input : Input) (sink : Sink) :
    Except RunError Nat × Sink :=
  match input.tokens with
  | .error reason => (.error (.unreadable reason), sink)
  | .ok tokens =>
    match rules.classifyAll tokens with
    | .error e => (.error (.pattern e), sink)
    | .ok records =>
      match writeRecords records sink with
      | (true, sink) => (.ok records.length, sink)
      | (false, sink) => (.error (.unwritable sink.refusal), sink)

end TokenClassifier
