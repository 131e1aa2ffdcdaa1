import TokenClassifier.Endings
import TokenClassifier.PatternTable
import TokenClassifier.Rules

/-!
# Forms in a token stream

The tables that tell which tokens open forms and which close them are made for one stream of
tokens, from the surround rules and from the stream.

* The start table has the non-empty start pattern of every rule.
* A rule with an end pattern and no templates learns its endings from the stream: a token that
  matches the end pattern of such a rule, and of no such rule before it, is an ending of it.
* The end table has the end pattern of every rule that has one. For every other rule it has its
  templates: a constant template as the text that it stands for, a template that depends on the
  whole token as a pattern in which the start pattern takes the place of the token. A template
  that depends on captures makes the rule deferred.
* A deferred rule adds, for every token of the stream that opens a form of it, the tokens that
  its templates stand for.

The value of a pattern in any of the tables is the index of its rule.
-/

namespace TokenClassifier

/-- The tables for one stream. -/
structure FormTables where
  starts : PatternTable Nat
  infos : List StartInfo
  ends : PatternTable Nat
  deriving DecidableEq, Repr

namespace FormTables

/-- What is known about the form that a token opens, and the groups of the token. -/
def lookupStart? (t : FormTables) (token : String) : Option (StartInfo × List String) := do
  let (rule, groups) ← t.starts.lookup? token
  let info ← t.infos[rule]?
  return (info, groups)

/-- The rule whose form a token closes. -/
def lookupEnd? (t : FormTables) (token : String) : Option Nat :=
  (t.ends.lookup? token).map (·.1)

/-- The number of patterns that recognise an end. -/
def endPatternCount (t : FormTables) : Nat := t.ends.size

end FormTables

namespace Forms

/-! ## Starts -/

/-- The start pattern of a rule, if it has one. -/
def entryOfStart? (rule : SurroundRule) (index : Nat) : Option (Entry Nat) :=
  if rule.start.isEmpty then none else some ⟨rule.start, index, .start index⟩

/-- The start patterns of all rules. -/
def startEntries (rules : List SurroundRule) : List (Entry Nat) :=
  rules.zipIdx.filterMap fun (rule, index) => entryOfStart? rule index

/-- What the rules alone tell about their forms. -/
def declaredInfos (rules : List SurroundRule) : List StartInfo :=
  rules.zipIdx.map fun (rule, index) => ⟨index, .ofList rule.endings⟩

/-! ## Endings learnt from the stream -/

/-- The end pattern of a rule, if it has one. -/
def entryOfEnd? (rule : SurroundRule) (index : Nat) : Option (Entry Nat) :=
  rule.endPattern?.map fun pattern => ⟨pattern, index, .stop index⟩

/-- The end patterns of the rules that learn their endings. -/
def inferenceEntries (rules : List SurroundRule) : List (Entry Nat) :=
  rules.zipIdx.filterMap fun (rule, index) =>
    if rule.endings.isEmpty then entryOfEnd? rule index else none

/-- Learns from one token. -/
def learn (table : PatternTable Nat) (infos : List StartInfo) (token : String) :
    List StartInfo :=
  match table.lookup? token with
  | some (rule, _) =>
    infos.modify rule fun info => { info with endings := Endings.insertLiteral info.endings token }
  | none => infos

/-- Learns from a stream. -/
def learnAll (table : PatternTable Nat) (infos : List StartInfo) (tokens : List String) :
    List StartInfo :=
  tokens.foldl (learn table) infos

/-! ## Ends -/

/-- The pattern of a template that depends on the whole token: the start pattern stands in for
each reference, and all else stands for itself. -/
def wholeMatchPattern (template start : String) : String :=
  String.join <| (Template.segments template).map fun
    | .literal text => Regex.escape (String.ofList text)
    | .group _ => "(?:" ++ start ++ ")"

/-- The entry of a template, if it can be told without the stream. -/
def entryOfTemplate? (rule : SurroundRule) (index : Nat) (template : String) (j : Nat) :
    Option (Entry Nat) :=
  match Template.shape template with
  | .constant => some ⟨Regex.escape (Template.expand template []), index, .ending index j⟩
  | .whole => some ⟨wholeMatchPattern template rule.start, index, .ending index j⟩
  | .captures => none

/-- The entries of a rule that can be told without the stream. -/
def ruleEntries (rule : SurroundRule) (index : Nat) : List (Entry Nat) :=
  match entryOfEnd? rule index with
  | some entry => [entry]
  | none => rule.endings.zipIdx.filterMap fun (template, j) => entryOfTemplate? rule index template j

/-- The entries of all rules that can be told without the stream. -/
def declaredEntries (rules : List SurroundRule) : List (Entry Nat) :=
  rules.zipIdx.flatMap fun (rule, index) => ruleEntries rule index

/-- Whether the ends of a rule depend on the stream. -/
def isDeferred (rule : SurroundRule) : Bool :=
  rule.endPattern?.isNone && rule.endings.any Template.hasCapture

/-! ## Ends found in the stream -/

/-- The tokens that close what one token opens, if its rule is deferred: each with the index of
the rule and of the template. -/
def foundFor (rules : List SurroundRule) (starts : PatternTable Nat) (token : String) :
    List (String × Nat × Nat) :=
  match starts.lookup? token with
  | none => []
  | some (index, groups) =>
    match rules[index]? with
    | none => []
    | some rule =>
      if isDeferred rule then
        rule.endings.zipIdx.map fun (template, j) => (Template.expand template groups, index, j)
      else []

/-- Keeps the first of all entries for the same token; `known` has the tokens already kept. -/
def keepFirst (known : List String) : List (String × Nat × Nat) → List (String × Nat × Nat)
  | [] => []
  | (token, place) :: rest =>
    if known.contains token then keepFirst known rest
    else (token, place) :: keepFirst (token :: known) rest

/-- The entries for the ends found in a stream. -/
def foundEntries (rules : List SurroundRule) (starts : PatternTable Nat)
    (tokens : List String) : List (Entry Nat) :=
  (keepFirst [] (tokens.flatMap (foundFor rules starts))).map fun (token, index, j) =>
    ⟨Regex.escape token, index, .ending index j⟩

/-! ## All tables -/

/-- Makes the tables for a stream. -/
def build (rules : List SurroundRule) (tokens : List String) :
    Except PatternError FormTables := do
  let starts ← PatternTable.build (startEntries rules)
  let inference ← PatternTable.build (inferenceEntries rules)
  let infos := learnAll inference (declaredInfos rules) tokens
  let ends ← PatternTable.build (declaredEntries rules ++ foundEntries rules starts tokens)
  return ⟨starts, infos, ends⟩

end Forms

end TokenClassifier
