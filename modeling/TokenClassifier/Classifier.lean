import TokenClassifier.Forms

/-!
# Classification

A token belongs to the first category that claims it, in the order compound label, simple label,
form prefix, start, end, operator, variable; a token that none claims is unclassified. Starts and
ends depend on the stream, so a rule set is compiled first and then bound to a stream.
-/

namespace TokenClassifier

/-! ## Compiling a rule set -/

/-- Why a rule set cannot be used. -/
inductive CompileError where
  | rule (e : RuleError)
  | pattern (e : PatternError)
  deriving DecidableEq, Repr

/-- A compile error in words. -/
def CompileError.message : CompileError → String
  | .rule e => e.message
  | .pattern e => e.message

/-- The tables that do not depend on the stream; a category without patterns has none. -/
structure StaticTables where
  compoundLabels : Option (PatternTable Unit)
  simpleLabels : Option (PatternTable Unit)
  formPrefixes : Option (PatternTable Unit)
  variableNames : Option (PatternTable Unit)
  operators : Option (PatternTable Precedence)
  deriving DecidableEq, Repr

/-- A rule set whose own patterns are compiled. -/
structure CompiledRules where
  statics : StaticTables
  surround : List SurroundRule
  deriving DecidableEq, Repr

/-- Builds a table, if there is anything to put into it. -/
def tableOf? {α : Type} (entries : List (Entry α)) :
    Except PatternError (Option (PatternTable α)) :=
  if entries.isEmpty then .ok none else (PatternTable.build entries).map some

/-- The entries of a list of patterns. Empty patterns are left out, and the others keep their
index in the list. -/
def flagEntries (list : String) (patterns : List String) : List (Entry Unit) :=
  patterns.zipIdx.filterMap fun (pattern, index) =>
    if pattern.isEmpty then none else some ⟨pattern, (), .item list index⟩

/-- The entries of the operators. No operator may be without a pattern. -/
def operatorEntries (rules : List OperatorRule) : Except RuleError (List (Entry Precedence)) :=
  match rules.findIdx? (·.pattern.isEmpty) with
  | some index => .error (.emptyOperator index)
  | none => .ok <| rules.zipIdx.map fun (rule, index) =>
      ⟨rule.pattern, rule.precedence, .item "operator-regexp" index⟩

/-- Reports a pattern error as a compile error. -/
def asPattern {α : Type} (r : Except PatternError α) : Except CompileError α :=
  r.mapError .pattern

/-- Reports a rule error as a compile error. -/
def asRule {α : Type} (r : Except RuleError α) : Except CompileError α :=
  r.mapError .rule

/-- Checks a rule set and compiles its tables that do not depend on the stream. -/
def compile (rules : RuleSet) : Except CompileError CompiledRules := do
  asRule rules.check
  let compoundLabels ← asPattern (tableOf? (flagEntries "compound-label-regexp" rules.compoundLabels))
  let simpleLabels ← asPattern (tableOf? (flagEntries "simple-label-regexp" rules.simpleLabels))
  let formPrefixes ← asPattern (tableOf? (flagEntries "form-prefix-regexp" rules.formPrefixes))
  let variableNames ← asPattern (tableOf? (flagEntries "variable-regexp" rules.variableNames))
  let entries ← asRule (operatorEntries rules.operators)
  let operators ← asPattern (tableOf? entries)
  return ⟨⟨compoundLabels, simpleLabels, formPrefixes, variableNames, operators⟩, rules.surround⟩

/-! ## Classifying -/

/-- All tables, bound to a stream. -/
structure Classifier where
  statics : StaticTables
  forms : FormTables
  deriving DecidableEq, Repr

/-- Binds compiled rules to a stream. -/
def CompiledRules.bind (rules : CompiledRules) (tokens : List String) :
    Except PatternError Classifier := do
  return ⟨rules.statics, ← Forms.build rules.surround tokens⟩

/-- What a token is. -/
inductive Classification where
  /-- Opens a form, which the listed tokens may close. -/
  | start (endings : List String)
  | stop
  | compound
  | label
  | formPrefix
  | operator (p : Precedence)
  | variableName
  | unclassified
  deriving DecidableEq, Repr

/-- The letter of a category. -/
def Classification.code : Classification → Char
  | .start _ => 'S'
  | .stop => 'E'
  | .compound => 'C'
  | .label => 'L'
  | .formPrefix => 'P'
  | .operator _ => 'O'
  | .variableName => 'V'
  | .unclassified => 'U'

/-- A classification as a line: the letter, and then the end tokens or the precedences. -/
def Classification.line (c : Classification) : String :=
  match c with
  | .start endings => endings.foldl (fun line token => line ++ " " ++ token) (String.singleton c.code)
  | .operator p => String.singleton c.code ++ " " ++ p.text
  | _ => String.singleton c.code

namespace Classifier

/-- Whether a category claims a token. A category without a table claims none. -/
def claims {α : Type} (table : Option (PatternTable α)) (token : String) : Bool :=
  table.any (·.isMatch token)

/-- Classifies a token. -/
def classify (c : Classifier) (token : String) : Classification :=
  if claims c.statics.compoundLabels token then .compound
  else if claims c.statics.simpleLabels token then .label
  else if claims c.statics.formPrefixes token then .formPrefix
  else
    match c.forms.lookupStart? token with
    | some (info, groups) => .start (info.endTokens groups)
    | none =>
      if (c.forms.lookupEnd? token).isSome then .stop
      else
        match c.statics.operators.bind (·.lookup? token) with
        | some (p, _) => .operator p
        | none => if claims c.statics.variableNames token then .variableName else .unclassified

end Classifier

end TokenClassifier
