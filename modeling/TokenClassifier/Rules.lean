import TokenClassifier.Template

/-!
# Rules

The record of a configuration: which patterns open and close forms, and which mark labels,
prefixes, operators and variables. A record says nothing about whether its patterns compile.

`RuleSet.check` holds the one demand on surround rules that does not depend on patterns. A rule
has to say what closes its forms, by an end pattern or by templates, and a template may refer to
what a group captured only beside an end pattern.
-/

namespace TokenClassifier

/-- The precedences of an operator before, between and after its operands; zero where it cannot
stand. -/
structure Precedence where
  before : UInt16 := 0
  between : UInt16 := 0
  after : UInt16 := 0
  deriving DecidableEq, Repr, Inhabited

/-- The precedences in words, in the order before, between and after. -/
def Precedence.text (p : Precedence) : String :=
  toString p.before.toNat ++ " " ++ toString p.between.toNat ++ " " ++ toString p.after.toNat

/-- A pattern for what opens a form, with what closes the form. -/
structure SurroundRule where
  start : String
  stop : Option String := none
  /-- Templates of the tokens that close the form. -/
  endings : List String := []
  deriving DecidableEq, Repr, Inhabited

/-- The end pattern of a rule. An empty one counts as absent. -/
def SurroundRule.endPattern? (rule : SurroundRule) : Option String :=
  rule.stop.filter fun pattern => !pattern.isEmpty

/-- A pattern for operators, with their precedences. -/
structure OperatorRule where
  pattern : String
  precedence : Precedence := {}
  deriving DecidableEq, Repr, Inhabited

/-- The record of a configuration. -/
structure RuleSet where
  surround : List SurroundRule := []
  formPrefixes : List String := []
  simpleLabels : List String := []
  compoundLabels : List String := []
  variableNames : List String := []
  operators : List OperatorRule := []
  deriving DecidableEq, Repr, Inhabited

/-- Why a record is refused although its patterns might compile. -/
inductive RuleError where
  /-- A surround rule that does not say what closes its forms. -/
  | missingEnd (rule : Nat)
  /-- A template that refers to a capture in a rule without an end pattern. -/
  | captureWithoutEnd (rule index : Nat)
  /-- An operator without a pattern. -/
  | emptyOperator (index : Nat)
  deriving DecidableEq, Repr

/-- A rule error in words. -/
def RuleError.message : RuleError → String
  | .missingEnd rule =>
    "surround-regexp[" ++ toString rule ++
      "] must have either 'endings' array or 'end' pattern (or both)"
  | .captureWithoutEnd rule index =>
    "surround-regexp[" ++ toString rule ++ "].endings[" ++ toString index ++
      "] contains backreferences ($1, $2, etc.) but no 'end' pattern is provided for capture " ++
      "groups. Use $0 for the full match or provide an 'end' pattern"
  | .emptyOperator index => "operator-regexp[" ++ toString index ++ "] pattern is empty"

/-- Checks the surround rule at an index. -/
def SurroundRule.check (index : Nat) (rule : SurroundRule) : Except RuleError Unit :=
  if rule.endPattern?.isSome then .ok ()
  else if rule.endings.isEmpty then .error (.missingEnd index)
  else
    match rule.endings.findIdx? Template.hasCapture with
    | some j => .error (.captureWithoutEnd index j)
    | none => .ok ()

/-- Checks surround rules, the first of which has the index `index`. -/
def SurroundRule.checkAll (index : Nat) : List SurroundRule → Except RuleError Unit
  | [] => .ok ()
  | rule :: rest => do
    rule.check index
    checkAll (index + 1) rest

/-- Checks the surround rules of a record. -/
def RuleSet.check (rules : RuleSet) : Except RuleError Unit :=
  SurroundRule.checkAll 0 rules.surround

end TokenClassifier
