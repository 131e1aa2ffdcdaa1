import TokenClassifier.Rules
import TokenClassifier.Unicode.Binary
import TokenClassifier.Yaml.Node

/-!
# Rule sets in documents

Reads the record of a configuration off the tree of a document. A record is a mapping. Its
fields may come in any order, a field that is left out has its default, unknown fields are passed
over, and a known field that comes twice is an error.

A text is any scalar, taken as it is written. Only where a text is optional does a plain `null`
or nothing stand for its absence. A list is a sequence, or nothing at all.
-/

namespace TokenClassifier

open Yaml

/-- Why a document has no record. -/
inductive DecodeError where
  /-- It cannot be read, or has something else in a place than belongs there. -/
  | malformed
  /-- A field that a record has to have. -/
  | missing (field : String)
  /-- A field that a record has twice. -/
  | duplicate (field : String)
  deriving DecidableEq, Repr

namespace Decode

/-! ## Scalars -/

/-- The spellings of nothing. -/
def isNull (text : List Char) : Bool :=
  String.ofList text ∈ ["null", "Null", "NULL", "~"]

/-- The tag of nothing. -/
def nullTag : List Char := "tag:yaml.org,2002:null".toList

/-- The tag of integers. -/
def intTag : List Char := "tag:yaml.org,2002:int".toList

/-- A text. -/
def text (d : Document) (n : Node) : Except DecodeError String :=
  match d.follow n with
  | .scalar s => .ok (String.ofList s.text)
  | _ => .error .malformed

/-- A text or its absence. -/
def optionalText (d : Document) (n : Node) : Except DecodeError (Option String) :=
  match d.follow n with
  | .scalar s =>
    let present := some (String.ofList s.text)
    if s.style ≠ .plain then .ok present
    else if s.tag = some nullTag then
      if isNull s.text then .ok none else .error .malformed
    else if s.tag.isSome then .ok present
    else if s.text.isEmpty || isNull s.text then .ok none
    else .ok present
  | _ => .error .malformed

/-- The value of a digit in bases up to sixteen. -/
def digit? (base : Nat) (c : Char) : Option Nat :=
  match hexDigit? c with
  | some n => if n < base then some n else none
  | none => none

/-- The number that digits spell. There has to be one digit at least. -/
def digits? (base : Nat) (cs : List Char) : Option Nat :=
  if cs.isEmpty then none else cs.foldlM (fun n c => (digit? base c).map (base * n + ·)) 0

/-- The number that a text spells: in decimal without needless zeros, or in another base after
`0x`, `0o` or `0b`. A plus sign may stand before it. -/
def natural? (cs : List Char) : Option Nat :=
  let unsigned := match cs with
    | '+' :: rest => rest
    | _ => cs
  match unsigned with
  | '0' :: 'x' :: rest => digits? 16 rest
  | '0' :: 'o' :: rest => digits? 8 rest
  | '0' :: 'b' :: rest => digits? 2 rest
  | '0' :: _ :: _ => none
  | _ => digits? 10 unsigned

/-- A precedence. -/
def precedence (d : Document) (n : Node) : Except DecodeError UInt16 :=
  match d.follow n with
  | .scalar s =>
    if s.style = .plain ∨ (s.style = .literal ∧ s.tag = some intTag) then
      match natural? s.text with
      | some n => if n < 65536 then .ok (UInt16.ofNat n) else .error .malformed
      | none => .error .malformed
    else .error .malformed
  | _ => .error .malformed

/-! ## Collections -/

/-- Whether a scalar is nothing at all. -/
def isNothing (s : Scalar) : Bool := s.style = .plain && s.text.isEmpty

/-- Decodes every node of a list. -/
def each {α : Type} (decode : Node → Except DecodeError α) : List Node → Except DecodeError (List α)
  | [] => .ok []
  | n :: rest => do return (← decode n) :: (← each decode rest)

/-- A list of what `decode` decodes. -/
def list {α : Type} (d : Document) (decode : Node → Except DecodeError α) (n : Node) :
    Except DecodeError (List α) :=
  match d.follow n with
  | .sequence items => each decode items
  | .scalar s => if isNothing s then .ok [] else .error .malformed
  | _ => .error .malformed

/-- The fields of a record, in the order in which they come. -/
def fields (d : Document) (n : Node) : Except DecodeError (List (Node × Node)) :=
  match d.follow n with
  | .mapping pairs => .ok pairs
  | .scalar s => if isNothing s then .ok [] else .error .malformed
  | _ => .error .malformed

/-- Decodes a field that a record may have once. -/
def once {α : Type} (field : String) (known : Option α)
    (decode : Node → Except DecodeError α) (n : Node) : Except DecodeError (Option α) :=
  if known.isSome then .error (.duplicate field) else (decode n).map some

/-- Passes over an unknown field. -/
def pass {α : Type} (record : α) (n : Node) : Except DecodeError α :=
  if n.isWhole then .ok record else .error .malformed

/-- Decodes a record field by field. -/
def record {α : Type} (d : Document) (field : α → String → Node → Except DecodeError α) :
    α → List (Node × Node) → Except DecodeError α
  | found, [] => .ok found
  | found, (key, value) :: rest => do
    let name ← text d key
    let found ← field found name value
    record d field found rest

/-- A field that a record has to have. -/
def required {α : Type} (field : String) : Option α → Except DecodeError α
  | some a => .ok a
  | none => .error (.missing field)

/-! ## Rules -/

/-- The fields of a surround rule that have been found. -/
structure SurroundFields where
  start : Option String := none
  stop : Option (Option String) := none
  endings : Option (List String) := none

/-- Takes a field of a surround rule. -/
def surroundField (d : Document) (f : SurroundFields) (name : String) (n : Node) :
    Except DecodeError SurroundFields :=
  match name with
  | "start" => do return { f with start := ← once name f.start (text d) n }
  | "end" => do return { f with stop := ← once name f.stop (optionalText d) n }
  | "endings" => do return { f with endings := ← once name f.endings (list d (text d)) n }
  | _ => pass f n

/-- A surround rule. -/
def surroundRule (d : Document) (n : Node) : Except DecodeError SurroundRule := do
  let f ← record d (surroundField d) {} (← fields d n)
  return { start := ← required "start" f.start
           stop := f.stop.getD none
           endings := f.endings.getD [] }

/-- The fields of an operator rule that have been found. -/
structure OperatorFields where
  pattern : Option String := none
  before : Option UInt16 := none
  between : Option UInt16 := none
  after : Option UInt16 := none

/-- Takes a field of an operator rule. -/
def operatorField (d : Document) (f : OperatorFields) (name : String) (n : Node) :
    Except DecodeError OperatorFields :=
  match name with
  | "pattern" => do return { f with pattern := ← once name f.pattern (text d) n }
  | "prefix-prec" => do return { f with before := ← once name f.before (precedence d) n }
  | "infix-prec" => do return { f with between := ← once name f.between (precedence d) n }
  | "postfix-prec" => do return { f with after := ← once name f.after (precedence d) n }
  | _ => pass f n

/-- An operator rule. -/
def operatorRule (d : Document) (n : Node) : Except DecodeError OperatorRule := do
  let f ← record d (operatorField d) {} (← fields d n)
  return { pattern := ← required "pattern" f.pattern
           precedence := ⟨f.before.getD 0, f.between.getD 0, f.after.getD 0⟩ }

/-! ## Rule sets -/

/-- The fields of a rule set that have been found. -/
structure RuleSetFields where
  surround : Option (List SurroundRule) := none
  formPrefixes : Option (List String) := none
  simpleLabels : Option (List String) := none
  compoundLabels : Option (List String) := none
  variableNames : Option (List String) := none
  operators : Option (List OperatorRule) := none

/-- Takes a field of a rule set. -/
def ruleSetField (d : Document) (f : RuleSetFields) (name : String) (n : Node) :
    Except DecodeError RuleSetFields :=
  let texts := list d (text d)
  match name with
  | "surround-regexp" => do
    return { f with surround := ← once name f.surround (list d (surroundRule d)) n }
  | "form-prefix-regexp" => do
    return { f with formPrefixes := ← once name f.formPrefixes texts n }
  | "simple-label-regexp" => do
    return { f with simpleLabels := ← once name f.simpleLabels texts n }
  | "compound-label-regexp" => do
    return { f with compoundLabels := ← once name f.compoundLabels texts n }
  | "variable-regexp" => do
    return { f with variableNames := ← once name f.variableNames texts n }
  | "operator-regexp" => do
    return { f with operators := ← once name f.operators (list d (operatorRule d)) n }
  | _ => pass f n

/-- A rule set. -/
def ruleSet (d : Document) (n : Node) : Except DecodeError RuleSet := do
  let f ← record d (ruleSetField d) {} (← fields d n)
  return { surround := f.surround.getD []
           formPrefixes := f.formPrefixes.getD []
           simpleLabels := f.simpleLabels.getD []
           compoundLabels := f.compoundLabels.getD []
           variableNames := f.variableNames.getD []
           operators := f.operators.getD [] }

end Decode

/-- The rule set of a document. What is wrong with the record counts before what is wrong with
the end of the document. -/
def RuleSet.ofDocument (d : Document) : Except DecodeError RuleSet := do
  let rules ← Decode.ruleSet d d.root
  if d.complete then return rules else .error .malformed

/-- The rule set of a text. Text that is blank is the empty rule set, and no document at all. -/
def RuleSet.ofText (text : String) : Except DecodeError RuleSet :=
  if text.toList.all Unicode.isBlank then .ok {}
  else RuleSet.ofDocument (Document.ofText text.toList)

end TokenClassifier
