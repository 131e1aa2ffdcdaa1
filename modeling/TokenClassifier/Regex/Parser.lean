import TokenClassifier.Regex.Token

/-!
# From tokens to the tree

The tree of a pattern is built by one pass over its tokens, each token changing a `Draft`. A
draft holds the alternatives of the group that is open and, for every group around it, what that
group had before. Since the pass is a fold, what a row of tokens does to a draft is what its
first part does, followed by what its second part does.
-/

namespace TokenClassifier.Regex

/-- The alternatives of an open group: those already ended, newest first, and the parts of the
current one, newest first. -/
structure Branches where
  ended : List Syntax
  parts : List Syntax
  deriving DecidableEq, Repr

namespace Branches

/-- The start of a group. -/
def empty : Branches := ⟨[], []⟩

/-- Adds a part to the current alternative. -/
def push (b : Branches) (r : Syntax) : Branches := { b with parts := r :: b.parts }

/-- Ends the current alternative. -/
def bar (b : Branches) : Branches := ⟨.sequence b.parts.reverse :: b.ended, []⟩

/-- The pattern of all alternatives. -/
def toSyntax (b : Branches) : Syntax := .alternation b.bar.ended.reverse

/-- Repeats the last part. There has to be one, and flags cannot be repeated. -/
def repeatLast (b : Branches) (count : Count) (greedy : Bool) : Except Fault Branches :=
  match b.parts with
  | [] => .error .nothingToRepeat
  | .flags _ :: _ => .error .nothingToRepeat
  | r :: rest => .ok { b with parts := .repeated count greedy r :: rest }

end Branches

/-- The kind of a group. -/
inductive GroupKind where
  | capture (index : Nat)
  | scope (changes : FlagChanges)
  deriving DecidableEq, Repr

/-- A group with its inside. -/
def GroupKind.toSyntax : GroupKind → Syntax → Syntax
  | .capture index, inner => .capture index inner
  | .scope changes, inner => .scope changes inner

/-- A tree in the making. -/
structure Draft where
  /-- The number of the next group that captures. -/
  next : Nat
  /-- The names of groups so far. -/
  names : List String
  /-- The alternatives of the innermost open group. -/
  current : Branches
  /-- Each open group, innermost first, with the alternatives around it. -/
  outer : List (GroupKind × Branches)
  deriving DecidableEq, Repr

namespace Draft

/-- The start of a pattern. -/
def empty : Draft := ⟨1, [], .empty, []⟩

/-- Opens a group. -/
def enter (d : Draft) (kind : GroupKind) : Draft :=
  { d with current := .empty, outer := (kind, d.current) :: d.outer }

/-- Closes the innermost group. -/
def leave (d : Draft) : Except Fault Draft :=
  match d.outer with
  | [] => .error .unopenedGroup
  | (kind, around) :: outer =>
    .ok { d with current := around.push (kind.toSyntax d.current.toSyntax), outer }

/-- Takes note of a group's name. -/
def addName (d : Draft) : Option String → Except Fault Draft
  | none => .ok d
  | some name =>
    if d.names.contains name then .error .duplicateGroupName
    else .ok { d with names := name :: d.names }

/-- Takes one token. -/
def step (d : Draft) : Token → Except Fault Draft
  | .item r => .ok { d with current := d.current.push r }
  | .openCapture name => do
    let d ← d.addName name
    return { d with next := d.next + 1 }.enter (.capture d.next)
  | .openScope changes => .ok (d.enter (.scope changes))
  | .close => d.leave
  | .bar => .ok { d with current := d.current.bar }
  | .flags changes => .ok { d with current := d.current.push (.flags changes) }
  | .repeated count greedy => do
    let current ← d.current.repeatLast count greedy
    return { d with current }

/-- The tree, if no group is left open and none nests too deep. -/
def finish (d : Draft) : Except Fault Syntax :=
  if d.outer.isEmpty then
    let r := d.current.toSyntax
    if r.depth ≤ Syntax.depthLimit then .ok r else .error .tooDeep
  else .error .unclosedGroup

end Draft

/-- The tree of a row of tokens. -/
def Syntax.ofTokens (tokens : List Token) : Except Fault Syntax := do
  (← tokens.foldlM Draft.step .empty).finish

/-- Reads a pattern. -/
def Syntax.parse (pattern : String) : Except Fault Syntax := do
  Syntax.ofTokens (← Token.scan pattern.toList)

end TokenClassifier.Regex
