import TokenClassifier.Yaml.Event

/-!
# From events to a tree

The first document of a stream as a tree of nodes. Where the stream breaks off, the tree ends in
`Node.broken`: a reader that follows the tree in order finds what is wrong before that place
first, and the break when it comes to it.

An alias is a leaf that refers to a node by number. The numbers are given out as anchors are met:
each anchor gets the number of different names that have been bound before it, the latest node
with a number is the one that it stands for, and an alias has the number that its name has where
the alias stands.
-/

namespace TokenClassifier.Yaml

/-- A node of a document. -/
inductive Node where
  | scalar (s : Scalar)
  | sequence (items : List Node)
  | mapping (pairs : List (Node × Node))
  | alias (number : Nat)
  /-- The place where the document breaks off. -/
  | broken
  deriving Repr, Inhabited

/-- An event inside of a document, with aliases by number. -/
inductive Step where
  | scalar (s : Scalar)
  | alias (number : Nat)
  | openSequence
  | closeSequence
  | openMapping
  | closeMapping
  deriving DecidableEq, Repr

/-! ## Names -/

/-- The anchors of a document: the number that each name has, and the place at which the node of
each number begins. -/
structure Anchors where
  numbers : List (List Char × Nat) := []
  places : List (Nat × Nat) := []
  deriving DecidableEq, Repr

namespace Anchors

/-- The number that a name has. -/
def number? (a : Anchors) (name : List Char) : Option Nat :=
  (a.numbers.find? fun (known, _) => known == name).map (·.2)

/-- Binds the name of the node that begins at a place, if it has one. -/
def bind (a : Anchors) (place : Nat) : Option (List Char) → Anchors
  | none => a
  | some name =>
    let number := a.numbers.length
    ⟨(name, number) :: a.numbers.filter (fun (known, _) => known != name),
      (number, place) :: a.places⟩

end Anchors

/-- The steps of the first document, its anchors, the events after it, and whether it ends as a
document should. `place` is the number of steps so far. An alias whose name is not bound breaks
the document off. -/
def readSteps (a : Anchors) (place : Nat) :
    List Event → List Step × Anchors × List Event × Bool
  | [] => ([], a, [], false)
  | .documentEnd :: rest => ([], a, rest, true)
  | .streamEnd :: rest => ([], a, .streamEnd :: rest, true)
  | .documentStart :: rest => readSteps a place rest
  | .alias name :: rest =>
    match a.number? name with
    | none => ([], a, [], false)
    | some number => add (.alias number) (readSteps a (place + 1) rest)
  | .scalar anchor s :: rest => add (.scalar s) (readSteps (a.bind place anchor) (place + 1) rest)
  | .sequenceStart anchor :: rest =>
    add .openSequence (readSteps (a.bind place anchor) (place + 1) rest)
  | .sequenceEnd :: rest => add .closeSequence (readSteps a (place + 1) rest)
  | .mappingStart anchor :: rest =>
    add .openMapping (readSteps (a.bind place anchor) (place + 1) rest)
  | .mappingEnd :: rest => add .closeMapping (readSteps a (place + 1) rest)
where
  /-- Puts a step in front. -/
  add (s : Step) : List Step × Anchors × List Event × Bool →
      List Step × Anchors × List Event × Bool
    | (steps, rest) => (s :: steps, rest)

/-! ## Nodes -/

/-- A collection that is being read: the items of a sequence, last one first, or the pairs of a
mapping, last one first, with the key whose value is to come. -/
inductive Open where
  | sequence (items : List Node)
  | mapping (pairs : List (Node × Node)) (key : Option Node)

/-- The collection with one more node. -/
def Open.add (n : Node) : Open → Open
  | .sequence items => .sequence (n :: items)
  | .mapping pairs none => .mapping pairs (some n)
  | .mapping pairs (some key) => .mapping ((key, n) :: pairs) none

/-- The collection as a node. -/
def Open.toNode : Open → Node
  | .sequence items => .sequence items.reverse
  | .mapping pairs none => .mapping pairs.reverse
  | .mapping pairs (some key) => .mapping ((key, .broken) :: pairs).reverse

/-- The collection as a node, if it breaks off before its next node. -/
def Open.breakOff : Open → Node
  | .sequence items => .sequence (.broken :: items).reverse
  | .mapping pairs none => .mapping ((.broken, .broken) :: pairs).reverse
  | .mapping pairs (some key) => .mapping ((key, .broken) :: pairs).reverse

/-- The outermost of open collections, innermost first, when the document breaks off. -/
def breakAll : Open → List Open → Node
  | inner, [] => inner.breakOff
  | inner, o :: outer => breakAll (o.add inner.breakOff) outer

/-- Reads the node at which the steps begin. `opened` are the collections that it is in, as far
as they belong to it, innermost first. -/
def Node.ofSteps : List Open → List Step → Node
  | [], [] => .broken
  | o :: outer, [] => breakAll o outer
  | opened, .openSequence :: rest => ofSteps (.sequence [] :: opened) rest
  | opened, .openMapping :: rest => ofSteps (.mapping [] none :: opened) rest
  | [], .scalar s :: _ => .scalar s
  | [], .alias number :: _ => .alias number
  | o :: outer, .scalar s :: rest => ofSteps (o.add (.scalar s) :: outer) rest
  | o :: outer, .alias number :: rest => ofSteps (o.add (.alias number) :: outer) rest
  | [], .closeSequence :: _ => .broken
  | [], .closeMapping :: _ => .broken
  | [o], .closeSequence :: _ => o.toNode
  | [o], .closeMapping :: _ => o.toNode
  | o :: parent :: outer, .closeSequence :: rest => ofSteps (parent.add o.toNode :: outer) rest
  | o :: parent :: outer, .closeMapping :: rest => ofSteps (parent.add o.toNode :: outer) rest

/-! ## Whole nodes -/

mutual

/-- Whether a document does not break off inside of a node. -/
def Node.isWhole : Node → Bool
  | .scalar _ => true
  | .sequence items => areWhole items
  | .mapping pairs => pairsAreWhole pairs
  | .alias _ => true
  | .broken => false

/-- Whether a document does not break off inside of any of some nodes. -/
def areWhole : List Node → Bool
  | [] => true
  | n :: rest => n.isWhole && areWhole rest

/-- Whether a document does not break off inside of any of some keys and values. -/
def pairsAreWhole : List (Node × Node) → Bool
  | [] => true
  | (key, value) :: rest => key.isWhole && value.isWhole && pairsAreWhole rest

end

/-! ## Documents -/

/-- The first document of a stream: its tree, the nodes that aliases refer to, and whether it
ends as it should with nothing after it. -/
structure Document where
  root : Node
  targets : List (Nat × Node) := []
  complete : Bool := true
  deriving Repr, Inhabited

namespace Document

/-- The node that a node stands for: an alias stands for its target, and every other node for
itself. -/
def follow (d : Document) : Node → Node
  | .alias number =>
    match d.targets.find? fun (n, _) => n == number with
    | some (_, target) => target
    | none => .broken
  | n => n

/-- The document of a row of events. A stream without a document has an empty one. -/
def ofEvents (events : List Event) : Document :=
  match events with
  | [.streamEnd] => { root := .scalar .empty }
  | _ =>
    let (steps, anchors, after, finished) := readSteps {} 0 events
    { root := Node.ofSteps [] steps
      targets := anchors.places.map fun (number, place) =>
        (number, Node.ofSteps [] (steps.drop place))
      complete := finished && after == [.streamEnd] }

/-- The document of a text. -/
def ofText (text : List Char) : Document := ofEvents (Event.ofTokens (Token.scan text).1)

end Document

end TokenClassifier.Yaml
