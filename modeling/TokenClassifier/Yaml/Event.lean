import TokenClassifier.Yaml.Scanner

/-!
# From tokens to events

The grammar of a document, as a machine: each round looks at the next tokens, emits one event
and decides what is to come next. What has to follow when the current construct is finished waits
on a stack. Nodes that are left out, such as the value of a key without one, become empty plain
scalars.

The machine stops where a token does not fit and where it needs a token that there is not, which
happens when the scan has failed. The events up to there are the result.
-/

namespace TokenClassifier.Yaml

/-- A scalar as the document gives it. -/
structure Scalar where
  tag : Option (List Char)
  style : ScalarStyle
  text : List Char
  deriving DecidableEq, Repr, Inhabited

/-- A scalar that is left out. -/
def Scalar.empty : Scalar := ⟨none, .plain, []⟩

/-- A step through a document. -/
inductive Event where
  | documentStart
  | documentEnd
  | streamEnd
  | alias (name : List Char)
  | scalar (anchor : Option (List Char)) (s : Scalar)
  | sequenceStart (anchor : Option (List Char))
  | sequenceEnd
  | mappingStart (anchor : Option (List Char))
  | mappingEnd
  deriving DecidableEq, Repr

/-- What the grammar expects. `first` marks the first entry of a collection, whose opening token
is still to be taken. -/
inductive Expect where
  | firstDocument
  | document
  | content
  | documentEnd
  | node (block indentless : Bool)
  | blockEntry
  | indentlessEntry
  | blockKey
  | blockValue
  | flowEntry (first : Bool)
  /-- The key of a pair that stands as an entry of a flow sequence. -/
  | pairKey
  | pairValue
  | pairEnd
  | flowKey (first : Bool)
  | flowValue
  /-- The value of a key without an indicator. -/
  | noValue
  deriving DecidableEq, Repr

/-- The state of the machine: the tokens left, the constructs that wait, innermost first, and
what the handles of tags stand for. -/
structure Grammar where
  tokens : List Token
  waiting : List Expect := []
  handles : List (List Char × List Char) := []
  deriving DecidableEq, Repr

namespace Grammar

/-- What handles stand for unless the document says otherwise. -/
def defaultHandles : List (List Char × List Char) :=
  [(['!'], ['!']), (['!', '!'], "tag:yaml.org,2002:".toList)]

/-- The next token. -/
def peek (g : Grammar) : Except Fault Token :=
  match g.tokens with
  | [] => .error .unexpectedToken
  | t :: _ => .ok t

/-- The state after the next token. -/
def drop (g : Grammar) : Grammar := { g with tokens := g.tokens.tail }

/-- Leaves something to come after the construct that begins now. -/
def await (g : Grammar) (e : Expect) : Grammar := { g with waiting := e :: g.waiting }

/-- What waits first, and the state without it. The end of a document always waits last. -/
def resume (g : Grammar) : Expect × Grammar :=
  (g.waiting.headD .documentEnd, { g with waiting := g.waiting.tail })

/-- A round of the machine: the event, what is expected then, and the state. -/
abbrev Round := Except Fault (Event × Expect × Grammar)

/-- Emits an event at the end of a construct. -/
def leave (g : Grammar) (e : Event) : Round :=
  let (next, g) := g.resume
  .ok (e, next, g)

/-- Emits a scalar that is left out, before `next`. -/
def omitted (g : Grammar) (next : Expect) : Round := .ok (.scalar none .empty, next, g)

/-! ## Nodes -/

/-- The properties of a node: its anchor and its tag, in either order. -/
def readProperties (g : Grammar) :
    Except Fault (Option (List Char) × Option (List Char × List Char) × Grammar) := do
  match ← g.peek with
  | .anchor name =>
    let g := g.drop
    match ← g.peek with
    | .tag handle suffix => return (some name, some (handle, suffix), g.drop)
    | _ => return (some name, none, g)
  | .tag handle suffix =>
    let g := g.drop
    match ← g.peek with
    | .anchor name => return (some name, some (handle, suffix), g.drop)
    | _ => return (none, some (handle, suffix), g)
  | _ => return (none, none, g)

/-- A tag with its handle replaced by what it stands for. -/
def expandTag (g : Grammar) (tag : List Char × List Char) : Except Fault (List Char) :=
  if tag.1.isEmpty then .ok tag.2
  else
    match g.handles.find? fun (handle, _) => handle == tag.1 with
    | some (_, expansion) => .ok (expansion ++ tag.2)
    | none => .error .badTag

/-- The beginning of a node. The tag `!` alone says nothing about a scalar. -/
def readNode (g : Grammar) (block indentless : Bool) : Round := do
  match ← g.peek with
  | .alias name => g.drop.leave (.alias name)
  | _ =>
    let (anchor, tag, g) ← g.readProperties
    let tag ← tag.mapM g.expandTag
    match ← g.peek with
    | .blockEntry =>
      if indentless then return (.sequenceStart anchor, .indentlessEntry, g)
      else if anchor.isSome || tag.isSome then g.leave (.scalar anchor ⟨tag, .plain, []⟩)
      else .error .unexpectedToken
    | .scalar style text =>
      let tag := if tag = some ['!'] then none else tag
      g.drop.leave (.scalar anchor ⟨tag, style, text⟩)
    | .flowSequenceStart => return (.sequenceStart anchor, .flowEntry true, g)
    | .flowMappingStart => return (.mappingStart anchor, .flowKey true, g)
    | t =>
      if block && t = .blockSequenceStart then return (.sequenceStart anchor, .blockEntry, g.drop)
      else if block && t = .blockMappingStart then return (.mappingStart anchor, .blockKey, g.drop)
      else if anchor.isSome || tag.isSome then g.leave (.scalar anchor ⟨tag, .plain, []⟩)
      else .error .unexpectedToken

/-! ## Documents -/

/-- Takes the directives before a document: one version at most, and no handle twice. -/
def readDirectives : Bool → List (List Char × List Char) → List Token →
    Except Fault (List (List Char × List Char) × List Token)
  | versioned, handles, .version major minor :: rest =>
    if versioned || major != 1 || !(minor == 1 || minor == 2) then .error .badDirective
    else readDirectives true handles rest
  | versioned, handles, .tagHandle handle expansion :: rest =>
    if handles.any fun (known, _) => known == handle then .error .badDirective
    else readDirectives versioned (handles ++ [(handle, expansion)]) rest
  | _, handles, tokens => .ok (handles, tokens)

/-- The beginning of a document that its mark announces. -/
def readMarkedDocument (g : Grammar) : Round := do
  let (handles, tokens) ← readDirectives false [] g.tokens
  let g := { g with tokens, handles := handles ++ defaultHandles }
  match ← g.peek with
  | .documentStart => return (.documentStart, .content, g.drop)
  | _ => .error .unexpectedToken

/-- The beginning of the first document, which needs no mark, or the end. -/
def readFirstDocument (g : Grammar) : Round := do
  match ← g.peek with
  | .version .. => g.readMarkedDocument
  | .tagHandle .. => g.readMarkedDocument
  | .documentStart => g.readMarkedDocument
  | .streamEnd => return (.streamEnd, .document, g.drop)
  | _ => return (.documentStart, .node true false, { g with handles := defaultHandles })

/-- The beginning of a further document, or the end. -/
def readDocument (g : Grammar) : Round := do
  let g := { g with tokens := g.tokens.dropWhile (· == Token.documentEnd) }
  match ← g.peek with
  | .streamEnd => return (.streamEnd, .document, g.drop)
  | _ => g.readMarkedDocument

/-- The content of a document after its mark. -/
def readContent (g : Grammar) : Round := do
  match ← g.peek with
  | .version .. => g.leave (.scalar none .empty)
  | .tagHandle .. => g.leave (.scalar none .empty)
  | .documentStart => g.leave (.scalar none .empty)
  | .documentEnd => g.leave (.scalar none .empty)
  | .streamEnd => g.leave (.scalar none .empty)
  | _ => g.readNode true false

/-- The end of a document. -/
def readDocumentEnd (g : Grammar) : Round := do
  match ← g.peek with
  | .documentEnd => return (.documentEnd, .document, g.drop)
  | _ => return (.documentEnd, .document, g)

/-! ## Block collections -/

/-- An entry of a block sequence. -/
def readBlockEntry (g : Grammar) : Round := do
  match ← g.peek with
  | .blockEntry =>
    let g := g.drop
    match ← g.peek with
    | .blockEntry => g.omitted .blockEntry
    | .blockEnd => g.omitted .blockEntry
    | _ => (g.await .blockEntry).readNode true false
  | .blockEnd => g.drop.leave .sequenceEnd
  | _ => .error .unexpectedToken

/-- An entry of a sequence that is not indented below the key whose value it is. -/
def readIndentlessEntry (g : Grammar) : Round := do
  match ← g.peek with
  | .blockEntry =>
    let g := g.drop
    match ← g.peek with
    | .blockEntry => g.omitted .indentlessEntry
    | .key => g.omitted .indentlessEntry
    | .value => g.omitted .indentlessEntry
    | .blockEnd => g.omitted .indentlessEntry
    | _ => (g.await .indentlessEntry).readNode true false
  | _ => g.leave .sequenceEnd

/-- A key of a block mapping. -/
def readBlockKey (g : Grammar) : Round := do
  match ← g.peek with
  | .key =>
    let g := g.drop
    match ← g.peek with
    | .key => g.omitted .blockValue
    | .value => g.omitted .blockValue
    | .blockEnd => g.omitted .blockValue
    | _ => (g.await .blockValue).readNode true true
  | .blockEnd => g.drop.leave .mappingEnd
  | _ => .error .unexpectedToken

/-- A value of a block mapping. -/
def readBlockValue (g : Grammar) : Round := do
  match ← g.peek with
  | .value =>
    let g := g.drop
    match ← g.peek with
    | .key => g.omitted .blockKey
    | .value => g.omitted .blockKey
    | .blockEnd => g.omitted .blockKey
    | _ => (g.await .blockKey).readNode true true
  | _ => g.omitted .blockKey

/-! ## Flow collections -/

/-- The token after the comma that has to stand before an entry other than the first. -/
def afterComma (g : Grammar) (first : Bool) : Except Fault Grammar := do
  if first then return g
  else
    match ← g.peek with
    | .flowEntry => return g.drop
    | _ => .error .unexpectedToken

/-- An entry of a flow sequence. -/
def readFlowEntry (g : Grammar) (first : Bool) : Round := do
  let g := if first then g.drop else g
  if (← g.peek) = .flowSequenceEnd then g.drop.leave .sequenceEnd
  else
    let g ← g.afterComma first
    match ← g.peek with
    | .key => return (.mappingStart none, .pairKey, g.drop)
    | .flowSequenceEnd => g.drop.leave .sequenceEnd
    | _ => (g.await (.flowEntry false)).readNode false false

/-- The key of a pair in a flow sequence. Where it is left out, the token there is taken too. -/
def readPairKey (g : Grammar) : Round := do
  match ← g.peek with
  | .value => g.drop.omitted .pairValue
  | .flowEntry => g.drop.omitted .pairValue
  | .flowSequenceEnd => g.drop.omitted .pairValue
  | _ => (g.await .pairValue).readNode false false

/-- The value of a pair in a flow sequence. -/
def readPairValue (g : Grammar) : Round := do
  match ← g.peek with
  | .value =>
    let g := g.drop
    match ← g.peek with
    | .flowEntry => g.omitted .pairEnd
    | .flowSequenceEnd => g.omitted .pairEnd
    | _ => (g.await .pairEnd).readNode false false
  | _ => g.omitted .pairEnd

/-- The end of a pair in a flow sequence. -/
def readPairEnd (g : Grammar) : Round := do
  let _ ← g.peek
  return (.mappingEnd, .flowEntry false, g)

/-- A key of a flow mapping. -/
def readFlowKey (g : Grammar) (first : Bool) : Round := do
  let g := if first then g.drop else g
  if (← g.peek) = .flowMappingEnd then g.drop.leave .mappingEnd
  else
    let g ← g.afterComma first
    match ← g.peek with
    | .key =>
      let g := g.drop
      match ← g.peek with
      | .value => g.omitted .flowValue
      | .flowEntry => g.omitted .flowValue
      | .flowMappingEnd => g.omitted .flowValue
      | _ => (g.await .flowValue).readNode false false
    | .flowMappingEnd => g.drop.leave .mappingEnd
    | _ => (g.await .noValue).readNode false false

/-- A value of a flow mapping. -/
def readFlowValue (g : Grammar) : Round := do
  match ← g.peek with
  | .value =>
    let g := g.drop
    match ← g.peek with
    | .flowEntry => g.omitted (.flowKey false)
    | .flowMappingEnd => g.omitted (.flowKey false)
    | _ => (g.await (.flowKey false)).readNode false false
  | _ => g.omitted (.flowKey false)

/-! ## The machine -/

/-- One round. -/
def round (g : Grammar) : Expect → Round
  | .firstDocument => g.readFirstDocument
  | .document => g.readDocument
  | .content => g.readContent
  | .documentEnd => g.readDocumentEnd
  | .node block indentless => g.readNode block indentless
  | .blockEntry => g.readBlockEntry
  | .indentlessEntry => g.readIndentlessEntry
  | .blockKey => g.readBlockKey
  | .blockValue => g.readBlockValue
  | .flowEntry first => g.readFlowEntry first
  | .pairKey => g.readPairKey
  | .pairValue => g.readPairValue
  | .pairEnd => g.readPairEnd
  | .flowKey first => g.readFlowKey first
  | .flowValue => g.readFlowValue
  | .noValue => do
    let _ ← g.peek
    g.omitted (.flowKey false)

/-- Runs the machine up to the end of the stream or to a fault. -/
def run : Nat → Expect → Grammar → List Event
  | 0, _, _ => []
  | fuel + 1, expected, g =>
    match g.round expected with
    | .error _ => []
    | .ok (.streamEnd, _, _) => [.streamEnd]
    | .ok (e, next, g) => e :: run fuel next g

end Grammar

/-- The events of a row of tokens, up to the end of the stream or to a fault. No token is looked
at in more than a few rounds, which bounds their number. -/
def Event.ofTokens (tokens : List Token) : List Event :=
  match tokens with
  | .streamStart :: rest => Grammar.run (4 * rest.length + 8) .firstDocument { tokens := rest }
  | _ => []

end TokenClassifier.Yaml
