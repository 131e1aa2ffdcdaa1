import TokenClassifier.Yaml.Cursor

/-!
# Tokens of a document

The pieces of a document: its marks, its indicators, and its names, tags and scalars. The start
and the end of a block collection have no character of their own; their tokens stand for a
change of indentation.
-/

namespace TokenClassifier.Yaml

/-- How a scalar is written. -/
inductive ScalarStyle where
  | plain | singleQuoted | doubleQuoted | literal | folded
  deriving DecidableEq, Repr, Inhabited

/-- A piece of a document. -/
inductive Token where
  | streamStart
  | streamEnd
  /-- A `%YAML` line, with the two parts of its version. -/
  | version (major minor : Nat)
  /-- A `%TAG` line: a handle and what it stands for. -/
  | tagHandle (handle expansion : List Char)
  | documentStart
  | documentEnd
  | blockSequenceStart
  | blockMappingStart
  | blockEnd
  | flowSequenceStart
  | flowSequenceEnd
  | flowMappingStart
  | flowMappingEnd
  | blockEntry
  | flowEntry
  | key
  | value
  | alias (name : List Char)
  | anchor (name : List Char)
  | tag (handle suffix : List Char)
  | scalar (style : ScalarStyle) (text : List Char)
  deriving DecidableEq, Repr, Inhabited

/-- Why a document cannot be read on. -/
inductive Fault where
  /-- A character that documents do not hold. -/
  | forbiddenCharacter
  /-- A character that begins nothing. -/
  | unexpectedCharacter
  /-- An entry, a key or a value where the indentation allows none. -/
  | misplaced
  /-- A key without its value indicator. -/
  | keyWithoutValue
  | badDirective
  | badName
  | badTag
  | badEscape
  | badBlockHeader
  /-- A tab where indentation is expected. -/
  | tabIndentation
  /-- A quoted scalar that does not end. -/
  | unclosedScalar
  /-- A token where the grammar has none like it. -/
  | unexpectedToken
  deriving DecidableEq, Repr

end TokenClassifier.Yaml
