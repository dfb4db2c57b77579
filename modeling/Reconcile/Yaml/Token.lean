import Reconcile.Yaml.Basic

/-!
# YAML tokens

The scanner cuts the input into tokens: the markers of streams and
documents, directives, the indicators of block and flow collections, keys
and values, anchors, aliases, tags and scalars. Indentation is made explicit:
a block collection opens with a start token and closes with a block end.
-/

namespace Reconcile.Yaml

/-- How a scalar was written. -/
inductive ScalarStyle where
  | plain
  | singleQuoted
  | doubleQuoted
  | literal
  | folded
  deriving DecidableEq, Repr, Inhabited

/-- The text of a tag, or of what a `%TAG` handle stands for, as bytes: a
`%XX` escape may spell bytes that have the shape of UTF-8 without being
UTF-8. -/
structure TagText where
  bytes : List UInt8
  deriving DecidableEq, Repr, Inhabited

namespace TagText

/-- The bytes of a string. -/
def ofString (s : String) : TagText := ⟨s.toUTF8.toList⟩

/-- The text up to its first NUL byte, which ends it for every later reader. -/
def untilNul (t : TagText) : TagText := ⟨t.bytes.takeWhile (· ≠ 0)⟩

/-- Whether the text starts with `!`. -/
def isLocal (t : TagText) : Bool := t.bytes.head? = some 0x21

/-- The text, when its bytes are UTF-8. -/
def toString? (t : TagText) : Option String := String.fromUTF8? (ByteArray.mk t.bytes.toArray)

instance : Append TagText := ⟨fun a b => ⟨a.bytes ++ b.bytes⟩⟩

end TagText

/-- What a token is. -/
inductive TokenKind where
  | streamStart
  | streamEnd
  | versionDirective (major minor : Nat)
  /-- A `%TAG` directive: a handle and what it stands for. -/
  | tagDirective (handle : String) (expansion : TagText)
  | documentStart
  | documentEnd
  | blockSequenceStart
  | blockMappingStart
  | blockEnd
  | flowSequenceStart
  | flowSequenceEnd
  | flowMappingStart
  | flowMappingEnd
  | blockEntry
  | flowEntry
  | key
  | value
  | alias (name : String)
  | anchor (name : String)
  | tag (handle : String) (suffix : TagText)
  | scalar (value : String) (style : ScalarStyle)
  deriving DecidableEq, Repr, Inhabited

/-- A token with the marks of its first character and of the one after it. -/
structure Token where
  kind : TokenKind
  start : Mark
  stop : Mark
  deriving DecidableEq, Repr, Inhabited

end Reconcile.Yaml
