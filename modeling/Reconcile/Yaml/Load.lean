import Reconcile.Yaml.Parser
import Reconcile.Yaml.Scalar
import Reconcile.Document.Error
import Reconcile.Text.Unprintable

/-!
# Loading a YAML document

Loading runs in two steps. First the events of the first document are
collected, up to its end or to the first problem, with each anchor numbered
and each alias replaced by the number of the anchor it names. Then the
events are read into a document: scalars by their tag or, untagged and
plain, by what they are written as; sequences into arrays; mappings into
objects whose keys are the keys' text. Reading stops at the first error, so
an error in an early node wins over a problem later in the text; running out
of events reports the problem that stopped the collection.

Anchors are numbered by how many distinct names were defined before, so a
name defined again takes a number that the next new name shares; an alias
goes to the node numbered last.

A document is read from YAML text holding at most one document; text that
is only blank characters (in the Unicode sense) is null (`Document.ofYaml`).

Collections may nest 128 deep; an alias is followed at most a hundred times
per event of the document. A node with a local tag (one starting with `!`)
whose bytes are UTF-8 is an enum, which no document holds; a local tag that
is not UTF-8 is passed over, and a plain scalar under it reads as untagged.

An error names where it happened: a path of keys and indices from the root,
and the mark of the node.
-/

namespace Reconcile.Yaml

/-- Where a node is inside the document. -/
inductive Path where
  | root
  | seq (parent : Path) (index : Nat)
  | map (parent : Path) (key : String)
  | alias (parent : Path)
  /-- Under a key that is not a plain scalar. -/
  | unknown (parent : Path)
  deriving DecidableEq, Repr, Inhabited

namespace Path

mutual
/-- A path as text: `.` for the root, keys joined by dots, indices in
brackets. -/
def text : Path → String
  | .root => "."
  | .seq p i => p.text ++ "[" ++ toString i ++ "]"
  | .map p key => p.parentText ++ key
  | .alias p => p.text
  | .unknown p => p.parentText ++ "?"

/-- A path as the start of a longer one: nothing for the root. -/
def parentText : Path → String
  | .root => ""
  | p => p.text ++ "."
end

end Path

/-- Why a YAML text does not load. -/
inductive LoadError where
  /-- A value that does not fit, with where it is. -/
  | message (text : String) (mark : Mark) (path : Path)
  | recursionLimit (mark : Mark)
  | unknownAnchor (mark : Mark)
  | repetitionLimit
  | moreThanOneDocument
  | endOfStream
  /-- The text is not YAML. -/
  | problem (p : Problem)
  deriving DecidableEq, Repr, Inhabited

namespace LoadError

/-- ` at` and a mark, unless the mark is the very start. -/
def markSuffix (m : Mark) : String := if m.atStart then "" else " at " ++ m.text

/-- The reason as a sentence. -/
def text : LoadError → String
  | .message msg mark path =>
    (if path.text = "." then "" else path.text ++ ": ") ++ msg ++ markSuffix mark
  | .recursionLimit mark => "recursion limit exceeded" ++ markSuffix mark
  | .unknownAnchor mark => "unknown anchor" ++ markSuffix mark
  | .repetitionLimit => "repetition limit exceeded"
  | .moreThanOneDocument => "deserializing from YAML containing more than one document is not supported"
  | .endOfStream => "EOF while parsing a value"
  | .problem p => p.text

end LoadError

/-- An event of a collected document. -/
inductive Item where
  /-- An alias, by the number of its anchor. -/
  | alias (anchor : Nat)
  | scalar (tag : Option TagText) (value : String) (style : ScalarStyle)
  | sequenceStart (tag : Option TagText)
  | sequenceEnd
  | mappingStart (tag : Option TagText)
  | mappingEnd
  /-- The whole of an empty stream. -/
  | void
  deriving DecidableEq, Repr, Inhabited

/-- The events of one document, the position each anchor number names, and
the problem that stopped the collection, if one did. -/
structure Collected where
  items : Array (Item × Mark) := #[]
  targets : List (Nat × Nat) := []
  names : List (String × Nat) := []
  error : Option LoadError := none
  deriving Repr, Inhabited

namespace Collected

/-- Gives the anchor of the next item a number. -/
def anchor (c : Collected) : Option String → Collected
  | none => c
  | some name =>
    let number := c.names.length
    { c with names := (name, number) :: c.names.filter (·.1 ≠ name),
             targets := (number, c.items.size) :: c.targets.filter (·.1 ≠ number) }

/-- Adds an item. -/
def add (c : Collected) (item : Item) (mark : Mark) : Collected := { c with items := c.items.push (item, mark) }

end Collected

/-- Collects the events of a document. With the stream at its end, the first
document is the empty stream and a later one does not exist; the parser is
then gone. -/
def collectAux (first : Bool) : Nat → Collected → Parser → Option Collected × Option Parser
  | 0, c, p => (some c, some p)
  | n + 1, c, p =>
    match p.next with
    | .error e => (some { c with error := some (.problem e) }, some p)
    | .ok (e, p) =>
      match e.kind with
      | .streamStart | .documentStart => collectAux first n c p
      | .streamEnd =>
        if first then (some (if c.items.isEmpty then c.add .void e.mark else c), none) else (none, none)
      | .documentEnd => (some c, some p)
      | .alias name =>
        match c.names.find? (·.1 = name) with
        | some (_, number) => collectAux first n (c.add (.alias number) e.mark) p
        | none => (some { c with error := some (.unknownAnchor e.mark) }, some p)
      | .scalar anchor tag value style => collectAux first n ((c.anchor anchor).add (.scalar tag value style) e.mark) p
      | .sequenceStart anchor tag => collectAux first n ((c.anchor anchor).add (.sequenceStart tag) e.mark) p
      | .sequenceEnd => collectAux first n (c.add .sequenceEnd e.mark) p
      | .mappingStart anchor tag => collectAux first n ((c.anchor anchor).add (.mappingStart tag) e.mark) p
      | .mappingEnd => collectAux first n (c.add .mappingEnd e.mark) p

/-- Enough steps to collect every event of a text. -/
def collectFuel (p : Parser) : Nat := 8 * p.scanner.input.size + 64

/-- Collects the events of the next document. -/
def collect (first : Bool) (p : Parser) : Option Collected × Option Parser :=
  collectAux first (collectFuel p) {} p

/-- The quoted text of a string in an error. -/
def foundString (v : String) : String := Unexpected.describe (.str v)

/-- An untagged plain scalar as a document. -/
def plainValue (v : String) : Except String Document :=
  match plainMeaning v with
  | .null => .ok .null
  | .bool b => .ok (.bool b)
  | .integer (.fits i) => .ok (.number (.int i))
  | .integer _ => .error "JSON number out of range"
  | .float (.finite bits) => .ok (.number (.float bits))
  | .float .infinite => .ok .null
  | .text => .ok (.string v)

/-- The core schema's tags. -/
def coreTag (name : String) : TagText := TagText.ofString ("tag:yaml.org,2002:" ++ name)

/-- A scalar as a document: by its tag if it has one of the core schema's
boolean, integer, float or null tags, by what it is written as if it is
plain, and as a string otherwise. -/
def scalarValue (tag : Option TagText) (v : String) (style : ScalarStyle) : Except String Document :=
  match tag with
  | some t =>
    if t = coreTag "bool" then
      match boolWord? v with
      | some b => .ok (.bool b)
      | none => .error (DecodeReason.invalidValue (foundString v) "a boolean")
    else if t = coreTag "int" then
      match integerFit v with
      | .fits i => .ok (.number (.int i))
      | .tooLarge => .error "JSON number out of range"
      | .none => .error (DecodeReason.invalidValue (foundString v) "an integer")
    else if t = coreTag "float" then
      match floatWord? v with
      | some (.finite bits) => .ok (.number (.float bits))
      | some .infinite => .ok .null
      | none => .error (DecodeReason.invalidValue (foundString v) "a float")
    else if t = coreTag "null" then
      if isNullWord v then .ok .null else .error (DecodeReason.invalidValue (foundString v) "null")
    else if t.isLocal && style = .plain then plainValue v
    else .ok (.string v)
  | none => if style = .plain then plainValue v else .ok (.string v)

/-- Whether a tag makes a node an enum: a local tag (one starting with `!`)
whose bytes are UTF-8. -/
def isEnumTag : Option TagText → Bool
  | some t => t.isLocal && t.toString?.isSome
  | none => false

/-- What a document reader reports for an enum. -/
def enumFound : String := DecodeReason.invalidType "enum" "any valid JSON value"

/-- Where a reader is in the events, and how many aliases it has followed. -/
structure Walk where
  pos : Nat
  jumps : Nat
  deriving DecidableEq, Repr, Inhabited

namespace Collected

/-- The error for running out of events: the problem that stopped the
collection, or the end of the stream. -/
def exhausted (c : Collected) : LoadError := c.error.getD .endOfStream

/-- Follows an alias: counts the jump and finds where its anchor's node is. -/
def jump (c : Collected) (number : Nat) (w : Walk) : Except LoadError Walk :=
  let jumps := w.jumps + 1
  if jumps > c.items.size * 100 then .error .repetitionLimit
  else match c.targets.find? (·.1 = number) with
    | some (_, pos) => .ok { pos, jumps }
    | none => .error .endOfStream

/-- The text of a mapping key: a scalar's text, following aliases. -/
def keyText (c : Collected) (expecting : String) : Nat → Path → Walk → Except LoadError (String × Walk)
  | 0, _, _ => .error .endOfStream
  | n + 1, path, w =>
    match c.items[w.pos]? with
    | none => .error c.exhausted
    | some (item, mark) =>
      let next := w.pos + 1
      match item with
      | .scalar _ v _ => .ok (v, { w with pos := next })
      | .alias number => do
        let inner ← c.jump number w
        let (v, inner) ← c.keyText expecting n (.alias path) inner
        pure (v, { pos := next, jumps := inner.jumps })
      | .sequenceStart _ => .error (.message (DecodeReason.invalidType "sequence" expecting) mark path)
      | .mappingStart _ => .error (.message (DecodeReason.invalidType "map" expecting) mark path)
      | _ => .error .endOfStream

/-- Takes the event that closes a collection. -/
def close (c : Collected) (w : Walk) : Except LoadError Walk :=
  match c.items[w.pos]? with
  | none => .error c.exhausted
  | some _ => .ok { w with pos := w.pos + 1 }

/-- Whether the next event ends a collection. -/
def atEnd (c : Collected) (pos : Nat) : Bool :=
  match c.items[pos]? with
  | some (.sequenceEnd, _) | some (.mappingEnd, _) | some (.void, _) => true
  | _ => false

mutual
/-- The node at the reader's position as a document. -/
def value (c : Collected) : Nat → Path → Nat → Walk → Except LoadError (Document × Walk)
  | 0, _, _, _ => .error .endOfStream
  | n + 1, path, depth, w =>
    match c.items[w.pos]? with
    | none => .error c.exhausted
    | some (item, mark) =>
      let next := { w with pos := w.pos + 1 }
      match item with
      | .alias number => do
        let inner ← c.jump number next
        let (d, inner) ← c.value n (.alias path) depth inner
        pure (d, { pos := next.pos, jumps := inner.jumps })
      | .scalar tag v style =>
        if isEnumTag tag then .error (.message enumFound mark path)
        else match scalarValue tag v style with
          | .ok d => .ok (d, next)
          | .error msg => .error (.message msg mark path)
      | .sequenceStart tag =>
        if isEnumTag tag then .error (.message enumFound mark path)
        else if depth = 0 then .error (.recursionLimit mark)
        else do
          let (items, w) ← c.elements n path (depth - 1) 0 next
          let w ← c.close w
          pure (.array items, w)
      | .mappingStart tag =>
        if isEnumTag tag then .error (.message enumFound mark path)
        else if depth = 0 then .error (.recursionLimit mark)
        else do
          let (fields, w) ← c.entries n path (depth - 1) true next
          let w ← c.close w
          pure (Document.ofEntries fields, w)
      | .void => .ok (.null, next)
      | _ => .error .endOfStream

/-- The elements of a sequence, up to its end. -/
def elements (c : Collected) : Nat → Path → Nat → Nat → Walk → Except LoadError (List Document × Walk)
  | 0, _, _, _, _ => .error .endOfStream
  | n + 1, path, depth, index, w =>
    if c.items[w.pos]?.isNone then .error c.exhausted
    else if c.atEnd w.pos then .ok ([], w)
    else do
      let (d, w) ← c.value n (.seq path index) depth w
      let (ds, w) ← c.elements n path depth (index + 1) w
      pure (d :: ds, w)

/-- The entries of a mapping, up to its end. A value's path names its key
when the key is a plain scalar event. -/
def entries (c : Collected) : Nat → Path → Nat → Bool → Walk → Except LoadError (List (String × Document) × Walk)
  | 0, _, _, _, _ => .error .endOfStream
  | n + 1, path, depth, first, w =>
    match c.items[w.pos]? with
    | none => .error c.exhausted
    | some (item, _) =>
      if c.atEnd w.pos then .ok ([], w)
      else do
        let (k, w) ← c.keyText (if first then "a string key" else "a string") n path w
        let valuePath := match item with
          | .scalar _ v _ => Path.map path v
          | _ => Path.unknown path
        let (d, w) ← c.value n valuePath depth w
        let (rest, w) ← c.entries n path depth false w
        pure ((k, d) :: rest, w)
end

/-- Enough steps to read every node, following aliases as far as allowed. -/
def readFuel (c : Collected) : Nat := (c.items.size + 2) * 300

/-- The collected document as a document, or the first error in it. -/
def read (c : Collected) : Except LoadError Document := do
  let (d, _) ← c.value c.readFuel .root 128 ⟨0, 0⟩
  match c.error with
  | some e => .error e
  | none => pure d

end Collected

/-- Reads a YAML text holding one document. -/
def load (text : String) : Except LoadError Document :=
  match refuseControls text with
  | some p => .error (.problem p)
  | none =>
    let body := if text.startsWith "\uFEFF" then (text.drop 1).toString else text
    match collect true (Parser.ofString body) with
    | (none, _) => .error .endOfStream
    | (some c, rest) => do
      let d ← c.read
      match rest with
      | none => pure d
      | some p =>
        match collect false p with
        | (none, _) => pure d
        | (some _, _) => .error .moreThanOneDocument

end Reconcile.Yaml

namespace Reconcile.Document

/-- Reads a document from YAML text. -/
def ofYaml (text : String) : Except DocumentError Document :=
  if Text.isBlankText text then .ok .null
  else (Yaml.load text).mapError fun e => .yaml e.text

end Reconcile.Document
