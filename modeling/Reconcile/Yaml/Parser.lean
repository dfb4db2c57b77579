import Reconcile.Yaml.Scanner

/-!
# Parsing YAML

The parser is a state machine over the token stream. Its state says what
comes next (a document, a node, the next entry of a collection, a key or a
value), and a stack of states says where to return once a node is complete.
Each step reads at most a few tokens and yields one event. A key or value
that is left out yields an empty scalar, and an indentless sequence (a block
sequence at the indentation of its mapping key) is recognised by a `-` where
a mapping value starts.

Tags are resolved here: `!!` stands for `tag:yaml.org,2002:`, `!` for
itself, and a `%TAG` directive can add handles for the document it opens.

The events are the start and end of the stream, of each document and of
each collection, scalars and aliases. A node's anchor and tag travel on the
event that starts it, and every event carries the mark where its node
starts, counting its anchor and tag.
-/

namespace Reconcile.Yaml

/-- What an event is. -/
inductive EventKind where
  | streamStart
  | streamEnd
  | documentStart
  | documentEnd
  | alias (name : String)
  | scalar (anchor : Option String) (tag : Option TagText) (value : String) (style : ScalarStyle)
  | sequenceStart (anchor : Option String) (tag : Option TagText)
  | sequenceEnd
  | mappingStart (anchor : Option String) (tag : Option TagText)
  | mappingEnd
  deriving DecidableEq, Repr, Inhabited

/-- An event with the mark where it starts. -/
structure Event where
  kind : EventKind
  mark : Mark
  deriving DecidableEq, Repr, Inhabited

/-- An empty plain scalar, which stands for a node that is left out. -/
def Event.empty (mark : Mark) : Event := ⟨.scalar none none "" .plain, mark⟩

/-- Where the parser is. -/
inductive ParseState where
  | streamStart
  | implicitDocumentStart
  | documentStart
  | documentContent
  | documentEnd
  | blockNode
  | blockNodeOrIndentlessSequence
  | flowNode
  | blockSequenceFirstEntry
  | blockSequenceEntry
  | indentlessSequenceEntry
  | blockMappingFirstKey
  | blockMappingKey
  | blockMappingValue
  | flowSequenceFirstEntry
  | flowSequenceEntry
  | flowSequenceEntryMappingKey
  | flowSequenceEntryMappingValue
  | flowSequenceEntryMappingEnd
  | flowMappingFirstKey
  | flowMappingKey
  | flowMappingValue
  | flowMappingEmptyValue
  | finished
  deriving DecidableEq, Repr, Inhabited

/-- The state of the parser. -/
structure Parser where
  scanner : Scanner
  state : ParseState := .streamStart
  /-- Where to return once the current node is complete. -/
  states : List ParseState := []
  /-- Where each open collection started. -/
  marks : List Mark := []
  /-- The tag handles of the current document and what they stand for. -/
  tagDirectives : List (String × TagText) := []
  deriving Repr, Inhabited

/-- The result of a parsing step. -/
abbrev Parsed (α : Type) := Except Problem α

namespace Parser

/-- A parser at the start of a text. -/
def ofString (text : String) : Parser := { scanner := Scanner.ofString text }

/-- The next token. -/
def peek (p : Parser) : Parsed (Token × Parser) :=
  match p.scanner.peek with
  | .ok (t, s) => .ok (t, { p with scanner := s })
  | .error e => .error e

/-- Takes the next token. -/
def advance (p : Parser) : Parser := { p with scanner := p.scanner.advance }

/-- Returns to the state on top of the stack. -/
def pop (p : Parser) : Parser :=
  { p with state := p.states.headD .finished, states := p.states.tail }

/-- Enters a state, to return to another afterwards. -/
def push (p : Parser) (next : ParseState) : Parser := { p with states := next :: p.states }

/-- Forgets where the innermost collection started. -/
def popMark (p : Parser) : Parser := { p with marks := p.marks.tail }

/-- A problem at a token. -/
def failAt (problem : String) (mark : Mark) : Parsed α :=
  .error { problem, problemMark := mark }

/-- A problem at a token, with what was being parsed and where it started. -/
def failIn (context : String) (contextMark : Mark) (problem : String) (mark : Mark) : Parsed α :=
  .error { problem, problemMark := mark, context := some context, contextMark }

/-- The tag handles every document knows. -/
def defaultTags : List (String × TagText) :=
  [("!", TagText.ofString "!"), ("!!", TagText.ofString "tag:yaml.org,2002:")]

/-- The directives before a document: at most one `%YAML` of version 1.1 or
1.2 and `%TAG` handles given once each. The default handles are added
unless a directive gave them. -/
def directivesAux : Nat → Bool → Parser → Parsed Parser
  | 0, _, p => .ok p
  | n + 1, seenVersion, p =>
    match p.peek with
    | .error e => .error e
    | .ok (t, p) =>
      match t.kind with
      | .versionDirective major minor =>
        if seenVersion then failAt "found duplicate %YAML directive" t.start
        else if major ≠ 1 || (minor ≠ 1 && minor ≠ 2) then failAt "found incompatible YAML document" t.start
        else directivesAux n true p.advance
      | .tagDirective handle expansion =>
        if p.tagDirectives.any (·.1 = handle) then failAt "found duplicate %TAG directive" t.start
        else directivesAux n seenVersion { p.advance with tagDirectives := p.tagDirectives ++ [(handle, expansion)] }
      | _ =>
        .ok { p with
          tagDirectives := defaultTags.foldl
            (fun ds d => if ds.any (·.1 = d.1) then ds else ds ++ [d]) p.tagDirectives }

/-- The directives before a document. -/
def directives (p : Parser) : Parsed Parser := directivesAux (p.scanner.fuel + 2) false p

/-- The start of the stream. -/
def streamStart (p : Parser) : Parsed (Event × Parser) := do
  let (t, p) ← p.peek
  if t.kind ≠ .streamStart then failAt "did not find expected <stream-start>" t.start
  else pure (⟨.streamStart, t.start⟩, { p.advance with state := .implicitDocumentStart })

/-- Steps over extra document end markers. -/
def documentEndsAux : Nat → Parser → Parsed (Token × Parser)
  | 0, p => p.peek
  | n + 1, p => do
    let (t, p) ← p.peek
    if t.kind = .documentEnd then documentEndsAux n p.advance else pure (t, p)

/-- The start of a document, or the end of the stream. The first document
may start without `---`; a later one must have it. -/
def documentStart (p : Parser) (implicit : Bool) : Parsed (Event × Parser) := do
  let (t, p) ← if implicit then p.peek else documentEndsAux (p.scanner.fuel + 2) p
  let opensExplicitly := match t.kind with
    | .versionDirective .. | .tagDirective .. | .documentStart | .streamEnd => true
    | _ => false
  if implicit && !opensExplicitly then
    let p ← p.directives
    pure (⟨.documentStart, t.start⟩, { p.push .documentEnd with state := .blockNode })
  else if t.kind ≠ .streamEnd then
    let start := t.start
    let p ← p.directives
    let (t, p) ← p.peek
    if t.kind ≠ .documentStart then failAt "did not find expected <document start>" t.start
    else pure (⟨.documentStart, start⟩, { (p.push .documentEnd).advance with state := .documentContent })
  else pure (⟨.streamEnd, t.start⟩, { p.advance with state := .finished })

/-- The end of a document, with or without `...`. -/
def documentEnd (p : Parser) : Parsed (Event × Parser) := do
  let (t, p) ← p.peek
  let p := if t.kind = .documentEnd then p.advance else p
  pure (⟨.documentEnd, t.start⟩, { p with tagDirectives := [], state := .documentStart })

/-- A tag written as a handle and a suffix, as the tag it stands for. Each
part ends at its first NUL byte. -/
def resolveTag (p : Parser) (handle : String) (suffix : TagText) (start tagMark : Mark) :
    Parsed TagText :=
  if handle.isEmpty then .ok suffix.untilNul
  else
    match p.tagDirectives.find? (·.1 = handle) with
    | some (_, expansion) => .ok (expansion.untilNul ++ suffix.untilNul)
    | none => failIn "while parsing a node" start "found undefined tag handle" tagMark

/-- The anchor and tag before a node, in either order. -/
def properties (p : Parser) (t : Token) :
    Parsed (Option String × Option (String × TagText × Mark) × Token × Parser) := do
  match t.kind with
  | .anchor name =>
    let (u, p) ← p.advance.peek
    match u.kind with
    | .tag handle suffix =>
      let (v, p) ← p.advance.peek
      pure (some name, some (handle, suffix, u.start), v, p)
    | _ => pure (some name, none, u, p)
  | .tag handle suffix =>
    let (u, p) ← p.advance.peek
    match u.kind with
    | .anchor name =>
      let (v, p) ← p.advance.peek
      pure (some name, some (handle, suffix, t.start), v, p)
    | _ => pure (none, some (handle, suffix, t.start), u, p)
  | _ => pure (none, none, t, p)

/-- Where no node content follows: an empty scalar if an anchor or tag was
given, an error otherwise. -/
def missingNode (p : Parser) (block : Bool) (anchor : Option String) (tag : Option TagText) (start : Mark)
    (t : Token) :
    Parsed (Event × Parser) :=
  if anchor.isSome || tag.isSome then pure (⟨.scalar anchor tag "" .plain, start⟩, p.pop)
  else
    failIn (if block then "while parsing a block node" else "while parsing a flow node") start
      "did not find expected node content" t.start

/-- A node: an alias, a scalar, or the start of a collection. In block
context a block collection may start here, and where a mapping value starts
a `-` opens an indentless sequence. A node with only an anchor or a tag is
an empty scalar. -/
def node (p : Parser) (block indentless : Bool) : Parsed (Event × Parser) := do
  let (t, p) ← p.peek
  match t.kind with
  | .alias name => pure (⟨.alias name, t.start⟩, p.advance.pop)
  | _ =>
    let start := t.start
    let (anchor, written, t, p) ← p.properties t
    let tag ← match written with
      | some (handle, suffix, tagMark) => (p.resolveTag handle suffix start tagMark).map some
      | none => pure none
    if indentless && t.kind = .blockEntry then
      pure (⟨.sequenceStart anchor tag, start⟩, { p with state := .indentlessSequenceEntry })
    else
      match t.kind with
      | .scalar value style => pure (⟨.scalar anchor tag value style, start⟩, p.advance.pop)
      | .flowSequenceStart => pure (⟨.sequenceStart anchor tag, start⟩, { p with state := .flowSequenceFirstEntry })
      | .flowMappingStart => pure (⟨.mappingStart anchor tag, start⟩, { p with state := .flowMappingFirstKey })
      | .blockSequenceStart =>
        if block then pure (⟨.sequenceStart anchor tag, start⟩, { p with state := .blockSequenceFirstEntry })
        else p.missingNode block anchor tag start t
      | .blockMappingStart =>
        if block then pure (⟨.mappingStart anchor tag, start⟩, { p with state := .blockMappingFirstKey })
        else p.missingNode block anchor tag start t
      | _ => p.missingNode block anchor tag start t

/-- Takes the token that opens a collection and remembers where it is. -/
def openCollection (p : Parser) : Parsed Parser := do
  let (t, p) ← p.peek
  pure { p.advance with marks := t.start :: p.marks }

/-- An entry of a block sequence, or its end. -/
def blockSequenceEntry (p : Parser) (first : Bool) : Parsed (Event × Parser) := do
  let p ← if first then p.openCollection else pure p
  let (t, p) ← p.peek
  match t.kind with
  | .blockEntry =>
    let mark := t.stop
    let (t, p) ← p.advance.peek
    if t.kind ≠ .blockEntry && t.kind ≠ .blockEnd then (p.push .blockSequenceEntry).node true false
    else pure (Event.empty mark, { p with state := .blockSequenceEntry })
  | .blockEnd => pure (⟨.sequenceEnd, t.start⟩, p.advance.pop.popMark)
  | _ =>
    failIn "while parsing a block collection" (p.marks.headD {}) "did not find expected '-' indicator" t.start

/-- An entry of an indentless sequence, or its end. -/
def indentlessSequenceEntry (p : Parser) : Parsed (Event × Parser) := do
  let (t, p) ← p.peek
  if t.kind = .blockEntry then
    let mark := t.stop
    let (t, p) ← p.advance.peek
    if t.kind ≠ .blockEntry && t.kind ≠ .key && t.kind ≠ .value && t.kind ≠ .blockEnd then
      (p.push .indentlessSequenceEntry).node true false
    else pure (Event.empty mark, { p with state := .indentlessSequenceEntry })
  else pure (⟨.sequenceEnd, t.start⟩, p.pop)

/-- A key of a block mapping, or its end. -/
def blockMappingKey (p : Parser) (first : Bool) : Parsed (Event × Parser) := do
  let p ← if first then p.openCollection else pure p
  let (t, p) ← p.peek
  match t.kind with
  | .key =>
    let mark := t.stop
    let (t, p) ← p.advance.peek
    if t.kind ≠ .key && t.kind ≠ .value && t.kind ≠ .blockEnd then (p.push .blockMappingValue).node true true
    else pure (Event.empty mark, { p with state := .blockMappingValue })
  | .blockEnd => pure (⟨.mappingEnd, t.start⟩, p.advance.pop.popMark)
  | _ => failIn "while parsing a block mapping" (p.marks.headD {}) "did not find expected key" t.start

/-- A value of a block mapping, empty when left out. -/
def blockMappingValue (p : Parser) : Parsed (Event × Parser) := do
  let (t, p) ← p.peek
  if t.kind = .value then
    let mark := t.stop
    let (t, p) ← p.advance.peek
    if t.kind ≠ .key && t.kind ≠ .value && t.kind ≠ .blockEnd then (p.push .blockMappingKey).node true true
    else pure (Event.empty mark, { p with state := .blockMappingKey })
  else pure (Event.empty t.start, { p with state := .blockMappingKey })

/-- An entry of a flow sequence, or its end. Entries after the first follow
a comma; a `?` or a key opens a single-pair mapping. -/
def flowSequenceEntry (p : Parser) (first : Bool) : Parsed (Event × Parser) := do
  let p ← if first then p.openCollection else pure p
  let (t, p) ← p.peek
  let close := fun (t : Token) (p : Parser) =>
    Except.ok (Event.mk .sequenceEnd t.start, p.advance.pop.popMark)
  if t.kind = .flowSequenceEnd then close t p
  else
    let (t, p) ←
      if first then pure (t, p)
      else if t.kind = .flowEntry then p.advance.peek
      else failIn "while parsing a flow sequence" (p.marks.headD {}) "did not find expected ',' or ']'" t.start
    if t.kind = .key then
      pure (⟨.mappingStart none none, t.start⟩, { p.advance with state := .flowSequenceEntryMappingKey })
    else if t.kind ≠ .flowSequenceEnd then (p.push .flowSequenceEntry).node false false
    else close t p

/-- The key of a single-pair mapping in a flow sequence. -/
def flowSequenceEntryMappingKey (p : Parser) : Parsed (Event × Parser) := do
  let (t, p) ← p.peek
  if t.kind ≠ .value && t.kind ≠ .flowEntry && t.kind ≠ .flowSequenceEnd then
    (p.push .flowSequenceEntryMappingValue).node false false
  else pure (Event.empty t.start, { p with state := .flowSequenceEntryMappingValue })

/-- The value of a single-pair mapping in a flow sequence. -/
def flowSequenceEntryMappingValue (p : Parser) : Parsed (Event × Parser) := do
  let (t, p) ← p.peek
  if t.kind = .value then
    let (t, p) ← p.advance.peek
    if t.kind ≠ .flowEntry && t.kind ≠ .flowSequenceEnd then
      (p.push .flowSequenceEntryMappingEnd).node false false
    else pure (Event.empty t.start, { p with state := .flowSequenceEntryMappingEnd })
  else pure (Event.empty t.start, { p with state := .flowSequenceEntryMappingEnd })

/-- The end of a single-pair mapping in a flow sequence. -/
def flowSequenceEntryMappingEnd (p : Parser) : Parsed (Event × Parser) := do
  let (t, p) ← p.peek
  pure (⟨.mappingEnd, t.start⟩, { p with state := .flowSequenceEntry })

/-- A key of a flow mapping, or its end. Keys after the first follow a
comma; an entry without `:` has an empty value. -/
def flowMappingKey (p : Parser) (first : Bool) : Parsed (Event × Parser) := do
  let p ← if first then p.openCollection else pure p
  let (t, p) ← p.peek
  let close := fun (t : Token) (p : Parser) =>
    Except.ok (Event.mk .mappingEnd t.start, p.advance.pop.popMark)
  if t.kind = .flowMappingEnd then close t p
  else
    let (t, p) ←
      if first then pure (t, p)
      else if t.kind = .flowEntry then p.advance.peek
      else failIn "while parsing a flow mapping" (p.marks.headD {}) "did not find expected ',' or '\x7d'" t.start
    if t.kind = .key then
      let (t, p) ← p.advance.peek
      if t.kind ≠ .value && t.kind ≠ .flowEntry && t.kind ≠ .flowMappingEnd then
        (p.push .flowMappingValue).node false false
      else pure (Event.empty t.start, { p with state := .flowMappingValue })
    else if t.kind ≠ .flowMappingEnd then (p.push .flowMappingEmptyValue).node false false
    else close t p

/-- A value of a flow mapping, empty when left out. -/
def flowMappingValue (p : Parser) (empty : Bool) : Parsed (Event × Parser) := do
  let (t, p) ← p.peek
  if empty then pure (Event.empty t.start, { p with state := .flowMappingKey })
  else if t.kind = .value then
    let (t, p) ← p.advance.peek
    if t.kind ≠ .flowEntry && t.kind ≠ .flowMappingEnd then (p.push .flowMappingKey).node false false
    else pure (Event.empty t.start, { p with state := .flowMappingKey })
  else pure (Event.empty t.start, { p with state := .flowMappingKey })

/-- The next event. -/
def next (p : Parser) : Parsed (Event × Parser) :=
  match p.state with
  | .streamStart => p.streamStart
  | .implicitDocumentStart => p.documentStart true
  | .documentStart => p.documentStart false
  | .documentContent => do
    let (t, p) ← p.peek
    match t.kind with
    | .versionDirective .. | .tagDirective .. | .documentStart | .documentEnd | .streamEnd =>
      pure (Event.empty t.start, p.pop)
    | _ => p.node true false
  | .documentEnd => p.documentEnd
  | .blockNode => p.node true false
  | .blockNodeOrIndentlessSequence => p.node true true
  | .flowNode => p.node false false
  | .blockSequenceFirstEntry => p.blockSequenceEntry true
  | .blockSequenceEntry => p.blockSequenceEntry false
  | .indentlessSequenceEntry => p.indentlessSequenceEntry
  | .blockMappingFirstKey => p.blockMappingKey true
  | .blockMappingKey => p.blockMappingKey false
  | .blockMappingValue => p.blockMappingValue
  | .flowSequenceFirstEntry => p.flowSequenceEntry true
  | .flowSequenceEntry => p.flowSequenceEntry false
  | .flowSequenceEntryMappingKey => p.flowSequenceEntryMappingKey
  | .flowSequenceEntryMappingValue => p.flowSequenceEntryMappingValue
  | .flowSequenceEntryMappingEnd => p.flowSequenceEntryMappingEnd
  | .flowMappingFirstKey => p.flowMappingKey true
  | .flowMappingKey => p.flowMappingKey false
  | .flowMappingValue => p.flowMappingValue false
  | .flowMappingEmptyValue => p.flowMappingValue true
  | .finished => .ok (⟨.streamEnd, p.scanner.mark⟩, p)

end Parser

end Reconcile.Yaml
