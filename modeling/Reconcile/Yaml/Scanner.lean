import Reconcile.Yaml.Token

/-!
# Scanning YAML

The scanner turns characters into tokens on demand. Most tokens are known
when their first character is seen; a simple key is not. Any token that may
start a key (a scalar, an alias, an anchor, a tag or a flow collection) is
remembered as a possible simple key, with its place in the token queue.
When a `:` follows on the same line and within 1024 characters, a key token
and, in block context, the start of a block mapping are inserted at that
place. A possible key that must be a key (one at the indentation of a block
mapping) and is not is an error.

Indentation drives block collections: a token at a deeper column than the
current indentation opens a collection, and a token at a shallower one
closes those deeper than it.

The scanner hands a token to the parser only once no possible simple key
could still turn it into a key; until then it scans ahead.

Every loop takes fuel bounded by what is left of the input; each turn of a
loop that does not stop consumes at least one character.
-/

namespace Reconcile.Yaml

/-- A place where a simple key may start. -/
structure SimpleKey where
  possible : Bool := false
  /-- A key that must be found: at the indentation of a block mapping. -/
  required : Bool := false
  /-- The number of the token that would be the key, counted over the
  whole stream. -/
  tokenNumber : Nat := 0
  mark : Mark := {}
  deriving DecidableEq, Repr, Inhabited

/-- Whether a possible simple key can no longer be one: it is on an earlier
line or more than 1024 characters back. -/
def SimpleKey.stale (k : SimpleKey) (m : Mark) : Bool :=
  k.possible && (k.mark.line < m.line || k.mark.index + 1024 < m.index)

/-- The state of the scanner. -/
structure Scanner where
  input : Array Char
  pos : Nat := 0
  mark : Mark := {}
  streamStartProduced : Bool := false
  flowLevel : Nat := 0
  /-- Tokens scanned and not yet taken, first first. -/
  tokens : List Token := []
  /-- The number of tokens taken. -/
  tokensParsed : Nat := 0
  /-- Whether the first queued token may be taken. -/
  tokenAvailable : Bool := false
  indent : Int := -1
  indents : List Int := []
  simpleKeyAllowed : Bool := false
  /-- One possible simple key per flow level, the innermost first. -/
  simpleKeys : List SimpleKey := []
  deriving Repr, Inhabited

/-- The result of a scanning step. -/
abbrev Scanned (α : Type) := Except Problem α

namespace Scanner

/-- A scanner at the start of a text. -/
def ofString (text : String) : Scanner := { input := text.toList.toArray }

/-- The character `k` places ahead, NUL past the end. -/
def ch (s : Scanner) (k : Nat) : Char := s.input.getD (s.pos + k) '\x00'

/-- Fuel enough for a loop that consumes a character on every turn. -/
def fuel (s : Scanner) : Nat := s.input.size - s.pos + 2

/-- Steps over one character of a line. The index counts UTF-8 bytes, the
column characters. -/
def skip (s : Scanner) : Scanner :=
  { s with pos := s.pos + 1,
           mark := { s.mark with index := s.mark.index + (s.ch 0).utf8Size, column := s.mark.column + 1 } }

/-- Steps over a line break, a carriage return and line feed counting as one. -/
def skipLine (s : Scanner) : Scanner :=
  if s.ch 0 = '\r' && s.ch 1 = '\n' then
    { s with pos := s.pos + 2, mark := { index := s.mark.index + 2, line := s.mark.line + 1, column := 0 } }
  else if isBreak (s.ch 0) then
    { s with pos := s.pos + 1,
             mark := { index := s.mark.index + (s.ch 0).utf8Size, line := s.mark.line + 1, column := 0 } }
  else s

/-- Reads a line break: a line or paragraph separator as itself, any other
break as a line feed, nothing if there is none. -/
def readLine (s : Scanner) : String × Scanner :=
  let c := s.ch 0
  if c = '\u2028' || c = '\u2029' then (String.singleton c, s.skipLine)
  else if isBreak c then ("\n", s.skipLine)
  else ("", s)

/-- Steps over the characters that satisfy `p`. -/
def skipWhileAux (p : Char → Bool) : Nat → Scanner → Scanner
  | 0, s => s
  | n + 1, s => if p (s.ch 0) && !isEnd (s.ch 0) then skipWhileAux p n s.skip else s

/-- Steps over the characters that satisfy `p`. -/
def skipWhile (s : Scanner) (p : Char → Bool) : Scanner := skipWhileAux p s.fuel s

/-- Reads the characters that satisfy `p`. -/
def takeWhileAux (p : Char → Bool) : Nat → String → Scanner → String × Scanner
  | 0, acc, s => (acc, s)
  | n + 1, acc, s =>
    if p (s.ch 0) && !isEnd (s.ch 0) then takeWhileAux p n (acc.push (s.ch 0)) s.skip else (acc, s)

/-- Reads the characters that satisfy `p`. -/
def takeWhile (s : Scanner) (p : Char → Bool) : String × Scanner := takeWhileAux p s.fuel "" s

/-- Whether the next characters are three `c` followed by a blank, a break or
the end: a document marker when at the start of a line. -/
def atMarker (s : Scanner) (c : Char) : Bool :=
  s.ch 0 = c && s.ch 1 = c && s.ch 2 = c && isBlankEnd (s.ch 3)

/-- Whether a document marker starts here. -/
def atDocumentMarker (s : Scanner) : Bool :=
  s.mark.column = 0 && (s.atMarker '-' || s.atMarker '.')

/-- A problem at the current position, with what was being scanned. -/
def fail (s : Scanner) (context : String) (contextMark : Mark) (problem : String) : Scanned α :=
  .error { problem, problemMark := s.mark, context := some context, contextMark }

/-- A problem at the current position, without a context. -/
def failHere (s : Scanner) (problem : String) : Scanned α :=
  .error { problem, problemMark := s.mark, contextMark := s.mark }

/-- Appends a token to the queue. -/
def enqueue (s : Scanner) (t : Token) : Scanner := { s with tokens := s.tokens ++ [t] }

/-- Inserts a token at a place in the queue. -/
def insertToken (s : Scanner) (i : Nat) (t : Token) : Scanner :=
  { s with tokens := s.tokens.take i ++ t :: s.tokens.drop i }

/-! ## Simple keys -/

/-- The possible simple key of the innermost flow level. -/
def topKey (s : Scanner) : SimpleKey := s.simpleKeys.headD {}

/-- Replaces the possible simple key of the innermost flow level. -/
def setTopKey (s : Scanner) (k : SimpleKey) : Scanner :=
  { s with simpleKeys := k :: s.simpleKeys.tail }

/-- Forgets the possible simple key of the innermost flow level; one that was
required is an error. -/
def removeSimpleKey (s : Scanner) : Scanned Scanner :=
  let k := s.topKey
  if k.possible && k.required then
    s.fail "while scanning a simple key" k.mark "could not find expected ':'"
  else .ok (s.setTopKey { k with possible := false })

/-- Remembers the current position as a possible simple key, if a key may
start here. -/
def saveSimpleKey (s : Scanner) : Scanned Scanner :=
  if s.simpleKeyAllowed then
    let key : SimpleKey :=
      { possible := true, required := s.flowLevel = 0 && s.indent = s.mark.column,
        tokenNumber := s.tokensParsed + s.tokens.length, mark := s.mark }
    match s.removeSimpleKey with
    | .ok s => .ok (s.setTopKey key)
    | .error e => .error e
  else .ok s

/-- Forgets the possible simple keys that can no longer be keys; a required
one is an error. -/
def staleSimpleKeys (s : Scanner) : Scanned Scanner :=
  match s.simpleKeys.reverse.find? (fun k => k.stale s.mark && k.required) with
  | some k => s.fail "while scanning a simple key" k.mark "could not find expected ':'"
  | none =>
    .ok { s with simpleKeys := s.simpleKeys.map fun k => if k.stale s.mark then { k with possible := false } else k }

/-- Enters a flow collection. -/
def increaseFlowLevel (s : Scanner) : Scanner :=
  { s with simpleKeys := {} :: s.simpleKeys, flowLevel := s.flowLevel + 1 }

/-- Leaves a flow collection. -/
def decreaseFlowLevel (s : Scanner) : Scanner :=
  if s.flowLevel > 0 then { s with flowLevel := s.flowLevel - 1, simpleKeys := s.simpleKeys.tail }
  else s

/-! ## Indentation -/

/-- In block context, opens a collection at a deeper column: the start token
goes at the end of the queue, or at a given token number. -/
def rollIndent (s : Scanner) (column : Int) (number : Option Nat) (kind : TokenKind) (mark : Mark) :
    Scanner :=
  if s.flowLevel = 0 && s.indent < column then
    let s := { s with indents := s.indent :: s.indents, indent := column }
    let t : Token := ⟨kind, mark, mark⟩
    match number with
    | none => s.enqueue t
    | some n => s.insertToken (n - s.tokensParsed) t
  else s

/-- Closes the block collections deeper than a column. -/
def unrollIndentAux (column : Int) : Nat → Scanner → Scanner
  | 0, s => s
  | n + 1, s =>
    if s.flowLevel = 0 && s.indent > column then
      let s := s.enqueue ⟨.blockEnd, s.mark, s.mark⟩
      unrollIndentAux column n { s with indent := s.indents.headD (-1), indents := s.indents.tail }
    else s

/-- Closes the block collections deeper than a column. -/
def unrollIndent (s : Scanner) (column : Int) : Scanner :=
  unrollIndentAux column (s.indents.length + 1) s

/-! ## Between tokens -/

/-- Steps over blanks, comments and line breaks up to the next token. A tab
counts as a blank only in flow context or where no simple key may start. A
line break in block context lets a simple key start. -/
def toNextTokenAux : Nat → Scanner → Scanner
  | 0, s => s
  | n + 1, s =>
    let s := if s.mark.column = 0 && s.ch 0 = '\uFEFF' then s.skip else s
    let s := s.skipWhile fun c => c = ' ' || ((s.flowLevel > 0 || !s.simpleKeyAllowed) && c = '\t')
    let s := if s.ch 0 = '#' then s.skipWhile (fun c => !isBreakEnd c) else s
    if isBreak (s.ch 0) then
      let s := s.skipLine
      toNextTokenAux n (if s.flowLevel = 0 then { s with simpleKeyAllowed := true } else s)
    else s

/-- Steps over blanks, comments and line breaks up to the next token. -/
def toNextToken (s : Scanner) : Scanner := toNextTokenAux s.fuel s

/-- Steps over blanks and a comment to the end of a line. -/
def restOfLine (s : Scanner) : Scanner :=
  let s := s.skipWhile isBlank
  if s.ch 0 = '#' then s.skipWhile (fun c => !isBreakEnd c) else s

/-! ## Directives -/

/-- A version number of a `%YAML` directive: at most nine digits. -/
def versionNumberAux (start : Mark) : Nat → Nat → Nat → Scanner → Scanned (Nat × Scanner)
  | 0, value, _, s => .ok (value, s)
  | n + 1, value, length, s =>
    if isDigit (s.ch 0) then
      if length + 1 > 9 then s.fail "while scanning a %YAML directive" start "found extremely long version number"
      else versionNumberAux start n (value * 10 + (s.ch 0).toNat - '0'.toNat) (length + 1) s.skip
    else if length = 0 then s.fail "while scanning a %YAML directive" start "did not find expected version number"
    else .ok (value, s)

/-- A version number of a `%YAML` directive. -/
def versionNumber (s : Scanner) (start : Mark) : Scanned (Nat × Scanner) :=
  versionNumberAux start s.fuel 0 0 s

/-- The value of a `%YAML` directive: two numbers and a dot between. -/
def versionValue (s : Scanner) (start : Mark) : Scanned (TokenKind × Scanner) := do
  let s := s.skipWhile isBlank
  let (major, s) ← s.versionNumber start
  if s.ch 0 ≠ '.' then
    s.fail "while scanning a %YAML directive" start "did not find expected digit or '.' character"
  else
    let (minor, s) ← s.skip.versionNumber start
    pure (.versionDirective major minor, s)

/-- A tag handle: `!`, `!!` or `!word!`. In a directive it must end in `!`
unless it is the lone `!`. -/
def tagHandle (s : Scanner) (directive : Bool) (start : Mark) : Scanned (String × Scanner) :=
  if s.ch 0 ≠ '!' then
    s.fail (if directive then "while scanning a tag directive" else "while scanning a tag") start
      "did not find expected '!'"
  else
    let (word, s) := s.skip.takeWhile isWordChar
    let handle := "!" ++ word
    if s.ch 0 = '!' then .ok (handle.push '!', s.skip)
    else if directive && handle ≠ "!" then
      s.fail "while parsing a tag directive" start "did not find expected '!'"
    else .ok (handle, s)

/-- A character that may appear in a tag. Flow indicators may appear only
between `!<` and `>`. -/
def isUriChar (verbatim : Bool) (c : Char) : Bool :=
  isWordChar c || ";/?:@&=+$.%!~*'()".contains c || (verbatim && ",[]".contains c)

/-- The leading byte of a UTF-8 sequence gives its length. -/
def utf8Width (b : Nat) : Nat :=
  if b < 0x80 then 1 else if b / 32 = 6 then 2 else if b / 16 = 14 then 3 else if b / 8 = 30 then 4 else 0

/-- The bytes of one character written as `%XX` escapes. -/
def uriEscapesAux (directive : Bool) (start : Mark) :
    Nat → Nat → List UInt8 → Scanner → Scanned (List UInt8 × Scanner)
  | 0, _, acc, s => .ok (acc, s)
  | n + 1, width, acc, s =>
    let context := if directive then "while parsing a %TAG directive" else "while parsing a tag"
    if !(s.ch 0 = '%' && isHex (s.ch 1) && isHex (s.ch 2)) then
      s.fail context start "did not find URI escaped octet"
    else
      let octet := hexValue (s.ch 1) * 16 + hexValue (s.ch 2)
      let first := width = 0
      let width := if first then utf8Width octet else width
      if first && width = 0 then s.fail context start "found an incorrect leading UTF-8 octet"
      else if !first && octet / 64 ≠ 2 then s.fail context start "found an incorrect trailing UTF-8 octet"
      else
        let acc := acc ++ [octet.toUInt8]
        let s := s.skip.skip.skip
        if width = 1 then .ok (acc, s) else uriEscapesAux directive start n (width - 1) acc s

/-- The bytes of a tag, after `head` less its leading `!`. -/
def tagUriAux (verbatim directive : Bool) (start : Mark) :
    Nat → Nat → List UInt8 → Scanner → Scanned (Nat × List UInt8 × Scanner)
  | 0, length, acc, s => .ok (length, acc, s)
  | n + 1, length, acc, s =>
    let c := s.ch 0
    if isUriChar verbatim c then
      if c = '%' then
        match uriEscapesAux directive start 4 0 [] s with
        | .ok (bytes, s) => tagUriAux verbatim directive start n (length + 1) (acc ++ bytes) s
        | .error e => .error e
      else tagUriAux verbatim directive start n (length + 1) (acc ++ (String.singleton c).toUTF8.toList) s.skip
    else .ok (length, acc, s)

/-- The text of a tag, which may not be empty. -/
def tagUri (s : Scanner) (verbatim directive : Bool) (head : String) (start : Mark) :
    Scanned (TagText × Scanner) := do
  let (length, uri, s) ←
    tagUriAux verbatim directive start s.fuel head.length ((head.drop 1).toString.toUTF8.toList) s
  if length = 0 then
    s.fail (if directive then "while parsing a %TAG directive" else "while parsing a tag") start
      "did not find expected tag URI"
  else pure (⟨uri⟩, s)

/-- The value of a `%TAG` directive: a handle and what it stands for. -/
def tagDirectiveValue (s : Scanner) (start : Mark) : Scanned (TokenKind × Scanner) := do
  let s := s.skipWhile isBlank
  let (handle, s) ← s.tagHandle true start
  if !isBlank (s.ch 0) then s.fail "while scanning a %TAG directive" start "did not find expected whitespace"
  else
    let s := s.skipWhile isBlank
    let (expansion, s) ← s.tagUri true true "" start
    if !isBlankEnd (s.ch 0) then
      s.fail "while scanning a %TAG directive" start "did not find expected whitespace or line break"
    else pure (.tagDirective handle expansion, s)

/-- A directive line: `%YAML` or `%TAG`, then blanks, a comment and a break. -/
def directive (s : Scanner) : Scanned (Token × Scanner) := do
  let start := s.mark
  let (name, s) := s.skip.takeWhile isWordChar
  if name.isEmpty then s.fail "while scanning a directive" start "could not find expected directive name"
  else if !isBlankEnd (s.ch 0) then
    s.fail "while scanning a directive" start "found unexpected non-alphabetical character"
  else
    let (kind, s) ←
      if name = "YAML" then s.versionValue start
      else if name = "TAG" then s.tagDirectiveValue start
      else s.fail "while scanning a directive" start "found unknown directive name"
    let stop := s.mark
    let s := s.restOfLine
    if !isBreakEnd (s.ch 0) then
      s.fail "while scanning a directive" start "did not find expected comment or line break"
    else pure (⟨kind, start, stop⟩, s.skipLine)

/-! ## Anchors, aliases and tags -/

/-- An anchor `&name` or an alias `*name`. -/
def anchorOrAlias (s : Scanner) (isAlias : Bool) : Scanned (Token × Scanner) :=
  let start := s.mark
  let (name, s) := s.skip.takeWhile isWordChar
  let c := s.ch 0
  if name.isEmpty || !(isBlankEnd c || "?:,]\x7d%@`".contains c) then
    s.fail (if isAlias then "while scanning an alias" else "while scanning an anchor") start
      "did not find expected alphabetic or numeric character"
  else .ok (⟨if isAlias then .alias name else .anchor name, start, s.mark⟩, s)

/-- A tag: `!<uri>`, `!handle!suffix`, `!suffix` or the lone `!`. It must be
followed by a blank, a break, the end, or a comma in flow context. -/
def tag (s : Scanner) : Scanned (Token × Scanner) := do
  let start := s.mark
  let finish := fun (handle : String) (suffix : TagText) (s : Scanner) =>
    if !isBlankEnd (s.ch 0) && !(s.flowLevel > 0 && s.ch 0 = ',') then
      s.fail "while scanning a tag" start "did not find expected whitespace or line break"
    else Except.ok (⟨TokenKind.tag handle suffix, start, s.mark⟩, s)
  if s.ch 1 = '<' then
    let (suffix, s) ← s.skip.skip.tagUri true false "" start
    if s.ch 0 ≠ '>' then s.fail "while scanning a tag" start "did not find the expected '>'"
    else finish "" suffix s.skip
  else
    let (handle, s) ← s.tagHandle false start
    if handle.length > 1 && handle.back = '!' then
      let (suffix, s) ← s.tagUri false false "" start
      finish handle suffix s
    else
      let (suffix, s) ← s.tagUri false false handle start
      -- the lone `!`, also when its suffix ends at once in a NUL byte
      if suffix.untilNul.bytes.isEmpty then finish "" (TagText.ofString "!") s else finish "!" suffix s

/-! ## Block scalars -/

/-- Spaces of indentation: all of them while the indentation is unknown, up
to it once known. -/
def indentSpacesAux (indent : Nat) : Nat → Scanner → Scanner
  | 0, s => s
  | n + 1, s =>
    if s.ch 0 = ' ' && (indent = 0 || s.mark.column < indent) then indentSpacesAux indent n s.skip else s

/-- The empty lines before a line of a block scalar, with the mark after the
last of them. With no indentation known yet, the deepest indentation among
them, and at least one more than the enclosing block, decides it. -/
def blockBreaksAux (start : Mark) (enclosing : Int) :
    Nat → Nat → Nat → String → Mark → Scanner → Scanned (Nat × String × Mark × Scanner)
  | 0, indent, _, breaks, stop, s => .ok (indent, breaks, stop, s)
  | n + 1, indent, maxIndent, breaks, stop, s =>
    let s := indentSpacesAux indent s.fuel s
    let maxIndent := max maxIndent s.mark.column
    if (indent = 0 || s.mark.column < indent) && s.ch 0 = '\t' then
      s.fail "while scanning a block scalar" start "found a tab character where an indentation space is expected"
    else if !isBreak (s.ch 0) then
      let indent := if indent = 0 then max (max maxIndent (enclosing + 1).toNat) 1 else indent
      .ok (indent, breaks, stop, s)
    else
      let (br, s) := s.readLine
      blockBreaksAux start enclosing n indent maxIndent (breaks ++ br) s.mark s

/-- The empty lines before a line of a block scalar. -/
def blockBreaks (s : Scanner) (start : Mark) (indent : Nat) : Scanned (Nat × String × Mark × Scanner) :=
  blockBreaksAux start s.indent s.fuel indent 0 "" s.mark s

/-- What a block scalar has read so far: its text, the break that ended the
last line, the empty lines since, and whether the last line began with a
blank. -/
structure BlockLines where
  text : String := ""
  leadingBreak : String := ""
  trailingBreaks : String := ""
  leadingBlank : Bool := false
  deriving Repr, Inhabited

/-- The lines of a block scalar at its indentation. A folded scalar joins two
lines with a space, unless empty lines stand between them (then the empty
lines stay) or either line begins with a blank (then the break stays). -/
def blockLinesAux (literal : Bool) (start : Mark) :
    Nat → Nat → BlockLines → Mark → Scanner → Scanned (BlockLines × Mark × Scanner)
  | 0, _, b, stop, s => .ok (b, stop, s)
  | n + 1, indent, b, stop, s =>
    if s.mark.column = indent && !isEnd (s.ch 0) then
      let trailingBlank := isBlank (s.ch 0)
      let b :=
        if !literal && b.leadingBreak.startsWith "\n" && !b.leadingBlank && !trailingBlank then
          { b with text := if b.trailingBreaks.isEmpty then b.text.push ' ' else b.text, leadingBreak := "" }
        else { b with text := b.text ++ b.leadingBreak, leadingBreak := "" }
      let b := { b with text := b.text ++ b.trailingBreaks, trailingBreaks := "", leadingBlank := isBlank (s.ch 0) }
      let (line, s) := s.takeWhile fun c => !isBreakEnd c
      let (br, s) := s.readLine
      let b := { b with text := b.text ++ line, leadingBreak := br }
      match s.blockBreaks start indent with
      | .ok (indent, breaks, stop, s) => blockLinesAux literal start n indent { b with trailingBreaks := breaks } stop s
      | .error e => .error e
    else .ok (b, stop, s)

/-- The chomping and indentation indicators after `|` or `>`, in either
order: chomping `+` keeps the final breaks, `-` strips them, and a digit
gives the indentation. -/
def blockIndicators (s : Scanner) (start : Mark) : Scanned (Int × Nat × Scanner) :=
  let zero := "found an indentation indicator equal to 0"
  let context := "while scanning a block scalar"
  let c := s.ch 0
  if c = '+' || c = '-' then
    let chomping : Int := if c = '+' then 1 else -1
    let s := s.skip
    if isDigit (s.ch 0) then
      if s.ch 0 = '0' then s.fail context start zero
      else .ok (chomping, (s.ch 0).toNat - '0'.toNat, s.skip)
    else .ok (chomping, 0, s)
  else if isDigit c then
    if c = '0' then s.fail context start zero
    else
      let increment := c.toNat - '0'.toNat
      let s := s.skip
      let d := s.ch 0
      if d = '+' || d = '-' then .ok (if d = '+' then 1 else -1, increment, s.skip)
      else .ok (0, increment, s)
  else .ok (0, 0, s)

/-- A literal (`|`) or folded (`>`) block scalar. -/
def blockScalar (s : Scanner) (literal : Bool) : Scanned (Token × Scanner) := do
  let start := s.mark
  let (chomping, increment, s) ← s.skip.blockIndicators start
  let s := s.restOfLine
  if !isBreakEnd (s.ch 0) then
    s.fail "while scanning a block scalar" start "did not find expected comment or line break"
  else
    let s := s.skipLine
    let indent := if increment = 0 then 0 else if s.indent ≥ 0 then (s.indent + increment).toNat else increment
    let (indent, breaks, stop, s) ← s.blockBreaks start indent
    let (b, stop, s) ← blockLinesAux literal start s.fuel indent { trailingBreaks := breaks } stop s
    let text := b.text ++ (if chomping ≠ -1 then b.leadingBreak else "") ++
      (if chomping = 1 then b.trailingBreaks else "")
    pure (⟨.scalar text (if literal then .literal else .folded), start, stop⟩, s)

/-! ## Flow and plain scalars -/

/-- What a flow or plain scalar has read so far: its text, the first break of
the current gap, the further breaks, the blanks before any break, and
whether the gap holds a break. -/
structure Folding where
  text : String := ""
  leadingBreak : String := ""
  trailingBreaks : String := ""
  whitespaces : String := ""
  leadingBlanks : Bool := false
  deriving Repr, Inhabited

/-- Closes a gap between two runs of characters: blanks on one line stay; a
single line feed becomes a space; with more breaks the first is dropped and
the others stay; a line or paragraph separator stays with all that follow. -/
def Folding.join (f : Folding) : Folding :=
  if f.leadingBlanks then
    if f.leadingBreak.startsWith "\n" then
      if f.trailingBreaks.isEmpty then { f with text := f.text.push ' ', leadingBreak := "" }
      else { f with text := f.text ++ f.trailingBreaks, trailingBreaks := "", leadingBreak := "" }
    else
      { f with text := f.text ++ f.leadingBreak ++ f.trailingBreaks, leadingBreak := "", trailingBreaks := "" }
  else { f with text := f.text ++ f.whitespaces, whitespaces := "" }

/-- The blanks and breaks between two runs of a scalar. In a plain scalar a
tab may not stand in the indentation of a continuation line. -/
def gapAux (plainIndent : Option Int) (start : Mark) : Nat → Folding → Scanner → Scanned (Folding × Scanner)
  | 0, f, s => .ok (f, s)
  | n + 1, f, s =>
    let c := s.ch 0
    if isBlank c then
      let tabInIndent := match plainIndent with
        | some indent => f.leadingBlanks && (s.mark.column : Int) < indent && c = '\t'
        | none => false
      if tabInIndent then
        s.fail "while scanning a plain scalar" start "found a tab character that violates indentation"
      else if f.leadingBlanks then gapAux plainIndent start n f s.skip
      else gapAux plainIndent start n { f with whitespaces := f.whitespaces.push c } s.skip
    else if isBreak c then
      let (br, s) := s.readLine
      if f.leadingBlanks then gapAux plainIndent start n { f with trailingBreaks := f.trailingBreaks ++ br } s
      else gapAux plainIndent start n { f with whitespaces := "", leadingBreak := br, leadingBlanks := true } s
    else .ok (f, s)

/-- What a backslash escape in a double-quoted scalar stands for: a
character, or the number of hexadecimal digits of a code that follows. -/
def escapeOf : Char → Option (Char ⊕ Nat)
  | '0' => some (.inl '\x00')
  | 'a' => some (.inl '\x07')
  | 'b' => some (.inl '\x08')
  | 't' | '\t' => some (.inl '\t')
  | 'n' => some (.inl '\n')
  | 'v' => some (.inl '\x0b')
  | 'f' => some (.inl '\x0c')
  | 'r' => some (.inl '\r')
  | 'e' => some (.inl '\x1b')
  | ' ' => some (.inl ' ')
  | '"' => some (.inl '"')
  | '/' => some (.inl '/')
  | '\'' => some (.inl '\'')
  | '\\' => some (.inl '\\')
  | 'N' => some (.inl '\x85')
  | '_' => some (.inl '\xa0')
  | 'L' => some (.inl '\u2028')
  | 'P' => some (.inl '\u2029')
  | 'x' => some (.inr 2)
  | 'u' => some (.inr 4)
  | 'U' => some (.inr 8)
  | _ => none

/-- Steps over `n` characters of a line. -/
def skipN : Nat → Scanner → Scanner
  | 0, s => s
  | n + 1, s => skipN n s.skip

/-- A run of characters of a quoted scalar up to a blank, a break, the end or
the closing quote. A backslash before a break in a double-quoted scalar
joins the lines with nothing between. -/
def quotedRunAux (single : Bool) (start : Mark) : Nat → Folding → Scanner → Scanned (Folding × Scanner)
  | 0, f, s => .ok (f, s)
  | n + 1, f, s =>
    let c := s.ch 0
    let context := "while parsing a quoted scalar"
    if isBlankEnd c then .ok (f, s)
    else if single && c = '\'' && s.ch 1 = '\'' then
      quotedRunAux single start n { f with text := f.text.push '\'' } s.skip.skip
    else if c = (if single then '\'' else '"') then .ok (f, s)
    else if !single && c = '\\' && isBreak (s.ch 1) then .ok ({ f with leadingBlanks := true }, s.skip.skipLine)
    else if !single && c = '\\' then
      match escapeOf (s.ch 1) with
      | none => s.fail context start "found unknown escape character"
      | some (.inl e) => quotedRunAux single start n { f with text := f.text.push e } s.skip.skip
      | some (.inr width) =>
        let s := s.skip.skip
        let digits := (List.range width).map s.ch
        if !digits.all isHex then s.fail context start "did not find expected hexdecimal number"
        else
          let code := digits.foldl (fun v d => v * 16 + hexValue d) 0
          if (0xD800 ≤ code && code ≤ 0xDFFF) || code > 0x10FFFF then
            s.fail context start "found invalid Unicode character escape code"
          else quotedRunAux single start n { f with text := f.text.push (Char.ofNat code) } (skipN width s)
    else quotedRunAux single start n { f with text := f.text.push c } s.skip

/-- The body of a quoted scalar up to its closing quote. -/
def quotedAux (single : Bool) (start : Mark) : Nat → Folding → Scanner → Scanned (Folding × Scanner)
  | 0, f, s => .ok (f, s)
  | n + 1, f, s =>
    let context := "while scanning a quoted scalar"
    if s.atDocumentMarker then s.fail context start "found unexpected document indicator"
    else if isEnd (s.ch 0) then s.fail context start "found unexpected end of stream"
    else
      match quotedRunAux single start s.fuel { f with leadingBlanks := false } s with
      | .error e => .error e
      | .ok (f, s) =>
        if s.ch 0 = (if single then '\'' else '"') then .ok (f, s)
        else
          match gapAux none start s.fuel f s with
          | .error e => .error e
          | .ok (f, s) => quotedAux single start n f.join s

/-- A single- or double-quoted scalar. -/
def quoted (s : Scanner) (single : Bool) : Scanned (Token × Scanner) := do
  let start := s.mark
  let (f, s) ← quotedAux single start s.fuel {} s.skip
  let s := s.skip
  pure (⟨.scalar f.text (if single then .singleQuoted else .doubleQuoted), start, s.mark⟩, s)

/-- A run of characters of a plain scalar. It ends before `: ` and, in flow
context, before a flow indicator. -/
def plainRunAux (start : Mark) : Nat → Folding → Mark → Scanner → Scanned (Folding × Mark × Scanner)
  | 0, f, stop, s => .ok (f, stop, s)
  | n + 1, f, stop, s =>
    let c := s.ch 0
    if isBlankEnd c then .ok (f, stop, s)
    else if s.flowLevel > 0 && c = ':' && ",?[]\x7b\x7d".contains (s.ch 1) then
      s.fail "while scanning a plain scalar" start "found unexpected ':'"
    else if (c = ':' && isBlankEnd (s.ch 1)) || (s.flowLevel > 0 && ",[]\x7b\x7d".contains c) then
      .ok (f, stop, s)
    else
      let f := if f.leadingBlanks || !f.whitespaces.isEmpty then { f.join with leadingBlanks := false } else f
      let s := s.skip
      plainRunAux start n { f with text := f.text.push c } s.mark s

/-- The runs and gaps of a plain scalar. It ends at a comment, a document
marker, or a line indented no deeper than the enclosing block. -/
def plainAux (start : Mark) (indent : Int) : Nat → Folding → Mark → Scanner → Scanned (Folding × Mark × Scanner)
  | 0, f, stop, s => .ok (f, stop, s)
  | n + 1, f, stop, s =>
    if s.atDocumentMarker || s.ch 0 = '#' then .ok (f, stop, s)
    else
      match plainRunAux start s.fuel f stop s with
      | .error e => .error e
      | .ok (f, stop, s) =>
        if !(isBlank (s.ch 0) || isBreak (s.ch 0)) then .ok (f, stop, s)
        else
          match gapAux (some indent) start s.fuel f s with
          | .error e => .error e
          | .ok (f, s) =>
            if s.flowLevel = 0 && (s.mark.column : Int) < indent then .ok (f, stop, s)
            else plainAux start indent n f stop s

/-- A plain scalar. One that spans lines lets a simple key follow. -/
def plain (s : Scanner) : Scanned (Token × Scanner) := do
  let start := s.mark
  let (f, stop, s) ← plainAux start (s.indent + 1) s.fuel {} start s
  let s := if f.leadingBlanks then { s with simpleKeyAllowed := true } else s
  pure (⟨.scalar f.text .plain, start, stop⟩, s)

/-- Whether a plain scalar starts here: not at a blank or an indicator,
except `-` before a non-blank, and in block context `?` or `:` before one. -/
def plainStarts (s : Scanner) : Bool :=
  let c := s.ch 0
  !(isBlankEnd c || "-?:,[]\x7b\x7d#&*!|>'\"%@`".contains c) ||
    (c = '-' && !isBlank (s.ch 1)) ||
    (s.flowLevel = 0 && (c = '?' || c = ':') && !isBlankEnd (s.ch 1))

/-! ## Fetching tokens -/

/-- Appends a token that spans the current character. -/
def single (s : Scanner) (kind : TokenKind) : Scanner :=
  let start := s.mark
  let s := s.skip
  s.enqueue ⟨kind, start, s.mark⟩

/-- The start of the stream. -/
def fetchStreamStart (s : Scanner) : Scanner :=
  { s with indent := -1, simpleKeys := [{}], simpleKeyAllowed := true, streamStartProduced := true }.enqueue
    ⟨.streamStart, s.mark, s.mark⟩

/-- The end of the stream, on a line of its own: every block closes. -/
def fetchStreamEnd (s : Scanner) : Scanned Scanner := do
  let s := if s.mark.column ≠ 0 then { s with mark := { s.mark with column := 0, line := s.mark.line + 1 } } else s
  let s ← (s.unrollIndent (-1)).removeSimpleKey
  let s := { s with simpleKeyAllowed := false }
  pure (s.enqueue ⟨.streamEnd, s.mark, s.mark⟩)

/-- A directive: every block closes first. -/
def fetchDirective (s : Scanner) : Scanned Scanner := do
  let s ← (s.unrollIndent (-1)).removeSimpleKey
  let (t, s) ← { s with simpleKeyAllowed := false }.directive
  pure (s.enqueue t)

/-- A document marker: every block closes first. -/
def fetchDocumentIndicator (s : Scanner) (kind : TokenKind) : Scanned Scanner := do
  let s ← (s.unrollIndent (-1)).removeSimpleKey
  let s := { s with simpleKeyAllowed := false }
  let start := s.mark
  let s := s.skip.skip.skip
  pure (s.enqueue ⟨kind, start, s.mark⟩)

/-- `[` or `{`: may start a simple key, and a simple key may follow. -/
def fetchFlowCollectionStart (s : Scanner) (kind : TokenKind) : Scanned Scanner := do
  let s ← s.saveSimpleKey
  pure ({ s.increaseFlowLevel with simpleKeyAllowed := true }.single kind)

/-- `]` or `}`. -/
def fetchFlowCollectionEnd (s : Scanner) (kind : TokenKind) : Scanned Scanner := do
  let s ← s.removeSimpleKey
  pure ({ s.decreaseFlowLevel with simpleKeyAllowed := false }.single kind)

/-- `,` in a flow collection. -/
def fetchFlowEntry (s : Scanner) : Scanned Scanner := do
  let s ← s.removeSimpleKey
  pure ({ s with simpleKeyAllowed := true }.single .flowEntry)

/-- `-` before a blank: in block context it may open a block sequence. -/
def fetchBlockEntry (s : Scanner) : Scanned Scanner := do
  let s ← if s.flowLevel = 0 then
      if !s.simpleKeyAllowed then s.failHere "block sequence entries are not allowed in this context"
      else pure (s.rollIndent s.mark.column none .blockSequenceStart s.mark)
    else pure s
  let s ← s.removeSimpleKey
  pure ({ s with simpleKeyAllowed := true }.single .blockEntry)

/-- `?`: a complex key; in block context it may open a block mapping. -/
def fetchKey (s : Scanner) : Scanned Scanner := do
  let s ← if s.flowLevel = 0 then
      if !s.simpleKeyAllowed then s.failHere "mapping keys are not allowed in this context"
      else pure (s.rollIndent s.mark.column none .blockMappingStart s.mark)
    else pure s
  let s ← s.removeSimpleKey
  pure ({ s with simpleKeyAllowed := s.flowLevel = 0 }.single .key)

/-- `:`: the possible simple key, if there is one, becomes a key, and in block
context may open a block mapping at its column; otherwise it follows a
complex key or stands for an empty one. -/
def fetchValue (s : Scanner) : Scanned Scanner := do
  let k := s.topKey
  let s ← if k.possible then
      let s := s.insertToken (k.tokenNumber - s.tokensParsed) ⟨.key, k.mark, k.mark⟩
      let s := s.rollIndent k.mark.column (some k.tokenNumber) .blockMappingStart k.mark
      pure { s.setTopKey { k with possible := false } with simpleKeyAllowed := false }
    else do
      let s ← if s.flowLevel = 0 then
          if !s.simpleKeyAllowed then s.failHere "mapping values are not allowed in this context"
          else pure (s.rollIndent s.mark.column none .blockMappingStart s.mark)
        else pure s
      pure { s with simpleKeyAllowed := s.flowLevel = 0 }
  pure (s.single .value)

/-- A token that may be a simple key and that no simple key may follow. -/
def fetchKeyable (s : Scanner) (scan : Scanner → Scanned (Token × Scanner)) : Scanned Scanner := do
  let s ← s.saveSimpleKey
  let (t, s) ← scan { s with simpleKeyAllowed := false }
  pure (s.enqueue t)

/-- A block scalar, after which a simple key may follow. -/
def fetchBlockScalar (s : Scanner) (literal : Bool) : Scanned Scanner := do
  let s ← s.removeSimpleKey
  let (t, s) ← { s with simpleKeyAllowed := true }.blockScalar literal
  pure (s.enqueue t)

/-- Scans the next token into the queue. -/
def fetchNextToken (s : Scanner) : Scanned Scanner := do
  if !s.streamStartProduced then return s.fetchStreamStart
  let s ← s.toNextToken.staleSimpleKeys
  let s := s.unrollIndent s.mark.column
  let c := s.ch 0
  let atLineStart := s.mark.column = 0
  if isEnd c then s.fetchStreamEnd
  else if atLineStart && c = '%' then s.fetchDirective
  else if atLineStart && s.atMarker '-' then s.fetchDocumentIndicator .documentStart
  else if atLineStart && s.atMarker '.' then s.fetchDocumentIndicator .documentEnd
  else if c = '[' then s.fetchFlowCollectionStart .flowSequenceStart
  else if c = '\x7b' then s.fetchFlowCollectionStart .flowMappingStart
  else if c = ']' then s.fetchFlowCollectionEnd .flowSequenceEnd
  else if c = '\x7d' then s.fetchFlowCollectionEnd .flowMappingEnd
  else if c = ',' then s.fetchFlowEntry
  else if c = '-' && isBlankEnd (s.ch 1) then s.fetchBlockEntry
  else if c = '?' && (s.flowLevel > 0 || isBlankEnd (s.ch 1)) then s.fetchKey
  else if c = ':' && (s.flowLevel > 0 || isBlankEnd (s.ch 1)) then s.fetchValue
  else if c = '*' then s.fetchKeyable (·.anchorOrAlias true)
  else if c = '&' then s.fetchKeyable (·.anchorOrAlias false)
  else if c = '!' then s.fetchKeyable Scanner.tag
  else if c = '|' && s.flowLevel = 0 then s.fetchBlockScalar true
  else if c = '>' && s.flowLevel = 0 then s.fetchBlockScalar false
  else if c = '\'' then s.fetchKeyable (·.quoted true)
  else if c = '"' then s.fetchKeyable (·.quoted false)
  else if s.plainStarts then s.fetchKeyable Scanner.plain
  else s.fail "while scanning for the next token" s.mark "found character that cannot start any token"

/-- Scans until the first queued token can no longer become part of a
simple key. -/
def fetchMoreTokensAux : Nat → Scanner → Scanned Scanner
  | 0, s => .ok s
  | n + 1, s =>
    if s.tokens.isEmpty then
      match s.fetchNextToken with
      | .ok s => fetchMoreTokensAux n s
      | .error e => .error e
    else
      match s.staleSimpleKeys with
      | .error e => .error e
      | .ok s =>
        if s.simpleKeys.any (fun k => k.possible && k.tokenNumber = s.tokensParsed) then
          match s.fetchNextToken with
          | .ok s => fetchMoreTokensAux n s
          | .error e => .error e
        else .ok s

/-- The next token, scanning as far ahead as needed. -/
def peek (s : Scanner) : Scanned (Token × Scanner) := do
  let s ← if s.tokenAvailable then pure s else do
    let s ← fetchMoreTokensAux (s.fuel + 8) s
    pure { s with tokenAvailable := true }
  match s.tokens with
  | t :: _ => pure (t, s)
  | [] => .error { problem := "did not find expected token", problemMark := s.mark }

/-- Takes the first queued token. -/
def advance (s : Scanner) : Scanner :=
  { s with tokens := s.tokens.tail, tokensParsed := s.tokensParsed + 1, tokenAvailable := false }

end Scanner

end Reconcile.Yaml
