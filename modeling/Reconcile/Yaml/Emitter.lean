import Reconcile.Yaml.Basic
import Reconcile.Yaml.Scalar
import Reconcile.Document.Basic
import Reconcile.Number.Shortest

/-!
# Writing YAML

A document is written in block style with an indentation of two: mappings
as `key: value` lines, sequences as `- item` lines (a sequence that is a
mapping value is not indented further than its key), and empty collections
as `[]` and `{}`.

A scalar is written plain when that reads back as the same string, and
quoted otherwise. A string that would read back as null, a boolean or a
number, or that is digits with a leading zero, is single-quoted; one that
holds a line feed is a literal block. The writer then checks what the
characters allow. Indicators at the start, `: ` or ` #` inside, leading
or trailing blanks, or an empty string rule out the plain style. Line
breaks next to spaces and characters that must be escaped rule out single
quotes; those strings are double-quoted with escapes. A literal block keeps
its final line breaks with `|+`, strips the missing one with `|-`, and needs
an indentation indicator when it starts with a space or a break.

The line width is unbounded, so no scalar folds at a space onto a further
line; the folding rules stay in place for a bounded width. A key that spans
lines or is longer than 128 bytes is written as a complex key after `? `.
-/

namespace Reconcile.Yaml

/-- The line width past which scalars fold: the largest width there is,
so that in practice none does. -/
def bestWidth : Nat := 2147483647

/-- A character that may be written unescaped: line feed, the printable
ASCII characters, and the rest of Unicode but the C1 controls, the
surrogates, the byte order mark and the two non-characters at the end of the
basic plane. -/
def isPrintable (c : Char) : Bool :=
  let n := c.toNat
  n = 0x0A || (0x20 ≤ n && n ≤ 0x7E) || (0xA0 ≤ n && n ≤ 0xD7FF) ||
    (0xE000 ≤ n && n ≤ 0xFFFD && n ≠ 0xFEFF) || 0x10000 ≤ n

/-- What the characters of a scalar allow. -/
structure Analysis where
  multiline : Bool
  flowPlain : Bool
  blockPlain : Bool
  singleQuoted : Bool
  block : Bool
  /-- The length in bytes. -/
  length : Nat
  deriving DecidableEq, Repr, Inhabited

/-- What a scan of a scalar's characters has seen so far. -/
structure Seen where
  flowIndicators : Bool := false
  blockIndicators : Bool := false
  lineBreaks : Bool := false
  special : Bool := false
  leadingSpace : Bool := false
  leadingBreak : Bool := false
  trailingSpace : Bool := false
  trailingBreak : Bool := false
  breakSpace : Bool := false
  spaceBreak : Bool := false
  previousSpace : Bool := false
  previousBreak : Bool := false
  deriving DecidableEq, Repr, Inhabited

/-- Looks at the character at index `i` of `n`, with the characters before
and after it. -/
def Seen.step (n : Nat) (s : Seen) (i : Nat) (before c after : Char) : Seen :=
  let followed := isBlankEnd after
  let preceded := i = 0 || isBlankEnd before
  let s :=
    if i = 0 then
      let s := if "#,[]\x7b\x7d&*!|>'\"%@`".contains c then { s with flowIndicators := true, blockIndicators := true } else s
      let s :=
        if c = '?' || c = ':' then { s with flowIndicators := true, blockIndicators := s.blockIndicators || followed }
        else s
      if c = '-' && followed then { s with flowIndicators := true, blockIndicators := true } else s
    else
      let s := if ",?[]\x7b\x7d".contains c then { s with flowIndicators := true } else s
      let s := if c = ':' then { s with flowIndicators := true, blockIndicators := s.blockIndicators || followed } else s
      if c = '#' && preceded then { s with flowIndicators := true, blockIndicators := true } else s
  let s := if !isPrintable c then { s with special := true } else s
  let s := if isBreak c then { s with lineBreaks := true } else s
  if c = ' ' then
    { s with leadingSpace := s.leadingSpace || i = 0, trailingSpace := s.trailingSpace || i + 1 = n,
             breakSpace := s.breakSpace || s.previousBreak, previousSpace := true, previousBreak := false }
  else if isBreak c then
    { s with leadingBreak := s.leadingBreak || i = 0, trailingBreak := s.trailingBreak || i + 1 = n,
             spaceBreak := s.spaceBreak || s.previousSpace, previousSpace := false, previousBreak := true }
  else { s with previousSpace := false, previousBreak := false }

/-- The characters at each index of a list, with the ones before and after
(NUL beyond the ends). -/
def withNeighbours (cs : List Char) : List (Nat × Char × Char × Char) :=
  let arr := cs.toArray
  (List.range cs.length).map fun i =>
    (i, (if i = 0 then '\x00' else arr.getD (i - 1) '\x00'), arr.getD i '\x00', arr.getD (i + 1) '\x00')

/-- What the characters of a scalar allow. -/
def analyze (value : String) : Analysis :=
  let cs := value.toList
  if cs.isEmpty then
    { multiline := false, flowPlain := false, blockPlain := true, singleQuoted := true, block := false, length := 0 }
  else
    let n := cs.length
    let marker := cs.take 3 = ['-', '-', '-'] || cs.take 3 = ['.', '.', '.']
    let s : Seen := if marker then { flowIndicators := true, blockIndicators := true } else {}
    let s := (withNeighbours cs).foldl (fun s (i, before, c, after) => s.step n i before c after) s
    let edges := s.leadingSpace || s.leadingBreak || s.trailingSpace || s.trailingBreak
    let mixed := s.spaceBreak || s.special
    { multiline := s.lineBreaks
      flowPlain := !(edges || s.breakSpace || mixed || s.lineBreaks || s.flowIndicators)
      blockPlain := !(edges || s.breakSpace || mixed || s.lineBreaks || s.blockIndicators)
      singleQuoted := !(s.breakSpace || mixed)
      block := !(s.trailingSpace || mixed)
      length := value.utf8ByteSize }

/-- How the writer asks for a scalar to be written. -/
inductive Requested where
  | any
  | plain
  | singleQuoted
  | literal
  deriving DecidableEq, Repr, Inhabited

/-- How a scalar is written. -/
inductive Style where
  | plain
  | singleQuoted
  | doubleQuoted
  | literal
  deriving DecidableEq, Repr, Inhabited

/-- How a string asks to be written: as a literal block if it holds a line
feed, single-quoted if it would read back as something else or is digits
with a leading zero, and as the writer likes otherwise. -/
def requestFor (s : String) : Requested :=
  if s.contains '\n' then .literal
  else match plainMeaning s with
    | .text => if digitsButNotNumber s then .singleQuoted else .any
    | _ => .singleQuoted

/-- The state of the writer. -/
structure Emitter where
  out : String := ""
  column : Nat := 0
  indent : Int := -1
  indents : List Int := []
  /-- Whether the last character written was white space. -/
  whitespace : Bool := true
  /-- Whether only indentation stands on the current line. -/
  indention : Bool := true
  flowLevel : Nat := 0
  mappingContext : Bool := false
  simpleKeyContext : Bool := false
  deriving Repr, Inhabited

namespace Emitter

/-- Writes a character of a line. -/
def put (e : Emitter) (c : Char) : Emitter := { e with out := e.out.push c, column := e.column + 1 }

/-- Ends a line. -/
def putBreak (e : Emitter) : Emitter := { e with out := e.out.push '\n', column := 0 }

/-- Writes a line break character as it is. -/
def writeBreak (e : Emitter) (c : Char) : Emitter :=
  if c = '\n' then e.putBreak else { e with out := e.out.push c, column := 0 }

/-- Writes characters of a line. -/
def putAll (e : Emitter) (s : String) : Emitter := s.foldl put e

/-- Spaces up to a column. -/
def padAux (target : Nat) : Nat → Emitter → Emitter
  | 0, e => e
  | n + 1, e => if e.column < target then padAux target n (e.put ' ') else e

/-- Moves to the indentation, starting a new line unless only indentation
stands on this one. -/
def writeIndent (e : Emitter) : Emitter :=
  let indent := e.indent.toNat
  let e := if !e.indention || e.column > indent || (e.column = indent && !e.whitespace) then e.putBreak else e
  { padAux indent (indent + 1) e with whitespace := true, indention := true }

/-- Writes an indicator, after a space if one is needed. -/
def writeIndicator (e : Emitter) (indicator : String) (needWhitespace isWhitespace isIndention : Bool) :
    Emitter :=
  let e := if needWhitespace && !e.whitespace then e.put ' ' else e
  let e := e.putAll indicator
  { e with whitespace := isWhitespace, indention := e.indention && isIndention }

/-- Opens a level of indentation: two deeper, or none deeper for an
indentless sequence; at the top, two for a scalar and none for a
collection. -/
def increaseIndent (e : Emitter) (flow indentless : Bool) : Emitter :=
  let e := { e with indents := e.indent :: e.indents }
  if e.indent < 0 then { e with indent := if flow then 2 else 0 }
  else if !indentless then { e with indent := e.indent + 2 }
  else e

/-- Closes a level of indentation. -/
def popIndent (e : Emitter) : Emitter :=
  { e with indent := e.indents.headD (-1), indents := e.indents.tail }

/-- The style a scalar is written in. -/
def selectStyle (e : Emitter) (a : Analysis) (requested : Requested) : Style :=
  let style : Style := match requested with
    | .any | .plain => .plain
    | .singleQuoted => .singleQuoted
    | .literal => .literal
  let style := if e.simpleKeyContext && a.multiline then .doubleQuoted else style
  let style :=
    if style = .plain then
      if (e.flowLevel > 0 && !a.flowPlain) || (e.flowLevel = 0 && !a.blockPlain) then .singleQuoted
      else if a.length = 0 && (e.flowLevel > 0 || e.simpleKeyContext) then .singleQuoted
      else .plain
    else style
  let style := if style = .singleQuoted && !a.singleQuoted then .doubleQuoted else style
  if style = .literal && (!a.block || e.flowLevel > 0 || e.simpleKeyContext) then .doubleQuoted else style

/-- What a folding writer has seen: a space just before, a break just
before. -/
structure Run where
  spaces : Bool := false
  breaks : Bool := false
  deriving DecidableEq, Repr, Inhabited

/-- Writes a plain scalar. -/
def writePlain (e : Emitter) (value : String) (allowBreaks : Bool) : Emitter :=
  let e := if !e.whitespace && !value.isEmpty then e.put ' ' else e
  let (e, _) := (withNeighbours value.toList).foldl (fun (e, r) (_, _, c, after) =>
    if c = ' ' then
      let e := if allowBreaks && !r.spaces && e.column > bestWidth && after ≠ ' ' then e.writeIndent else e.put c
      (e, { r with spaces := true })
    else if isBreak c then
      let e := if !r.breaks && c = '\n' then e.putBreak else e
      ({ e.writeBreak c with indention := true }, { r with breaks := true })
    else
      let e := if r.breaks then e.writeIndent else e
      ({ e.put c with indention := false }, { spaces := false, breaks := false })) (e, ({} : Run))
  { e with whitespace := false, indention := false }

/-- Writes a single-quoted scalar, doubling its apostrophes. -/
def writeSingleQuoted (e : Emitter) (value : String) (allowBreaks : Bool) : Emitter :=
  let e := e.writeIndicator "'" true false false
  let n := value.length
  let (e, r) := (withNeighbours value.toList).foldl (fun (e, r) (i, _, c, after) =>
    if c = ' ' then
      let fold := allowBreaks && !r.spaces && e.column > bestWidth && i ≠ 0 && i + 1 ≠ n && after ≠ ' '
      ((if fold then e.writeIndent else e.put c), { r with spaces := true })
    else if isBreak c then
      let e := if !r.breaks && c = '\n' then e.putBreak else e
      ({ e.writeBreak c with indention := true }, { r with breaks := true })
    else
      let e := if r.breaks then e.writeIndent else e
      let e := if c = '\'' then e.put '\'' else e
      ({ e.put c with indention := false }, { spaces := false, breaks := false })) (e, ({} : Run))
  let e := if r.breaks then e.writeIndent else e
  { e.writeIndicator "'" false false false with whitespace := false, indention := false }

/-- Hexadecimal digits, upper case, padded to a width. -/
def hexDigits (width n : Nat) : String :=
  let ds := (Nat.toDigits 16 n).map Char.toUpper
  String.ofList (List.replicate (width - ds.length) '0' ++ ds)

/-- The escape of a character in a double-quoted scalar. -/
def escape (c : Char) : String :=
  match c.toNat with
  | 0x00 => "\\0"
  | 0x07 => "\\a"
  | 0x08 => "\\b"
  | 0x09 => "\\t"
  | 0x0A => "\\n"
  | 0x0B => "\\v"
  | 0x0C => "\\f"
  | 0x0D => "\\r"
  | 0x1B => "\\e"
  | 0x22 => "\\\""
  | 0x5C => "\\\\"
  | 0x85 => "\\N"
  | 0xA0 => "\\_"
  | 0x2028 => "\\L"
  | 0x2029 => "\\P"
  | n =>
    if n ≤ 0xFF then "\\x" ++ hexDigits 2 n
    else if n ≤ 0xFFFF then "\\u" ++ hexDigits 4 n
    else "\\U" ++ hexDigits 8 n

/-- Writes a double-quoted scalar with escapes. A fold at a space that
another space follows keeps that space with a backslash. -/
def writeDoubleQuoted (e : Emitter) (value : String) (allowBreaks : Bool) : Emitter :=
  let e := e.writeIndicator "\"" true false false
  let n := value.length
  let (e, _) := (withNeighbours value.toList).foldl (fun (e, spaces) (i, _, c, after) =>
    if !isPrintable c || c = '\uFEFF' || isBreak c || c = '"' || c = '\\' then (e.putAll (escape c), false)
    else if c = ' ' then
      if allowBreaks && !spaces && e.column > bestWidth && i ≠ 0 && i + 1 ≠ n then
        let e := e.writeIndent
        ((if after = ' ' then e.put '\\' else e), true)
      else (e.put c, true)
    else (e.put c, false)) (e, false)
  { e.writeIndicator "\"" false false false with whitespace := false, indention := false }

/-- The indicators after `|`: the indentation when the text starts with a
space or a break, and `-` or `+` for how its final breaks are kept. -/
def writeBlockHints (e : Emitter) (value : String) : Emitter :=
  let cs := value.toList
  let e := match cs.head? with
    | some c => if c = ' ' || isBreak c then e.writeIndicator "2" false false false else e
    | none => e
  let chomp : Option String :=
    match cs.reverse with
    | [] => some "-"
    | last :: rest =>
      if !isBreak last then some "-"
      else match rest with
        | [] => some "+"
        | before :: _ => if isBreak before then some "+" else none
  match chomp with
  | some hint => e.writeIndicator hint false false false
  | none => e

/-- Writes a literal block scalar. -/
def writeLiteral (e : Emitter) (value : String) : Emitter :=
  let e := (e.writeIndicator "|" true false false).writeBlockHints value
  let e := { e.putBreak with indention := true, whitespace := true }
  let (e, _) := value.toList.foldl (fun (e, breaks) c =>
    if isBreak c then ({ e.writeBreak c with indention := true }, true)
    else
      let e := if breaks then e.writeIndent else e
      ({ e.put c with indention := false }, false)) (e, true)
  e

/-- Writes a scalar in the style its characters and context allow. -/
def scalar (e : Emitter) (value : String) (requested : Requested) : Emitter :=
  let style := e.selectStyle (analyze value) requested
  let allowBreaks := !e.simpleKeyContext
  let e := e.increaseIndent true false
  let e := match style with
    | .plain => e.writePlain value allowBreaks
    | .singleQuoted => e.writeSingleQuoted value allowBreaks
    | .doubleQuoted => e.writeDoubleQuoted value allowBreaks
    | .literal => e.writeLiteral value
  e.popIndent

/-- Writes an empty collection as `[]` or `{}`. -/
def emptyFlow (e : Emitter) (opening closing : String) : Emitter :=
  let e := (e.writeIndicator opening true true false).increaseIndent true false
  e.popIndent.writeIndicator closing false false false

/-- Whether a key fits on the line of its value. -/
def simpleKey (key : String) : Bool := !(analyze key).multiline && key.utf8ByteSize ≤ 128

/-- The text of a float. -/
def floatText (bits : UInt64) : String := FloatText.yaml.write bits

mutual
/-- Writes a node: in a sequence, in a mapping, as a simple key, or none. -/
def node (e : Emitter) (d : Document) (mapping simpleKey : Bool) : Emitter :=
  let e := { e with mappingContext := mapping, simpleKeyContext := simpleKey }
  match d with
  | .null => e.scalar "null" .plain
  | .bool b => e.scalar (toString b) .plain
  | .number (.int i) => e.scalar (toString i) .plain
  | .number (.float bits) => e.scalar (floatText bits) .plain
  | .string s => e.scalar s (requestFor s)
  | .array [] => e.emptyFlow "[" "]"
  | .array (item :: items) =>
    let e := e.increaseIndent false (e.mappingContext && !e.indention)
    (e.items (item :: items)).popIndent
  | .object [] => e.emptyFlow "\x7b" "\x7d"
  | .object (field :: fields) => ((e.increaseIndent false false).entries (field :: fields)).popIndent

/-- Writes the items of a block sequence. -/
def items (e : Emitter) : List Document → Emitter
  | [] => e
  | d :: ds =>
    let e := (e.writeIndent.writeIndicator "-" true false true).node d false false
    e.items ds

/-- Writes the entries of a block mapping. -/
def entries (e : Emitter) : List (String × Document) → Emitter
  | [] => e
  | (k, v) :: rest =>
    let e := e.writeIndent
    let e :=
      if simpleKey k then
        ((e.node (.string k) true true).writeIndicator ":" false false false).node v true false
      else
        let e := (e.writeIndicator "?" true false true).node (.string k) true false
        (e.writeIndent.writeIndicator ":" true false true).node v true false
    e.entries rest
end

end Emitter

/-- A document as YAML text. -/
def emit (d : Document) : String := ((({} : Emitter).node d false false).writeIndent).out

end Reconcile.Yaml

namespace Reconcile.Document

/-- A document as YAML text. -/
def toYaml (d : Document) : String := Yaml.emit d

end Reconcile.Document
