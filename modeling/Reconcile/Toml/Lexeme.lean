import Reconcile.Toml.Basic

/-!
# TOML lexemes

The pieces of TOML text below the level of values: blanks, comments and line
ends, the four kinds of strings, keys, numbers and date-times. Each reader
takes a cursor and answers what it read with the cursor after it, or a
failure at a byte offset.

A failure that is not committed means "not this kind of thing here": the
caller may try another reading from the same place. A committed one means the
text started as this kind of thing and went wrong, and it stands.
-/

namespace Reconcile.Toml

/-- A place in the source: the characters left, and the byte offset of the
first of them. -/
structure Cursor where
  rest : List Char
  pos : Nat
  deriving DecidableEq, Repr, Inhabited

/-- What a reader answers: a value and the cursor after it, or a failure. -/
abbrev Read (α : Type) := Except Failure (α × Cursor)

namespace Cursor

/-- A cursor at the start of a text. -/
def start (text : List Char) : Cursor := ⟨text, 0⟩

/-- The next character. -/
def peek? (c : Cursor) : Option Char := c.rest.head?

/-- The cursor one character on. -/
def next (c : Cursor) : Cursor :=
  match c.rest with
  | [] => c
  | x :: r => ⟨r, c.pos + x.utf8Size⟩

/-- The cursor `n` characters on. -/
def skip (c : Cursor) : Nat → Cursor
  | 0 => c
  | n + 1 => c.next.skip n

/-- Whether the text goes on with `s`. -/
def startsWith (c : Cursor) (s : String) : Bool := s.toList.isPrefixOf c.rest

/-- The characters between this cursor and a later one. -/
def taken (c d : Cursor) : List Char := c.rest.take (c.rest.length - d.rest.length)

/-- Skips characters of a class. -/
def skipWhileAux (p : Char → Bool) : List Char → Nat → Cursor
  | [], pos => ⟨[], pos⟩
  | x :: r, pos => if p x then skipWhileAux p r (pos + x.utf8Size) else ⟨x :: r, pos⟩

/-- Skips characters of a class. -/
def skipWhile (p : Char → Bool) (c : Cursor) : Cursor := skipWhileAux p c.rest c.pos

/-- A failure here. -/
def miss (c : Cursor) (notes : List Note := []) : Failure := { pos := c.pos, notes }

/-- A committed failure here. -/
def stop (c : Cursor) (notes : List Note := []) : Failure := { pos := c.pos, notes, committed := true }

end Cursor

/-! ## Character classes -/

/-- Blanks inside a line: space and tab. -/
def isBlank (c : Char) : Bool := c = ' ' || c = '\t'

/-- Characters of a bare key. -/
def isKeyChar (c : Char) : Bool := c.isAlphanum || c = '-' || c = '_'

/-- Characters a basic string holds as they are. -/
def isBasicPlain (c : Char) : Bool :=
  c = ' ' || c = '\t' || c = '!' || ('#' ≤ c && c ≤ '[') || (']' ≤ c && c ≤ '~') || 0x80 ≤ c.toNat

/-- Characters a literal string holds. -/
def isLiteralPlain (c : Char) : Bool :=
  c = '\t' || (' ' ≤ c && c ≤ '&') || ('(' ≤ c && c ≤ '~') || 0x80 ≤ c.toNat

/-- Characters a comment holds. -/
def isCommentChar (c : Char) : Bool := c = '\t' || (' ' ≤ c && c ≤ '~') || 0x80 ≤ c.toNat

/-- Hexadecimal digits. -/
def isHexDigit (c : Char) : Bool := c.isDigit || ('a' ≤ c && c ≤ 'f') || ('A' ≤ c && c ≤ 'F')

/-- The value of a hexadecimal digit. -/
def hexDigitValue (c : Char) : Nat :=
  if c.isDigit then c.toNat - '0'.toNat
  else if 'a' ≤ c && c ≤ 'f' then c.toNat - 'a'.toNat + 10
  else c.toNat - 'A'.toNat + 10

/-- The value of digits in a base. -/
def digitsIn (base : Nat) (ds : List Char) : Nat := ds.foldl (fun acc d => acc * base + hexDigitValue d) 0

/-! ## Blanks, comments and line ends -/

/-- Skips blanks. -/
def ws (c : Cursor) : Cursor := c.skipWhile isBlank

/-- Skips a comment, if one starts here. -/
def comment? (c : Cursor) : Option Cursor :=
  if c.peek? = some '#' then some (c.next.skipWhile isCommentChar) else none

/-- Reads a line feed, or a carriage return and a line feed. -/
def newline? (c : Cursor) : Option Cursor :=
  match c.rest with
  | '\n' :: _ => some c.next
  | '\r' :: '\n' :: _ => some (c.skip 2)
  | _ => none

/-- The failure of a missing line end: after the character that is not one. -/
def newlineMiss (c : Cursor) : Failure :=
  match c.rest with
  | [] => c.miss
  | _ => c.next.miss

/-- Reads the end of a line: a line end or the end of the text. -/
def lineEnding (c : Cursor) : Except Failure Cursor :=
  match newline? c with
  | some d => .ok d
  | none => if c.rest.isEmpty then .ok c else .error c.miss

/-- Reads what may follow a value on its line: blanks, a comment, the end of
the line. -/
def lineTrailing (c : Cursor) : Except Failure Cursor :=
  let c := ws c
  lineEnding ((comment? c).getD c)

/-- Skips blanks, line ends and comments between array items. -/
def wsCommentNewline : Nat → Cursor → Except Failure Cursor
  | 0, c => .ok c
  | n + 1, c =>
    let c := ws c
    match c.peek? with
    | some '#' =>
      let d := (comment? c).getD c
      match newline? d with
      | some e => wsCommentNewline n e
      | none => .error (newlineMiss d)
    | some '\n' | some '\r' =>
      match newline? c with
      | some e => wsCommentNewline n e
      | none => .error (newlineMiss c)
    | _ => .ok c

/-! ## Strings -/

/-- Reads `n` hexadecimal digits naming a character, after `\u` or `\U`. -/
def hexEscape (n : Nat) (what : String) (c : Cursor) : Read Char :=
  let ds := (c.rest.takeWhile isHexDigit).take n
  if ds.length ≠ n then .error (c.stop [.reading what])
  else
    let v := digitsIn 16 ds
    if v < 0xD800 ∨ (0xDFFF < v ∧ v < 0x110000) then .ok (Char.ofNat v, c.skip n)
    else .error { c.stop [.reading what] with cause := some Clash.outOfRange.message }

/-- The escapes a basic string knows, as their letters. -/
def escapeLetters : List Note :=
  ['b', 'f', 'n', 'r', 't', 'u', 'U', '\\', '"'].map Expect.char

/-- Reads an escape; the cursor is after its backslash. An unknown escape
fails at the character that follows the backslash. -/
def escape (c : Cursor) : Read Char :=
  match c.rest with
  | [] => .error c.miss
  | e :: _ =>
    let d := c.next
    match e with
    | 'b' => .ok ('\x08', d)
    | 'f' => .ok ('\x0c', d)
    | 'n' => .ok ('\n', d)
    | 'r' => .ok ('\r', d)
    | 't' => .ok ('\t', d)
    | '\\' => .ok ('\\', d)
    | '"' => .ok ('"', d)
    | 'u' => hexEscape 4 "unicode 4-digit hex code" d
    | 'U' => hexEscape 8 "unicode 8-digit hex code" d
    | _ => .error (c.stop (.reading "escape sequence" :: escapeLetters))

/-- The body of a basic string; `acc` holds what was read, last first. -/
def basicBody (acc : List Char) : Nat → Cursor → Read String
  | 0, c => .error c.stop
  | n + 1, c =>
    let close : Read String :=
      if c.peek? = some '"' then .ok (String.ofList acc.reverse, c.next)
      else .error (c.stop [.reading "basic string"])
    match c.rest with
    | x :: _ =>
      if isBasicPlain x then basicBody (x :: acc) n c.next
      else if x = '\\' then
        match escape c.next with
        | .ok (ch, d) => basicBody (ch :: acc) n d
        | .error f => if f.committed then .error f else close
      else close
    | [] => close

/-- Reads a basic string; the cursor is at its quote. -/
def basicString (c : Cursor) : Read String := basicBody [] (c.rest.length + 1) c.next

/-- Skips blanks and line ends. -/
def skipBlankLines : Nat → Cursor → Cursor
  | 0, c => c
  | n + 1, c =>
    match newline? c with
    | some d => skipBlankLines n d
    | none => if (c.peek?.map isBlank).getD false then skipBlankLines n c.next else c

/-- Skips an escaped line end: a backslash, blanks, a line end, and every
blank and line end after it. -/
def escapedNewline? (c : Cursor) : Option Cursor :=
  if c.peek? = some '\\' then
    match newline? (ws c.next) with
    | some d => some (skipBlankLines (d.rest.length + 1) d)
    | none => none
  else none

/-- Reads one piece of a multi-line basic string: a character, an escaped
line end, an escape or a line end. Blanks after a backslash start an escaped
line end, so when no line end follows them the escape fails after them. -/
def mlbContent (c : Cursor) : Except Failure (Option (List Char × Cursor)) :=
  match c.rest with
  | x :: _ =>
    if isBasicPlain x then .ok (some ([x], c.next))
    else if x = '\\' then
      match escapedNewline? c with
      | some d => .ok (some ([], d))
      | none =>
        if (c.next.peek?.map isBlank).getD false then
          .error ((ws c.next).stop (.reading "escape sequence" :: escapeLetters))
        else
          match escape c.next with
          | .ok (ch, d) => .ok (some ([ch], d))
          | .error f => if f.committed then .error f else .ok none
    else .ok ((newline? c).map fun d => (['\n'], d))
  | [] => .ok none

/-- One or two quotes inside a multi-line string, if `fits` holds after them. -/
def innerQuotes (q : Char) (fits : Cursor → Bool) (c : Cursor) : Option (List Char × Cursor) :=
  if c.rest.take 2 = [q, q] ∧ fits (c.skip 2) then some ([q, q], c.skip 2)
  else if c.peek? = some q ∧ fits c.next then some ([q], c.next)
  else none

/-- Whether a character other than `q` follows. -/
def otherThan (q : Char) (c : Cursor) : Bool :=
  match c.peek? with
  | some x => x ≠ q
  | none => false

/-- Reads pieces of a multi-line basic string while there are any. -/
def mlbRun (acc : List Char) : Nat → Cursor → Except Failure (List Char × Cursor)
  | 0, c => .ok (acc, c)
  | n + 1, c =>
    match mlbContent c with
    | .error f => .error f
    | .ok (some (x, d)) => mlbRun (acc ++ x) n d
    | .ok none => .ok (acc, c)

/-- Reads the rest of a multi-line basic string body: quotes followed by
content, then quotes just before the closing delimiter. -/
def mlbBody (acc : List Char) : Nat → Cursor → Except Failure (List Char × Cursor)
  | 0, c => .ok (acc, c)
  | n + 1, c =>
    let final (acc : List Char) (c : Cursor) : List Char × Cursor :=
      match innerQuotes '"' (fun d => d.startsWith "\"\"\"") c with
      | some (q, d) => (acc ++ q, d)
      | none => (acc, c)
    match innerQuotes '"' (otherThan '"') c with
    | some (q, d) =>
      match mlbContent d with
      | .error f => .error f
      | .ok (some (x, e)) =>
        match mlbRun (acc ++ q ++ x) n e with
        | .error f => .error f
        | .ok (acc, e) => mlbBody acc n e
      | .ok none => .ok (final acc d)
    | none => .ok (final acc c)

/-- Reads a multi-line basic string; the cursor is at its first quote. -/
def mlBasicString (c : Cursor) : Read String :=
  let d := c.skip 3
  let d := (newline? d).getD d
  let fuel := d.rest.length + 1
  let body : Except Failure (List Char × Cursor) := match mlbRun [] fuel d with
    | .error f => .error f
    | .ok (acc, e) => mlbBody acc fuel e
  match body with
  | .error f => .error (f.note (.reading "multiline basic string"))
  | .ok (acc, e) =>
    if e.startsWith "\"\"\"" then .ok (String.ofList acc, e.skip 3)
    else .error (e.stop [.reading "multiline basic string"])

/-- Reads one piece of a multi-line literal string: a character or a line end. -/
def mllContent (c : Cursor) : Option (List Char × Cursor) :=
  match c.rest with
  | x :: _ => if isLiteralPlain x then some ([x], c.next) else (newline? c).map fun d => (['\n'], d)
  | [] => none

/-- Reads pieces of a multi-line literal string while there are any. -/
def mllRun (acc : List Char) : Nat → Cursor → List Char × Cursor
  | 0, c => (acc, c)
  | n + 1, c =>
    match mllContent c with
    | some (x, d) => mllRun (acc ++ x) n d
    | none => (acc, c)

/-- Reads the rest of a multi-line literal string body. -/
def mllBody (acc : List Char) : Nat → Cursor → List Char × Cursor
  | 0, c => (acc, c)
  | n + 1, c =>
    let final : List Char × Cursor :=
      match innerQuotes '\'' (fun d => d.startsWith "'''") c with
      | some (q, d) => (acc ++ q, d)
      | none => (acc, c)
    match innerQuotes '\'' (otherThan '\'') c with
    | some (q, d) =>
      match mllContent d with
      | some (x, e) =>
        let (acc, e) := mllRun (acc ++ q ++ x) n e
        mllBody acc n e
      | none => final
    | none => final

/-- Reads a multi-line literal string; the cursor is at its first apostrophe. -/
def mlLiteralString (c : Cursor) : Read String :=
  let d := c.skip 3
  let d := (newline? d).getD d
  let fuel := d.rest.length + 1
  let (acc, e) := mllRun [] fuel d
  let (acc, e) := mllBody acc fuel e
  if e.startsWith "'''" then .ok (String.ofList acc, e.skip 3)
  else .error (e.stop [.reading "multiline literal string"])

/-- Reads a literal string; the cursor is at its apostrophe. -/
def literalString (c : Cursor) : Read String :=
  let d := c.next
  let e := d.skipWhile isLiteralPlain
  if e.peek? = some '\'' then .ok (String.ofList (d.taken e), e.next)
  else .error (e.stop [.reading "literal string"])

/-- Reads a string of any of the four kinds. -/
def string (c : Cursor) : Read String :=
  if c.startsWith "\"\"\"" then mlBasicString c
  else if c.startsWith "\"" then basicString c
  else if c.startsWith "'''" then mlLiteralString c
  else if c.startsWith "'" then literalString c
  else .error c.miss

/-! ## Keys -/

/-- Reads a key without dots: quoted, or bare. -/
def simpleKey (c : Cursor) : Read Key :=
  let finish (name : String) (d : Cursor) : Read Key :=
    .ok (⟨name, ⟨c.pos, d.pos⟩⟩, d)
  match c.rest with
  | '"' :: _ =>
    match basicString c with
    | .ok (s, d) => finish s d
    | .error f => .error f
  | '\'' :: _ =>
    match literalString c with
    | .ok (s, d) => finish s d
    | .error f => .error f
  | _ =>
    let d := c.skipWhile isKeyChar
    if d.pos = c.pos then .error c.miss else finish (String.ofList (c.taken d)) d

/-- Reads a key part with the blanks around it. -/
def keyPart (c : Cursor) : Read Key :=
  match simpleKey (ws c) with
  | .ok (k, d) => .ok (k, ws d)
  | .error f => .error f

/-- Reads further dotted key parts. -/
def keyRest (acc : List Key) : Nat → Cursor → Read (List Key)
  | 0, c => .ok (acc.reverse, c)
  | n + 1, c =>
    if c.peek? = some '.' then
      match keyPart c.next with
      | .ok (k, d) => keyRest (k :: acc) n d
      | .error f => if f.committed then .error f else .ok (acc.reverse, c)
    else .ok (acc.reverse, c)

/-- Reads a key, dotted or not. -/
def keyPath (c : Cursor) : Read (List Key) :=
  let result := match keyPart c with
    | .ok (k, d) => keyRest [k] (d.rest.length + 1) d
    | .error f => .error f
  result.mapError (·.note (.reading "key"))

/-! ## Numbers -/

/-- Reads digits with single underscores between them. -/
def digitRun (ok : Char → Bool) : Nat → Cursor → Except Failure Cursor
  | 0, c => .ok c
  | n + 1, c =>
    match c.rest with
    | x :: r =>
      if ok x then digitRun ok n c.next
      else if x = '_' then
        match r with
        | y :: _ => if ok y then digitRun ok n (c.skip 2) else .error (c.next.stop [Expect.described "digit"])
        | [] => .error (c.next.stop [Expect.described "digit"])
      else .ok c
    | [] => .ok c

/-- Skips a sign, if there is one. -/
def sign (c : Cursor) : Cursor :=
  match c.peek? with
  | some '+' | some '-' => c.next
  | _ => c

/-- Reads a decimal integer's text: a sign, then a zero alone or digits not
starting with zero. -/
def decInt (c : Cursor) : Except Failure Cursor :=
  let d := sign c
  let result := match d.rest with
    | x :: _ =>
      if '1' ≤ x && x ≤ '9' then digitRun Char.isDigit d.rest.length d.next
      else if x = '0' then .ok d.next
      else .error d.miss
    | [] => .error d.miss
  result.mapError (·.note (.reading "integer"))

/-- Reads digits that may start with zero. -/
def zeroPrefixable (c : Cursor) : Except Failure Cursor :=
  match c.peek? with
  | some x => if x.isDigit then digitRun Char.isDigit c.rest.length c.next else .error c.miss
  | none => .error c.miss

/-- The largest 64-bit signed integer. -/
def intMax : Int := 9223372036854775807

/-- The text of a number that does not fit. -/
def tooLarge : String := "number too large to fit in target type"

/-- The text of a negative number that does not fit. -/
def tooSmall : String := "number too small to fit in target type"

/-- The value of a decimal integer's text. -/
def decValue (text : List Char) : Int :=
  let ds := text.filter Char.isDigit
  let v : Int := digitsIn 10 ds
  if text.head? = some '-' then -v else v

/-- Reads an integer in base 16, 8 or 2 after its prefix. -/
def radixInt (base : Nat) (what : String) (ok : Char → Bool) (c : Cursor) : Read Int :=
  let d := c.skip 2
  let digits : Except Failure Cursor := match d.peek? with
    | some x => if ok x then digitRun ok d.rest.length d.next else .error (d.stop [])
    | none => .error (d.stop [])
  match digits with
  | .error f => .error (f.note (.reading what)).commit
  | .ok e =>
    let v := digitsIn base ((d.taken e).filter (· ≠ '_'))
    if v ≤ intMax.toNat then .ok (v, e) else .error { c.stop with cause := some tooLarge }

/-- Reads an integer. -/
def integer (c : Cursor) : Read Int :=
  if c.startsWith "0x" then radixInt 16 "hexadecimal integer" isHexDigit c
  else if c.startsWith "0o" then radixInt 8 "octal integer" (fun x => '0' ≤ x && x ≤ '7') c
  else if c.startsWith "0b" then radixInt 2 "binary integer" (fun x => x = '0' || x = '1') c
  else
    match decInt c with
    | .error f => .error f
    | .ok d =>
      let v := decValue (c.taken d)
      if v > intMax then .error { c.stop with cause := some tooLarge }
      else if v < -intMax - 1 then .error { c.stop with cause := some tooSmall }
      else .ok (v, d)

/-- The pattern of positive infinity. -/
def infinity : UInt64 := 0x7FF0000000000000

/-- The pattern of a quiet NaN. -/
def notANumber : UInt64 := 0x7FF8000000000000

/-- The value of a float's text, rounded to nearest; too large is infinite. -/
def floatValue (text : List Char) : UInt64 :=
  let cs := text.filter (· ≠ '_')
  let neg := cs.head? = some '-'
  let cs := match cs with
    | '+' :: r | '-' :: r => r
    | r => r
  let whole := cs.takeWhile Char.isDigit
  let cs := cs.drop whole.length
  let frac := match cs with
    | '.' :: r => r.takeWhile Char.isDigit
    | _ => []
  let cs := match cs with
    | '.' :: r => r.drop frac.length
    | r => r
  let e : Int := match cs with
    | _ :: '-' :: r => -(digitsIn 10 r : Int)
    | _ :: '+' :: r => digitsIn 10 r
    | _ :: r => digitsIn 10 r
    | [] => 0
  match Binary64.ofDecimal neg (digitsIn 10 (whole ++ frac)) (e - frac.length) with
  | some bits => bits
  | none => if neg then infinity ||| 0x8000000000000000 else infinity

/-- Reads an exponent, if one starts here. -/
def exponent (c : Cursor) : Except Failure (Option Cursor) :=
  match c.peek? with
  | some 'e' | some 'E' =>
    match zeroPrefixable (sign c.next) with
    | .ok d => .ok (some d)
    | .error f => .error f.commit
  | _ => .ok none

/-- Reads the text of a float with a fraction, an exponent or both. -/
def floatText (c : Cursor) : Except Failure Cursor :=
  match decInt c with
  | .error f => .error f
  | .ok d =>
    match exponent d with
    | .error f => .error f
    | .ok (some e) => .ok e
    | .ok none =>
      if d.peek? = some '.' then
        match zeroPrefixable d.next with
        | .error f => .error (f.note (Expect.described "digit")).commit
        | .ok e =>
          match exponent e with
          | .error f => .error f
          | .ok (some g) => .ok g
          | .ok none => .ok e
      else .error d.miss

/-- Reads `inf` or `nan` with an optional sign. -/
def specialFloat (c : Cursor) : Read UInt64 :=
  let neg := c.peek? = some '-'
  let d := sign c
  let signed (bits : UInt64) := if neg then bits ||| 0x8000000000000000 else bits
  if d.startsWith "inf" then .ok (signed infinity, d.skip 3)
  else if d.startsWith "nan" then .ok (signed notANumber, d.skip 3)
  else .error d.miss

/-- Reads a float. -/
def float (c : Cursor) : Read UInt64 :=
  let result : Read UInt64 := match floatText c with
    | .ok d =>
      let bits := floatValue (c.taken d)
      if bits = infinity then .error c.stop else .ok (bits, d)
    | .error f => if f.committed then .error f else specialFloat c
  result.mapError (·.note (.reading "floating-point number"))

/-! ## Date-times -/

/-- Reads exactly `n` digits with a value in `lo..hi`; a short run is a
plain failure, a value out of range a failure with that cause. -/
def fixedDigits (n lo hi : Nat) (c : Cursor) : Read Nat :=
  let ds := (c.rest.takeWhile Char.isDigit).take n
  if ds.length < n then .error c.miss
  else
    let v := digitsIn 10 ds
    if lo ≤ v ∧ v ≤ hi then .ok (v, c.skip n)
    else .error { c.miss with cause := some Clash.outOfRange.message }

/-- Expects a character. -/
def expectChar (x : Char) (c : Cursor) : Except Failure Cursor :=
  if c.peek? = some x then .ok c.next else .error c.miss

/-- Commits a failure. -/
def committed {α : Type} (r : Except Failure α) : Except Failure α := r.mapError Failure.commit

/-- Reads a time of day: hours, minutes, seconds and an optional fraction. -/
def partialTime (c : Cursor) : Except Failure Cursor := do
  let (_, d) ← fixedDigits 2 0 23 c
  let d ← expectChar ':' d
  committed do
    let (_, e) ← fixedDigits 2 0 59 d
    let e ← expectChar ':' e
    let (_, e) ← fixedDigits 2 0 60 e
    if e.peek? = some '.' ∧ (e.next.peek?.map Char.isDigit).getD false then
      .ok (e.next.skipWhile Char.isDigit)
    else .ok e

/-- Reads a time offset, if one starts here. -/
def timeOffset (c : Cursor) : Except Failure Cursor :=
  let result : Except Failure Cursor := match c.peek? with
    | some 'Z' | some 'z' => .ok c.next
    | some '+' | some '-' =>
      committed do
        let (_, d) ← fixedDigits 2 0 23 c.next
        let d ← expectChar ':' d
        let (_, d) ← fixedDigits 2 0 59 d
        .ok d
    | _ => .error c.miss
  result.mapError (·.note (.reading "time offset"))

/-- The days of a month of the Gregorian calendar. -/
def daysInMonth (year month : Nat) : Nat :=
  if month = 2 then
    if year % 4 = 0 ∧ (year % 100 ≠ 0 ∨ year % 400 = 0) then 29 else 28
  else if month = 4 ∨ month = 6 ∨ month = 9 ∨ month = 11 then 30
  else 31

/-- Reads a date with an optional time and offset. A day past the end of its
month fails at the day. -/
def fullDateTime (c : Cursor) : Except Failure Cursor := do
  let (year, d) ← fixedDigits 4 0 9999 c
  let d ← expectChar '-' d
  let d ← committed do
    let (month, e) ← fixedDigits 2 1 12 d
    let e ← expectChar '-' e
    let (day, g) ← fixedDigits 2 1 31 e
    if daysInMonth year month < day then .error { e.miss with cause := some Clash.outOfRange.message }
    else .ok g
  match d.peek? with
  | some 'T' | some 't' | some ' ' =>
    match partialTime d.next with
    | .ok e =>
      match timeOffset e with
      | .ok g => .ok g
      | .error f => if f.committed then .error f else .ok e
    | .error f => if f.committed then .error f else .ok d
  | _ => .ok d

/-- Reads a date-time, a date or a time. -/
def dateTime (c : Cursor) : Except Failure Cursor :=
  match fullDateTime c with
  | .ok d => .ok d
  | .error f =>
    if f.committed then .error (f.note (.reading "date-time"))
    else (partialTime c).mapError (·.note (.reading "time"))

end Reconcile.Toml
