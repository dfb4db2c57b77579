import Reconcile.Document.Json
import Reconcile.Document.Keyed

/-!
# Reading JSON text

`Document.ofJson?` reads one JSON text. An integer literal stays an integer
when it fits 64 bits (unsigned, or signed when negative); `-0`, a literal
with a fraction or an exponent, and an integer out of that range become
floats. Of two entries with one key, the later wins.

A float literal is read in two roundings, not one: its digits go into a
64-bit significand while they fit (integer digits past that raise the
exponent, fraction digits past it are dropped), the significand becomes the
nearest float, and that float is multiplied or divided once by the float
nearest to the power of ten (`scaled`). The result can differ from the float
nearest to the literal in its last place: `1.0000000000000001e23` reads as
`1e23`.

Arrays and objects nest at most 127 deep: the 128th opening bracket is
refused. A text that cannot be read gives a `Fault`: what went wrong, and
where, as a line and a column. The column counts bytes from the start of the
line; a fault found in a character is placed one byte into it, and a fault
found between characters right after the last one read.
-/

namespace Reconcile

namespace Json

/-- Why JSON text cannot be read. -/
inductive Cause where
  | endInString
  | endInValue
  | endInArray
  | endInObject
  /-- A backslash followed by no escape, or a `\u` by no four hexadecimal digits. -/
  | invalidEscape
  /-- A trailing surrogate half first, or a leading one followed by no trailing one. -/
  | loneSurrogate
  /-- A leading surrogate half not followed at once by another escape. -/
  | unpairedSurrogate
  | controlInString
  | invalidNumber
  | outOfRange
  /-- A literal that starts like `null`, `true` or `false` and goes on otherwise. -/
  | expectedWord
  | expectedValue
  | expectedColon
  | expectedItemSeparator
  | expectedEntrySeparator
  | keyNotString
  | trailingComma
  | trailingText
  /-- Arrays and objects nested too deep. -/
  | tooDeep
  deriving DecidableEq, Repr, Inhabited

/-- The wording of a cause. -/
def Cause.text : Cause → String
  | .endInString => "EOF while parsing a string"
  | .endInValue => "EOF while parsing a value"
  | .endInArray => "EOF while parsing a list"
  | .endInObject => "EOF while parsing an object"
  | .invalidEscape => "invalid escape"
  | .loneSurrogate => "lone leading surrogate in hex escape"
  | .unpairedSurrogate => "unexpected end of hex escape"
  | .controlInString => "control character (\\u0000-\\u001F) found while parsing a string"
  | .invalidNumber => "invalid number"
  | .outOfRange => "number out of range"
  | .expectedWord => "expected ident"
  | .expectedValue => "expected value"
  | .expectedColon => "expected `:`"
  | .expectedItemSeparator => "expected `,` or `]`"
  | .expectedEntrySeparator => "expected `,` or `\x7d`"
  | .keyNotString => "key must be a string"
  | .trailingComma => "trailing comma"
  | .trailingText => "trailing characters"
  | .tooDeep => "recursion limit exceeded"

/-- What went wrong while reading JSON text, and where: `left` characters
were still unread, and `inNext` tells whether the fault lies in the next of
them rather than just before it. -/
structure Fault where
  cause : Cause
  left : Nat
  inNext : Bool
  deriving DecidableEq, Repr, Inhabited

/-- A fault in the first character of `cs`. -/
def faultIn (cause : Cause) (cs : List Char) : Fault := ⟨cause, cs.length, true⟩

/-- A fault just before `cs`. -/
def faultBefore (cause : Cause) (cs : List Char) : Fault := ⟨cause, cs.length, false⟩

/-- How deep arrays and objects may nest, plus one. -/
def nestingLimit : Nat := 128

/-- The bytes of characters in UTF-8. -/
def byteCount : List Char → Nat
  | [] => 0
  | c :: cs => c.utf8Size + byteCount cs

/-- Drops JSON blanks. -/
def skipBlanks : List Char → List Char
  | c :: rest => if c = ' ' ∨ c = '\t' ∨ c = '\n' ∨ c = '\r' then skipBlanks rest else c :: rest
  | [] => []

/-! ## Strings -/

/-- The value of a hexadecimal digit. -/
def hexValue (c : Char) : Option Nat :=
  if '0' ≤ c ∧ c ≤ '9' then some (c.toNat - 48)
  else if 'a' ≤ c ∧ c ≤ 'f' then some (c.toNat - 87)
  else if 'A' ≤ c ∧ c ≤ 'F' then some (c.toNat - 55)
  else none

/-- Reads `k` more hexadecimal digits onto `n`. -/
def hexDigits : Nat → Nat → List Char → Except Fault (Nat × List Char)
  | 0, n, cs => .ok (n, cs)
  | _ + 1, _, [] => .error (faultBefore .endInString [])
  | k + 1, n, c :: cs =>
    match hexValue c with
    | some v => hexDigits k (n * 16 + v) cs
    | none => .error (faultIn .invalidEscape (c :: cs))

/-- Reads the four hexadecimal digits of a `\u` escape. Fewer than four bytes
of text left end the string; otherwise the first character that is no digit
is a bad escape. -/
def hexEscape (cs : List Char) : Except Fault (Nat × List Char) :=
  if byteCount (cs.take 4) < 4 then .error (faultBefore .endInString [])
  else hexDigits 4 0 cs

/-- Whether a code is a leading surrogate half. -/
def isLeading (n : Nat) : Bool := 0xD800 ≤ n && n ≤ 0xDBFF

/-- Whether a code is a trailing surrogate half. -/
def isTrailing (n : Nat) : Bool := 0xDC00 ≤ n && n ≤ 0xDFFF

/-- Reads a `\u` escape after its `u`: one code outside the surrogate halves,
or a leading half followed at once by an escaped trailing half. A trailing
half alone, or a leading half followed by anything else, is refused. -/
def unicodeEscape (cs : List Char) : Except Fault (Char × List Char) := do
  let (n, r) ← hexEscape cs
  if isTrailing n then .error (faultBefore .loneSurrogate r)
  else if !isLeading n then .ok (Char.ofNat n, r)
  else
    match r with
    | [] => .error (faultBefore .endInString [])
    | '\\' :: [] => .error (faultBefore .endInString [])
    | '\\' :: 'u' :: r =>
      let (m, r) ← hexEscape r
      if isTrailing m then .ok (Char.ofNat (0x10000 + (n - 0xD800) * 0x400 + (m - 0xDC00)), r)
      else .error (faultBefore .loneSurrogate r)
    | '\\' :: x :: r => .error (faultIn .unpairedSurrogate (x :: r))
    | x :: r => .error (faultIn .unpairedSurrogate (x :: r))

/-- Reads an escape after its backslash. -/
def escape : List Char → Except Fault (Char × List Char)
  | [] => .error (faultBefore .endInString [])
  | c :: r =>
    if c = '"' then .ok ('"', r)
    else if c = '\\' then .ok ('\\', r)
    else if c = '/' then .ok ('/', r)
    else if c = 'b' then .ok (Char.ofNat 8, r)
    else if c = 'f' then .ok (Char.ofNat 12, r)
    else if c = 'n' then .ok ('\n', r)
    else if c = 'r' then .ok ('\r', r)
    else if c = 't' then .ok ('\t', r)
    else if c = 'u' then unicodeEscape r
    else .error (faultIn .invalidEscape (c :: r))

/-- Reads the rest of a string after its opening quote, with the characters
read so far in `acc`, last first; `fuel` bounds the characters. -/
def stringBody : Nat → List Char → List Char → Except Fault (String × List Char)
  | 0, _, cs => .error (faultBefore .endInString cs)
  | _ + 1, _, [] => .error (faultBefore .endInString [])
  | fuel + 1, acc, c :: rest =>
    if c = '"' then .ok (String.ofList acc.reverse, rest)
    else if c = '\\' then
      match escape rest with
      | .ok (ch, r) => stringBody fuel (ch :: acc) r
      | .error f => .error f
    else if c.toNat < 32 then
      .error (faultIn .controlInString (c :: rest))
    else stringBody fuel (c :: acc) rest

/-- Reads a string after its opening quote. -/
def string (cs : List Char) : Except Fault (String × List Char) := stringBody (cs.length + 1) [] cs

/-! ## Numbers -/

/-- The largest 64-bit significand. -/
def significandLimit : Nat := Nat.pow 2 64 - 1

/-- The largest exponent a literal may write. -/
def exponentLimit : Nat := Nat.pow 2 31 - 1

/-- The value of a decimal digit. -/
def digitValue (c : Char) : Nat := c.toNat - 48

/-- The significand of integer digits, and how many digits did not fit in it. -/
def wholeDigits : Nat × Nat → List Char → Nat × Nat
  | acc, [] => acc
  | (sig, dropped), c :: cs =>
    if dropped = 0 && sig * 10 + digitValue c ≤ significandLimit then wholeDigits (sig * 10 + digitValue c, 0) cs
    else wholeDigits (sig, dropped + 1) cs

/-- The significand with fraction digits added while they fit, and how many
were added; the first that does not fit ends the fraction. -/
def fractionDigits : Nat × Nat → List Char → Nat × Nat
  | acc, [] => acc
  | (sig, taken), c :: cs =>
    if sig * 10 + digitValue c ≤ significandLimit then fractionDigits (sig * 10 + digitValue c, taken + 1) cs
    else (sig, taken)

/-- The value of exponent digits, or `none` once it passes the limit. -/
def exponentDigits : Nat → List Char → Option Nat
  | e, [] => some e
  | e, c :: cs => if e * 10 + digitValue c ≤ exponentLimit then exponentDigits (e * 10 + digitValue c) cs else none

/-- How many exponent digits are read up to the one that passes the limit,
that one included. -/
def exponentReach : Nat → List Char → Nat
  | _, [] => 0
  | e, c :: cs => if e * 10 + digitValue c ≤ exponentLimit then exponentReach (e * 10 + digitValue c) cs + 1 else 1

/-- The float nearest to `10 ^ k`, for `k ≤ 308`. -/
def powerOfTen (k : Nat) : UInt64 := (Binary64.ofDecimal false 1 k).getD 0

/-- Scales a float by `10 ^ e`: at once when `|e| ≤ 308`, and below that by
dividing by `1e308` first, as often as it takes or until the float is zero.
`none` when the result passes the largest finite value. -/
def scaleAux : Nat → UInt64 → Int → Option UInt64
  | 0, f, _ => some f
  | n + 1, f, e =>
    if e.natAbs ≤ 308 then
      if 0 ≤ e then Binary64.mul f (powerOfTen e.natAbs) else Binary64.div f (powerOfTen e.natAbs)
    else if Binary64.isZero f then some f
    else if 0 ≤ e then none
    else match Binary64.div f (powerOfTen 308) with
      | some g => scaleAux n g (e + 308)
      | none => none

/-- The float of a significand and a decimal exponent, read in two roundings:
the significand to the nearest float, then one scaling by a power of ten.
`none` when it is out of range. -/
def scaled (neg : Bool) (sig : Nat) (exp10 : Int) : Option Document :=
  (scaleAux (exp10.natAbs / 308 + 2) (Binary64.ofNat sig) exp10).map fun bits =>
    .number (.float (if neg then Binary64.negate bits else bits))

/-- An integer literal without fraction or exponent whose digits all fit the
significand: a 64-bit integer, or a float for `-0` and for negatives past the
signed range. -/
def integerOf (neg : Bool) (sig : Nat) : Document :=
  if !neg then .number (.int sig)
  else if 0 < sig && sig ≤ Nat.pow 2 63 then .number (.int (-(sig : Int)))
  else .number (.float (Binary64.negate (Binary64.ofNat sig)))

/-- A number from its sign and the digits of its parts: the integer digits,
the fraction digits (if a point was written) and the exponent (if one was
written, with its sign and digits). `none` when it is out of range. -/
def numberOf (neg : Bool) (whole : List Char) (frac : Option (List Char))
    (exp : Option (Bool × List Char)) : Option Document :=
  let (sig, dropped) := wholeDigits (0, 0) whole
  if frac.isNone && exp.isNone && dropped = 0 then some (integerOf neg sig)
  else
    let (sig, taken) := fractionDigits (sig, 0) (frac.getD [])
    let start : Int := (dropped : Int) - taken
    match exp with
    | none => scaled neg sig start
    | some (eneg, eds) =>
      match exponentDigits 0 eds with
      | none => if sig ≠ 0 && !eneg then none else some (.number (.float (Binary64.zero neg)))
      | some e =>
        -- the exponent saturates at the bounds of a 32-bit integer
        let total := if eneg then start - e else start + e
        scaled neg sig (max (min total exponentLimit) (-(exponentLimit : Int) - 1))

/-- Reads the exponent of a number after its `e`: an optional sign, then
digits. -/
def exponentPart (cs : List Char) : Except Fault (Bool × List Char × List Char) :=
  let (eneg, r) := match cs with
    | '-' :: r => (true, r)
    | '+' :: r => (false, r)
    | r => (false, r)
  match r with
  | [] => .error (faultBefore .endInValue [])
  | c :: r' =>
    if c.isDigit then .ok (eneg, c :: r'.takeWhile Char.isDigit, r'.dropWhile Char.isDigit)
    else .error (faultIn .invalidNumber (c :: r'))

/-- Reads a number literal, its sign included. A number out of range is
refused after its last digit, or after the exponent digit that passes the
limit. -/
def numberLit (cs : List Char) : Except Fault (Document × List Char) := do
  let (neg, cs) := match cs with
    | '-' :: r => (true, r)
    | r => (false, r)
  match cs with
  | [] => .error (faultBefore .endInValue [])
  | c :: r =>
    if !c.isDigit then .error (faultIn .invalidNumber (c :: r))
    else if c = '0' && (r.head?.map Char.isDigit).getD false then .error (faultIn .invalidNumber r)
    else
      let whole := (c :: r).takeWhile Char.isDigit
      let r := (c :: r).dropWhile Char.isDigit
      let (frac, r) ← match r with
        | '.' :: r' =>
          let ds := r'.takeWhile Char.isDigit
          match ds, r' with
          | [], [] => .error (faultBefore .endInValue [])
          | [], x :: r'' => .error (faultIn .invalidNumber (x :: r''))
          | _, _ => .ok (some ds, r'.dropWhile Char.isDigit)
        | r' => .ok (none, r')
      let (exp, r) ← match r with
        | e :: r' =>
          if e = 'e' ∨ e = 'E' then
            (exponentPart r').map fun (eneg, eds, r'') => (some (eneg, eds), r'')
          else .ok (none, e :: r')
        | [] => .ok (none, [])
      match numberOf neg whole frac exp with
      | some d => .ok (d, r)
      | none =>
        match exp with
        | some (_, eds) =>
          if (exponentDigits 0 eds).isNone then
            .error ⟨.outOfRange, r.length + (eds.length - exponentReach 0 eds), false⟩
          else .error (faultBefore .outOfRange r)
        | none => .error (faultBefore .outOfRange r)

/-! ## Values -/

/-- Reads the rest of the word of a literal. -/
def word : List Char → Document → List Char → Except Fault (Document × List Char)
  | [], d, cs => .ok (d, cs)
  | _ :: _, _, [] => .error (faultBefore .endInValue [])
  | w :: ws, d, c :: cs => if c = w then word ws d cs else .error (faultIn .expectedWord (c :: cs))

/-- Where the next item of an array starts, after blanks, or `none` at its
closing bracket; `first` tells whether no item was read yet. -/
def nextItem (first : Bool) (cs : List Char) : Except Fault (Option (List Char)) :=
  match skipBlanks cs with
  | [] => .error (faultBefore .endInArray [])
  | ']' :: _ => .ok none
  | ',' :: r =>
    if first then .ok (some (',' :: r))
    else match skipBlanks r with
      | [] => .error (faultBefore .endInValue [])
      | ']' :: r' => .error (faultIn .trailingComma (']' :: r'))
      | r' => .ok (some r')
  | r => if first then .ok (some r) else .error (faultIn .expectedItemSeparator r)

/-- The text after the opening quote of a key. -/
def keyQuote : List Char → Except Fault (Option (List Char))
  | '"' :: r => .ok (some r)
  | r => .error (faultIn .keyNotString r)

/-- Where the next key of an object starts, after its opening quote, or
`none` at the closing brace; `first` tells whether no entry was read yet. -/
def nextKey (first : Bool) (cs : List Char) : Except Fault (Option (List Char)) :=
  match skipBlanks cs with
  | [] => .error (faultBefore .endInObject [])
  | '}' :: _ => .ok none
  | ',' :: r =>
    if first then keyQuote (',' :: r)
    else match skipBlanks r with
      | [] => .error (faultBefore .endInValue [])
      | '}' :: r' => .error (faultIn .trailingComma ('}' :: r'))
      | r' => keyQuote r'
  | r => if first then keyQuote r else .error (faultIn .expectedEntrySeparator r)

/-- The text after the colon of an entry. -/
def colon (cs : List Char) : Except Fault (List Char) :=
  match skipBlanks cs with
  | ':' :: r => .ok r
  | [] => .error (faultBefore .endInObject [])
  | r => .error (faultIn .expectedColon r)

mutual
/-- Reads one value, after blanks, inside `depth` open arrays and objects;
`fuel` bounds the steps. -/
def value : Nat → Nat → List Char → Except Fault (Document × List Char)
  | 0, _, cs => .error (faultIn .tooDeep cs)
  | fuel + 1, depth, cs =>
    match skipBlanks cs with
    | [] => .error (faultBefore .endInValue [])
    | 'n' :: r => word ['u', 'l', 'l'] .null r
    | 't' :: r => word ['r', 'u', 'e'] (.bool true) r
    | 'f' :: r => word ['a', 'l', 's', 'e'] (.bool false) r
    | '"' :: r => (string r).map fun (s, r') => (.string s, r')
    | '[' :: r =>
      if nestingLimit ≤ depth + 1 then .error (faultIn .tooDeep ('[' :: r))
      else (items fuel (depth + 1) [] r).map fun (xs, r') => (.array xs, r')
    | '{' :: r =>
      if nestingLimit ≤ depth + 1 then .error (faultIn .tooDeep ('{' :: r))
      else (fields fuel (depth + 1) [] r).map fun (fs, r') => (.object fs, r')
    | c :: r =>
      if c = '-' ∨ c.isDigit then numberLit (c :: r) else .error (faultIn .expectedValue (c :: r))
/-- Reads the items of an array up to its closing bracket, with the items
read so far in `acc`, last first. -/
def items : Nat → Nat → List Document → List Char → Except Fault (List Document × List Char)
  | 0, _, _, cs => .error (faultIn .tooDeep cs)
  | fuel + 1, depth, acc, cs =>
    match nextItem acc.isEmpty cs with
    | .error f => .error f
    | .ok none => .ok (acc.reverse, (skipBlanks cs).drop 1)
    | .ok (some r) =>
      match value fuel depth r with
      | .error f => .error f
      | .ok (d, r') => items fuel depth (d :: acc) r'
/-- Reads the entries of an object up to its closing brace. -/
def fields : Nat → Nat → Mapping → List Char → Except Fault (Mapping × List Char)
  | 0, _, _, cs => .error (faultIn .tooDeep cs)
  | fuel + 1, depth, acc, cs =>
    match nextKey acc.isEmpty cs with
    | .error f => .error f
    | .ok none => .ok (acc, (skipBlanks cs).drop 1)
    | .ok (some r) =>
      match string r with
      | .error f => .error f
      | .ok (k, r1) =>
        match colon r1 with
        | .error f => .error f
        | .ok r2 =>
          match value fuel depth r2 with
          | .error f => .error f
          | .ok (d, r3) => fields fuel depth (Keyed.insert k d acc) r3
end

/-- Reads a whole text: one value, with only blanks around it. -/
def read (cs : List Char) : Except Fault Document :=
  match value (cs.length + 1) 0 cs with
  | .error f => .error f
  | .ok (d, rest) =>
    match skipBlanks rest with
    | [] => .ok d
    | r => .error (faultIn .trailingText r)

/-- The line and column of a fault in a text. Lines count from one; the
column is the count of bytes between the start of the line and the place of
the fault, which lies one byte into the character it was found in. -/
def Fault.place (f : Fault) (cs : List Char) : Nat × Nat :=
  let before := cs.take (cs.length - f.left)
  let lines := 1 + before.count '\n'
  let column := byteCount (before.reverse.takeWhile (· ≠ '\n'))
  match f.inNext, cs.drop (cs.length - f.left) with
  | true, '\n' :: _ => (lines + 1, 0)
  | true, _ :: _ => (lines, column + 1)
  | _, _ => (lines, column)

/-- The message of a fault in a text: its reason and its place. -/
def Fault.message (f : Fault) (cs : List Char) : String :=
  let (line, column) := f.place cs
  f.cause.text ++ " at line " ++ toString line ++ " column " ++ toString column

/-- The message of the fault of a text, if it has one. -/
def faultMessage? (cs : List Char) : Option String :=
  match read cs with
  | .error f => some (f.message cs)
  | .ok _ => none

end Json

namespace Document

/-- Reads a document from JSON text; blanks may surround it. -/
def ofJson? (text : String) : Except String Document :=
  (Json.read text.toList).mapError (·.message text.toList)

end Document

end Reconcile
