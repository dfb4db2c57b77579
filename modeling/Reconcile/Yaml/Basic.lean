/-!
# YAML text: positions, characters and problems

A YAML reader works over the characters of its input. A position in it is a
mark: the number of characters before it, its line and its column, all from
zero. A character past the end reads as NUL, which a valid input never holds
itself (control characters are refused before reading starts), so NUL marks
the end.

A problem is what the reader reports when the input is not YAML: what is
wrong and where, and what it was doing at the time and where that began. It
is shown as a sentence with the positions counted from one, leaving out a
position that is the very start.
-/

namespace Reconcile.Yaml

/-- A position in the input, counted from zero: `index` in UTF-8 bytes,
`line` and `column` in lines and characters. -/
structure Mark where
  index : Nat := 0
  line : Nat := 0
  column : Nat := 0
  deriving DecidableEq, Repr, Inhabited

namespace Mark

/-- Whether a mark is the start of the input as far as line and column go. -/
def atStart (m : Mark) : Bool := m.line = 0 && m.column = 0

/-- A mark as text, counted from one. -/
def text (m : Mark) : String :=
  "line " ++ toString (m.line + 1) ++ " column " ++ toString (m.column + 1)

end Mark

/-- What the reader reports about input that is not YAML. -/
structure Problem where
  problem : String
  problemMark : Mark := {}
  /-- The byte offset of a character that may not appear at all. -/
  problemOffset : Nat := 0
  context : Option String := none
  contextMark : Mark := {}
  deriving DecidableEq, Repr, Inhabited

/-- A problem as a sentence. The context's mark is left out when it is the
problem's own. -/
def Problem.text (p : Problem) : String :=
  let at_ :=
    if !p.problemMark.atStart then " at " ++ p.problemMark.text
    else if p.problemOffset ≠ 0 then " at position " ++ toString p.problemOffset
    else ""
  let context := match p.context with
    | none => ""
    | some c =>
      let same := p.contextMark.line = p.problemMark.line && p.contextMark.column = p.problemMark.column
      ", " ++ c ++ (if !p.contextMark.atStart && !same then " at " ++ p.contextMark.text else "")
  p.problem ++ at_ ++ context

/-- A line break: carriage return, line feed, next line, line or paragraph
separator. -/
def isBreak (c : Char) : Bool :=
  c = '\r' || c = '\n' || c = '\x85' || c = '\u2028' || c = '\u2029'

/-- A space or a tab. -/
def isBlank (c : Char) : Bool := c = ' ' || c = '\t'

/-- The end of the input. -/
def isEnd (c : Char) : Bool := c = '\x00'

/-- A break or the end. -/
def isBreakEnd (c : Char) : Bool := isBreak c || isEnd c

/-- A blank, a break or the end. -/
def isBlankEnd (c : Char) : Bool := isBlank c || isBreak c || isEnd c

/-- A character of an anchor, a directive name or a tag handle. -/
def isWordChar (c : Char) : Bool :=
  ('0' ≤ c && c ≤ '9') || ('A' ≤ c && c ≤ 'Z') || ('a' ≤ c && c ≤ 'z') || c = '_' || c = '-'

/-- An ASCII digit. -/
def isDigit (c : Char) : Bool := '0' ≤ c && c ≤ '9'

/-- An ASCII hexadecimal digit. -/
def isHex (c : Char) : Bool :=
  isDigit c || ('A' ≤ c && c ≤ 'F') || ('a' ≤ c && c ≤ 'f')

/-- The value of a hexadecimal digit. -/
def hexValue (c : Char) : Nat :=
  if isDigit c then c.toNat - '0'.toNat
  else if 'A' ≤ c && c ≤ 'F' then c.toNat - 'A'.toNat + 10
  else c.toNat - 'a'.toNat + 10

/-- A character the input may hold: tab, the line breaks, and the printable
characters outside the surrogates and the two non-characters at the end of
the basic plane. -/
def isAllowed (c : Char) : Bool :=
  let n := c.toNat
  n = 0x09 || n = 0x0A || n = 0x0D || (0x20 ≤ n && n ≤ 0x7E) || n = 0x85 ||
    (0xA0 ≤ n && n ≤ 0xD7FF) || (0xE000 ≤ n && n ≤ 0xFFFD) || 0x10000 ≤ n

/-- The first character the input may not hold, as a problem at its byte
offset. -/
def refuseControls (text : String) : Option Problem :=
  let rec go : List Char → Nat → Option Problem
    | [], _ => none
    | c :: cs, offset =>
      if isAllowed c then go cs (offset + c.utf8Size)
      else some { problem := "control characters are not allowed", problemOffset := offset }
  go text.toList 0

end Reconcile.Yaml
