/-!
# Writing TOML strings

A string is written in the first of these forms that holds it without
escapes:

* a basic string `"..."`, when it has no backslash, double quote, line break
  or control character;
* a literal string `'...'`, when it has no apostrophe, line break or control
  character;
* a multi-line basic string `"""..."""`, when it has no backslash, control
  character or run of three double quotes;
* a multi-line literal string `'''...'''`, when it has no control character
  or run of three apostrophes.

Any other string is a basic string with escapes, multi-line when it spans
lines. A tab is never in the way, and a basic string writes it as `\t`. A
multi-line string that spans lines has a line break after its opening
delimiter. A run of quotes is of one kind: any other character, the other
quote included, ends it.

A key is written bare when it is not empty and has only ASCII letters,
digits, underscores and hyphens. Otherwise it is a basic string when it
needs no escape but for tabs, a literal string when it can be one, and a
basic string with escapes in the last resort.
-/

namespace Reconcile.Toml

/-- What a scan of a string found. -/
structure Survey where
  /-- The longest run of apostrophes. -/
  apostrophes : Nat := 0
  /-- The longest run of double quotes. -/
  quotes : Nat := 0
  /-- The apostrophes since the last character that is no apostrophe. -/
  apostropheRun : Nat := 0
  /-- The double quotes since the last character that is no double quote. -/
  quoteRun : Nat := 0
  backslash : Bool := false
  lineBreak : Bool := false
  /-- A control character other than tab and line feed. -/
  control : Bool := false
  deriving DecidableEq, Repr, Inhabited

/-- Whether a character can only be written as an escape. -/
def isControl (c : Char) : Bool := (c.toNat ≤ 0x1F && c ≠ '\t' && c ≠ '\n') || c.toNat = 0x7F

/-- Looks at one more character. -/
def Survey.step (s : Survey) (c : Char) : Survey :=
  let s := if c = '\'' then s
    else { s with apostrophes := max s.apostrophes s.apostropheRun, apostropheRun := 0 }
  let s := if c = '"' then s
    else { s with quotes := max s.quotes s.quoteRun, quoteRun := 0 }
  if c = '\'' then { s with apostropheRun := s.apostropheRun + 1 }
  else if c = '"' then { s with quoteRun := s.quoteRun + 1 }
  else if c = '\\' then { s with backslash := true }
  else if c = '\n' then { s with lineBreak := true }
  else if isControl c then { s with control := true }
  else s

/-- The survey of a whole string. -/
def survey (value : String) : Survey :=
  let s := value.toList.foldl Survey.step {}
  { s with apostrophes := max s.apostrophes s.apostropheRun, quotes := max s.quotes s.quoteRun }

/-- The forms a string can take. -/
inductive Form where
  | basic
  | literal
  | multiLineBasic
  | multiLineLiteral
  deriving DecidableEq, Repr, Inhabited

/-- The form a string is written in: the first that needs no escape, or else
a basic string with escapes. -/
def chooseForm (s : Survey) : Form :=
  if !s.control && !s.backslash && s.quotes = 0 && !s.lineBreak then .basic
  else if !s.control && s.apostrophes = 0 && !s.lineBreak then .literal
  else if !s.control && !s.backslash && s.quotes ≤ 2 then .multiLineBasic
  else if !s.control && s.apostrophes ≤ 2 then .multiLineLiteral
  else if s.lineBreak then .multiLineBasic
  else .basic

/-- Four upper-case hexadecimal digits. -/
def hex4 (n : Nat) : String :=
  let ds := Nat.toDigits 16 n
  String.ofList ((List.replicate (4 - ds.length) '0' ++ ds).map Char.toUpper)

/-- The escape of a character that no basic string holds as it is, if it
has one. -/
def escapeOf (c : Char) : Option String :=
  if c = '\x08' then some "\\b"
  else if c = '\t' then some "\\t"
  else if c = '\x0c' then some "\\f"
  else if c = '\r' then some "\\r"
  else if c = '\\' then some "\\\\"
  else if isControl c then some ("\\u" ++ hex4 c.toNat)
  else none

/-- One character of a basic string. -/
def basicChar (c : Char) : String :=
  if c = '\n' then "\\n"
  else if c = '"' then "\\\""
  else (escapeOf c).getD (String.singleton c)

/-- The body of a multi-line basic string: line breaks as they are, and the
third of three double quotes in a row escaped, the count starting afresh
after it. -/
def multiLineBody : Nat → List Char → String
  | _, [] => ""
  | run, c :: cs =>
    if c = '"' then
      if run + 1 ≥ 3 then "\\\"" ++ multiLineBody 0 cs else "\"" ++ multiLineBody (run + 1) cs
    else if c = '\n' then "\n" ++ multiLineBody 0 cs
    else (escapeOf c).getD (String.singleton c) ++ multiLineBody 0 cs

/-- A string as TOML text. -/
def quote (value : String) : String :=
  let s := survey value
  let opening := if s.lineBreak then "\n" else ""
  match chooseForm s with
  | .basic => "\"" ++ String.join (value.toList.map basicChar) ++ "\""
  | .literal => "'" ++ value ++ "'"
  | .multiLineBasic => "\"\"\"" ++ opening ++ multiLineBody 0 value.toList ++ "\"\"\""
  | .multiLineLiteral => "'''" ++ opening ++ value ++ "'''"

/-- Whether a key can be written bare. -/
def isBareKey (key : String) : Bool :=
  !key.toList.isEmpty && key.toList.all fun c => c.isAlphanum || c = '_' || c = '-'

/-- A key as TOML text. -/
def quoteKey (key : String) : String :=
  let s := survey key
  let basic := "\"" ++ String.join (key.toList.map basicChar) ++ "\""
  if isBareKey key then key
  else if !s.control && !s.backslash && s.quotes = 0 && !s.lineBreak then basic
  else if !s.control && s.apostrophes = 0 && !s.lineBreak then "'" ++ key ++ "'"
  else basic

end Reconcile.Toml
