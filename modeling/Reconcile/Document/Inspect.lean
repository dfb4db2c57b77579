import Reconcile.Document.Json
import Reconcile.Text.Unprintable
import Reconcile.Text.Extender

/-!
# Inspecting documents

The structural rendering of values used by diagnostics and debug output:
strings in double quotes with escapes for quotes, backslashes and characters
that do not print, and documents as `Null`, `Bool(true)`, `Number(1.5)`,
`String("s")`, `Array [..]` and `Object {"k": ..}`, items separated by `, `.

Characters that never print on their own (`Text.isUnprintable`) and marks
that extend the character before them (`Text.isExtender`) are written
`\u{hex}`, with the hexadecimal digits in lower case.
-/

namespace Reconcile.Inspect

/-- Lower-case hexadecimal digits of `n`, without leading zeros. -/
def hex (n : Nat) : String := String.ofList (Nat.toDigits 16 n)

/-- The escape of one character inside a quoted string, if it needs one. -/
def escapeOf? (c : Char) : Option String :=
  if c = '"' then some "\\\""
  else if c = '\\' then some "\\\\"
  else if c = '\n' then some "\\n"
  else if c = '\r' then some "\\r"
  else if c = '\t' then some "\\t"
  else if c.toNat = 0 then some "\\0"
  else if Text.isUnprintable c || Text.isExtender c then
    some ("\\u" ++ String.ofList ['\x7b'] ++ hex c.toNat ++ String.ofList ['\x7d'])
  else none

/-- The escaped form of one character inside a quoted string. -/
def escapeChar (c : Char) : String := (escapeOf? c).getD (String.singleton c)

/-- A string in double quotes, escaped. -/
def quote (s : String) : String :=
  "\"" ++ String.join (s.toList.map escapeChar) ++ "\""

/-- A list of strings as a bracketed list of quoted strings. -/
def quoteList (xs : List String) : String :=
  "[" ++ ", ".intercalate (xs.map quote) ++ "]"

end Reconcile.Inspect

namespace Reconcile.Document

mutual
/-- The structural rendering of a document. -/
def inspect : Document → String
  | .null => "Null"
  | .bool true => "Bool(true)"
  | .bool false => "Bool(false)"
  | .number n => "Number(" ++ Json.number n ++ ")"
  | .string s => "String(" ++ Inspect.quote s ++ ")"
  | .array items => "Array [" ++ inspectItems items ++ "]"
  | .object fields => "Object " ++ String.ofList ['\x7b'] ++ inspectFields fields ++ String.ofList ['\x7d']
/-- Sequence items, separated by commas. -/
def inspectItems : List Document → String
  | [] => ""
  | [d] => inspect d
  | d :: ds => inspect d ++ ", " ++ inspectItems ds
/-- Mapping entries, separated by commas. -/
def inspectFields : List (String × Document) → String
  | [] => ""
  | [(k, d)] => Inspect.quote k ++ ": " ++ inspect d
  | (k, d) :: fs => Inspect.quote k ++ ": " ++ inspect d ++ ", " ++ inspectFields fs
end

end Reconcile.Document
