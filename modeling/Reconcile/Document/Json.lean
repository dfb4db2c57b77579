import Reconcile.Document.Basic
import Reconcile.Number.Shortest

/-!
# Documents as JSON text

`Document.json` writes the compact JSON text of a document: no blanks, keys in
mapping order, non-ASCII characters as they are, and only the quote, the
backslash and control characters escaped. Floats take the shortest text that
reads back (`Reconcile.FloatText`). `Reconcile.Document.JsonReader` reads
JSON text back.
-/

namespace Reconcile

namespace Json

/-- The hexadecimal digit of `n < 16`, lower case. -/
def hexDigit (n : Nat) : Char :=
  if n < 10 then Char.ofNat (48 + n) else Char.ofNat (87 + n)

/-- The escape of one character inside a JSON string. -/
def escapeChar (c : Char) : List Char :=
  if c = '"' then ['\\', '"']
  else if c = '\\' then ['\\', '\\']
  else if c = '\n' then ['\\', 'n']
  else if c = '\r' then ['\\', 'r']
  else if c = '\t' then ['\\', 't']
  else if c.toNat = 8 then ['\\', 'b']
  else if c.toNat = 12 then ['\\', 'f']
  else if c.toNat < 32 then
    ['\\', 'u', '0', '0', hexDigit (c.toNat / 16), hexDigit (c.toNat % 16)]
  else [c]

/-- A string as a quoted JSON string. -/
def quote (s : String) : String :=
  String.ofList ('"' :: (s.toList.flatMap escapeChar ++ ['"']))

/-- The text of a number. -/
def number : Number → String
  | .int i => toString i
  | .float bits => FloatText.json.write bits

end Json

namespace Document

mutual
/-- The compact JSON text of a document. -/
def json : Document → String
  | .null => "null"
  | .bool true => "true"
  | .bool false => "false"
  | .number n => Json.number n
  | .string s => Json.quote s
  | .array items => "[" ++ jsonItems items ++ "]"
  | .object fields => "\x7b" ++ jsonFields fields ++ "\x7d"
/-- The items of a sequence, comma separated. -/
def jsonItems : List Document → String
  | [] => ""
  | [d] => json d
  | d :: ds => json d ++ "," ++ jsonItems ds
/-- The entries of a mapping, comma separated. -/
def jsonFields : List (String × Document) → String
  | [] => ""
  | [(k, d)] => Json.quote k ++ ":" ++ json d
  | (k, d) :: fs => Json.quote k ++ ":" ++ json d ++ "," ++ jsonFields fs
end

end Document

end Reconcile
