import Reconcile.Toml.Reader

/-!
# Reporting TOML errors

An error that points into the source is shown with its line: a header with
the line and column, the line itself between two gutter rules, and carets
under the span. The line and column count from one; the column counts
characters, while the carets cover the span's bytes, cut at the end of the
line and never fewer than one.
-/

namespace Reconcile.Toml

/-- The number of characters that some bytes hold, if they are valid UTF-8. -/
def charCount? (bytes : List UInt8) : Option Nat :=
  (String.fromUTF8? (ByteArray.mk bytes.toArray)).map String.length

/-- The line and column, from zero, of a byte offset. The column counts the
characters from the line's start through the byte at the offset; an offset
past the end counts on from the last byte. -/
def lineColumn (bytes : List UInt8) (index : Nat) : Nat × Nat :=
  if bytes.isEmpty then (0, index)
  else
    let safe := min index (bytes.length - 1)
    let beyond := index - safe
    let before := bytes.take safe
    let lineStart := before.length - (before.reverse.takeWhile (· ≠ 10)).length
    let line := ((bytes.take lineStart).filter (· == 10)).length
    let piece := (bytes.drop lineStart).take (safe - lineStart + 1)
    let column := match charCount? piece with
      | some n => n - 1
      | none => safe - lineStart
    (line, column + beyond)

/-- `n` spaces. -/
def spaces (n : Nat) : String := String.ofList (List.replicate n ' ')

/-- An error message shown with the source line its span points at. -/
def report (source : String) (span : Span) (message : String) : String :=
  let (line, column) := lineColumn source.toUTF8.toList span.start
  let number := toString (line + 1)
  let gutter := number.length
  let content := ((source.splitOn "\n")[line]?).getD ""
  let width := min (span.stop - span.start) (content.utf8ByteSize - column)
  "TOML parse error at line " ++ number ++ ", column " ++ toString (column + 1) ++ "\n" ++
    spaces (gutter + 1) ++ "|\n" ++
    number ++ " | " ++ content ++ "\n" ++
    spaces (gutter + 1) ++ "|" ++ spaces (column + 1) ++ "^" ++ String.ofList (List.replicate (width - 1) '^') ++
    "\n" ++ message ++ "\n"

/-- The number of bytes of the UTF-8 character that starts with a byte. -/
def leadWidth (b : UInt8) : Nat :=
  if b < 0x80 then 1 else if b < 0xE0 then 2 else if b < 0xF0 then 3 else 4

/-- The span of a failure: the bytes of the character at its offset, or
nothing at the end. -/
def Failure.span (f : Failure) (source : String) : Span :=
  match source.toUTF8.toList.drop f.pos with
  | [] => ⟨f.pos, f.pos⟩
  | b :: _ => ⟨f.pos, f.pos + leadWidth b⟩

/-- The text of an error reading a document. -/
def ReadError.text (source : String) : ReadError → String
  | .grammar f => report source (f.span source) f.message
  | .clash c => c.message ++ "\n"

end Reconcile.Toml
