import Reconcile.Number.Binary64

/-!
# What a plain YAML scalar means

A plain scalar with no tag is read as the first of these it can be: null
(empty, `~`, `null`, `Null`, `NULL`), a boolean (`true`, `True`, `TRUE` and
the same for false), an integer, a float, and otherwise a string.

An integer is decimal with an optional sign, or hexadecimal `0x`, octal `0o`
or binary `0b` after an optional `+` (or after `-` for a negative one).
Leading zeros make a string of decimal digits neither an integer nor a
float: `007` is the string `007`.

A float is `.inf`, `-.inf`, `.nan` in three spellings each, or a finite
decimal float with an optional exponent; a decimal too large for binary64 is
a string.
-/

namespace Reconcile.Yaml

/-- Whether a scalar is written as null. -/
def isNullWord (s : String) : Bool := s = "~" || s = "null" || s = "Null" || s = "NULL"

/-- The boolean a scalar is written as. -/
def boolWord? (s : String) : Option Bool :=
  if s = "true" || s = "True" || s = "TRUE" then some true
  else if s = "false" || s = "False" || s = "FALSE" then some false
  else none

/-- The value of a digit in a radix. -/
def digitIn (radix : Nat) (c : Char) : Option Nat :=
  let v :=
    if '0' ≤ c && c ≤ '9' then some (c.toNat - '0'.toNat)
    else if 'a' ≤ c && c ≤ 'z' then some (c.toNat - 'a'.toNat + 10)
    else if 'A' ≤ c && c ≤ 'Z' then some (c.toNat - 'A'.toNat + 10)
    else none
  match v with
  | some d => if d < radix then some d else none
  | none => none

/-- At least one digit of a radix, as a number. -/
def digitsValue (radix : Nat) (cs : List Char) : Option Nat :=
  if cs.isEmpty then none
  else cs.foldl (fun acc c => match acc, digitIn radix c with
    | some v, some d => some (v * radix + d)
    | _, _ => none) (some 0)

/-- A number in a radix with an optional sign: `+` always, `-` when it may
be negative. -/
def signedValue (negative : Bool) (radix : Nat) (cs : List Char) : Option Int :=
  match cs with
  | '+' :: rest => (digitsValue radix rest).map Int.ofNat
  | '-' :: rest => if negative then (digitsValue radix rest).map (fun v => -Int.ofNat v) else none
  | _ => (digitsValue radix cs).map Int.ofNat

/-- Whether a scalar is digits with a leading zero, after an optional sign:
a string, not a number. -/
def digitsButNotNumber (s : String) : Bool :=
  let cs := match s.toList with
    | '-' :: rest | '+' :: rest => rest
    | cs => cs
  cs.length > 1 && cs.head? = some '0' && cs.tail.all fun c => '0' ≤ c && c ≤ '9'

/-- A scalar as a non-negative integer of any size. -/
def unsignedValue? (s : String) : Option Nat :=
  let unpositive := match s.toList with
    | '+' :: rest => rest
    | cs => cs
  let radixed := fun (marker : Char) (radix : Nat) =>
    match unpositive with
    | '0' :: m :: rest =>
      if m = marker && rest.head? ≠ some '+' && rest.head? ≠ some '-' then digitsValue radix rest else none
    | _ => none
  let blocked := fun (marker : Char) =>
    match unpositive with
    | '0' :: m :: rest => m = marker && (rest.head? = some '+' || rest.head? = some '-')
    | _ => false
  if blocked 'x' then none
  else match radixed 'x' 16 with
  | some v => some v
  | none =>
    if blocked 'o' then none
    else match radixed 'o' 8 with
    | some v => some v
    | none =>
      if blocked 'b' then none
      else match radixed 'b' 2 with
      | some v => some v
      | none =>
        if unpositive.head? = some '+' || unpositive.head? = some '-' then none
        else if digitsButNotNumber s then none
        else digitsValue 10 unpositive

/-- A scalar as a possibly negative integer of any size. -/
def negativeValue? (s : String) : Option Int :=
  let radixed := fun (marker : Char) (radix : Nat) =>
    match s.toList with
    | '-' :: '0' :: m :: rest => if m = marker then signedValue true radix ('-' :: rest) else none
    | _ => none
  match radixed 'x' 16 with
  | some v => some v
  | none =>
    match radixed 'o' 8 with
    | some v => some v
    | none =>
      match radixed 'b' 2 with
      | some v => some v
      | none => if digitsButNotNumber s then none else signedValue true 10 s.toList

/-- What an integer scalar comes to: one that fits in 64 bits, one that fits
only in 128, or one too large even for that. -/
inductive IntegerFit where
  | fits (value : Int)
  | tooLarge
  | none
  deriving DecidableEq, Repr, Inhabited

/-- Reads a scalar as an integer: unsigned 64-bit, then signed 64-bit, then
the 128-bit forms, which no document number holds. -/
def integerFit (s : String) : IntegerFit :=
  match unsignedValue? s with
  | some v =>
    if v < Nat.pow 2 64 then .fits v
    else if v < Nat.pow 2 128 then .tooLarge
    else .none
  | none =>
    match negativeValue? s with
    | some v =>
      if -(Nat.pow 2 63 : Int) ≤ v && v < Nat.pow 2 63 then .fits v
      else if -(Nat.pow 2 127 : Int) ≤ v && v < Nat.pow 2 127 then .tooLarge
      else .none
    | none => .none

/-- A finite float written in decimal: digits with an optional point and
fraction, then an optional exponent, after an optional sign. -/
def decimalFloat? (s : String) : Option UInt64 :=
  let (neg, body) := match s.toList with
    | '-' :: rest => (true, rest)
    | '+' :: rest => (false, rest)
    | cs => (false, cs)
  let isD := fun c => '0' ≤ c && c ≤ '9'
  let whole := body.takeWhile isD
  let rest := body.drop whole.length
  let (frac, rest) := match rest with
    | '.' :: r => (r.takeWhile isD, r.drop (r.takeWhile isD).length)
    | r => ([], r)
  let exponent : Option Int := match rest with
    | [] => some 0
    | e :: r =>
      if e = 'e' || e = 'E' then
        match r with
        | '-' :: ds => (digitsValue 10 ds).map (fun v => -Int.ofNat v)
        | '+' :: ds => (digitsValue 10 ds).map Int.ofNat
        | ds => (digitsValue 10 ds).map Int.ofNat
      else none
  if whole.isEmpty && frac.isEmpty then none
  else
    match exponent with
    | none => none
    | some e =>
      let digits := (digitsValue 10 (whole ++ frac)).getD 0
      match Binary64.ofDecimal neg digits (e - frac.length) with
      | some bits => if Binary64.isFinite bits then some bits else none
      | none => none

/-- A float scalar: an infinity or NaN by its YAML name, or a finite decimal
float. -/
inductive FloatWord where
  | finite (bits : UInt64)
  | infinite
  deriving DecidableEq, Repr, Inhabited

/-- Reads a scalar as a float. A `+` may lead, but not before another sign. -/
def floatWord? (s : String) : Option FloatWord :=
  let unpositive? := match s.toList with
    | '+' :: rest => if rest.head? = some '+' || rest.head? = some '-' then none else some (String.ofList rest)
    | _ => some s
  match unpositive? with
  | none => none
  | some u =>
    if u = ".inf" || u = ".Inf" || u = ".INF" then some .infinite
    else if s = "-.inf" || s = "-.Inf" || s = "-.INF" then some .infinite
    else if s = ".nan" || s = ".NaN" || s = ".NAN" then some .infinite
    else (decimalFloat? u).map .finite

/-- What an untagged plain scalar is read as. -/
inductive PlainMeaning where
  | null
  | bool (value : Bool)
  | integer (fit : IntegerFit)
  | float (word : FloatWord)
  | text
  deriving DecidableEq, Repr, Inhabited

/-- Reads an untagged plain scalar. -/
def plainMeaning (s : String) : PlainMeaning :=
  if s.isEmpty || isNullWord s then .null
  else match boolWord? s with
  | some b => .bool b
  | none =>
    match integerFit s with
    | .none =>
      if digitsButNotNumber s then .text
      else match floatWord? s with
      | some w => .float w
      | none => .text
    | fit => .integer fit

end Reconcile.Yaml
