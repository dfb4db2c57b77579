import Reconcile.Toml.Lexeme

/-!
# Reading TOML documents

Values, arrays and inline tables, then the document: key-value lines, table
headers, array-of-tables headers, comments and blank lines. Lines are put in
place as they are read: a key-value line goes into the table the last header
opened, a header closes that table and opens the next.

A key may be defined once per table. A header may open a table only once,
except one that was created implicitly on the way to a deeper one; dotted
keys may extend only tables they created themselves.
-/

namespace Reconcile.Toml

/-! ## Values -/

/-- The notes of a value that is not one of the known kinds. -/
def notAString : List Note := [.reading "string", Expect.char '"', Expect.char '\'']

/-- Puts one dotted key-value pair into an inline table. -/
def placeInline (key : Key) (value : Node) (path : List Key) :
    List Key → TableInfo → Entries → Except Clash (TableInfo × Entries)
  | [], info, es =>
    if info.dotted = path.isEmpty then .error (.duplicateKey key.name none)
    else if (es.find? key.name).isSome then .error (.duplicateKey key.name none)
    else .ok (info, es ++ [(key, value)])
  | k :: rest, info, es =>
    let dotted := !path.isEmpty
    match es.find? k.name with
    | none => do
      let (ci, ces) ← placeInline key value path rest { implicit := dotted, dotted } []
      .ok (info, es.put k (.inlineTable ci ces))
    | some (.inlineTable ci ces) =>
      if dotted && !ci.implicit then .error (.duplicateKey k.name none)
      else do
        let (ci, ces) ← placeInline key value path rest ci ces
        .ok (info, es.put k (.inlineTable ci ces))
    | some v =>
      .error (.extendWrongType ((path.take (path.length - rest.length)).map Key.name) v.typeName)

/-- Builds an inline table from its key-value pairs, in order. -/
def inlineOfPairs (pairs : List (List Key × Key × Node)) : Except Clash (TableInfo × Entries) :=
  pairs.foldlM (fun (acc : TableInfo × Entries) p => placeInline p.2.1 p.2.2 p.1 p.1 acc.1 acc.2) ({}, [])

/-- Splits a key path into the tables it walks through and its last key. -/
def splitLast : List Key → List Key × Key
  | [] => ([], default)
  | [k] => ([], k)
  | k :: rest => let (init, last) := splitLast rest; (k :: init, last)

/-- How deep arrays and inline tables may nest: opening one inside 79 others
fails. -/
def nestingLimit : Nat := 80

/-- The failure of a value that opens one array or inline table too many. -/
def tooDeep (c : Cursor) : Failure := { c.stop with cause := some "recursion limit exceeded" }

mutual
/-- Reads a value inside `depth` arrays and inline tables. -/
def value : Nat → Nat → Cursor → Read Node
  | 0, _, c => .error c.stop
  | n + 1, depth, c =>
    let spanned (d : Cursor) : Span := ⟨c.pos, d.pos⟩
    match c.rest with
    | [] => .error c.miss
    | x :: _ =>
      if x = '"' || x = '\'' then
        (string c).map fun (s, d) => (.string (spanned d) s, d)
      else if x = '[' || x = '{' then
        if depth + 1 < nestingLimit then
          if x = '[' then array n (depth + 1) c else inlineTable n (depth + 1) c
        else .error (tooDeep c)
      else if x = '+' || x = '-' || x.isDigit then
        match dateTime c with
        | .ok d => .ok (.datetime (spanned d), d)
        | .error f =>
          if f.committed then .error f
          else match float c with
            | .ok (bits, d) => .ok (.float (spanned d) bits, d)
            | .error f =>
              if f.committed then .error f
              else (integer c).map fun (v, d) => (.integer (spanned d) v, d)
      else if x = '_' then
        ((integer c).map fun (v, d) => (.integer (spanned d) v, d)).mapError
          (·.note (Expect.described "leading digit"))
      else if x = '.' then
        ((float c).map fun (bits, d) => (.float (spanned d) bits, d)).mapError
          (·.note (Expect.described "leading digit"))
      else if x = 't' then
        if c.startsWith "true" then .ok (.boolean (spanned (c.skip 4)) true, c.skip 4)
        else .error (c.stop notAString)
      else if x = 'f' then
        if c.startsWith "false" then .ok (.boolean (spanned (c.skip 5)) false, c.skip 5)
        else .error (c.stop notAString)
      else if x = 'i' then
        if c.startsWith "inf" then .ok (.float (spanned (c.skip 3)) infinity, c.skip 3)
        else .error (c.miss notAString)
      else if x = 'n' then
        if c.startsWith "nan" then .ok (.float (spanned (c.skip 3)) notANumber, c.skip 3)
        else .error (c.miss notAString)
      else .error (c.miss notAString)
termination_by structural fuel => fuel

/-- Reads one array item with the blanks, comments and line ends around it. -/
def arrayItem : Nat → Nat → Cursor → Read Node
  | 0, _, c => .error c.stop
  | n + 1, depth, c =>
    match wsCommentNewline (c.rest.length + 1) c with
    | .error f => .error f
    | .ok d =>
      match value n depth d with
      | .error f => .error f
      | .ok (v, e) => (wsCommentNewline (e.rest.length + 1) e).map fun g => (v, g)
termination_by structural fuel => fuel

/-- Reads further array items, each after a comma. -/
def arrayRest (acc : List Node) : Nat → Nat → Cursor → Read (List Node)
  | 0, _, c => .ok (acc.reverse, c)
  | n + 1, depth, c =>
    if c.peek? = some ',' then
      match arrayItem n depth c.next with
      | .ok (v, d) => arrayRest (v :: acc) n depth d
      | .error f => if f.committed then .error f else .ok (acc.reverse, c)
    else .ok (acc.reverse, c)
termination_by structural fuel => fuel

/-- Reads an array inside `depth - 1` others; the cursor is at its bracket. -/
def array : Nat → Nat → Cursor → Read Node
  | 0, _, c => .error c.stop
  | n + 1, depth, c =>
    let d := c.next
    let items : Read (List Node) := match arrayItem n depth d with
      | .ok (v, e) =>
        match arrayRest [v] n depth e with
        | .ok (vs, g) => .ok (vs, if g.peek? = some ',' then g.next else g)
        | .error f => .error f
      | .error f => if f.committed then .error f else .ok ([], d)
    match items with
    | .error f => .error f.commit
    | .ok (vs, e) =>
      match wsCommentNewline (e.rest.length + 1) e with
      | .error f => .error f.commit
      | .ok g =>
        if g.peek? = some ']' then .ok (.array ⟨c.pos, g.next.pos⟩ vs, g.next)
        else .error (g.stop [.reading "array", Expect.char ']'])
termination_by structural fuel => fuel

/-- Reads one key-value pair of an inline table. -/
def inlinePair : Nat → Nat → Cursor → Read (List Key × Key × Node)
  | 0, _, c => .error c.stop
  | n + 1, depth, c =>
    match keyPath c with
    | .error f => .error f
    | .ok (path, d) =>
    if d.peek? = some '=' then
      match value n depth (ws d.next) with
      | .ok (v, e) =>
        let (init, last) := splitLast path
        .ok ((init, last, v), ws e)
      | .error f => .error f.commit
    else .error (d.stop [Expect.char '.', Expect.char '='])
termination_by structural fuel => fuel

/-- Reads further key-value pairs of an inline table, each after a comma. -/
def inlineRest (acc : List (List Key × Key × Node)) :
    Nat → Nat → Cursor → Read (List (List Key × Key × Node))
  | 0, _, c => .ok (acc.reverse, c)
  | n + 1, depth, c =>
    if c.peek? = some ',' then
      match inlinePair n depth c.next with
      | .ok (p, d) => inlineRest (p :: acc) n depth d
      | .error f => if f.committed then .error f else .ok (acc.reverse, c)
    else .ok (acc.reverse, c)
termination_by structural fuel => fuel

/-- Reads an inline table; the cursor is at its brace. -/
def inlineTable : Nat → Nat → Cursor → Read Node
  | 0, _, c => .error c.stop
  | n + 1, depth, c =>
    let d := c.next
    let pairs : Read (List (List Key × Key × Node)) := match inlinePair n depth d with
      | .ok (p, e) => inlineRest [p] n depth e
      | .error f => if f.committed then .error f else .ok ([], d)
    match pairs with
    | .error f => .error f.commit
    | .ok (ps, e) =>
      let e := ws e
      match inlineOfPairs ps with
      | .error clash => .error { d.stop with cause := some clash.message }
      | .ok (info, es) =>
        if e.peek? = some '}' then
          .ok (.inlineTable { info with span := some ⟨c.pos, e.next.pos⟩ } es, e.next)
        else .error (e.stop [.reading "inline table", Expect.char '}'])
termination_by structural fuel => fuel
end

/-! ## Putting lines in place -/

/-- Walks down `path` from a table, creating implicit tables on the way, and
changes the table at the end with `f`. Dotted keys may not walk into a table
a header opened. -/
def descend {β : Type} (dotted : Bool) (full : List Key)
    (f : TableInfo → Entries → Except Clash (TableInfo × Entries × β)) :
    List Key → TableInfo → Entries → Except Clash (TableInfo × Entries × β)
  | [], info, es => f info es
  | k :: rest, info, es =>
    let depth := full.length - rest.length
    match es.find? k.name with
    | none => do
      let (ci, ces, b) ← descend dotted full f rest { implicit := true, dotted } []
      .ok (info, es.put k (.table ci ces), b)
    | some (.table ci ces) =>
      if dotted && !ci.implicit then .error (.duplicateKey k.name none)
      else do
        let (ci, ces, b) ← descend dotted full f rest ci ces
        .ok (info, es.put k (.table ci ces), b)
    | some (.tables sp items) =>
      match items.getLast? with
      | some (.table ci ces) => do
        let (ci, ces, b) ← descend dotted full f rest ci ces
        .ok (info, es.put k (.tables sp (items.dropLast ++ [.table ci ces])), b)
      | _ => .error (.duplicateKey k.name none)
    | some v => .error (.extendWrongType ((full.take depth).map Key.name) v.typeName)

/-- A document being read: its root, and the table the last header opened. -/
structure Assembly where
  rootInfo : TableInfo := {}
  root : Entries := []
  info : TableInfo := {}
  current : Entries := []
  /-- The path of the open table; empty for the root. -/
  path : List Key := []
  /-- Whether the open table is an element of an array of tables. -/
  isArray : Bool := false
  deriving Repr, Inhabited

namespace Assembly

/-- Puts a key-value line into the open table. -/
def addPair (st : Assembly) (path : List Key) (key : Key) (v : Node) : Except Clash Assembly := do
  let info := match st.info.span, v.span? with
    | some s, some vs => { st.info with span := some ⟨s.start, vs.stop⟩ }
    | _, _ => st.info
  let place (t : TableInfo) (es : Entries) : Except Clash (TableInfo × Entries × Unit) :=
    if t.dotted = path.isEmpty then .error (.duplicateKey key.name none)
    else if (es.find? key.name).isSome then .error (.duplicateKey key.name (some (st.path.map Key.name)))
    else .ok (t, es ++ [(key, v)], ())
  let (info, current, ()) ← descend true path place path info st.current
  .ok { st with info, current }

/-- The span of an array of tables: from its first table to its last. -/
def tablesSpan (items : List Node) : Option Span :=
  match (items.head?.bind Node.span?), (items.getLast?.bind Node.span?) with
  | some a, some b => some ⟨a.start, b.stop⟩
  | _, _ => none

/-- Puts the open table into the root. -/
def finish (st : Assembly) : Except Clash Assembly := do
  let table := Node.table st.info st.current
  match st.path with
  | [] => .ok { st with rootInfo := st.info, root := st.current, info := {}, current := [] }
  | _ =>
    let (init, key) := splitLast st.path
    let n := st.path.length - 1
    let put (t : TableInfo) (es : Entries) : Except Clash (TableInfo × Entries × Unit) :=
      if st.isArray then
        match es.find? key.name with
        | some (.tables _ items) =>
          let items := items ++ [table]
          .ok (t, es.put key (.tables (tablesSpan items) items), ())
        | none => .ok (t, es ++ [(key, .tables (tablesSpan [table]) [table])], ())
        | some _ => .error (Clash.duplicateAt st.path n)
      else
        match es.find? key.name with
        | some (.table ci _) =>
          if ci.implicit then .ok (t, es.put key table, ()) else .error (Clash.duplicateAt st.path n)
        | some _ => .error (Clash.duplicateAt st.path n)
        | none => .ok (t, es ++ [(key, table)], ())
    let (rootInfo, root, ()) ← descend false init put init st.rootInfo st.root
    .ok { st with rootInfo, root, info := {}, current := [], path := [] }

/-- Opens the table a header names. -/
def openTable (st : Assembly) (path : List Key) (span : Span) : Except Clash Assembly := do
  let st ← st.finish
  let (init, key) := splitLast path
  let n := path.length - 1
  let take (t : TableInfo) (es : Entries) : Except Clash (TableInfo × Entries × Entries) :=
    match es.find? key.name with
    | some (.table ci ces) =>
      if ci.implicit && !ci.dotted then .ok (t, es.remove key.name, ces)
      else .error (Clash.duplicateAt path n)
    | some _ => .error (Clash.duplicateAt path n)
    | none => .ok (t, es, [])
  let (rootInfo, root, current) ← descend false init take init st.rootInfo st.root
  .ok { rootInfo, root, current, info := { span := some span }, path, isArray := false }

/-- Opens a new table of the array of tables a header names. -/
def openArrayTable (st : Assembly) (path : List Key) (span : Span) : Except Clash Assembly := do
  let st ← st.finish
  let (init, key) := splitLast path
  let n := path.length - 1
  let check (t : TableInfo) (es : Entries) : Except Clash (TableInfo × Entries × Unit) :=
    match es.find? key.name with
    | some (.tables _ _) => .ok (t, es, ())
    | some _ => .error (Clash.duplicateAt path n)
    | none => .ok (t, es ++ [(key, .tables none [])], ())
  let (rootInfo, root, ()) ← descend false init check init st.rootInfo st.root
  .ok { rootInfo, root, current := [], info := { span := some span }, path, isArray := true }

end Assembly

/-! ## Lines -/

/-- A failure caused by keys or tables that do not fit, at the start of the
line that put them together. -/
def clashAt (c : Cursor) (clash : Clash) : Failure := { c.stop with cause := some clash.message }

/-- Reads a table header line, `[a.b]` or `[[a.b]]`, and opens its table. -/
def header (st : Assembly) (c : Cursor) : Except Failure (Assembly × Cursor) := do
  let double := c.startsWith "[["
  let (opening, closing) := if double then (2, "]]") else (1, "]")
  let (path, d) ← committed (keyPath (c.skip opening))
  if d.startsWith closing then
    let e := d.skip opening
    let g ← (lineTrailing e).mapError fun f => (f.addNotes [Expect.newline, Expect.char '#']).commit
    let span : Span := ⟨c.pos, e.pos⟩
    let opened := if double then st.openArrayTable path span else st.openTable path span
    match opened with
    | .ok st => .ok (st, g)
    | .error clash => .error (clashAt c clash)
  else .error (d.stop [Expect.char '.', Expect.text closing])

/-- Reads a key-value line and puts it into the open table. -/
def pairLine (fuel : Nat) (st : Assembly) (c : Cursor) : Except Failure (Assembly × Cursor) := do
  let (path, d) ← keyPath c
  if d.peek? = some '=' then
    let (v, e) ← value fuel 0 (ws d.next)
    let g ← (lineTrailing e).mapError fun f => f.addNotes [Expect.newline, Expect.char '#']
    let (init, key) := splitLast path
    match st.addPair init key v with
    | .ok st => .ok (st, g)
    | .error clash => .error (clashAt c clash)
  else .error (d.stop [Expect.char '.', Expect.char '='])

/-- Reads the lines of a document, from the start of a line's content. -/
def lines (fuel : Nat) (st : Assembly) : Nat → Cursor → Except Failure (Assembly × Cursor)
  | 0, c => .ok (st, c)
  | n + 1, c =>
    match c.rest with
    | [] => .ok (st, c)
    | '#' :: _ =>
      match lineEnding ((comment? c).getD c) with
      | .ok d => lines fuel st n (ws d)
      | .error f => .error f.commit
    | '[' :: _ =>
      match header st c with
      | .ok (st, d) => lines fuel st n (ws d)
      | .error f => .error (f.note (.reading "table header")).commit
    | '\n' :: _ | '\r' :: _ =>
      match newline? c with
      | some d => lines fuel st n (ws d)
      | none => .ok (st, c)
    | _ =>
      match pairLine fuel st c with
      | .ok (st, d) => lines fuel st n (ws d)
      | .error f => .error f.commit

/-- Why a text is not a TOML document. -/
inductive ReadError where
  /-- The text breaks the grammar at a place. -/
  | grammar (f : Failure)
  /-- The last table clashes with an earlier one. -/
  | clash (c : Clash)
  deriving DecidableEq, Repr, Inhabited

/-- Reads a document into its root table. -/
def read (text : String) : Except ReadError Entries :=
  let cs := text.toList
  let c : Cursor := match cs with
    | '﻿' :: r => ⟨r, 3⟩
    | r => ⟨r, 0⟩
  let fuel := 4 * (cs.length + 2)
  match lines fuel {} (cs.length + 1) (ws c) with
  | .error f => .error (.grammar f)
  | .ok (st, d) =>
    if d.rest.isEmpty then
      match st.finish with
      | .ok st => .ok st.root
      | .error clash => .error (.clash clash)
    else .error (.grammar d.miss)

end Reconcile.Toml
