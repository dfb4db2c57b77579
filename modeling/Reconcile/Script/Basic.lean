import Reconcile.Request.Basic

/-!
# Scripted nodes

A scripted node is an adapter whose every step is written down in a document:
its name, where it sits, how it edits its spec, the tags it builds, the
agents it declares, its children, and how its convergence ends. It lets a
whole reconcile cycle be driven from data.

All fields are optional. The name defaults to `node`, the id to the name, the
path to `[id]`, the tags to `test/<name>` and `v1`, and the state to
`{"name": <name>}`. A field that the node reads by presence (`hand_down`,
`fail_build`, `fail`, `partial`, `state`) counts when it is null too.

A node's rewrite may change its spec mapping in any way; the document form
writes one down as a list of edits of single keys (`SpecEdit`).
-/

namespace Reconcile

/-- One edit of a node's spec mapping. -/
inductive SpecEdit where
  /-- Sets `key` to `value`. -/
  | set (key : String) (value : Document)
  /-- Sets `key` to `value` unless `key` is there. -/
  | default (key : String) (value : Document)
  /-- Removes `key`. -/
  | remove (key : String)
  /-- Removes every key. -/
  | clear
  deriving Repr, Inhabited

namespace SpecEdit

/-- Applies one edit to a spec mapping. -/
def apply : SpecEdit → Mapping → Mapping
  | .set key value, m => Keyed.insert key value m
  | .default key value, m => if Keyed.contains key m then m else Keyed.insert key value m
  | .remove key, m => Keyed.erase key m
  | .clear, _ => []

/-- Applies edits in order. -/
def applyAll (edits : List SpecEdit) (m : Mapping) : Mapping :=
  edits.foldl (fun acc e => e.apply acc) m

end SpecEdit

/-- One agent a scripted node declares while it builds. -/
structure AgentScript where
  /-- The agent's path below the node. -/
  path : List String
  spec : Document
  /-- Logs a failure and goes on instead of failing the build. -/
  ignoreErrors : Bool := false
  /-- Declares a spec that cannot be written as a document. -/
  badSpec : Bool := false
  deriving Repr, Inhabited

/-- A scripted node and its children. -/
structure Script where
  name : String
  id : String
  path : List String
  /-- Reports the default identity instead of the name. -/
  plain : Bool := false
  /-- Logs the placement and the built value. -/
  debug : Bool := false
  /-- Changes the node's spec mapping before it builds. -/
  rewrite : Option (Mapping → Mapping) := none
  kind : String
  version : String
  /-- Takes the tags from the desired document's header. -/
  kindFromDesired : Bool := false
  handDown : Option Document := none
  failBuild : Option String := none
  /-- Declares the agents before a refused build. -/
  agentsBeforeFail : Bool := false
  writeSecret : Option String := none
  secretValue : List UInt8 := []
  /-- Reads the desired document as a header while building. -/
  decodeHeader : Bool := false
  agents : List AgentScript := []
  children : List Script := []
  /-- Cancels the cycle while converging. -/
  cancel : Bool := false
  readSecret : Option String := none
  fail : Option String := none
  /-- The state kept by a failed convergence. -/
  leftover : Option Document := none
  /-- Converges to a state that cannot be written as a document. -/
  badState : Bool := false
  state : Document
  /-- Adds the children's states to an object state. -/
  reportChildren : Bool := false
  deriving Inhabited

namespace Script

open Request

/-- Reads one spec edit; an edit of no known kind is none. -/
def editOf (d : Document) : Option SpecEdit :=
  let key := shown (field d "key")
  match field d "op" with
  | .string "set" => some (.set key (field d "value"))
  | .string "default" => some (.default key (field d "value"))
  | .string "remove" => some (.remove key)
  | .string "clear" => some .clear
  | _ => none

/-- Reads the spec edits; anything but a list means the node edits nothing. -/
def editsOf : Document → Option (List SpecEdit)
  | .array items => some (items.filterMap editOf)
  | _ => none

/-- Reads one agent declaration. -/
def agentOf (d : Document) : Except Document AgentScript := do
  let path ← strings "agent path" (field d "path")
  .ok { path, spec := field d "spec", ignoreErrors := flag d "ignore_errors", badSpec := flag d "bad_spec" }

/-- Reads the agent declarations; anything but a list declares none. -/
def agentsOf : Document → Except Document (List AgentScript)
  | .array items => items.mapM agentOf
  | _ => .ok []

/-- A message field read by presence: a string, or the default for null. -/
def messageOf (d : Document) (key fallback : String) : Option String :=
  (d.get? key).map fun
    | .string s => s
    | _ => fallback

/-- Reads a node's own fields, given its children. -/
def fieldsOf (d : Document) (children : List Script) : Except Document Script := do
  let name := (optString d "name").getD "node"
  let id := (optString d "id").getD name
  -- a path that is there, even null, is the node's path; only a missing one is its id
  let path ← match d.get? "path" with
    | none => .ok [id]
    | some p => strings "path" p
  let rewrite := (editsOf (field d "rewrite")).map SpecEdit.applyAll
  let kind := (optString d "kind").getD ("test/" ++ name)
  let version := (optString d "version").getD "v1"
  let writeSecret := optString d "write_secret"
  -- only text is a secret's value; anything else writes no bytes
  let secretValue := match field d "secret_value" with
    | .string s => s.toUTF8.toList
    | _ => []
  let agents ← agentsOf (field d "agents")
  let readSecret := optString d "read_secret"
  .ok { name, id, path, rewrite, kind, version, writeSecret, secretValue, agents, children, readSecret
        plain := flag d "plain"
        debug := flag d "debug"
        kindFromDesired := flag d "kind_from_desired"
        handDown := d.get? "hand_down"
        failBuild := messageOf d "fail_build" (name ++ " refused to build")
        agentsBeforeFail := flag d "agents_before_fail"
        decodeHeader := flag d "decode_header"
        cancel := flag d "cancel"
        fail := messageOf d "fail" (name ++ " failed")
        leftover := d.get? "partial"
        badState := flag d "bad_state"
        state := (d.get? "state").getD (.object [("name", .string name)])
        reportChildren := flag d "report_children" }

mutual
/-- Reads a scripted node: its children first, then its own fields. -/
def ofDocument : Document → Except Document Script
  | d@(.object fs) => do
    let children ← childrenOf fs
    fieldsOf d children
  | _ => refuse "node must be an object"
/-- Reads the children listed under the key `children`; anything but a list
lists none. -/
def childrenOf : List (String × Document) → Except Document (List Script)
  | [] => .ok []
  | (k, v) :: rest =>
    if k = "children" then
      match v with
      | .array items => ofList items
      | _ => .ok []
    else childrenOf rest
/-- Reads a list of scripted nodes. -/
def ofList : List Document → Except Document (List Script)
  | [] => .ok []
  | d :: ds => do
    let s ← ofDocument d
    let ss ← ofList ds
    .ok (s :: ss)
end

mutual
/-- The number of nodes of a script. -/
def weight : Script → Nat
  | { children, .. } => 1 + weightAll children
/-- The number of nodes of a list of scripts. -/
def weightAll : List Script → Nat
  | [] => 0
  | c :: cs => weight c + weightAll cs
end

theorem weight_le_weightAll {c : Script} : {cs : List Script} → c ∈ cs → weight c ≤ weightAll cs
  | _ :: cs, .head _ => by simp only [weightAll]; omega
  | d :: cs, .tail _ h => by
    have := weight_le_weightAll h
    simp only [weightAll]
    omega

/-- A child weighs less than its parent. -/
theorem weight_lt_of_mem_children {s c : Script} (h : c ∈ s.children) : weight c < weight s := by
  obtain ⟨_, _, _, _, _, _, _, _, _, _, _, _, _, _, _, _, children, _, _, _, _, _, _, _⟩ := s
  have hc : weight c ≤ weightAll children := weight_le_weightAll h
  simp only [weight]
  omega

end Script

end Reconcile
