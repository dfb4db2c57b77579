import Reconcile.Request.Navigate
import Reconcile.Request.Cycle
import Reconcile.Request.Secrets
import Reconcile.Request.Agents
import Reconcile.Request.Context
import Reconcile.Request.ConfigFile
import Reconcile.Document.JsonReader

/-!
# Answering one request line

`respond` reads a request from one line of JSON text, runs the operation it
names and writes the answer as one line of JSON text. A line is read without
its line feed, or without the carriage return and line feed that end it.
-/

namespace Reconcile.Request

/-- Runs the operation a request names. -/
def dispatch (req : Document) : Answer :=
  let verbose := flag req "diagnostics"
  match field req "op" with
  | .string "navigate" => navigate verbose req
  | .string "format_path" => formatPath req
  | .string "header" => header verbose req
  | .string "record" => record req
  | .string "secrets" => secrets verbose req
  | .string "agent_queue" => agentQueue verbose req
  | .string "context" => context req
  | .string "config" => config verbose req
  | .string "cycle" => cycle verbose req
  | .string "build" => buildOnly verbose req
  | .string "phases" => phases verbose req
  | .string "cycles" => cycles verbose req
  | .string "yaml_parse" => yamlParse verbose req
  | .string "yaml_dump" => yamlDump verbose req
  | .string "config_file" => configFile verbose req
  | other => refuse ("unknown op " ++ shown other)

/-- The answer document of a request. -/
def answer (req : Document) : Document :=
  match dispatch req with
  | .ok v => .object [("ok", v)]
  | .error e => e

/-- A line without the line end that closes it. -/
def lineBody (line : String) : String :=
  match line.toList.reverse with
  | '\n' :: '\r' :: rest => String.ofList rest.reverse
  | '\n' :: rest => String.ofList rest.reverse
  | _ => line

/-- Answers one line of request text with one line of answer text. -/
def respond (line : String) : String :=
  match Document.ofJson? (lineBody line) with
  | .ok req => (answer req).json
  | .error e => (refusal ("invalid JSON: " ++ e)).json

end Reconcile.Request
