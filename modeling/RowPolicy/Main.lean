import RowPolicy.ConfigFile
import RowPolicy.Gateway

/-!
# The command line

`--config FILE`, or `-c FILE`, names the configuration; without one no table is governed. Requests
are read from standard input, one JSON object a line with the method, the path, the headers as pairs
and the body as text; each is answered with a line that holds the status and the body. What is
logged goes to standard error.
-/

namespace RowPolicy

open Gateway

/-- The file that the arguments name; nothing else may be among them. -/
def configPath? : List String → Option (Option String)
  | [] => some none
  | [option, path] => if option == "--config" || option == "-c" then some (some path) else none
  | _ => none

/-- A header in a request line. -/
def headerOfNode? : Node → Option (String × String)
  | .array [name, value] => do return (← name.text?, ← value.text?)
  | _ => none

/-- The request in a line. -/
def requestOfNode? (node : Node) : Option Request := do
  let members ← Node.members? ["method", "path", "headers", "body"] node
  let method ← Node.field? members "method" Node.text? (some "GET")
  let target ← Node.field? members "path" Node.text? none
  let headers ← Node.field? members "headers" (Node.list? headerOfNode?) (some [])
  let body ← Node.field? members "body" Node.text? (some "")
  return { method, target, headers, body }

/-- The response in a line. -/
def Gateway.Response.toNode (response : Response) : Node :=
  .object [("status", .integer (Int64.ofNat response.status)),
    ("body", response.body.getD .null)]

/-- An event in a line of the log. -/
def Event.line (event : Event) : String :=
  let severity := match event.severity with
    | .warning => "WARN"
    | .error => "ERROR"
  let detail : String × Detail → String
    | (name, .integer n) => " " ++ name ++ "=" ++ toString n
    | (name, .boolean b) => " " ++ name ++ "=" ++ toString b
    | (name, .text text) => " " ++ name ++ "=" ++ text
  severity ++ " " ++ event.message ++ String.join (event.details.map detail)

/-- Writes the log out, and starts a new one. -/
def flushLog (state : State) : IO State := do
  for event in state.log do
    IO.eprintln event.line
  return { state with log := [] }

/-- Answers the requests on standard input. -/
partial def serveLines (gateway : Gateway) (state : State) : IO Unit := do
  let state ← flushLog state
  let line ← (← IO.getStdin).getLine
  if line.isEmpty then return
  match (Json.read line).bind requestOfNode? with
  | none =>
    IO.eprintln "not a request"
    serveLines gateway state
  | some request =>
    let (response, state) := gateway.handle state request
    IO.println (Json.write response.toNode)
    serveLines gateway state

end RowPolicy

open RowPolicy in
/-- Answers requests under the configuration that the arguments name. -/
def main (arguments : List String) : IO UInt32 := do
  let loaded : Except ConfigError Config ←
    match configPath? arguments with
    | none => throw (IO.userError "usage: rowpolicy [--config FILE]")
    | some none =>
      IO.eprintln "no configuration given; no table is governed"
      pure (.ok {})
    | some (some path) => do pure (Config.ofYaml (← IO.FS.readFile path))
  match loaded with
  | .error error =>
    IO.eprintln error.message
    return 1
  | .ok config =>
    serveLines (Gateway.ofConfig config) (Gateway.start config)
    return 0
