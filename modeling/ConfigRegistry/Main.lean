import ConfigRegistry.Service.Startup
import ConfigRegistry.Session.Basic

set_option autoImplicit false

/-!
The command line. Settings come from the environment and the arguments; requests come one per line, as a method,
a target and, if wanted, an idempotency key and a body, with tabs between them.
-/
namespace ConfigRegistry.Main

open Service (StartFailure Started)

def variableNames : List String :=
  ["BIND_ADDR", "REDIS_URL", "IDEMPOTENCY_KEY_PREFIX", "RATE_LIMIT_PER_SECOND", "RATE_LIMIT_BURST",
   "RATE_LIMIT_IDLE_TTL_SECS", "MAX_BODY_BYTES", "LOG_LEVEL"]

def usage : String :=
  "Configuration management API with idempotent writes and per-client request throttling\n\n" ++
  "Usage: config-service [OPTIONS]\n\n" ++
  "Options:\n" ++
  "      --bind-addr <BIND_ADDR>  Address to listen on\n" ++
  "      --redis-url <REDIS_URL>  Redis connection URL\n" ++
  "      --log-level <LOG_LEVEL>  Log level for the service's own events\n" ++
  "  -h, --help                   Print help\n" ++
  "  -V, --version                Print version"

def explain : StartFailure → String × UInt32
  | .load (.arguments .displayHelp) => (usage, 0)
  | .load (.arguments .displayVersion) => ("config-service " ++ Service.serviceVersion, 0)
  | .load (.arguments refusal) => ("error: " ++ refusal.name, 2)
  | .load failure => ("Failed to load configuration: " ++ failure.message, 1)
  | .service failure => ("Invalid configuration: " ++ failure.message, 1)

def sessionOf (started : Started) : Session := { desk := started.desk, gate := started.gate }

def requestOf (line : String) : Option Http.Request :=
  match (Text.splitAtChar '\t' line.toList).map String.ofList with
  | method :: target :: rest => some
      { method, target := Text.toBytes target
        keys := rest.take 1 |>.filter (fun key => !key.isEmpty) |>.map Text.toBytes
        contentType := some (Text.toBytes Http.jsonType)
        body := Text.toBytes ((rest.drop 1).headD "") }
  | _ => none

def answerLine : Session.Answer → String
  | .response response => toString response.status ++ " " ++ Text.ofBytesLossy response.body
  | _ => ""

def dial (_ : Store.Endpoint) : Option Store.SystemFault := some Store.networkUnreachable

partial def serve (input output : IO.FS.Stream) (session : Session) : IO Unit := do
  let line ← input.getLine
  if line.isEmpty then return
  match requestOf (Text.trim line) with
  | none => serve input output session
  | some request =>
      let (answer, session) := session.step (.request request {} none)
      output.putStrLn (answerLine answer)
      output.flush
      serve input output session

end ConfigRegistry.Main

def main (arguments : List String) : IO UInt32 := do
  let values ← ConfigRegistry.Main.variableNames.filterMapM fun name => do
    return (← IO.getEnv name).map fun value => (name, value)
  match ConfigRegistry.Service.start ConfigRegistry.Main.dial (fun name => values.lookup name) arguments with
  | .error failure =>
      let (message, code) := ConfigRegistry.Main.explain failure
      IO.eprintln message
      return code
  | .ok started =>
      ConfigRegistry.Main.serve (← IO.getStdin) (← IO.getStdout) (ConfigRegistry.Main.sessionOf started)
      return 0
