/-
# Starting up

The server's startup reads the file of environment variables, sets the log filter up, loads
the configuration and builds the limiter, and logs each of these.
-/
import Turnstile.Console.Output
import Turnstile.Settings.EnvFile
import Turnstile.Settings.Load

namespace Turnstile.Startup

/-- The variable that holds the log filter. -/
def filterVariable : String := "RUST_LOG"

/-- The log filter in force, unless reading it breaks down: without one, or with a faulty one,
everything up to `info` passes. -/
def filter? (s : Surroundings) : Option LogFilter :=
  match (s.valueOf? filterVariable).map LogFilter.ofText with
  | some (.ok f) => some f
  | some (.error .brokenLetter) => none
  | some (.error .faulty) | none => some (.upTo .info)

/-- What is logged first. -/
def openingEvents : List Event :=
  [{ level := .info, source := .logging, message := "Logging initialized" },
   { level := .info, source := .startup, message := "todo_core starting up" }]

/-- What is logged for a configuration that cannot be used. -/
def refusedEvent (e : Error) : Event where
  level := .error
  source := .startup
  message := "Invalid rate limit configuration"
  fields := [("error", .shown e.message)]

/-- What is logged for a configuration. -/
def loadedEvent (c : LimiterConfig) : Event where
  level := .debug
  source := .startup
  message := "Configuration loaded"
  fields := [("trust_proxy_ip_headers", .flag c.trustProxies)]

/-- What is logged for a policy in force. -/
def policyEvent (p : Policy) : Event where
  level := .debug
  source := .startup
  message := "Policy active"
  fields := [("policy", .text p.key), ("keying", .shown p.keying.label),
    ("windows", .number p.windows.length)]

/-- What is logged for a limiter that is ready. -/
def readyEvents (l : Limiter) : List Event :=
  l.readyEvent :: l.table.sorted.map policyEvent ++
    [{ level := .info
       source := .startup
       message := "Rate limiter initialized successfully"
       fields := [("policies", .number l.table.size)] }]

/-- What is logged once the surroundings are known, and whether the server can start. -/
def events (s : Surroundings) : List Event × Bool :=
  match LimiterConfig.load s with
  | .error e => ([refusedEvent e], false)
  | .ok c =>
    match Limiter.ofConfig c with
    | .error f => ([loadedEvent c, refusedEvent f.toError], false)
    | .ok l => (loadedEvent c :: readyEvents l, true)

/-- Starts the server up.  Nothing is logged before the filter is set up. -/
def run (s : Surroundings) : Report :=
  match s.withEnvFile?.bind fun s => (filter? s).map (s, ·) with
  | none => .aborted []
  | some (s, f) =>
    let (es, ok) := events s
    { output := f.outputOf (openingEvents ++ es), exitCode := if ok then 0 else 1 }

end Turnstile.Startup
