/-
# The inspector

A command line tool that prints the policies in force, simulates traffic on a route, or
moves an entry of a list to show what becomes of it.
-/
import Turnstile.Console.Output
import Turnstile.Console.Simulation
import Turnstile.Console.Verbosity
import Turnstile.Settings.Load
import Turnstile.Store.Rows
import Turnstile.Text.Count

namespace Turnstile.Inspector

/-! ## Commands -/

/-- What a simulation is about. -/
structure SimulateOptions where
  request : Request
  principal : Principal
  pattern : Pattern
  count : Nat
  interval : Duration
deriving DecidableEq, Repr

/-- What a list is made of and which entry is moved. -/
structure ReorderOptions where
  names : List String
  entity : Entity
  origin : Int
  target : Int
deriving DecidableEq, Repr

/-- What the inspector is asked to do. -/
inductive Inspection where
  | policies
  | simulate (o : SimulateOptions)
  | reorder (o : ReorderOptions)
deriving DecidableEq, Repr

/-- What the inspector is asked to do, and the log filter to use. -/
structure Invocation where
  filter : LogFilter
  inspection : Inspection
deriving DecidableEq, Repr

namespace Options

/-- The method of the simulated request. -/
def method : CommandOption := ⟨"method", some 'm', .value, some "GET"⟩

/-- The route template of the simulated request. -/
def route : CommandOption := ⟨"route", some 'r', .value, some "/api/v1/todos"⟩

/-- The user who makes the simulated request; nobody in particular if it is left out. -/
def user : CommandOption := ⟨"user", some 'u', .value, none⟩

/-- The address that the simulated request comes from. -/
def address : CommandOption := ⟨"ip", none, .value, some "127.0.0.1"⟩

/-- The pattern of the pauses. -/
def pattern : CommandOption := ⟨"simulation", none, .value, some "burst"⟩

/-- How many requests are made. -/
def count : CommandOption := ⟨"num-requests", some 'n', .value, some "20"⟩

/-- The pause between requests in milliseconds. -/
def interval : CommandOption := ⟨"request-interval-ms", some 't', .value, some "100"⟩

/-- The names of the entries in their first sequence. -/
def items : CommandOption := ⟨"items", some 'i', .values, some "A,B,C"⟩

/-- The position of the entry to move. -/
def origin : CommandOption := ⟨"from", some 'f', .value, none⟩

/-- The position that the entry is to go to. -/
def target : CommandOption := ⟨"to", some 't', .value, none⟩

/-- What kind of list the entries make up. -/
def entity : CommandOption := ⟨"entity", none, .value, some "priority"⟩

/-- The options of a simulation. -/
def simulate : List CommandOption := [method, route, user, address, pattern, count, interval]

/-- The options of a move. -/
def reorder : List CommandOption := [items, origin, target, entity]

end Options

/-- The kind of rows with a name on the command line. -/
def entityOfName? (s : String) : Option Entity :=
  if s = "priority" then some .priority else if s = "status" then some .status else none

/-- What a simulation is about, by its options. -/
def simulateOptions? (u : Uses) : Option SimulateOptions := do
  let method ← u.valueOf? Options.method
  let route ← u.valueOf? Options.route
  let address ← u.valueOf? Options.address
  let pattern ← (u.valueOf? Options.pattern).bind Pattern.ofName?
  let count ← (u.valueOf? Options.count).bind countOfText?
  let interval ← (u.valueOf? Options.interval).bind countOfText?
  return {
    request := { method := method, route := route, remote := some address }
    principal := ((u.valueOf? Options.user).map Principal.authenticated).getD .anonymous
    pattern := pattern
    count := count
    interval := .ofMillis interval }

/-- What a move is about, by its options. -/
def reorderOptions? (u : Uses) : Option ReorderOptions := do
  let origin ← (u.valueOf? Options.origin).bind signedOfText?
  let target ← (u.valueOf? Options.target).bind signedOfText?
  let entity ← (u.valueOf? Options.entity).bind entityOfName?
  return ⟨u.valuesOf Options.items, entity, origin, target⟩

/-- The names of the commands. -/
def commands : List String := ["policies", "simulate", "reorder"]

/-- The options of a command. -/
def optionsOf (command : String) : List CommandOption :=
  if command = "simulate" then Options.simulate
  else if command = "reorder" then Options.reorder
  else []

/-- What a command with its options asks for. -/
def inspection? (command : String) (u : Uses) : Option Inspection :=
  if command = "policies" then some .policies
  else if command = "simulate" then (simulateOptions? u).map .simulate
  else if command = "reorder" then (reorderOptions? u).map .reorder
  else none

/-- The filter that is asked for before and after the command: detail after it counts if
there is any. -/
def filterOf (before after : Uses) : LogFilter :=
  let details := after.count Verbosity.detail
  Verbosity.filter
    (decide (0 < before.count Verbosity.quiet) || decide (0 < after.count Verbosity.quiet))
    (if details = 0 then before.count Verbosity.detail else details)

/-- Scans the arguments behind a command. -/
def commandUses (command : String) (args : List String) : Except Stop Uses :=
  match CommandLine.scan (optionsOf command ++ Verbosity.options) [] args with
  | .ok line => .ok line.uses
  | .error (.version _) => .error (.version (some command))
  | .error s => .error s

/-- What a command line asks for. -/
def invocation (args : List String) : Except Stop Invocation := do
  let line ← CommandLine.scan Verbosity.options commands args
  match line.command with
  | none => throw .faulty
  | some (command, rest) =>
    let uses ← commandUses command rest
    match inspection? command uses with
    | none => throw .faulty
    | some i => return ⟨filterOf line.uses uses, i⟩

/-! ## The table of policies -/

/-- The text of a window: how many requests in how many seconds. -/
def windowText (w : Window) : String := s!"{w.limit}/{w.seconds}s"

/-- The table of policies, in the order of display. -/
def policyTable (t : PolicyTable) : Table where
  titles := ["Method", "Path", "Keyed by", "Windows"]
  rows := t.sorted.map fun p =>
    [p.method, p.path, p.keying.name, ", ".intercalate (p.windows.map windowText)]

/-! ## Simulations -/

/-- What is logged if no policy covers the request. -/
def unboundEvent (r : Request) : Event where
  level := .warn
  source := .inspector
  message := "No policy for route, every request passes"
  fields := [("method", .text r.method), ("route", .text r.route)]

/-- What is logged before a simulation. -/
def simulatingEvent (o : SimulateOptions) (p : Policy) (i : Identity) : Event where
  level := .info
  source := .inspector
  message := s!"Simulating {o.count} {o.pattern.name} requests"
  fields := [("policy", .text p.key), ("identity", .text i.key)]

/-- The cells that show a decision: the word for it, the quota, and when to come back. -/
def decisionCells : Decision → List String
  | .unlimited => ["UNLIMITED", "-", "-", "-", "-"]
  | .allowed q => "ALLOWED" :: quotaCells q ++ ["-"]
  | .rejected r => "DENIED" :: quotaCells r.headers ++ [toString r.retryAfter]
where
  /-- The cells that show a quota. -/
  quotaCells (q : QuotaHeaders) : List String :=
    [toString q.limit, toString q.remaining, toString q.reset]

/-- The table of a simulation. -/
def sampleTable (samples : List Sample) : Table where
  titles := ["#", "t (ms)", "Result", "Limit", "Remaining", "Reset", "Retry-After"]
  rows := samples.zipIdx.map fun s =>
    toString (s.2 + 1) :: toString s.1.elapsed.millis :: decisionCells s.1.decision

/-- What a simulation came to. -/
def simulationSummary (o : SimulateOptions) (samples : List Sample) : List Output :=
  let denied := samples.countP fun s => s.decision.isRejected
  let elapsed := (samples.getLast?.map Sample.elapsed).getD ⟨0⟩
  ["", "Simulation Results:", "-------------------", s!"Total requests: {o.count}",
    s!"Allowed: {samples.length - denied}", s!"Denied: {denied}",
    s!"Simulated time: {elapsed.text}"].map .line

/-- Simulates traffic from a time on. -/
def simulate (f : LogFilter) (l : Limiter) (start : Clock) (o : SimulateOptions) : Report :=
  match l.policyFor? o.request.method o.request.route with
  | none => { output := f.outputOf [unboundEvent o.request] }
  | some p =>
    let pause := fun i => o.pattern.pause o.interval i o.count
    let run := (Limiter.simulate o.request o.principal pause 0 ⟨0⟩ start o.count).run l
    let logged :=
      f.outputOf (simulatingEvent o p (l.identityFor p o.request o.principal) :: run.events)
    match run.result with
    | none => .aborted logged
    | some samples =>
      { output := logged ++ .table (sampleTable samples) :: simulationSummary o samples }

/-! ## Moves -/

/-- The owner of the list. -/
def owner : String := "cli"

/-- Adds rows with the given names, blanks at their ends aside, from a position on. -/
def seedFrom (keys : Nat → Uuid) (position : Nat) (r : Rows) : List String → Except Error Rows
  | [] => .ok r
  | name :: names =>
    match r.insert owner (Text.trim name) position (keys position) with
    | (.ok _, r') => seedFrom keys (position + 1) r' names
    | (.error e, _) => .error e

/-- The rows of a list with the given names. -/
def seeded (keys : Nat → Uuid) (names : List String) : Except Error Rows :=
  seedFrom keys 1 { capacity := ({} : StoreSettings).maxItems } names

/-- A titled table of rows. -/
def listing (title : String) (items : List Item) : List Output :=
  [.line "", .line (title ++ ":"),
    .table
      { titles := ["Order", "Name", "Id", "Key"]
        rows := items.map fun i => [toString i.order, i.name, toString i.id, i.key.toText] }]

/-- What is logged for a move that failed. -/
def failedEvent (e : Error) : Event where
  level := .error
  source := .inspector
  message := "Reorder failed"
  fields := [("error", .shown e.message)]

/-- What a move came to: the list in its new order, or the error and the list as it is. -/
def moveResult (f : LogFilter) (run : Outcome Rows (Except Error (List Item))) : List Output :=
  match run.result with
  | .ok items => listing "After" items
  | .error e =>
    f.outputOf [failedEvent e] ++
      [.line "", .line s!"{e.status} {e.code}: {e.message}"] ++
      listing "Unchanged" (run.state.list owner)

/-- Moves an entry of a list. -/
def reorder (f : LogFilter) (keys : Nat → Uuid) (o : ReorderOptions) : Report :=
  match seeded keys o.names with
  | .error e => .failed [] e.diagnostic
  | .ok rows =>
    let m : Move := ⟨o.entity, owner, o.origin, o.target⟩
    let run := (m.perform (Rows.interface true)).runOn rows
    { output := listing "Before" (rows.list owner) ++ f.outputOf run.events ++ moveResult f run }

/-! ## Runs -/

/-- Builds a limiter and does something with it. -/
def withLimiter (f : LogFilter) (c : LimiterConfig) (act : Limiter → Report) : Report :=
  match Limiter.ofConfig c with
  | .error e => .failed [] e.toError.diagnostic
  | .ok l =>
    let r := act l
    { r with output := f.outputOf [l.readyEvent] ++ r.output }

/-- Does what the inspector is asked to do under a configuration. -/
def perform (f : LogFilter) (c : LimiterConfig) (start : Clock) (keys : Nat → Uuid) :
    Inspection → Report
  | .policies => withLimiter f c fun l => { output := [.table (policyTable l.table)] }
  | .simulate o => withLimiter f c fun l => simulate f l start o
  | .reorder o => reorder f keys o

/-- The name of the inspector. -/
def programName : String := Source.inspector.target

/-- Runs the inspector, given its surroundings, the time and keys for new rows. -/
def run (s : Surroundings) (start : Clock) (keys : Nat → Uuid) (args : List String) : Report :=
  match invocation args with
  | .error stop => { output := (stop.lines programName).map .line, exitCode := stop.exitCode }
  | .ok i =>
    match LimiterConfig.load s with
    | .error e => .failed [] e.diagnostic
    | .ok c => perform i.filter c start keys i.inspection

end Turnstile.Inspector
