/-
# The benchmark

A command line tool that measures the limiter and the moving of rows.  Every iteration has
a number of users, who make a number of requests each; what became of them is tallied.

What the benchmark needs of the machine it runs on is an interface: something to time a
computation with, the time of day, and numbers to choose by.  What it finds is written in
full, or without the figures that only the machine and chance decide.
-/
import Turnstile.Console.DurationText
import Turnstile.Console.Output
import Turnstile.Console.Verbosity
import Turnstile.Settings.Load
import Turnstile.Store.Rows
import Turnstile.Text.Count

namespace Turnstile

/-- What can be benchmarked. -/
inductive Subject where
  | limiter
  | reorder
deriving DecidableEq, Repr

namespace Subject

/-- The name of a benchmark. -/
def title : Subject → String
  | limiter => "Sliding Window Limiter"
  | reorder => "Ordered List Reorder"

/-- The words for accepted and for rejected operations. -/
def words : Subject → String × String
  | limiter => ("allowed", "denied")
  | reorder => ("applied", "invalid")

/-- The words for accepted and for rejected operations at the beginning of a line. -/
def headwords : Subject → String × String
  | limiter => ("Allowed", "Denied")
  | reorder => ("Applied", "Invalid")

/-- The benchmarks that a name selects. -/
def selection? (s : String) : Option (List Subject) :=
  if s = "all" then some [limiter, reorder]
  else if s = "limiter" then some [limiter]
  else if s = "reorder" then some [reorder]
  else none

end Subject

/-- What became of operations. -/
structure Tally where
  accepted : Nat := 0
  rejected : Nat := 0
  failed : Nat := 0
deriving DecidableEq, Repr

namespace Tally

/-- The number of operations. -/
def total (t : Tally) : Nat := t.accepted + t.rejected + t.failed

/-- Two tallies together. -/
def add (t u : Tally) : Tally :=
  ⟨t.accepted + u.accepted, t.rejected + u.rejected, t.failed + u.failed⟩

end Tally

namespace Benchmark

/-- What a benchmark is made up of. -/
structure Options where
  filter : LogFilter
  subjects : List Subject
  users : Nat
  requests : Nat
  /-- The length of every user's list. -/
  listLength : Int
  iterations : Nat
  /-- How many requests may be under way at once. -/
  concurrency : Nat
deriving DecidableEq, Repr

/-- What a benchmark needs of the machine it runs on. -/
structure Machinery (m : Type → Type) where
  /-- Runs a computation and tells how long it took. -/
  timed : {α : Type} → (Unit → α) → m (α × Duration)
  /-- The time of day in milliseconds. -/
  now : m Nat
  /-- The numbers to choose by. -/
  choice : Nat → Nat

/-- What a benchmark finds. -/
inductive Finding where
  | output (o : Output)
  /-- The result of an iteration. -/
  | iteration (s : Subject) (number : Nat) (elapsed : Duration) (t : Tally)
  /-- The result of all iterations. -/
  | summary (s : Subject) (iterations : Nat) (elapsed : Duration) (t : Tally)
deriving DecidableEq, Repr

/-! ## The command line -/

/-- What is benchmarked. -/
def targetOption : CommandOption := ⟨"target", some 't', .value, some "all"⟩

/-- How many users there are. -/
def usersOption : CommandOption := ⟨"num-users", some 'u', .value, some "10"⟩

/-- How many requests a user makes. -/
def requestsOption : CommandOption := ⟨"requests-per-user", some 'r', .value, some "100"⟩

/-- How long the list of a user is. -/
def lengthOption : CommandOption := ⟨"list-len", some 'l', .value, some "20"⟩

/-- How many iterations there are. -/
def iterationsOption : CommandOption := ⟨"iterations", some 'i', .value, some "3"⟩

/-- How many requests may be under way at once. -/
def concurrencyOption : CommandOption := ⟨"concurrency", some 'c', .value, some "100"⟩

/-- All options of the benchmark. -/
def commandOptions : List CommandOption :=
  [targetOption, usersOption, requestsOption, lengthOption, iterationsOption,
    concurrencyOption] ++ Verbosity.options

/-- What the uses of options ask for, if all values are in order. -/
def options? (u : Uses) : Option Options := do
  let count := fun o => (u.valueOf? o).bind countOfText?
  return {
    filter := Verbosity.filter (decide (0 < u.count Verbosity.quiet)) (u.count Verbosity.detail)
    subjects := ← (u.valueOf? targetOption).bind Subject.selection?
    users := ← count usersOption
    requests := ← count requestsOption
    listLength := ← (u.valueOf? lengthOption).bind signedOfText?
    iterations := ← count iterationsOption
    concurrency := ← count concurrencyOption }

/-- What a command line asks for. -/
def invocation (args : List String) : Except Stop Options := do
  let line ← CommandLine.scan commandOptions [] args
  match options? line.uses with
  | none => throw .faulty
  | some o => return o

/-! ## Requests to the limiter -/

/-- The methods and routes that requests are spread over. -/
def routes : List (String × String) :=
  [("GET", "/api/v1/todos"), ("GET", "/api/v1/todo/\x7bkey\x7d"), ("POST", "/api/v1/todos"),
   ("GET", "/api/v1/priorities"), ("PATCH", "/api/v1/priority/\x7bkey\x7d/reorder"),
   ("GET", "/health")]

/-- The name of a user, by number. -/
def userName (user : Nat) : String := s!"user_{user}"

/-- The address of a user, by number. -/
def addressOf (user : Nat) : String := s!"10.0.{user / 250}.{user % 250 + 1}"

/-- The request of a user to a chosen route. -/
def requestOf (user choice : Nat) : Request :=
  let (method, route) := routes[choice % routes.length]?.getD ("", "")
  { method := method, route := route, remote := some (addressOf user) }

/-- The requests of an iteration as users and choices, from a number of the request on. -/
def plan (choice : Nat → Nat) (users requests : Nat) : List (Nat × Nat) :=
  (List.range users).flatMap fun user =>
    (List.range requests).map fun i => (user, choice (user * requests + i))

/-- The tally of one decision. -/
def tallyOf (d : Decision) : Tally := if d.isRejected then { rejected := 1 } else { accepted := 1 }

/-- Makes requests to the limiter. -/
def checkAll (now : Nat) (t : Tally) : List (Nat × Nat) → Action Limiter Tally
  | [] => pure t
  | (user, choice) :: rest => do
    let d ← Limiter.check (requestOf user choice) (.authenticated (userName user)) now
    checkAll now (t.add (tallyOf d)) rest

/-! ## Moves of rows -/

/-- Adds so many rows to the list of an owner, from a position on. -/
def fill (owner : String) (position : Nat) (r : Rows) : Nat → Except Error Rows
  | 0 => .ok r
  | n + 1 =>
    match r.insert owner s!"item_{position}" position ⟨0⟩ with
    | (.ok _, r') => fill owner (position + 1) r' n
    | (.error e, _) => .error e

/-- Adds the rows of so many users, from a number of the user on. -/
def fillFrom (length user : Nat) (r : Rows) : Nat → Except Error Rows
  | 0 => .ok r
  | n + 1 => do fillFrom length (user + 1) (← fill (userName user) 1 r length) n

/-- The rows of all users. -/
def filled (o : Options) : Except Error Rows :=
  fillFrom o.listLength.toNat 0 { capacity := ({} : StoreSettings).maxItems } o.users

/-- The move that a user makes by a choice: two users share a list, and the target may lie
one place behind its end. -/
def moveOf (o : Options) (user choice : Nat) : Move where
  entity := .priority
  owner := userName (user / 2 * 2)
  origin := choice % o.listLength + 1
  target := choice / o.listLength % (o.listLength + 1) + 1

/-- The tally of the result of one move. -/
def tallyOfMove : Except Error (List Item) → Tally
  | .ok _ => { accepted := 1 }
  | .error e => if e.isServerFault then { failed := 1 } else { rejected := 1 }

/-- Makes moves. -/
def moveAll (o : Options) (t : Tally) : List (Nat × Nat) → Action Rows Tally
  | [] => pure t
  | (user, choice) :: rest => do
    let r ← ExceptT.run ((moveOf o user choice).perform (Rows.interface true))
    moveAll o (t.add (tallyOfMove r)) rest

/-! ## Iterations -/

/-- What is logged when an iteration begins. -/
def startingEvent (number iterations : Nat) : Event where
  level := .info
  source := .benchmark
  message := s!"Starting iteration {number} of {iterations}"

section

variable {m : Type → Type} [Monad m]

/-- A run of a benchmark: it writes findings and may end early. -/
abbrev Run (m : Type → Type) : Type → Type := ExceptT Ending (StateT (List Finding) m)

/-- Writes findings. -/
def say (fs : List Finding) : Run m Unit := modify (· ++ fs)

/-- Writes the events that pass the filter. -/
def log (o : Options) (es : List Event) : Run m Unit := say ((o.filter.outputOf es).map .output)

/-- Ends with an error, if there is one. -/
def orEnd {α : Type} : Except Error α → Run m α
  | .ok a => pure a
  | .error e => throw (.failed e.diagnostic)

/-- The greatest number of requests under way that can be kept count of. -/
def greatestConcurrency : Nat := maxWord >>> 3

/-- Ends if there is no keeping count of the requests under way.  Since the requests of an
iteration are made one after the other, any bound that can be counted holds. -/
def boundRequests (o : Options) : Run m Unit := do
  if greatestConcurrency < o.concurrency then throw .aborted

/-- Times an action and writes its events. -/
def timedAction {σ : Type} (b : Machinery m) (o : Options) (a : Action σ Tally) (s : σ) :
    Run m (Tally × Duration) := do
  let (out, elapsed) ← b.timed fun () => a.run s
  log o out.events
  return (out.result, elapsed)

/-- An iteration of the limiter benchmark, with counters reset. -/
def limiterIteration (b : Machinery m) (o : Options) (l : Limiter) : Run m (Tally × Duration) := do
  let reset := Limiter.reset.run l
  log o reset.events
  boundRequests o
  let now ← b.now
  timedAction b o (checkAll now {} (plan b.choice o.users o.requests)) reset.state

/-- An iteration of the reorder benchmark, on fresh rows. -/
def reorderIteration (b : Machinery m) (o : Options) : Run m (Tally × Duration) := do
  let rows ← orEnd (filled o)
  boundRequests o
  timedAction b o (moveAll o {} (plan b.choice o.users o.requests)) rows

/-- Repeats an iteration so many times, from a number of the iteration on. -/
def iterate (s : Subject) (o : Options) (iteration : Run m (Tally × Duration)) (number : Nat)
    (t : Tally) (elapsed : Duration) : Nat → Run m Unit
  | 0 => say [.summary s o.iterations elapsed t]
  | n + 1 => do
    log o [startingEvent number o.iterations]
    let (u, d) ← iteration
    say [.iteration s number d u]
    iterate s o iteration (number + 1) (t.add u) (elapsed.add d) n

/-- Writes the heading of a benchmark. -/
def heading (s : Subject) : Run m Unit :=
  say <| ["", s!"Running benchmark: {s.title}",
    String.ofList (List.replicate (23 + s.title.length) '=')].map fun l => .output (.line l)

/-- Runs one benchmark. -/
def runSubject (b : Machinery m) (o : Options) (surroundings : Surroundings) (s : Subject) :
    Run m Unit := do
  heading s
  match s with
  | .limiter =>
    let c ← orEnd (LimiterConfig.load surroundings)
    let l ← orEnd ((Limiter.ofConfig c).mapError PolicyFault.toError)
    log o [l.readyEvent]
    iterate s o (limiterIteration b o l) 1 {} ⟨0⟩ o.iterations
  | .reorder =>
    if o.listLength < 1 then throw (.failed (Text.quoted "list_len must be at least 1"))
    else iterate s o (reorderIteration b o) 1 {} ⟨0⟩ o.iterations

/-- Runs the benchmarks that are asked for. -/
def runAll (b : Machinery m) (o : Options) (surroundings : Surroundings) : Run m Unit := do
  if o.users = 0 ∨ o.iterations = 0 then
    throw (.failed (Text.quoted "num_users and iterations must be positive"))
  else o.subjects.forM (runSubject b o surroundings)

/-- The name of the benchmark tool. -/
def programName : String := Source.benchmark.target

/-- Runs the benchmark tool: its findings, and how it ended. -/
def run (b : Machinery m) (surroundings : Surroundings) (args : List String) :
    m (List Finding × Ending) := do
  match invocation args with
  | .error stop =>
    return ((stop.lines programName).map fun l => .output (.line l), { exitCode := stop.exitCode })
  | .ok o =>
    match ← (ExceptT.run (runAll b o surroundings)).run [] with
    | (.ok (), fs) => return (fs, {})
    | (.error e, fs) => return (fs, e)

end

/-! ## Findings in writing -/

/-- How findings are written. -/
inductive Style where
  /-- With everything that was measured. -/
  | full
  /-- With an asterisk for what the machine decides, and what chance divides in one sum. -/
  | steady
deriving DecidableEq, Repr

/-- Operations per second. -/
def rate (t : Tally) (elapsed : Duration) : String :=
  Decimal.fixed 2 (Float.ofNat t.total / elapsed.toSeconds)

/-- The share of a number in a total in percent; nothing has no share. -/
def percent (n total : Nat) : String :=
  Decimal.fixed 1 (100.0 * Float.ofNat n / Float.ofNat (max total 1))

/-- Whether a style gives accepted and rejected operations in one sum. -/
def Style.joins (style : Style) (s : Subject) : Bool := style == .steady && s == .reorder

/-- A figure that a style shows or not. -/
def Style.figure (style : Style) (s : String) : String :=
  match style with
  | .full => s
  | .steady => "*"

/-- A measured figure behind its label, in line with the others if it is shown. -/
def Style.labelled (style : Style) (label : String) (width : Nat) (s : String) : String :=
  match style with
  | .full => label ++ String.ofList (List.replicate (width - label.length) ' ') ++ s
  | .steady => label ++ " *"

/-- A label filled up to the width of all labels. -/
def label (s : String) : String := s ++ String.ofList (List.replicate (20 - s.length) ' ')

/-- The line of an iteration. -/
def iterationLine (style : Style) (s : Subject) (number : Nat) (elapsed : Duration) (t : Tally) :
    String :=
  let (accepted, rejected) := s.words
  let counts :=
    if style.joins s then s!"{t.accepted + t.rejected} {accepted}+{rejected}"
    else s!"{t.accepted} {accepted}, {t.rejected} {rejected}"
  s!"Iteration {number}: {style.figure elapsed.text}, {counts}, {t.failed} failed, " ++
    s!"{style.figure (rate t elapsed)} ops/sec"

/-- The lines that divide a tally into accepted and rejected operations. -/
def divisionLines (style : Style) (s : Subject) (t : Tally) : List String :=
  let (accepted, rejected) := s.headwords
  let line := fun (word : String) n =>
    "  " ++ label (word ++ ":") ++ s!"{n} ({percent n t.total}%)"
  if style.joins s then [s!"  {accepted}+{rejected}: {t.accepted + t.rejected}"]
  else [line accepted t.accepted, line rejected t.rejected]

/-- The lines of a summary. -/
def summaryLines (style : Style) (s : Subject) (iterations : Nat) (elapsed : Duration)
    (t : Tally) : List String :=
  ["", s!"Benchmark Results for {s.title}:", "  " ++ label "Total Operations:" ++ s!"{t.total}"] ++
    divisionLines style s t ++
    ["  " ++ label "Failed:" ++ s!"{t.failed}",
     "  " ++ style.labelled "Avg. Duration:" 20 (Duration.text ⟨elapsed.nanos / iterations⟩),
     "  " ++ style.labelled "Avg. Throughput:" 20 (rate t elapsed ++ " ops/second")]

/-- A finding as output. -/
def Finding.written (style : Style) : Finding → List Output
  | .output o => [o]
  | .iteration s number elapsed t => [.line (iterationLine style s number elapsed t)]
  | .summary s iterations elapsed t => (summaryLines style s iterations elapsed t).map .line

end Benchmark

end Turnstile
