/-
# Sessions on a store

A session gives commands to a store on a clock of its own.  Transactions and tasks go by
names.  A command is carried out at once if its lock is free; otherwise the session waits,
and lets time jump to the next moment at which some waiting task gives up, until the
command is done.  Spawned commands wait in the background instead.  After every request all
tasks that can go on do so, and time moves only where the session waits or sleeps.  Of tasks
that can go on at one moment the session's own goes first, and the others follow in the order
in which they began to wait.
-/
import Turnstile.Store.Machine

namespace Turnstile

/-- What a session can ask the store to do. -/
inductive Command where
  | insert (owner name : String) (order : Int) (key : Uuid)
  /-- Adds one row for every key, named after the owner and numbered from one. -/
  | seed (owner : String) (keys : List Uuid)
  | delete (owner : String) (id : Int)
  | list (owner : String)
  | lockCount
  | begin (tx owner : String)
  | txList (tx owner : String)
  | txPlace (tx : String) (id : Int) (owner : String) (order : Int)
  | commit (tx : String)
  | rollback (tx : String)
  | drop (tx : String)
  | move (m : Move)
deriving DecidableEq, Repr

/-- What a command answers. -/
inductive Answer where
  | item (i : Item)
  | items (is : List Item)
  | flag (b : Bool)
  | count (n : Nat)
  | done
  | failed (e : Error)
  /-- No transaction of that name is open. -/
  | noTransaction
deriving DecidableEq, Repr

/-- What is done with the reply of a task. -/
inductive Pursuit where
  /-- The reply is the answer. -/
  | report
  /-- The transaction is open under a name from now on. -/
  | name (tx : String)
  /-- The next row of a seed is due, at this position. -/
  | seed (owner : String) (next : Nat) (keys : List Uuid)
deriving DecidableEq, Repr

/-- How far a command has come. -/
inductive Progress where
  /-- Its task waits for a lock until a deadline. -/
  | waiting (ticket deadline : Nat) (pursuit : Pursuit)
  | finished (a : Answer)
deriving DecidableEq, Repr

/-- A command under way, with the name of the task if it has one. -/
structure Job where
  name : Option String
  /-- Whether it is the session's own command, not one in the background. -/
  isOwn : Bool := false
  progress : Progress
deriving DecidableEq, Repr

/-- A session on a store. -/
structure Session where
  machine : Machine
  /-- How long a task waits for a lock, in milliseconds. -/
  timeout : Nat
  /-- The time that has passed, in milliseconds. -/
  now : Nat := 0
  /-- The tickets of the open transactions by name. -/
  transactions : Register String Nat := {}
  /-- The commands in the background, in the order in which they began. -/
  jobs : List Job := []
deriving DecidableEq, Repr

/-- What can be asked of a session. -/
inductive SessionRequest where
  | run (c : Command)
  /-- Begins a command in the background. -/
  | spawn (task : String) (c : Command)
  /-- Waits for a background command and takes its answer. -/
  | join (task : String)
  /-- Lets time pass. -/
  | sleep (millis : Nat)
deriving DecidableEq, Repr

/-- What a session answers. -/
inductive SessionAnswer where
  | answer (a : Answer)
  /-- The background commands that are done and whose answers were not yet taken. -/
  | finished (tasks : List String)
  /-- No background command has that name. -/
  | noTask
deriving DecidableEq, Repr

namespace Answer

/-- The answer that a reply amounts to. -/
def ofReply : Except Error Reply → Answer
  | .ok (.item i) => item i
  | .ok (.flag b) => flag b
  | .ok (.items is) => items is
  | .ok (.opened _) => done
  | .error e => failed e

/-- The answer that a response to a step in a transaction amounts to. -/
def ofResponse : Response → Answer
  | .listed (.ok is) => items is
  | .listed (.error e) | .settled (.error e) | .refused e => failed e
  | .settled (.ok ()) => done
  | .ended r => ofReply r
  | .impossible | .arrived _ => noTransaction

end Answer

namespace Session

/-- A session on a store without rows. -/
def ofSettings (s : StoreSettings) : Session :=
  { machine := Machine.ofSettings s, timeout := s.lockTimeout }

/-- Performs a step of the store. -/
def step (st : Step) : Action Session Response := fun s =>
  let o := (Machine.step st).run s.machine
  ⟨o.result, { s with machine := o.state }, o.events⟩

/-- Begins a task: either its result, or the ticket and deadline with which it waits. -/
def beginTask (t : Task) : Action Session (Except Error Reply ⊕ Nat × Nat) := do
  match ← step (.arrive t) with
  | .arrived ticket =>
    if ← Action.read fun s => s.machine.canEnter ticket then
      match ← step (.enter ticket) with
      | .ended r => return .inl r
      | _ => return .inl (.error Rows.orderError)
    else return .inr (ticket, ← Action.read fun s => s.now + s.timeout)
  | .refused e => return .inl (.error e)
  | _ => return .inl (.error Rows.orderError)

/-- Gives an open transaction a name; one that had the name before is dropped. -/
def nameTransaction (tx : String) (ticket : Nat) : Action Session Unit := do
  match ← Action.read fun s => s.transactions.get? tx with
  | some old =>
    let _ ← step (.drop old)
  | none => pure ()
  Action.update fun s => ((), { s with transactions := s.transactions.insert tx ticket })

/-- Adds the rows of a seed one after the other, as far as their locks are free. -/
def seedFrom (owner : String) (position : Nat) : List Uuid → Action Session Progress
  | [] => pure (.finished .done)
  | key :: keys => do
    match ← beginTask (.insert owner s!"{owner}{position}" position key) with
    | .inl (.ok _) => seedFrom owner (position + 1) keys
    | .inl (.error e) => return .finished (.failed e)
    | .inr (ticket, deadline) =>
      return .waiting ticket deadline (.seed owner (position + 1) keys)

/-- Goes on after a task has ended. -/
def pursue (ticket : Nat) (r : Except Error Reply) : Pursuit → Action Session Progress
  | .report => return .finished (Answer.ofReply r)
  | .name tx => do
    match r with
    | .ok _ => nameTransaction tx ticket
    | .error _ => pure ()
    return .finished (Answer.ofReply r)
  | .seed owner next keys =>
    match r with
    | .ok _ => seedFrom owner next keys
    | .error e => return .finished (.failed e)

/-- Begins a task and does with its reply what is to be done. -/
def follow (t : Task) (p : Pursuit) : Action Session Progress := do
  let ticket ← Action.read fun s => s.machine.nextTicket
  match ← beginTask t with
  | .inl r => pursue ticket r p
  | .inr (ticket, deadline) => return .waiting ticket deadline p

/-- Does something with the open transaction of a name. -/
def inNamed (tx : String) (st : Nat → Step) : Action Session Progress := do
  match ← Action.read fun s => s.transactions.get? tx with
  | none => return .finished .noTransaction
  | some ticket => return .finished (Answer.ofResponse (← step (st ticket)))

/-- Closes the open transaction of a name, which is free again afterwards. -/
def closeNamed (tx : String) (st : Nat → Step) : Action Session Progress := do
  let p ← inNamed tx st
  Action.update fun s => (p, { s with transactions := s.transactions.erase tx })

/-- Begins a command and carries it as far as its locks are free. -/
def start : Command → Action Session Progress
  | .insert owner name order key => follow (.insert owner name order key) .report
  | .seed owner keys => seedFrom owner 1 keys
  | .delete owner id => follow (.delete owner id) .report
  | .list owner => return .finished (Answer.ofResponse (← step (.list owner)))
  | .lockCount => Action.read fun s => .finished (.count s.machine.locks.size)
  | .begin tx owner => follow (.begin owner) (.name tx)
  | .txList tx owner => inNamed tx fun t => .txList t owner
  | .txPlace tx id owner order => inNamed tx fun t => .txPlace t id owner order
  | .commit tx => closeNamed tx .commit
  | .rollback tx => closeNamed tx .rollback
  | .drop tx => closeNamed tx .drop
  | .move m => follow (.move m) .report

/-- The step that a waiting job can take now: its work if it holds its lock, giving up if
its deadline has come. -/
def due? (s : Session) : Progress → Option Step
  | .finished _ => none
  | .waiting ticket deadline _ =>
    if s.machine.canEnter ticket then some (.enter ticket)
    else if deadline ≤ s.now then some (.giveUp ticket)
    else none

/-- Takes a step that is due for a job. -/
def advance (st : Step) : Progress → Action Session Progress
  | .finished a => pure (.finished a)
  | .waiting ticket _ pursuit => do
    match ← step st with
    | .ended r => pursue ticket r pursuit
    | _ => return .finished .noTransaction

/-- The turn of a job among those that have a step due. -/
def turn (j : Job) : Nat :=
  match j.progress with
  | .waiting ticket _ _ => if j.isOwn then 0 else ticket + 1
  | .finished _ => 0

/-- The job that has a step due and whose turn it is, with its place and the step. -/
def firstDue? (s : Session) : Option (Nat × Job × Step) :=
  let due := s.jobs.zipIdx.filterMap fun p => (s.due? p.1.progress).map fun st => (p.2, p.1, st)
  match due with
  | [] => none
  | d :: ds => some (ds.foldl (fun a b => if turn b.2.1 < turn a.2.1 then b else a) d)

/-- The number of tasks that a job has still to do, at most. -/
def Progress.load : Progress → Nat
  | .finished _ => 0
  | .waiting _ _ (.seed _ _ keys) => keys.length + 1
  | .waiting _ _ _ => 1

/-- The number of tasks that all jobs have still to do, at most. -/
def load (s : Session) : Nat := s.jobs.foldr (fun j n => Progress.load j.progress + n) 0

/-- Lets the jobs go on as long as one of them has a step due, for so many steps. -/
def settleFor : Nat → Action Session Unit
  | 0 => pure ()
  | n + 1 => do
    match ← Action.read firstDue? with
    | none => pure ()
    | some (i, job, st) =>
      let p ← advance st job.progress
      Action.update fun s => ((), { s with jobs := s.jobs.set i { job with progress := p } })
      settleFor n

/-- Lets the jobs go on until none has a step due. -/
def settle : Action Session Unit := do
  settleFor (← Action.read load)

/-- The earliest deadline of a waiting job. -/
def nextDeadline? (s : Session) : Option Nat :=
  (s.jobs.filterMap fun j => match j.progress with
    | .waiting _ deadline _ => some deadline
    | .finished _ => none).min?

/-- Moves time on to a moment, if it lies ahead, and lets the jobs go on. -/
def jump (time : Nat) : Action Session Unit := do
  Action.update fun s => ((), { s with now := max s.now time })
  settle

/-- The answer of the job at a place, if it is done. -/
def answerAt? (i : Nat) (s : Session) : Option Answer :=
  match s.jobs[i]?.map Job.progress with
  | some (.finished a) => some a
  | _ => none

/-- Lets time jump from deadline to deadline until the job at a place is done, for so many
jumps, and takes its answer. -/
def awaitFor (i : Nat) : Nat → Action Session Answer
  | 0 => return ((← Action.read (answerAt? i)).getD .noTransaction)
  | n + 1 => do
    match ← Action.read (answerAt? i) with
    | some a => return a
    | none =>
      match ← Action.read nextDeadline? with
      | none => return .noTransaction
      | some deadline =>
        jump deadline
        awaitFor i n

/-- Waits for the job at a place and takes it out of the list. -/
def await (i : Nat) : Action Session Answer := do
  let a ← awaitFor i (← Action.read fun s => s.jobs.length)
  Action.update fun s => (a, { s with jobs := s.jobs.eraseIdx i })

/-- Lets time pass up to a moment, from deadline to deadline, for so many jumps. -/
def sleepFor (time : Nat) : Nat → Action Session Unit
  | 0 => jump time
  | n + 1 => do
    match ← Action.read nextDeadline? with
    | none => jump time
    | some deadline =>
      if deadline ≤ time then
        jump deadline
        sleepFor time n
      else jump time

/-- The names of the background commands that are done, in order. -/
def finishedTasks (s : Session) : List String :=
  (s.jobs.filterMap fun j => match j.progress with
    | .finished _ => j.name
    | .waiting _ _ _ => none).mergeSort fun a b => decide (a ≤ b)

/-- Adds a job in the background.  A name belongs to the last job that was given it; an
earlier job goes on without. -/
def addJob (j : Job) (s : Session) : Session :=
  let rename := fun o : Job =>
    if o.name = j.name ∧ j.name ≠ none then { o with name := none } else o
  { s with jobs := s.jobs.map rename ++ [j] }

/-- Answers a request. -/
def handle : SessionRequest → Action Session SessionAnswer
  | .run c => do
    let p ← start c
    let i ← Action.read fun s => s.jobs.length
    Action.update fun s => ((), s.addJob ⟨none, true, p⟩)
    settle
    return .answer (← await i)
  | .spawn task c => do
    let p ← start c
    Action.update fun s => ((), s.addJob ⟨some task, false, p⟩)
    settle
    Action.read fun s => .finished s.finishedTasks
  | .join task => do
    settle
    match ← Action.read fun s => s.jobs.findIdx? fun j => j.name == some task with
    | none => return .noTask
    | some i => return .answer (← await i)
  | .sleep millis => do
    let time ← Action.read fun s => s.now + millis
    sleepFor time (← Action.read fun s => s.jobs.length)
    Action.read fun s => .finished s.finishedTasks

end Session

end Turnstile
