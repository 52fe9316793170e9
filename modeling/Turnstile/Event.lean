/-
# Log events and computations that write them

An event has a level, the part of the program it comes from, a message and named fields.
An `Action` is a computation over a state that also yields the events it writes, in order:
running one action after another concatenates their events.
-/
import Turnstile.Error

namespace Turnstile

/-- How urgent an event is, from the most to the least urgent. -/
inductive Level where
  | error | warn | info | debug | trace
deriving DecidableEq, Repr

namespace Level

/-- The rank of a level; a filter lets everything up to a rank pass. -/
def rank : Level → Nat
  | error => 1
  | warn => 2
  | info => 3
  | debug => 4
  | trace => 5

/-- The name of a level. -/
def name : Level → String
  | error => "ERROR"
  | warn => "WARN"
  | info => "INFO"
  | debug => "DEBUG"
  | trace => "TRACE"

/-- Whether a level reports trouble. -/
def isTrouble (l : Level) : Bool := l.rank ≤ warn.rank

end Level

/-- The parts of the program that write events. -/
inductive Source where
  | startup | logging | limiter | rows | reorder | inspector | benchmark
deriving DecidableEq, Repr

/-- The name under which a part of the program writes its events. -/
def Source.target : Source → String
  | .startup => "todo_core"
  | .logging => "todo_core::logging"
  | .limiter => "todo_core::limiter"
  | .rows => "todo_core::storage::memory"
  | .reorder => "todo_core::reorder"
  | .inspector => "todo_core_cli"
  | .benchmark => "todo_core_bench"

/-- The value of a field of an event. -/
inductive FieldValue where
  /-- A text, quoted in a log line. -/
  | text (s : String)
  /-- A text that a log line shows as it is. -/
  | shown (s : String)
  | number (n : Int)
  | flag (b : Bool)
deriving DecidableEq, Repr

/-- One log event. -/
structure Event where
  level : Level
  source : Source
  message : String
  fields : List (String × FieldValue) := []
deriving DecidableEq, Repr

/-- Whether an event names the given owner. -/
def Event.isAbout (e : Event) (owner : String) : Bool :=
  e.fields.any fun f => f.1 == "owner" && f.2 == .text owner

/-- A computation over a state `σ` that writes events: it yields its result, the state it
leaves and the events it wrote. -/
structure Outcome (σ α : Type) where
  result : α
  state : σ
  events : List Event := []

/-- A computation over a state `σ` that writes events. -/
def Action (σ α : Type) : Type := σ → Outcome σ α

namespace Action

variable {σ α β : Type}

/-- Runs an action on a state. -/
def run (a : Action σ α) (s : σ) : Outcome σ α := a s

instance : Monad (Action σ) where
  pure a := fun s => ⟨a, s, []⟩
  bind x f := fun s =>
    let o := x s
    let o' := f o.result o.state
    ⟨o'.result, o'.state, o.events ++ o'.events⟩

/-- Writes one event. -/
def emit (e : Event) : Action σ Unit := fun s => ⟨(), s, [e]⟩

/-- Applies a function to the state and yields its result. -/
def update (f : σ → α × σ) : Action σ α := fun s => ⟨(f s).1, (f s).2, []⟩

/-- Reads off the state. -/
def read (f : σ → α) : Action σ α := fun s => ⟨f s, s, []⟩

/-- Runs an action with a second state beside it and yields that state along with the
result. -/
def inTransaction {τ : Type} (a : Action (σ × τ) α) (tx : τ) : Action σ (α × τ) := fun s =>
  let o := a (s, tx)
  ⟨(o.result, o.state.2), o.state.1, o.events⟩

@[simp] theorem run_pure (a : α) (s : σ) : (pure a : Action σ α).run s = ⟨a, s, []⟩ := rfl

theorem run_bind (x : Action σ α) (f : α → Action σ β) (s : σ) :
    (x >>= f).run s =
      ⟨((f (x.run s).result).run (x.run s).state).result,
        ((f (x.run s).result).run (x.run s).state).state,
        (x.run s).events ++ ((f (x.run s).result).run (x.run s).state).events⟩ := rfl

@[simp] theorem run_emit (e : Event) (s : σ) : (emit e).run s = ⟨(), s, [e]⟩ := rfl

@[simp] theorem run_update (f : σ → α × σ) (s : σ) :
    (update f).run s = ⟨(f s).1, (f s).2, []⟩ := rfl

@[simp] theorem run_read (f : σ → α) (s : σ) : (read f).run s = ⟨f s, s, []⟩ := rfl

@[simp] theorem run_inTransaction {τ : Type} (a : Action (σ × τ) α) (tx : τ) (s : σ) :
    (inTransaction a tx).run s =
      ⟨((a.run (s, tx)).result, (a.run (s, tx)).state.2), (a.run (s, tx)).state.1,
        (a.run (s, tx)).events⟩ := rfl

instance : LawfulMonad (Action σ) :=
  .mk' (Action σ)
    (fun x => by
      funext s
      simp [Functor.map, Function.comp])
    (fun a f => by
      funext s
      simp [Bind.bind, Pure.pure])
    (fun x f g => by
      funext s
      simp [Bind.bind, List.append_assoc])

end Action

end Turnstile
