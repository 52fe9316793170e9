/-
# Verbosity

Two options say what a command line tool logs.  Without them it logs what is worth knowing;
every `-v` adds a level of detail, and `--disable-logs` leaves errors only.
-/
import Turnstile.Console.Arguments
import Turnstile.Console.LogFilter

namespace Turnstile

namespace Verbosity

/-- The option that adds detail. -/
def detail : CommandOption := ⟨"verbose", some 'v', .nothing true, none⟩

/-- The option that leaves errors only. -/
def quiet : CommandOption := ⟨"disable-logs", none, .nothing false, none⟩

/-- The options that set the verbosity. -/
def options : List CommandOption := [detail, quiet]

/-- The level up to which a tool logs. -/
def level (isQuiet : Bool) (details : Nat) : Level :=
  if isQuiet then .error
  else
    match details with
    | 0 => .info
    | 1 => .debug
    | _ => .trace

/-- The filter of a tool. -/
def filter (isQuiet : Bool) (details : Nat) : LogFilter := .upTo (level isQuiet details)

end Verbosity

end Turnstile
