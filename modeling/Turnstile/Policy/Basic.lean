/-
# Rate limit policies

A policy covers the requests with one method and one route template.  It says whether they
are counted per user or per address, and has any number of windows: a request passes only
if every window has room.
-/
import Turnstile.Word

namespace Turnstile

/-- What the requests under a policy are counted by. -/
inductive Keying where
  /-- The authenticated user, or the address of a caller who is not authenticated. -/
  | user
  /-- The address of the caller. -/
  | ip
deriving DecidableEq, Repr

namespace Keying

/-- The name of a keying in configuration texts. -/
def name : Keying → String
  | user => "user"
  | ip => "ip"

/-- The name of a keying in log lines. -/
def label : Keying → String
  | user => "User"
  | ip => "Ip"

/-- The keying with a given name. -/
def ofName? (s : String) : Option Keying :=
  if s = "user" then some user else if s = "ip" then some ip else none

@[simp] theorem ofName?_name (k : Keying) : ofName? k.name = some k := by
  cases k <;> simp [ofName?, name]

end Keying

/-- A trailing window: so many requests within so many seconds. -/
structure Window where
  /-- How many requests the window accepts. -/
  limit : Nat
  /-- The length of the window in seconds. -/
  seconds : Nat
deriving DecidableEq, Repr

namespace Window

/-- The length of a window in milliseconds. -/
def millis (w : Window) : Nat := cappedMul w.seconds 1000

/-- Whether a window can never accept a request. -/
def isVoid (w : Window) : Bool := w.limit == 0 || w.seconds == 0

end Window

/-- The windows that bind the requests with one method and one route template. -/
structure Policy where
  /-- The HTTP verb, matched letter by letter. -/
  method : String
  /-- The route template, such as `/api/v1/todo/{key}`. -/
  path : String
  keying : Keying
  windows : List Window
deriving DecidableEq, Repr

namespace Policy

/-- Method and path joined by a colon, the name under which a policy is counted. -/
def key (p : Policy) : String := p.method ++ ":" ++ p.path

/-- Whether a policy covers a method and a route. -/
def covers (p : Policy) (method route : String) : Bool := p.method == method && p.path == route

end Policy

end Turnstile
