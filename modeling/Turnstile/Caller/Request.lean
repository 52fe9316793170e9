/-
# Requests

What the limiter needs to know of an inbound request, and who made it.
-/
import Turnstile.Text.Name

namespace Turnstile

/-- An inbound request. -/
structure Request where
  /-- The HTTP verb. -/
  method : String
  /-- The route template that the request resolved to. -/
  route : String
  /-- The address at the other end of the socket, if it is known. -/
  remote : Option String := none
  /-- The headers in the order of arrival; names may repeat. -/
  headers : List (String × String) := []
deriving DecidableEq, Repr

/-- The value of the first header with a name, the case of letters aside. -/
def Request.header? (r : Request) (name : String) : Option String :=
  (r.headers.find? fun h => Text.sameName h.1 name).map Prod.snd

/-- Who made a request, as far as authentication could tell. -/
inductive Principal where
  /-- A caller with a stable identifier. -/
  | authenticated (id : String)
  | anonymous
deriving DecidableEq, Repr

end Turnstile
