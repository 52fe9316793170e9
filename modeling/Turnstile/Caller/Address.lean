/-
# The address of a caller

Proxies in front of the server name in a header the client they speak for.  If they are
trusted, the first entry of `X-Forwarded-For` is the address; if that is missing or blank,
the first `for` pair of `Forwarded` is, unless it is empty.  Otherwise, and whenever proxies
are not trusted, it is the address at the other end of the socket.

A `Forwarded` value is cut at every comma and semicolon, wherever they stand; each piece is
a name and a value around its first equals sign.  Quotes around the value are dropped.
-/
import Turnstile.Caller.Request
import Turnstile.Text.Blank
import Turnstile.Text.Pieces

namespace Turnstile

open Text

/-- The first entry of a comma-separated list of addresses, unless it is blank. -/
def firstHop? (value : String) : Option String :=
  match trimList ((pieces (· == ',') value.toList).headD []) with
  | [] => none
  | ip => some (String.ofList ip)

/-- Whether a letter ends a pair of a `Forwarded` value. -/
def endsPair (c : Char) : Bool := c == ',' || c == ';'

/-- The value of a piece of a `Forwarded` value whose name is `for`. -/
def forValue? (piece : List Char) : Option (List Char) :=
  match cutAt (· == '=') (trimList piece) with
  | none => none
  | some (name, value) =>
    if folded (trimList name) = "for".toList then some (trimBy (· == '"') (trimList value))
    else none

/-- The address in a `Forwarded` value: that of the first `for` pair, unless it is empty. -/
def forwardedFor? (value : String) : Option String :=
  match (pieces endsPair value.toList).findSome? forValue? with
  | none | some [] => none
  | some ip => some (String.ofList ip)

/-- The address that trusted proxies give for a request. -/
def proxiedAddress? (r : Request) : Option String :=
  ((r.header? "X-Forwarded-For").bind firstHop?).or ((r.header? "Forwarded").bind forwardedFor?)

/-- The address of the caller, where `trust` says whether proxies are trusted. -/
def clientAddress (trust : Bool) (r : Request) : String :=
  let direct := r.remote.getD "unknown"
  if trust then (proxiedAddress? r).getD direct else direct

theorem clientAddress_of_untrusted (r : Request) :
    clientAddress false r = r.remote.getD "unknown" := rfl

end Turnstile
