/-
# The identity a request is counted under

Under a user-keyed policy an authenticated caller is counted by their identifier.  Everyone
else, a caller with an empty identifier included, is counted by address.  The two kinds of
identity begin with different words, so that neither can pass for the other.
-/
import Turnstile.Caller.Address
import Turnstile.Policy.Basic

namespace Turnstile

/-- What a request is counted by. -/
inductive Identity where
  | user (id : String)
  | address (ip : String)
deriving DecidableEq, Repr

namespace Identity

/-- The written form of an identity, which names its bucket. -/
def key : Identity → String
  | user id => "user:" ++ id
  | address ip => "ip:" ++ ip

/-- The identity that a request is counted by under a keying. -/
def of (trust : Bool) (keying : Keying) (principal : Principal) (r : Request) : Identity :=
  match keying, principal with
  | .user, .authenticated id => if id.isEmpty then address (clientAddress trust r) else user id
  | _, _ => address (clientAddress trust r)

end Identity

end Turnstile
