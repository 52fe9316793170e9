/-
# The limiter configuration in force

Two environment variables make up the configuration of the limiter: whether the headers of
proxies are trusted, and which file holds the policies.  Without a policy file the built-in
policies are in force.
-/
import Turnstile.Policy.Json
import Turnstile.Settings.Surroundings

namespace Turnstile

namespace LimiterConfig

/-- The variable that says whether the headers of proxies are trusted. -/
def trustVariable : String := "TRUST_PROXY_IP_HEADERS"

/-- The variable that names the policy file. -/
def policiesVariable : String := "RATE_LIMIT_POLICIES_FILE"

/-- Whether a value switches trust on: it is `true`, blanks at its ends and the case of its
letters aside. -/
def isTrue (value : String) : Bool := Text.sameName (Text.trim value) "true"

/-- The policies in a file. -/
def policiesAt (s : Surroundings) (path : String) : Except Error (List Policy) :=
  match s.readText path with
  | .error f => .error (.config s!"cannot read policy file {path}: {f.message}")
  | .ok text => (Policy.listOfText text).mapError Json.Fault.toError

/-- The policies that the surroundings put in force. -/
def loadPolicies (s : Surroundings) : Except Error (List Policy) :=
  match s.valueOf? policiesVariable with
  | some path => if Text.isBlankText path then .ok defaultPolicies else policiesAt s path
  | none => .ok defaultPolicies

/-- The configuration that the surroundings put in force, which has no fault. -/
def load (s : Surroundings) : Except Error LimiterConfig := do
  let policies ← loadPolicies s
  let c : LimiterConfig := ⟨((s.valueOf? trustVariable).map isTrue).getD false, policies⟩
  match c.fault? with
  | some f => throw f.toError
  | none => return c

end LimiterConfig

end Turnstile
