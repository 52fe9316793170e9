/-
# Headers of a response

What a response tells a client about its quota goes into response headers.  A response
keeps its headers in one of two ways: as a list, in which setting a header takes every
entry of that name out, the case of letters aside, and appends the new one; or as a map, in
which names differ as soon as one letter does.
-/
import Turnstile.Admission.Verdict
import Turnstile.Register
import Turnstile.Text.Name

namespace Turnstile

/-- A response whose headers can be set. -/
class HeaderSink (σ : Type) where
  /-- Sets the value of a header. -/
  set : σ → String → String → σ

/-- Response headers in order, with names that ignore case. -/
structure HeaderList where
  entries : List (String × String)
deriving DecidableEq, Repr

namespace HeaderList

/-- The headers without those of a name, the case of letters aside. -/
def remove (h : HeaderList) (name : String) : HeaderList :=
  ⟨h.entries.filter fun e => !Text.sameName e.1 name⟩

/-- Takes the headers of a name out and appends the new value. -/
def set (h : HeaderList) (name value : String) : HeaderList :=
  ⟨(h.remove name).entries ++ [(name, value)]⟩

instance : HeaderSink HeaderList := ⟨set⟩

end HeaderList

/-- Response headers by their exact names. -/
structure HeaderMap where
  register : Register String String := {}
deriving DecidableEq, Repr

namespace HeaderMap

/-- Sets the value under a name. -/
def set (h : HeaderMap) (name value : String) : HeaderMap := ⟨h.register.insert name value⟩

/-- The map of a list of headers, later ones winning. -/
def ofList (es : List (String × String)) : HeaderMap := ⟨Register.ofList es⟩

/-- The headers in the order of their names. -/
def sorted (h : HeaderMap) : List (String × String) :=
  h.register.entries.mergeSort fun a b => decide (a.1 ≤ b.1)

instance : HeaderSink HeaderMap := ⟨set⟩

end HeaderMap

/-- Sets a list of headers one after the other. -/
def setHeaders {σ : Type} [HeaderSink σ] (sink : σ) (pairs : List (String × String)) : σ :=
  pairs.foldl (fun s p => HeaderSink.set s p.1 p.2) sink

/-- What a client is told about its quota. -/
structure QuotaHeaders where
  limit : Nat
  remaining : Nat
  /-- The unix second of the reset. -/
  reset : Nat
deriving DecidableEq, Repr

namespace QuotaHeaders

/-- The headers that report the state of a window. -/
def ofState (w : WindowState) : QuotaHeaders := ⟨w.limit, w.remaining, w.resetAt⟩

/-- The headers as names and values. -/
def pairs (q : QuotaHeaders) : List (String × String) :=
  [("X-RateLimit-Limit", toString q.limit),
   ("X-RateLimit-Remaining", toString q.remaining),
   ("X-RateLimit-Reset", toString q.reset)]

/-- Sets the headers on a response. -/
def apply {σ : Type} [HeaderSink σ] (q : QuotaHeaders) (sink : σ) : σ := setHeaders sink q.pairs

end QuotaHeaders

end Turnstile
