/-
# Policies as JSON

The JSON form of windows, policies and limiter configurations, for reading and for writing.
A keying is its name as a text, or an object with that name as its only key and `null` as
its value; it is written as a text.
-/
import Turnstile.Json.Printer
import Turnstile.Json.Record
import Turnstile.Limiter

namespace Turnstile

open Json

/-! ## Reading -/

namespace Keying

/-- The names that a keying may have, as a fault report gives them. -/
def expected : String := "`user` or `ip`"

/-- Reads the name of a keying. -/
def readName : Reader Keying := fun cs => do
  let (s, rest) ← readTextAs "variant identifier" cs
  match ofName? s with
  | some k => return (k, rest)
  | none => throw (.unknownVariant s expected)

/-- Reads the only key of an object, up to its opening quote. -/
def readKeyFront (cs : List Char) : Except Fault (List Char) :=
  match skipSpace cs with
  | [] => .error .endOfValue
  | '"' :: rest => .ok ('"' :: rest)
  | '\x7d' :: _ => .error .expectedValue
  | _ :: _ => .error .keyNotString

/-- Reads a keying as an object after its opening brace. -/
def readMember : Reader Keying := fun cs => do
  let (k, rest) ← readName (← readKeyFront cs)
  let ((), rest) ← readNull (← readColon rest)
  match skipSpace rest with
  | [] => throw .endOfObject
  | c :: rest => if c = '\x7d' then return (k, rest) else throw .expectedValue

/-- Reads a keying. -/
def read : Reader Keying := fun cs =>
  match skipSpace cs with
  | [] => .error .endOfValue
  | '"' :: rest => readName ('"' :: rest)
  | '\x7b' :: rest => readMember rest
  | _ :: _ => .error .expectedValue

end Keying

/-- How windows are read. -/
def Window.schema : Schema Window where
  name := "RateLimitWindow"
  blank := ⟨0, 0⟩
  fields :=
    [field "limit" readCount fun w n => { w with limit := n },
     field "windowSeconds" readCount fun w n => { w with seconds := n }]

/-- How policies are read. -/
def Policy.schema : Schema Policy where
  name := "RateLimitPolicy"
  blank := ⟨"", "", .ip, []⟩
  fields :=
    [field "method" readText fun p s => { p with method := s },
     field "path" readText fun p s => { p with path := s },
     field "keyingBasis" Keying.read fun p k => { p with keying := k },
     field "windows" (readArray Window.schema.read) fun p ws => { p with windows := ws }]

/-- Reads a list of policies. -/
def Policy.readList : Reader (List Policy) := readArray Policy.schema.read

/-- How limiter configurations are read: what is left out is as built in. -/
def LimiterConfig.schema : Schema LimiterConfig where
  name := "LimiterConfig"
  blank := {}
  fields :=
    [(field "trustProxyIpHeaders" readFlag fun c b => { c with trustProxies := b }).orBlank,
     (field "policies" Policy.readList fun c ps => { c with policies := ps }).orBlank]

/-- The policies that a JSON text lists. -/
def Policy.listOfText (s : String) : Except Fault (List Policy) := readWhole readList s

/-- The limiter configuration that a JSON text gives. -/
def LimiterConfig.ofText (s : String) : Except Fault LimiterConfig := readWhole schema.read s

/-- The window that a JSON text gives. -/
def Window.ofText (s : String) : Except Fault Window := readWhole schema.read s

/-- The keying that a JSON text gives. -/
def Keying.ofText (s : String) : Except Fault Keying := readWhole read s

/-! ## Writing -/

/-- A written window. -/
def Window.print (w : Window) : List Char :=
  printObject [("limit", printCount w.limit), ("windowSeconds", printCount w.seconds)]

/-- A written policy. -/
def Policy.print (p : Policy) : List Char :=
  printObject
    [("method", printString p.method),
     ("path", printString p.path),
     ("keyingBasis", printString p.keying.name),
     ("windows", printArray (p.windows.map Window.print))]

/-- A written list of policies. -/
def Policy.printList (ps : List Policy) : List Char := printArray (ps.map Policy.print)

/-- A written limiter configuration. -/
def LimiterConfig.print (c : LimiterConfig) : List Char :=
  printObject
    [("trustProxyIpHeaders", printFlag c.trustProxies),
     ("policies", Policy.printList c.policies)]

/-- The text of a list of policies. -/
def Policy.listText (ps : List Policy) : String := String.ofList (printList ps)

/-- The text of a limiter configuration. -/
def LimiterConfig.text (c : LimiterConfig) : String := String.ofList c.print

end Turnstile
