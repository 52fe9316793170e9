/-
# Policy tables

A list of policies makes a table if every method and path has a letter that is not blank,
no window is void, and no two policies share their method and path.  A list that does not
has a first fault: that of the first policy that breaks a rule given the ones before it,
where a blank name is reported before a void window and a void window before a duplicate.

A `PolicyTable` carries the proof that its list has no fault.
-/
import Turnstile.Error
import Turnstile.Policy.Basic
import Turnstile.Text.Blank

namespace Turnstile

/-- Why a list of policies is no table. -/
inductive PolicyFault where
  /-- A method or path consists of blanks only. -/
  | blankName
  /-- The policy with this key has a window with limit or length zero. -/
  | voidWindow (key : String)
  /-- A second policy has the method and path of this key. -/
  | duplicate (key : String)
deriving DecidableEq, Repr

namespace PolicyFault

/-- The message of a fault. -/
def message : PolicyFault → String
  | blankName => "policy method and path must not be empty"
  | voidWindow key => s!"policy {key} has a window with zero limit or length"
  | duplicate key => s!"duplicate policy for {key}"

/-- The report of a fault. -/
def toError (f : PolicyFault) : Error := .config f.message

end PolicyFault

namespace Policy

/-- The fault of a policy that comes after the given ones. -/
def fault? (earlier : List Policy) (p : Policy) : Option PolicyFault :=
  if Text.isBlankText p.method || Text.isBlankText p.path then some .blankName
  else if p.windows.any Window.isVoid then some (.voidWindow p.key)
  else if earlier.any fun q => q.covers p.method p.path then some (.duplicate p.key)
  else none

/-- The first fault of the policies in a list that comes after the given ones. -/
def firstFault? (earlier : List Policy) : List Policy → Option PolicyFault
  | [] => none
  | p :: ps =>
    match p.fault? earlier with
    | some f => some f
    | none => firstFault? (earlier ++ [p]) ps

/-- The order of display: by path, then by method, both by code points. -/
def displayLE (p q : Policy) : Bool :=
  decide (p.path < q.path) || (p.path == q.path && decide (p.method ≤ q.method))

end Policy

/-- A list of policies without fault. -/
structure PolicyTable where
  /-- The policies in the order in which they were given. -/
  policies : List Policy
  faultless : Policy.firstFault? [] policies = none

namespace PolicyTable

/-- The table of a list of policies, or its first fault. -/
def ofList (ps : List Policy) : Except PolicyFault PolicyTable :=
  match h : Policy.firstFault? [] ps with
  | some f => .error f
  | none => .ok ⟨ps, h⟩

/-- The policy that covers a method and a route. -/
def find? (t : PolicyTable) (method route : String) : Option Policy :=
  t.policies.find? fun p => p.covers method route

/-- The number of policies. -/
def size (t : PolicyTable) : Nat := t.policies.length

/-- Whether the table has no policy. -/
def isEmpty (t : PolicyTable) : Bool := t.policies.isEmpty

/-- The policies in the order of display. -/
def sorted (t : PolicyTable) : List Policy := t.policies.mergeSort Policy.displayLE

theorem ofList_eq_ok_iff {ps : List Policy} {t : PolicyTable} :
    ofList ps = .ok t ↔ Policy.firstFault? [] ps = none ∧ t.policies = ps := by
  unfold ofList
  split
  · next f h => simp [h]
  · next h =>
    cases t with
    | mk qs hq => simp [h, eq_comm]

theorem ofList_eq_error_iff {ps : List Policy} {f : PolicyFault} :
    ofList ps = .error f ↔ Policy.firstFault? [] ps = some f := by
  unfold ofList
  split
  · next g h => simp [h]
  · next h => simp [h]

end PolicyTable

end Turnstile
