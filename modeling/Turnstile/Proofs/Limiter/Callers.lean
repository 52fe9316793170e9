/-
# Who is counted together

A limiter counts requests under a written identity, and parts of that text come from outside:
the user's identifier, and the address, which a trusted proxy may have written into a header.
The text begins with a word that says which of the two it is.  Neither an identifier nor a
header gets in front of that word, so two requests are counted together under a policy only if
they are of one user, or if both are counted by address and come from one.

Whether a request is counted by address is settled by the policy and the principal.  Where
proxies are not trusted the address is settled by the socket alone, and then no reply of a run
depends on any header.
-/
import Turnstile.Proofs.Limiter.Calls

namespace Turnstile

/-- Different identities are written differently, whatever the identifiers and addresses. -/
theorem Identity.key_injective : Function.Injective key := by
  rintro (id | ip) (id' | ip') h
  · simpa [key, ← String.toList_inj] using h
  · simp [key, ← String.toList_inj] at h
  · simp [key, ← String.toList_inj] at h
  · simpa [key, ← String.toList_inj] using h

namespace Policy

/-- A policy counts a caller by address if it says so itself, or if it has no identifier to go
by. -/
def CountsByAddress (p : Policy) (principal : Principal) : Prop :=
  p.keying = .ip ∨ principal = .anonymous ∨ principal = .authenticated ""

variable {p : Policy} {principal : Principal}

/-- Everyone else is a user with an identifier. -/
theorem not_countsByAddress_iff :
    ¬p.CountsByAddress principal ↔
      p.keying = .user ∧ ∃ id, id ≠ "" ∧ principal = .authenticated id := by
  cases hkeying : p.keying <;> cases principal <;> simp [CountsByAddress, hkeying]

end Policy

namespace Limiter

section Identities

variable (l : Limiter) {p : Policy} (r r' : Request) {principal principal' : Principal}

theorem identityFor_of_countsByAddress (h : p.CountsByAddress principal) :
    l.identityFor p r principal = .address (clientAddress l.trustProxies r) := by
  unfold identityFor Identity.of
  rcases h with h | rfl | rfl
  · rw [h]
  · cases p.keying <;> rfl
  · cases p.keying <;> rfl

theorem identityFor_user (hp : p.keying = .user) {id : String} (hid : id ≠ "") :
    l.identityFor p r (.authenticated id) = .user id := by
  simp [identityFor, Identity.of, hp, hid]

/-- What a request is counted by says how its caller is counted. -/
theorem identityFor_eq_address_iff {ip : String} :
    l.identityFor p r principal = .address ip ↔
      p.CountsByAddress principal ∧ clientAddress l.trustProxies r = ip := by
  by_cases h : p.CountsByAddress principal
  · simp [identityFor_of_countsByAddress l r h, h]
  · obtain ⟨hp, id, hid, rfl⟩ := Policy.not_countsByAddress_iff.1 h
    simp [identityFor_user l r hp hid, h]

theorem identityFor_eq_user_iff {id : String} :
    l.identityFor p r principal = .user id ↔
      p.keying = .user ∧ id ≠ "" ∧ principal = .authenticated id := by
  by_cases h : p.CountsByAddress principal
  · have hnot : ¬(p.keying = .user ∧ id ≠ "" ∧ principal = .authenticated id) :=
      fun ⟨hp, hid, hprincipal⟩ => Policy.not_countsByAddress_iff.2 ⟨hp, id, hid, hprincipal⟩ h
    simp [identityFor_of_countsByAddress l r h, hnot]
  · obtain ⟨hp, id', hid', rfl⟩ := Policy.not_countsByAddress_iff.1 h
    rw [identityFor_user l r hp hid', Identity.user.injEq, Principal.authenticated.injEq]
    refine ⟨?_, fun ⟨_, _, heq⟩ => heq⟩
    rintro rfl
    exact ⟨hp, hid', rfl⟩

/-- Two requests are counted by the same if they are of one user, or if both are counted by
address and have the same. -/
theorem identityFor_eq_iff :
    l.identityFor p r principal = l.identityFor p r' principal' ↔
      (p.keying = .user ∧ ∃ id, id ≠ "" ∧ principal = .authenticated id ∧
          principal' = .authenticated id) ∨
        (p.CountsByAddress principal ∧ p.CountsByAddress principal' ∧
          clientAddress l.trustProxies r = clientAddress l.trustProxies r') := by
  by_cases h' : p.CountsByAddress principal'
  · have hno : ¬(p.keying = .user ∧ ∃ id, id ≠ "" ∧ principal = .authenticated id ∧
        principal' = .authenticated id) := fun ⟨hp, id, hid, _, hprincipal'⟩ =>
      Policy.not_countsByAddress_iff.2 ⟨hp, id, hid, hprincipal'⟩ h'
    rw [identityFor_of_countsByAddress l r' h', identityFor_eq_address_iff]
    simp [hno, h']
  · obtain ⟨hp, id, hid, rfl⟩ := Policy.not_countsByAddress_iff.1 h'
    rw [identityFor_user l r' hp hid, identityFor_eq_user_iff]
    simp [h', hp, hid]

/-- The written identity tells how the caller is counted. -/
theorem exists_key_eq_iff :
    (p.CountsByAddress principal ↔ ∃ ip, (l.identityFor p r principal).key = "ip:" ++ ip) ∧
      (¬p.CountsByAddress principal ↔
        ∃ id, (l.identityFor p r principal).key = "user:" ++ id) := by
  constructor
  · change _ ↔ ∃ ip, _ = (Identity.address ip).key
    simp only [Identity.key_injective.eq_iff, identityFor_eq_address_iff]
    simp
  · change _ ↔ ∃ id, _ = (Identity.user id).key
    simp only [Identity.key_injective.eq_iff, identityFor_eq_user_iff,
      Policy.not_countsByAddress_iff]
    simp

end Identities

/-! ## Headers that nobody trusts -/

section Untrusted

variable {l : Limiter}

/-- A call whose request, if it has one, arrives with other headers. -/
def Call.withHeaders (headers : List (String × String)) : Call → Call
  | check r principal now => check { r with headers } principal now
  | recorded p identity index now => recorded p identity index now
  | reset => reset

theorem identityFor_withHeaders (h : l.trustProxies = false) (p : Policy) (r : Request)
    (principal : Principal) (headers : List (String × String)) :
    l.identityFor p { r with headers } principal = l.identityFor p r principal := by
  simp [identityFor, Identity.of, h, clientAddress_of_untrusted]

/-- A call amounts to the same operation whatever the headers. -/
theorem operation?_withHeaders (h : l.trustProxies = false) (c : Call)
    (headers : List (String × String)) :
    (c.withHeaders headers).operation? l = c.operation? l := by
  cases c with
  | check r principal now =>
    simp only [Call.withHeaders, Call.operation?, bucketFor, identityFor_withHeaders h]
  | recorded p identity index now => rfl
  | reset => rfl

theorem reply_withHeaders (c : Call) (headers : List (String × String))
    (a : Option Operation.Answer) : (c.withHeaders headers).reply a = c.reply a := by
  cases c with
  | check r principal now => rcases a with - | (v | n | -) <;> rfl
  | recorded p identity index now => rfl
  | reset => rfl

theorem answer_withHeaders (h : l.trustProxies = false) (c : Call)
    (headers : List (String × String)) :
    answer l (c.withHeaders headers) = answer l c := by
  rw [answer_eq, answer_eq, operation?_withHeaders h, reply_withHeaders]

theorem runAll_withHeaders (h : l.trustProxies = false)
    (calls : List (Call × List (String × String))) :
    runAll answer l (calls.map fun c => c.1.withHeaders c.2) =
      runAll answer l (calls.map Prod.fst) := by
  induction calls generalizing l with
  | nil => rfl
  | cons c calls ih =>
    have hnext : (answer l c.1).2.trustProxies = false := by rw [answer_eq, h]
    rw [List.map_cons, List.map_cons, runAll_cons, runAll_cons, answer_withHeaders h, ih hnext]

end Untrusted

/-- **Who is counted together.**  Under a policy two requests are counted together if and only
if they are of one user and the policy goes by user, or if both are counted by address and have
the same.  No identifier and no header makes what is written for one kind of caller read like
what is written for the other.  Where proxies are not trusted, other headers in every request of
a run change no reply, and the limiter ends as it would have. -/
theorem key_eq_iff_counted_together (l : Limiter) :
    (∀ (p : Policy) (r r' : Request) (principal principal' : Principal),
      (l.identityFor p r principal).key = (l.identityFor p r' principal').key ↔
        (p.keying = .user ∧ ∃ id, id ≠ "" ∧ principal = .authenticated id ∧
            principal' = .authenticated id) ∨
          (p.CountsByAddress principal ∧ p.CountsByAddress principal' ∧
            clientAddress l.trustProxies r = clientAddress l.trustProxies r')) ∧
      (∀ (p : Policy) (r : Request) (principal : Principal),
        (p.CountsByAddress principal ↔ ∃ ip, (l.identityFor p r principal).key = "ip:" ++ ip) ∧
          (¬p.CountsByAddress principal ↔
            ∃ id, (l.identityFor p r principal).key = "user:" ++ id)) ∧
      (l.trustProxies = false → ∀ calls : List (Call × List (String × String)),
        runAll answer l (calls.map fun c => c.1.withHeaders c.2) =
          runAll answer l (calls.map Prod.fst)) := by
  refine ⟨fun p r r' principal principal' => ?_, fun p r principal => ?_, fun h calls => ?_⟩
  · rw [Identity.key_injective.eq_iff]
    exact identityFor_eq_iff l r r'
  · exact exists_key_eq_iff l r
  · exact runAll_withHeaders h calls

/-- A caller who claims to be someone else with every request is still turned away the second
time. -/
theorem key_eq_iff_counted_together_forged_headers :
    let p : Policy := ⟨"GET", "/x", .user, [⟨1, 60⟩]⟩
    let check : Nat → Call := .check ⟨"GET", "/x", some "192.0.2.1", []⟩ .anonymous
    let calls := [(check 0, [("X-Forwarded-For", "198.51.100.7")]),
      (check 1000, [("Forwarded", "for=198.51.100.8"), ("X-Forwarded-For", "user:1")])]
    ∃ l, ofConfig { trustProxies := false, policies := [p] } = .ok l ∧
      l.trustProxies = false ∧
      runAll answer l (calls.map fun c => c.1.withHeaders c.2) =
        runAll answer l (calls.map Prod.fst) ∧
      (runAll answer l (calls.map Prod.fst)).1 =
        [.decision (.allowed ⟨1, 0, 61⟩), .decision (.rejected ⟨⟨1, 0, 61⟩, 60⟩)] := by
  intro p check calls
  refine ⟨_, ofConfig_of_faultless (by decide +kernel), rfl, ?_, ?_⟩
  · exact (key_eq_iff_counted_together _).2.2 rfl calls
  · decide +kernel

end Limiter
end Turnstile
