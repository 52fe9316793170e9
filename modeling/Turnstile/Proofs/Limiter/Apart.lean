/-
# Policies that keep apart

The requests under a policy are counted under its key, the method and the path joined by a
colon.  Policies with different keys do not see each other: the checks under one are decided
as they would be without those under the other, whatever the clock does.

A table only makes sure that no two policies share their method and path.  As long as
methods have no colon, which no HTTP verb has, different policies have different keys.  A
method with a colon can join with a path to the key of another policy of the table; then the
two are counted together.
-/
import Turnstile.Proofs.Admission.Isolation
import Turnstile.Proofs.Limiter.Calls

namespace Turnstile

namespace Policy

theorem toList_key (p : Policy) : p.key.toList = p.method.toList ++ ':' :: p.path.toList := by
  simp [key]

/-- The key of a policy whose method has no colon tells method and path. -/
theorem cutAt_key {p : Policy} (hp : ':' ∉ p.method.toList) :
    Text.cutAt (· == ':') p.key.toList = some (p.method.toList, p.path.toList) := by
  rw [toList_key]
  refine Text.cutAt_append_cons _ _ _ _ (fun c hc => ?_) rfl
  rw [beq_eq_false_iff_ne]
  rintro rfl
  exact hp hc

/-- Policies whose methods have no colon share a key only if they share method and path. -/
theorem key_ne {p q : Policy} (hp : ':' ∉ p.method.toList) (hq : ':' ∉ q.method.toList)
    (hpq : p.method ≠ q.method ∨ p.path ≠ q.path) : p.key ≠ q.key := by
  intro hkey
  have hcut := cutAt_key hp
  rw [hkey, cutAt_key hq, Option.some.injEq, Prod.mk.injEq] at hcut
  obtain ⟨hmethod, hpath⟩ := hcut
  rcases hpq with hne | hne
  · exact hne (String.toList_inj.1 hmethod.symm)
  · exact hne (String.toList_inj.1 hpath.symm)

end Policy

namespace Limiter

/-- A check of a request that a policy covers is on a bucket of that policy. -/
theorem isOn_of_selects {l : Limiter} {p : Policy} {c : Call} {v : Bool}
    (hc : c.selects l.table p = true) {op : Operation} (hop : op ∈ c.operation? l)
    (S : Bucket → Bool) (hS : ∀ identity, S ⟨p.key, identity⟩ = v) : op.isOn S = v := by
  cases c with
  | check r principal now =>
    have hp : l.policyFor? r.method r.route = some p := by
      simpa [Call.selects, policyFor?] using hc
    simp only [Call.operation?, hp, Option.map_some, Option.mem_some_iff] at hop
    subst hop
    exact hS _
  | recorded q identity index now => cases hc
  | reset => cases hc

/-- The checks under a policy do not see those under a policy with another key. -/
theorem unseen_selects {t : PolicyTable} {p q : Policy} (hkeys : p.key ≠ q.key) :
    Unseen answer (fun c => !c.selects t q) (Call.selects t p) fun _ l l' =>
      l.table = t ∧ Related (Counters.AgreeOn fun b => b.policy == p.key) l l' where
  kept_of_seen c hp := by
    cases c with
    | check r principal now =>
      have hne : p ≠ q := fun h => hkeys (congrArg Policy.key h)
      have hfind : t.find? r.method r.route = some p := by simpa [Call.selects] using hp
      simp [Call.selects, hfind, hne]
    | recorded q' identity index now => cases hp
    | reset => cases hp
  both := by
    rintro c calls l l' ⟨rfl, h⟩ -
    refine ⟨answer_table l c, h.answer_both ?_⟩
    cases c.operation? l with
    | none => exact h.counters
    | some op => exact Operation.perform_agreeOn h.counters op
  alone := by
    rintro c calls l l' ⟨rfl, h⟩ hq
    refine ⟨answer_table l c, h.answer_alone ?_⟩
    cases hop : c.operation? l with
    | none => exact h.counters
    | some op =>
      refine Operation.perform_agreeOn_left h.counters ?_
      refine isOn_of_selects (by simpa using hq) hop _ fun identity => ?_
      exact beq_eq_false_iff_ne.2 fun heq => hkeys heq.symm
  answer_eq := by
    rintro c calls l l' ⟨rfl, h⟩ hp
    refine h.reply_eq fun op hop => Operation.perform_answer_eq h.counters ?_
    exact isOn_of_selects hp hop _ fun identity => beq_self_eq_true _

/-- **Policies with different keys do not interfere.**  Whatever a limiter is asked, and
however the clock goes, leaving out all checks of requests that one policy covers changes no
decision on a request that a policy with another key covers, nor anything that is counted
under that key. -/
theorem decisions_apart (l : Limiter) {p q : Policy} (hkeys : p.key ≠ q.key)
    (calls : List Call) :
    let rest := calls.filter fun c => !c.selects l.table q
    answersTo (Call.selects l.table p) calls (runAll answer l calls).1 =
        answersTo (Call.selects l.table p) rest (runAll answer l rest).1 ∧
      ∀ k, k.bucket.policy = p.key →
        (runAll answer l calls).2.counters.register.get? k =
          (runAll answer l rest).2.counters.register.get? k := by
  intro rest
  have hstart : Related (Counters.AgreeOn fun b => b.policy == p.key) l l :=
    ⟨rfl, rfl, .refl _ _⟩
  obtain ⟨hdecisions, -, hend⟩ := (unseen_selects hkeys).run_filter ⟨rfl, hstart⟩
  exact ⟨hdecisions, fun k hk => hend.counters k (beq_iff_eq.2 hk)⟩

/-- Reading and changing a record under one path, each with a window of its own: the caller
who has used up one may still do the other. -/
theorem decisions_apart_get_put :
    let p : Policy := ⟨"GET", "/x", .ip, [⟨1, 60⟩]⟩
    let q : Policy := ⟨"PUT", "/x", .ip, [⟨1, 60⟩]⟩
    let call : Policy → Call := fun p =>
      .check { method := p.method, route := p.path, remote := some "192.0.2.1" } .anonymous 0
    let calls := [call q, call p, call q]
    p.key ≠ q.key ∧ ∃ l, ofConfig { policies := [p, q] } = .ok l ∧
      let rest := calls.filter fun c => !c.selects l.table q
      answersTo (Call.selects l.table p) calls (runAll answer l calls).1 =
          answersTo (Call.selects l.table p) rest (runAll answer l rest).1 ∧
        answersTo (Call.selects l.table p) rest (runAll answer l rest).1 =
          [.decision (.allowed ⟨1, 0, 61⟩)] := by
  intro p q call calls
  have hkeys : p.key ≠ q.key := Policy.key_ne (by decide) (by decide) (.inl (by decide))
  refine ⟨hkeys, _, ofConfig_of_faultless (by decide +kernel), ?_, ?_⟩
  · exact (decisions_apart _ hkeys calls).1
  · decide +kernel

/-- The method of the second policy has a colon, so that both policies have the same key: a
request that the second one covers uses up the quota of the first. -/
theorem decisions_not_apart_of_colon :
    let p : Policy := ⟨"GET", "/a:/b", .ip, [⟨1, 60⟩]⟩
    let q : Policy := ⟨"GET:/a", "/b", .ip, [⟨1, 60⟩]⟩
    let call : Policy → Call := fun p =>
      .check { method := p.method, route := p.path, remote := some "192.0.2.1" } .anonymous 0
    let calls := [call q, call p]
    p ≠ q ∧ ∃ l, ofConfig { policies := [p, q] } = .ok l ∧
      let rest := calls.filter fun c => !c.selects l.table q
      answersTo (Call.selects l.table p) calls (runAll answer l calls).1 =
          [.decision (.rejected ⟨⟨1, 0, 61⟩, 61⟩)] ∧
        answersTo (Call.selects l.table p) rest (runAll answer l rest).1 =
          [.decision (.allowed ⟨1, 0, 61⟩)] := by
  intro p q call calls
  refine ⟨by decide, _, ofConfig_of_faultless (by decide +kernel), ?_⟩
  decide +kernel

end Limiter
end Turnstile
