/-
# Queries and decisions

To ask for a count is not without effect.  The query brings the counter in question up to
date, and it does so with the window that it is handed, which the limiter does not compare
with those of its table.

As long as the clock does not go back, no decision shows this if the window is no shorter
than any that the table uses for the counter: what the query drops, the next check of the
bucket drops as well.  This holds of every policy of a table whose policies have different
keys, and of every policy that has no key of the table.  A query with a shorter window drops
times that still count, and lets requests pass that had no room.
-/
import Mathlib.Data.List.Nodup
import Turnstile.Proofs.Admission.Refinement
import Turnstile.Proofs.Limiter.Calls

namespace Turnstile

/-- A table uses a window for a counter if a policy with the key of the counter has it at the
place of the counter. -/
def PolicyTable.Uses (t : PolicyTable) (k : CounterKey) (w : Window) : Prop :=
  ∃ p ∈ t.policies, p.key = k.bucket.policy ∧ p.windows[k.index]? = some w

namespace Counters

/-- From a time on two sets of counters are alike for a table if every counter, brought up to
date for a window that the table uses for it, is the same. -/
def AlikeFrom (t : PolicyTable) (last : Nat) (cs cs' : Counters) : Prop :=
  ∀ k w, t.Uses k w → ∀ now, last ≤ now →
    (cs.counter k).current w now = (cs'.counter k).current w now

namespace AlikeFrom

variable {t : PolicyTable} {last now : Nat} {cs cs' : Counters}

theorem refl (t : PolicyTable) (last : Nat) (cs : Counters) : AlikeFrom t last cs cs :=
  fun _ _ _ _ _ => rfl

theorem mono (h : AlikeFrom t last cs cs') (hle : last ≤ now) : AlikeFrom t now cs cs' :=
  fun k w hw now' hnow' => h k w hw now' (Nat.le_trans hle hnow')

/-- A check under a policy of the table has the same verdict on both sides and leaves them
alike. -/
theorem check (h : AlikeFrom t last cs cs') (hle : last ≤ now) {p : Policy}
    (hp : p ∈ t.policies) {b : Bucket} (hb : p.key = b.policy) :
    (cs.check b p.windows now).1 = (cs'.check b p.windows now).1 ∧
      AlikeFrom t now (cs.check b p.windows now).2 (cs'.check b p.windows now).2 := by
  obtain ⟨hverdict, hcounter⟩ := check_congr fun i w hw =>
    h ⟨b, i⟩ w ⟨p, hp, hb, hw⟩ now hle
  refine ⟨hverdict, fun k w hw now' hnow' => ?_⟩
  rcases k with ⟨kb, i⟩
  have hlater := h ⟨kb, i⟩ w hw now' (Nat.le_trans hle hnow')
  by_cases hkb : kb = b
  · subst hkb
    cases hv : p.windows[i]? with
    | none =>
      -- a policy with the same key has more windows; the check does not look that far
      rw [counter_check, counter_check, windowOf?_self, hv]
      exact hlater
    | some v => rw [hcounter i v hv]
  · rw [counter_check_of_ne cs hkb, counter_check_of_ne cs' hkb]
    exact hlater

/-- A query on one side leaves both sides alike if its window is no shorter than those that
the table uses for the counter. -/
theorem query (h : AlikeFrom t last cs cs') (hle : last ≤ now) {k : CounterKey} {v : Window}
    (hv : ∀ w, t.Uses k w → w.millis ≤ v.millis) :
    AlikeFrom t now (cs.recorded k v now).2 cs' := by
  intro k' w hw now' hnow'
  rw [counter_recorded]
  split
  · next hk =>
    subst hk
    have hshort := hv w hw
    rw [Counter.current_current_of_le (by omega)]
    exact h k w hw now' (Nat.le_trans hle hnow')
  · exact h k' w hw now' (Nat.le_trans hle hnow')

/-- A query on both sides leaves both sides alike, whatever its window and time. -/
theorem recorded (h : AlikeFrom t last cs cs') (k : CounterKey) (v : Window) (now : Nat) :
    AlikeFrom t last (cs.recorded k v now).2 (cs'.recorded k v now).2 := by
  intro k' w hw now' hnow'
  have halike := h k' w hw now' hnow'
  rw [counter_recorded, counter_recorded]
  split
  · rw [Counter.current_comm, halike, Counter.current_comm]
  · exact halike

end AlikeFrom
end Counters

namespace Limiter

/-- A call spares what a table counts if it is no query, or a query with a window no shorter
than any that the table uses for the counter. -/
def Call.Spares (t : PolicyTable) : Call → Prop
  | recorded p identity index _ => ∀ v, p.windows[index]? = some v →
      ∀ w, t.Uses ⟨⟨p.key, identity⟩, index⟩ w → w.millis ≤ v.millis
  | _ => True

/-- A query with a policy of a table whose policies have different keys spares what the table
counts. -/
theorem Call.spares_of_mem {t : PolicyTable} (hkeys : (t.policies.map Policy.key).Nodup)
    {p : Policy} (hp : p ∈ t.policies) (identity : String) (index now : Nat) :
    (Call.recorded p identity index now).Spares t := by
  rintro v hv w ⟨q, hq, hkey, hw⟩
  obtain rfl : q = p := List.inj_on_of_nodup_map hkeys hq hp hkey
  obtain rfl : w = v := Option.some.inj (hw.symm.trans hv)
  exact Nat.le_refl _

/-- A query with a policy that shares its key with no policy of a table spares what the table
counts. -/
theorem Call.spares_of_key_ne {t : PolicyTable} {p : Policy}
    (hp : ∀ q ∈ t.policies, q.key ≠ p.key) (identity : String) (index now : Nat) :
    (Call.recorded p identity index now).Spares t := by
  rintro v - w ⟨q, hq, hkey, -⟩
  exact absurd hkey (hp q hq)

section Steps

variable {l l' : Limiter} {last now : Nat}

/-- A check has the same decision on both sides and leaves them alike. -/
theorem answer_check_alike (h : Related (Counters.AlikeFrom l.table last) l l')
    (hle : last ≤ now) (r : Request) (principal : Principal) :
    (answer l (.check r principal now)).1 = (answer l' (.check r principal now)).1 ∧
      Related (Counters.AlikeFrom l.table now) (answer l (.check r principal now)).2
        (answer l' (.check r principal now)).2 := by
  cases hp : l.policyFor? r.method r.route with
  | none =>
    have hnone : (Call.check r principal now).operation? l = none := by
      simp [Call.operation?, hp]
    refine ⟨h.reply_eq (by simp [hnone]), h.answer_both ?_⟩
    rw [hnone]
    exact h.counters.mono hle
  | some p =>
    have hsome : (Call.check r principal now).operation? l =
        some (.check (l.bucketFor p r principal) p.windows now) := by
      simp [Call.operation?, hp]
    have hmem : p ∈ l.table.policies := List.mem_of_find?_eq_some hp
    obtain ⟨hverdict, halike⟩ :=
      h.counters.check hle hmem (b := l.bucketFor p r principal) rfl
    refine ⟨h.reply_eq fun op hop => ?_, h.answer_both ?_⟩
    · rw [hsome, Option.mem_some_iff] at hop
      subst hop
      exact congrArg Operation.Answer.verdict hverdict
    · rw [hsome]
      exact halike

/-- A query that spares what the table counts leaves both sides alike even if it is made on
one side only. -/
theorem answer_query_alike (h : Related (Counters.AlikeFrom l.table last) l l')
    (hle : last ≤ now) {p : Policy} {identity : String} {index : Nat}
    (hspares : (Call.recorded p identity index now).Spares l.table) :
    Related (Counters.AlikeFrom l.table now)
      (answer l (.recorded p identity index now)).2 l' := by
  refine h.answer_alone ?_
  cases hv : p.windows[index]? with
  | none =>
    simp only [Call.operation?, hv, Option.map_none, Option.elim_none]
    exact h.counters.mono hle
  | some v =>
    simp only [Call.operation?, hv, Option.map_some, Option.elim_some]
    exact h.counters.query hle (hspares v hv)

variable {c : Call} {calls : List Call}

/-- A call that both sides take leaves them alike from some time on that is no later than the
calls that follow. -/
theorem answer_alike (h : Related (Counters.AlikeFrom l.table last) l l')
    (hclock : (last :: (c :: calls).filterMap Call.time?).Pairwise (· ≤ ·)) :
    ∃ last', (last' :: calls.filterMap Call.time?).Pairwise (· ≤ ·) ∧
      Related (Counters.AlikeFrom l.table last') (answer l c).2 (answer l' c).2 := by
  cases c with
  | check r principal now =>
    obtain ⟨hle, hclock⟩ := List.pairwise_cons.1 hclock
    exact ⟨now, hclock, (answer_check_alike h (hle now (by simp [Call.time?])) r principal).2⟩
  | recorded p identity index now =>
    obtain ⟨hle, hclock⟩ := List.pairwise_cons.1 hclock
    have hlast : last ≤ now := hle now (by simp [Call.time?])
    refine ⟨now, hclock, h.answer_both ?_⟩
    cases hv : p.windows[index]? with
    | none =>
      simp only [Call.operation?, hv, Option.map_none, Option.elim_none]
      exact h.counters.mono hlast
    | some v =>
      simp only [Call.operation?, hv, Option.map_some, Option.elim_some]
      exact (h.counters.recorded _ v now).mono hlast
  | reset => exact ⟨last, hclock, ⟨h.table, h.trustProxies, .refl _ _ _⟩⟩

/-- Both sides reply the same to a call unless it asks for a count. -/
theorem answer_eq_of_alike (h : Related (Counters.AlikeFrom l.table last) l l')
    (hclock : (last :: (c :: calls).filterMap Call.time?).Pairwise (· ≤ ·))
    (hc : c.isQuery = false) : (answer l c).1 = (answer l' c).1 := by
  cases c with
  | check r principal now =>
    obtain ⟨hle, -⟩ := List.pairwise_cons.1 hclock
    exact (answer_check_alike h (hle now (by simp [Call.time?])) r principal).1
  | recorded p identity index now => cases hc
  | reset => rfl

end Steps

/-- Two limiters with one table are abreast before some calls to come if no time of a call is
earlier than one before it, every call spares what the table counts, and the counters are
alike from some time on that is no later than the calls. -/
def Abreast (t : PolicyTable) (calls : List Call) (l l' : Limiter) : Prop :=
  l.table = t ∧ (∀ c ∈ calls, c.Spares t) ∧
    ∃ last, (last :: calls.filterMap Call.time?).Pairwise (· ≤ ·) ∧
      Related (Counters.AlikeFrom t last) l l'

/-- No decision sees a query that spares what the table counts. -/
theorem unseen_queries (t : PolicyTable) :
    Unseen answer (fun c => !c.isQuery) (fun c => !c.isQuery) (Abreast t) where
  kept_of_seen _ h := h
  both := by
    rintro c calls l l' ⟨rfl, hspares, last, hclock, h⟩ -
    exact ⟨answer_table l c, fun c' hc' => hspares c' (by simp [hc']), answer_alike h hclock⟩
  alone := by
    rintro c calls l l' ⟨rfl, hspares, last, hclock, h⟩ hc
    refine ⟨answer_table l c, fun c' hc' => hspares c' (by simp [hc']), ?_⟩
    cases c with
    | check r principal now => cases hc
    | recorded p identity index now =>
      obtain ⟨hle, hclock⟩ := List.pairwise_cons.1 hclock
      exact ⟨now, hclock,
        answer_query_alike h (hle now (by simp [Call.time?])) (hspares _ (by simp))⟩
    | reset => cases hc
  answer_eq := by
    rintro c calls l l' ⟨rfl, -, last, hclock, h⟩ hc
    exact answer_eq_of_alike h hclock (by simpa using hc)

/-- **Queries change no decision**, as long as the clock does not go back and no query is
made with a window shorter than one that the table uses for the counter asked for: whatever
queries a run of calls contains, all other replies are those of the run without them. -/
theorem decisions_eq_without_queries (l : Limiter) (calls : List Call)
    (hclock : (calls.filterMap Call.time?).Pairwise (· ≤ ·))
    (hspares : ∀ c ∈ calls, c.Spares l.table) :
    answersTo (fun c => !c.isQuery) calls (runAll answer l calls).1 =
      (runAll answer l (calls.filter fun c => !c.isQuery)).1 := by
  refine (unseen_queries l.table).answersTo_eq ⟨rfl, hspares, 0, ?_, rfl, rfl, .refl _ _ _⟩
  exact List.pairwise_cons.2 ⟨fun now _ => Nat.zero_le now, hclock⟩

/-- Queries with a policy of the table, with a policy that the table does not have, and with
a longer window in the place of the table's: the second check is still turned away. -/
theorem decisions_eq_without_three_queries :
    let p : Policy := ⟨"GET", "/x", .ip, [⟨1, 60⟩]⟩
    let check : Nat → Call := .check ⟨"GET", "/x", some "192.0.2.1", []⟩ .anonymous
    let calls := [check 0, .recorded p "ip:192.0.2.1" 0 1000,
      .recorded ⟨"GET", "/y", .ip, [⟨1, 1⟩]⟩ "ip:192.0.2.1" 0 1500,
      .recorded ⟨"GET", "/x", .user, [⟨9, 3600⟩]⟩ "ip:192.0.2.1" 0 1500, check 2000]
    ∃ l, ofConfig { policies := [p] } = .ok l ∧
      (calls.filterMap Call.time?).Pairwise (· ≤ ·) ∧ (∀ c ∈ calls, c.Spares l.table) ∧
      answersTo (fun c => !c.isQuery) calls (runAll answer l calls).1 =
        (runAll answer l (calls.filter fun c => !c.isQuery)).1 ∧
      (runAll answer l calls).1.getLast? = some (.decision (.rejected ⟨⟨1, 0, 61⟩, 59⟩)) := by
  intro p check calls
  refine ⟨_, ofConfig_of_faultless (by decide +kernel), ?_⟩
  have hclock : (calls.filterMap Call.time?).Pairwise (· ≤ ·) := by decide
  have hspares : ∀ c ∈ calls, c.Spares ⟨[p], by decide +kernel⟩ := by
    intro c hc
    simp only [calls, List.mem_cons, List.not_mem_nil, or_false] at hc
    rcases hc with rfl | rfl | rfl | rfl | rfl
    · trivial
    · exact Call.spares_of_mem (by simp) (by simp) _ _ _
    · exact Call.spares_of_key_ne (by decide) _ _ _
    · -- the query is handed an hour, and the table has a minute at this place
      rintro v hv w ⟨q, hq, -, hw⟩
      obtain rfl : q = p := List.mem_singleton.1 hq
      obtain rfl : ⟨9, 3600⟩ = v := Option.some.inj hv
      obtain rfl : ⟨1, 60⟩ = w := Option.some.inj hw
      decide
    · trivial
  exact ⟨hclock, hspares, decisions_eq_without_queries _ calls hclock hspares,
    by decide +kernel⟩

/-- A query with a window of a second drops the time that counts for a minute, and the next
request passes although the one before it has used up the minute. -/
theorem decisions_changed_by_short_query :
    let p : Policy := ⟨"GET", "/x", .ip, [⟨1, 60⟩]⟩
    let check : Nat → Call := .check ⟨"GET", "/x", some "192.0.2.1", []⟩ .anonymous
    let calls :=
      [check 0, .recorded { p with windows := [⟨1, 1⟩] } "ip:192.0.2.1" 0 2000, check 2000]
    (calls.filterMap Call.time?).Pairwise (· ≤ ·) ∧
      ∃ l, ofConfig { policies := [p] } = .ok l ∧
        answersTo (fun c => !c.isQuery) calls (runAll answer l calls).1 =
          [.decision (.allowed ⟨1, 0, 61⟩), .decision (.allowed ⟨1, 0, 63⟩)] ∧
        (runAll answer l (calls.filter fun c => !c.isQuery)).1 =
          [.decision (.allowed ⟨1, 0, 61⟩), .decision (.rejected ⟨⟨1, 0, 61⟩, 59⟩)] := by
  intro p check calls
  refine ⟨by decide, _, ofConfig_of_faultless (by decide +kernel), ?_⟩
  decide +kernel

end Limiter
end Turnstile
