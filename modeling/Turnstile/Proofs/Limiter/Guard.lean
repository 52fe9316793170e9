/-
# Guarding a handler

A request is guarded in a world of its own: authentication, the clock and the handler may
look at the world and change it, and the limiter is no part of it.  Authentication comes
first, then the clock is read, then the limiter decides, and only then, if at all, the handler
runs.  So whatever the handler does to the clock comes too late for the decision.

A request that is turned away costs its caller nothing: the check has brought the counters of
the bucket up to date, and as long as the clock does not go back every later check would have
done the same.  A request that passes costs one place in every window of its policy.
-/
import Turnstile.Proofs.Admission.Remaining
import Turnstile.Proofs.Limiter.Queries
import Turnstile.Proofs.Reply.Headers

namespace Turnstile

namespace Counters.AlikeFrom

variable {t : PolicyTable} {now : Nat} {cs : Counters}

/-- A check that turns the request away leaves counters that are alike from its time on, if
the policies of the table have different keys. -/
theorem of_not_allowed (hkeys : (t.policies.map Policy.key).Nodup) {p : Policy}
    (hp : p ∈ t.policies) {b : Bucket} (hb : p.key = b.policy)
    (hallowed : (cs.check b p.windows now).1.allowed = false) :
    AlikeFrom t now (cs.check b p.windows now).2 cs := by
  rintro k w ⟨q, hq, hkey, hw⟩ now' hnow'
  rw [counter_check, hallowed]
  cases hv : windowOf? b p.windows k with
  | none => rfl
  | some v =>
    -- the counter is one of the bucket, and there is only one policy that can use it
    obtain ⟨hbucket, hv⟩ : k.bucket = b ∧ p.windows[k.index]? = some v := by
      simpa [windowOf?] using hv
    obtain rfl : q = p := List.inj_on_of_nodup_map hkeys hq hp (by rw [hkey, hbucket, hb])
    obtain rfl : v = w := Option.some.inj (hv.symm.trans hw)
    exact Counter.current_current hnow' _

end Counters.AlikeFrom

namespace Limiter

/-! ## Limiters that are alike -/

section Alike

variable {l l' : Limiter} {last : Nat}

/-- No decision of a run tells limiters apart that are alike from some time on that is no later
than the calls. -/
theorem unseen_alike (t : PolicyTable) :
    Unseen answer (fun _ => true) (fun c => !c.isQuery) fun calls l l' =>
      l.table = t ∧ ∃ last, (last :: calls.filterMap Call.time?).Pairwise (· ≤ ·) ∧
        Related (Counters.AlikeFrom t last) l l' where
  kept_of_seen _ _ := rfl
  both := by
    rintro c calls l l' ⟨rfl, last, hclock, h⟩ -
    exact ⟨answer_table l c, answer_alike h hclock⟩
  alone _ h := by cases h
  answer_eq := by
    rintro c calls l l' ⟨rfl, last, hclock, h⟩ hseen
    exact answer_eq_of_alike h hclock (by simpa using hseen)

/-- A run makes the same decisions on limiters that are alike when it begins. -/
theorem decisions_eq_of_alike (h : Related (Counters.AlikeFrom l.table last) l l')
    {calls : List Call} (hclock : (last :: calls.filterMap Call.time?).Pairwise (· ≤ ·)) :
    answersTo (fun c => !c.isQuery) calls (runAll answer l calls).1 =
      answersTo (fun c => !c.isQuery) calls (runAll answer l' calls).1 := by
  have hrun := ((unseen_alike l.table).run_filter ⟨rfl, last, hclock, h⟩).1
  rwa [List.filter_true] at hrun

end Alike

/-! ## What a check decides and leaves -/

/-- The verdict on a request under a policy, and the counters it leaves. -/
def verdictUnder (l : Limiter) (p : Policy) (r : Request) (principal : Principal) (now : Nat) :
    Verdict × Counters :=
  l.counters.check (l.bucketFor p r principal) p.windows now

/-- The three things that a check can do. -/
inductive Checked (l : Limiter) (r : Request) (principal : Principal) (now : Nat) :
    Decision → Limiter → Prop where
  /-- No window binds the request, and nothing changes. -/
  | unlimited : Checked l r principal now .unlimited l
  /-- Every window of the policy has room, and the tightest one is reported. -/
  | allowed {p : Policy} {s : WindowState} (covers : l.policyFor? r.method r.route = some p)
      (allowed : (l.verdictUnder p r principal now).1.allowed = true)
      (found : (l.verdictUnder p r principal now).1.mostRestrictive = some s) :
      Checked l r principal now (.allowed (.ofState s))
        { l with counters := (l.verdictUnder p r principal now).2 }
  /-- Some window has no room, and the tightest one is reported. -/
  | rejected {p : Policy} {s : WindowState} (covers : l.policyFor? r.method r.route = some p)
      (rejected : (l.verdictUnder p r principal now).1.allowed = false)
      (found : (l.verdictUnder p r principal now).1.mostRestrictive = some s) :
      Checked l r principal now (.rejected (.of (.ofState s) now))
        { l with counters := (l.verdictUnder p r principal now).2 }

section Decisions

variable {l : Limiter} {r : Request} {principal : Principal} {now : Nat} {p : Policy}

/-- A verdict without a tightest window is one on a policy without windows. -/
theorem verdictUnder_snd_of_none
    (hnone : (l.verdictUnder p r principal now).1.mostRestrictive = none) :
    (l.verdictUnder p r principal now).2 = l.counters := by
  cases hws : p.windows with
  | nil => rw [verdictUnder, hws]; rfl
  | cons w ws =>
    rw [verdictUnder, Verdict.mostRestrictive, Counters.check_windows, hws] at hnone
    cases hnone

theorem checked (l : Limiter) (r : Request) (principal : Principal) (now : Nat) :
    Checked l r principal now ((check r principal now).run l).result
      ((check r principal now).run l).state := by
  cases hp : l.policyFor? r.method r.route with
  | none =>
    rw [show (check r principal now).run l = ⟨.unlimited, l, [unboundEvent r]⟩ by
      simp [check, Action.run, hp]]
    exact .unlimited
  | some p =>
    rw [show (check r principal now).run l =
        ⟨decisionOf (l.verdictUnder p r principal now).1 now,
          { l with counters := (l.verdictUnder p r principal now).2 },
          eventsOf (l.bucketFor p r principal) (l.verdictUnder p r principal now).1⟩ by
      simp [check, Action.run, hp, verdictUnder]]
    cases hfound : (l.verdictUnder p r principal now).1.mostRestrictive with
    | none =>
      rw [verdictUnder_snd_of_none hfound, decisionOf, hfound]
      exact .unlimited
    | some s =>
      rw [decisionOf, hfound]
      cases hallowed : (l.verdictUnder p r principal now).1.allowed with
      | true => exact .allowed hp hallowed hfound
      | false => exact .rejected hp hallowed hfound

/-! ## What a request costs -/

/-- What it means that a request is turned away at a time. -/
structure TurnedAway (l : Limiter) (now : Nat) (rejection : Rejection) (after : Limiter) :
    Prop where
  remaining : rejection.headers.remaining = 0
  retryAfter : 1 ≤ rejection.retryAfter
  /-- As long as the clock does not go back, all decisions to come are those that would be made
  without the request. -/
  unnoticed : ∀ calls : List Call, (now :: calls.filterMap Call.time?).Pairwise (· ≤ ·) →
    answersTo (fun c => !c.isQuery) calls (runAll answer after calls).1 =
      answersTo (fun c => !c.isQuery) calls (runAll answer l calls).1

/-- What it means that a request of an identity passes under a policy at a time. -/
structure LetThrough (l : Limiter) (p : Policy) (identity : String) (now : Nat)
    (headers : QuotaHeaders) (after : Limiter) : Prop where
  /-- The counter of every window is brought up to date and gets the time of the request. -/
  recorded : ∀ i w, p.windows[i]? = some w →
    after.counters.counter ⟨⟨p.key, identity⟩, i⟩ =
      (l.counters.counter ⟨⟨p.key, identity⟩, i⟩).current w now ++ [now]
  /-- No other counter changes. -/
  others : ∀ k, Counters.windowOf? ⟨p.key, identity⟩ p.windows k = none →
    after.counters.counter k = l.counters.counter k
  /-- In every window one more request counts than before. -/
  counted : ∀ i w, p.windows[i]? = some w →
    ((Limiter.recorded p identity i now).run after).result =
      ((Limiter.recorded p identity i now).run l).result + 1
  /-- The tightest window is reported as the request leaves it. -/
  reported : ∃ s, headers = .ofState s ∧ WindowState.mostRestrictive
    (p.windows.zipIdx.map fun w =>
      (after.counters.counter ⟨⟨p.key, identity⟩, w.2⟩).state w.1 now) = some s

theorem recorded_result (l : Limiter) (identity : String) (now : Nat) {i : Nat} {w : Window}
    (hw : p.windows[i]? = some w) : ((recorded p identity i now).run l).result =
      ((l.counters.counter ⟨⟨p.key, identity⟩, i⟩).current w now).length := by
  rw [← Counters.recorded_count]
  simp [recorded, hw]

namespace Checked

variable {after : Limiter}

theorem eq_of_unlimited (h : Checked l r principal now .unlimited after) : after = l := by
  cases h with
  | unlimited => rfl

/-- A request that is rejected is turned away without anybody noticing. -/
theorem turnedAway (hkeys : (l.table.policies.map Policy.key).Nodup) {rejection : Rejection}
    (h : Checked l r principal now (.rejected rejection) after) :
    TurnedAway l now rejection after := by
  cases h with
  | @rejected p s hp hrejected hfound =>
    refine ⟨rfl, Rejection.one_le_retryAfter _ _, fun calls hclock => ?_⟩
    have hmem : p ∈ l.table.policies := List.mem_of_find?_eq_some hp
    have halike : Related (Counters.AlikeFrom l.table now)
        { l with counters := (l.verdictUnder p r principal now).2 } l :=
      ⟨rfl, rfl, .of_not_allowed hkeys hmem rfl hrejected⟩
    exact decisions_eq_of_alike halike hclock

/-- A request that is allowed is let through under the policy that covers it. -/
theorem letThrough {headers : QuotaHeaders}
    (h : Checked l r principal now (.allowed headers) after) :
    ∃ p, l.policyFor? r.method r.route = some p ∧
      LetThrough l p (l.identityFor p r principal).key now headers after := by
  cases h with
  | @allowed p s hp hallowed hfound =>
    have hrecorded : ∀ i w, p.windows[i]? = some w →
        (l.verdictUnder p r principal now).2.counter ⟨l.bucketFor p r principal, i⟩ =
          (l.counters.counter ⟨l.bucketFor p r principal, i⟩).current w now ++ [now] :=
      fun i w hw => (Counters.counter_check_self l.counters hw).trans (if_pos hallowed)
    refine ⟨p, hp, hrecorded, fun k hk => ?_, fun i w hw => ?_, s, rfl, ?_⟩
    · exact (Counters.counter_check _ _ _ _ k).trans (by rw [bucketFor, hk, Option.elim_none])
    · rw [recorded_result _ _ _ hw, recorded_result _ _ _ hw]
      change (((l.verdictUnder p r principal now).2.counter
        ⟨l.bucketFor p r principal, i⟩).current w now).length = _
      rw [hrecorded i w hw, Counter.current_append_self, List.length_append]
      rfl
    · rw [← hfound]
      exact congrArg _ (Counters.check_windows _ _ _ _).symm

end Checked

end Decisions

/-! ## A guarded request -/

/-- What comes of a request that is guarded for a caller at a time, given the world when the
time has been read, the response of the handler with the world it leaves, and what there is
in the end. -/
structure GuardedAt {W : Type} (l : Limiter) (r : Request) (principal : Principal) (now : Nat)
    (ready : W) (response : HeaderList × W)
    (done : Outcome Limiter (Except Rejection HeaderList) × W) : Prop where
  /-- The limiter is left as a check of the request at the time leaves it. -/
  state : done.1.state = ((check r principal now).run l).state
  events : done.1.events = ((check r principal now).run l).events
  /-- If the check turns the request away, the handler does not run. -/
  rejected : ∀ rejection, ((check r principal now).run l).result = .rejected rejection →
    done.1.result = .error rejection ∧ done.2 = ready ∧
      TurnedAway l now rejection done.1.state
  /-- If no window binds it, the response is returned as it is and the limiter does not
  change. -/
  unlimited : ((check r principal now).run l).result = .unlimited →
    done.1.result = .ok response.1 ∧ done.2 = response.2 ∧ done.1.state = l
  /-- If it passes, the headers about the quota take the place of those that the response had
  under their names. -/
  allowed : ∀ headers, ((check r principal now).run l).result = .allowed headers →
    done.1.result = .ok
        ⟨response.1.entries.filter (fun e => !isNamedIn headers.pairs e.1) ++ headers.pairs⟩ ∧
      done.2 = response.2 ∧ ∃ p, l.policyFor? r.method r.route = some p ∧
        LetThrough l p (l.identityFor p r principal).key now headers done.1.state

section Runs

variable {W ρ : Type} [HeaderSink ρ] {l : Limiter} {authenticate : Request → StateM W Principal}
  {now : StateM W Nat} {handler : StateM W ρ} {r : Request} {world known ready : W}
  {principal : Principal} {time : Nat}

theorem run_guarded_of_rejected (hcaller : (authenticate r).run world = (principal, known))
    (hclock : now.run known = (time, ready)) {rejection : Rejection}
    (ho : ((check r principal time).run l).result = .rejected rejection) :
    (guarded l authenticate now r handler).run world =
      (⟨.error rejection, ((check r principal time).run l).state,
        ((check r principal time).run l).events⟩, ready) := by
  simp only [guarded, StateT.run_bind]
  simp only [bind, hcaller, hclock, ho]
  rfl

theorem run_guarded_of_unlimited (hcaller : (authenticate r).run world = (principal, known))
    (hclock : now.run known = (time, ready))
    (ho : ((check r principal time).run l).result = .unlimited) :
    (guarded l authenticate now r handler).run world =
      (⟨.ok (handler.run ready).1, ((check r principal time).run l).state,
        ((check r principal time).run l).events⟩, (handler.run ready).2) := by
  simp only [guarded, StateT.run_bind]
  simp only [bind, hcaller, hclock, ho]
  rfl

theorem run_guarded_of_allowed (hcaller : (authenticate r).run world = (principal, known))
    (hclock : now.run known = (time, ready)) {headers : QuotaHeaders}
    (ho : ((check r principal time).run l).result = .allowed headers) :
    (guarded l authenticate now r handler).run world =
      (⟨.ok (headers.apply (handler.run ready).1), ((check r principal time).run l).state,
        ((check r principal time).run l).events⟩, (handler.run ready).2) := by
  simp only [guarded, StateT.run_bind]
  simp only [bind, hcaller, hclock, ho]
  rfl

end Runs

/-- **A guarded request.**  Whatever a limiter has been asked before, whoever made the request
and whatever its handler does: the caller is authenticated, the clock is read, and the limiter
decides as it decides on a check of the request at that time.  If the request is turned away
the handler does not run, and nobody notices the request later on; if no window binds it, the
handler's response is left as it is and so is the limiter; and if it passes, the handler runs
once, the headers of its response that report a quota are replaced, and one place is taken in
every window of the policy. -/
theorem guarded_exact (l : Limiter) (hkeys : (l.table.policies.map Policy.key).Nodup)
    {W : Type} (authenticate : Request → StateM W Principal) (now : StateM W Nat)
    (handler : StateM W HeaderList) (r : Request) (world : W) :
    let caller : Principal × W := (authenticate r).run world
    let clock : Nat × W := now.run caller.2
    GuardedAt l r caller.1 clock.1 clock.2 (handler.run clock.2)
      ((guarded l authenticate now r handler).run world) := by
  intro caller clock
  have hcaller : (authenticate r).run world = (caller.1, caller.2) := rfl
  have hclock : now.run caller.2 = (clock.1, clock.2) := rfl
  let o := (check r caller.1 clock.1).run l
  have hchecked : Checked l r caller.1 clock.1 o.result o.state := checked l r caller.1 clock.1
  have hleft : ((guarded l authenticate now r handler).run world).1.state = o.state ∧
      ((guarded l authenticate now r handler).run world).1.events = o.events := by
    cases ho : o.result with
    | rejected rejection =>
      rw [run_guarded_of_rejected hcaller hclock ho]
      exact ⟨rfl, rfl⟩
    | unlimited =>
      rw [run_guarded_of_unlimited hcaller hclock ho]
      exact ⟨rfl, rfl⟩
    | allowed headers =>
      rw [run_guarded_of_allowed hcaller hclock ho]
      exact ⟨rfl, rfl⟩
  refine ⟨hleft.1, hleft.2, fun rejection ho => ?_, fun ho => ?_, fun headers ho => ?_⟩
  · rw [run_guarded_of_rejected hcaller hclock ho]
    exact ⟨rfl, rfl, (ho ▸ hchecked).turnedAway hkeys⟩
  · rw [run_guarded_of_unlimited hcaller hclock ho]
    exact ⟨rfl, rfl, (ho ▸ hchecked).eq_of_unlimited⟩
  · rw [run_guarded_of_allowed hcaller hclock ho]
    refine ⟨?_, rfl, (ho ▸ hchecked).letThrough⟩
    exact congrArg Except.ok (QuotaHeaders.apply_headerList headers (handler.run clock.2).1)

/-- The handler of a request takes a minute and a half, and its response has a header about
a quota already; a second request, a second after the first, is turned away, and its handler
does not run. -/
theorem guarded_exact_twice :
    let p : Policy := ⟨"GET", "/x", .ip, [⟨1, 60⟩]⟩
    let r : Request := ⟨"GET", "/x", some "192.0.2.1", []⟩
    let authenticate : Request → StateM Nat Principal := fun _ => pure .anonymous
    let handler : StateM Nat HeaderList := do
      set 90000
      return ⟨[("x-ratelimit-LIMIT", "7"), ("Content-Type", "text/plain")]⟩
    ∃ l, ofConfig { policies := [p] } = .ok l ∧ (l.table.policies.map Policy.key).Nodup ∧
      ∃ first second : Outcome Limiter (Except Rejection HeaderList) × Nat,
        (guarded l authenticate get r handler).run 0 = first ∧
          first.1.result = .ok ⟨[("Content-Type", "text/plain"), ("X-RateLimit-Limit", "1"),
            ("X-RateLimit-Remaining", "0"), ("X-RateLimit-Reset", "61")]⟩ ∧
          first.2 = 90000 ∧
        (guarded first.1.state authenticate get r handler).run 1000 = second ∧
          second.1.result = .error ⟨⟨1, 0, 61⟩, 60⟩ ∧ second.2 = 1000 := by
  intro p r authenticate handler
  let l : Limiter := { table := ⟨[p], by decide +kernel⟩, trustProxies := false }
  have hkeys : (l.table.policies.map Policy.key).Nodup := by decide
  let first : Outcome Limiter (Except Rejection HeaderList) × Nat :=
    (guarded l authenticate get r handler).run 0
  obtain ⟨hresponse, htime, -⟩ := (guarded_exact l hkeys authenticate get handler r 0).allowed
    ⟨1, 0, 61⟩ (by decide +kernel)
  obtain ⟨hrejection, htime', -⟩ :=
    (guarded_exact first.1.state hkeys authenticate get handler r 1000).rejected
      ⟨⟨1, 0, 61⟩, 60⟩ (by decide +kernel)
  exact ⟨l, ofConfig_of_faultless (by decide +kernel), hkeys, first, _, rfl, hresponse, htime,
    rfl, hrejection, htime'⟩

end Limiter
end Turnstile
