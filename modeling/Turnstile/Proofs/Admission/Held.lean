/-
# What a counter holds

Whatever the clock does, a counter holds the latest of the times at which requests of its
bucket were admitted since the last reset, in the order of admission: times come in at the
end and go out at the front.

Whether they all lie in the window that trails `now` is another matter, since a counter is
only ever cut at its front.  They do as long as the requests of the bucket were admitted in
the order of their times and none of them at a time that is yet to come; then a request is
turned away only if a window really is full.  A clock that goes back breaks this: a time
that is yet to come stays, and it shields earlier ones behind it that have left the window.
-/
import Turnstile.Proofs.Admission.Limits

namespace Turnstile

theorem Window.millis_le (w : Window) : w.millis ≤ 1000 * w.seconds := by
  unfold millis cappedMul
  omega

/-- A counter whose times are in order holds nothing past once it is up to date. -/
theorem Counter.le_of_mem_current {c : Counter} (horder : c.Pairwise (· ≤ ·)) {w : Window}
    {now t : Nat} (ht : t ∈ c.current w now) : now ≤ t + w.millis := by
  have horder' : (c.current w now).Pairwise (· ≤ ·) :=
    horder.sublist (current_suffix w now c).sublist
  cases hcur : c.current w now with
  | nil => simp [hcur] at ht
  | cons oldest rest =>
    rw [hcur] at ht horder'
    have holdest : now ≤ oldest + w.millis := le_of_head?_current (by rw [hcur]; rfl)
    rcases List.mem_cons.1 ht with rfl | hrest
    · exact holdest
    · have hle : oldest ≤ t := (List.pairwise_cons.1 horder').1 t hrest
      omega

namespace History

/-- The times of the admissions of a bucket, in the order of admission. -/
def times (h : History) (b : Bucket) : List Nat :=
  (h.filter fun a => a.bucket = b).map Admission.time

theorem times_append (h h' : History) (b : Bucket) :
    times (h ++ h') b = h.times b ++ times h' b := by
  simp [times]

theorem times_singleton (a : Admission) (b : Bucket) :
    times [a] b = if a.bucket = b then [a.time] else [] := by
  by_cases hb : a.bucket = b <;> simp [times, hb]

theorem countWithin_eq_countP_times (h : History) (b : Bucket) (first last : Int) :
    h.countWithin b first last =
      (h.times b).countP fun t : Nat => decide (first ≤ t ∧ t ≤ last) := by
  rw [countWithin, times, List.countP_map, List.countP_filter]
  apply List.countP_congr
  intro a _
  simp [and_comm]

end History

namespace Operation

/-- The history after an operation, given its answer: a reset empties it, and every other
operation adds what it admits. -/
def extend (h : History) : Operation → Answer → History
  | .reset, _ => []
  | op, a => h ++ (op.admission? a).toList

/-- What has been admitted since the last reset, given the answers to a list of operations
and what had been admitted before them. -/
def sinceReset (h : History) : List Operation → List Answer → History
  | op :: ops, a :: as => sinceReset (op.extend h a) ops as
  | _, _ => h

end Operation

namespace Counters

variable {ws : String → List Window} {cs : Counters} {h : History}

/-- Every counter holds the latest of the admitted times of its bucket. -/
def HoldLatest (ws : String → List Window) (cs : Counters) (h : History) : Prop :=
  ∀ b i w, (ws b.policy)[i]? = some w → cs.counter ⟨b, i⟩ <:+ h.times b

theorem holdLatest_empty (ws : String → List Window) : HoldLatest ws {} [] :=
  fun _ _ _ _ => List.suffix_refl _

theorem HoldLatest.check (hh : HoldLatest ws cs h) (b : Bucket) (now : Nat) :
    HoldLatest ws (cs.check b (ws b.policy) now).2
      (h ++ if (cs.check b (ws b.policy) now).1.allowed then [⟨b, now⟩] else []) := by
  intro b' i w hw
  have hsuffix := hh b' i w hw
  rw [History.times_append]
  by_cases hb : b' = b
  · subst hb
    have hcurrent := (Counter.current_suffix w now _).trans hsuffix
    rw [counter_check_self cs hw]
    split
    · rw [History.times_singleton, if_pos rfl]
      exact List.suffix_append_self_iff.2 hcurrent
    · simpa [History.times] using hcurrent
  · rw [counter_check_of_ne cs hb]
    split
    · rw [History.times_singleton, if_neg fun heq => hb heq.symm, List.append_nil]
      exact hsuffix
    · simpa [History.times] using hsuffix

theorem HoldLatest.perform (hh : HoldLatest ws cs h) {op : Operation} (hfit : op.Fits ws) :
    HoldLatest ws (op.perform cs).2 (op.extend h (op.perform cs).1) := by
  cases op with
  | check b l now =>
    obtain rfl : l = ws b.policy := hfit
    have hadmitted : (Operation.admission? (.check b (ws b.policy) now)
        (.verdict (cs.check b (ws b.policy) now).1)).toList =
        if (cs.check b (ws b.policy) now).1.allowed then [⟨b, now⟩] else [] := by
      simp only [Operation.admission?]
      split <;> rfl
    have hcheck := hh.check b now
    rw [← hadmitted] at hcheck
    exact hcheck
  | recorded k w now =>
    intro b i w' hw'
    simp only [Operation.perform, Operation.extend, Operation.admission?, counter_recorded,
      Option.toList_none, List.append_nil]
    split
    · exact (Counter.current_suffix w now _).trans (hh b i w' hw')
    · exact hh b i w' hw'
  | reset => exact holdLatest_empty ws

/-- The latest times are held at the end of every run that goes by fixed windows, however
the clock goes. -/
theorem HoldLatest.run (hh : HoldLatest ws cs h) {ops : List Operation}
    (hfit : ∀ op ∈ ops, op.Fits ws) :
    HoldLatest ws (Operation.run cs ops).2
      (Operation.sinceReset h ops (Operation.run cs ops).1) := by
  induction ops generalizing cs h with
  | nil => exact hh
  | cons op ops ih =>
    exact ih (hh.perform (hfit op (by simp))) fun op' hop' => hfit op' (by simp [hop'])

/-- If the admissions of a bucket are in order and none of them is yet to come, its counters
that are up to date hold nothing outside the window. -/
theorem HoldLatest.mem_current (hh : HoldLatest ws cs h) {b : Bucket} {now : Nat}
    (horder : (h.times b ++ [now]).Pairwise (· ≤ ·)) {i : Nat} {w : Window}
    (hw : (ws b.policy)[i]? = some w) {t : Nat}
    (ht : t ∈ (cs.counter ⟨b, i⟩).current w now) : now ≤ t + 1000 * w.seconds ∧ t ≤ now := by
  obtain ⟨hsorted, -, hnow⟩ := List.pairwise_append.1 horder
  have hsuffix := hh b i w hw
  have hmem : t ∈ h.times b := hsuffix.subset ((Counter.current_suffix w now _).subset ht)
  have hge := Counter.le_of_mem_current (hsorted.sublist hsuffix.sublist) ht
  have hmillis := w.millis_le
  exact ⟨by omega, hnow t hmem now (List.mem_singleton_self now)⟩

/-- Then the window has no fewer admissions than the counter holds. -/
theorem HoldLatest.length_current_le (hh : HoldLatest ws cs h) {b : Bucket} {now : Nat}
    (horder : (h.times b ++ [now]).Pairwise (· ≤ ·)) {i : Nat} {w : Window}
    (hw : (ws b.policy)[i]? = some w) :
    ((cs.counter ⟨b, i⟩).current w now).length ≤
      h.countWithin b (now - 1000 * w.seconds) now := by
  have hsuffix := (Counter.current_suffix w now _).trans (hh b i w hw)
  rw [History.countWithin_eq_countP_times, ← List.countP_eq_length.2 fun t ht => ?_]
  · exact hsuffix.countP_le
  · obtain ⟨hge, hle⟩ := hh.mem_current horder hw ht
    simp only [decide_eq_true_eq]
    omega

end Counters

namespace Operation

theorem times_extend_sublist (h : History) (b : Bucket) (op : Operation) (a : Answer) :
    ((op.extend h a).times b).Sublist (h.times b ++ op.time?.toList) := by
  cases op with
  | check b' l now =>
    have hadded : (History.times (admission? (.check b' l now) a).toList b).Sublist [now] := by
      cases a with
      | verdict v =>
        simp only [admission?]
        split
        · rw [Option.toList_some, History.times_singleton]
          split <;> simp
        · simp [History.times]
      | count n => simp [admission?, History.times]
      | done => simp [admission?, History.times]
    simp only [extend, History.times_append, time?, Option.toList_some]
    exact hadded.append_left _
  | recorded k w now => simp [extend, admission?]
  | reset => simp [extend, History.times]

/-- The admissions of a bucket come at the times of the operations and in their order. -/
theorem times_sinceReset_sublist (h : History) (b : Bucket) (ops : List Operation)
    (as : List Answer) :
    ((sinceReset h ops as).times b).Sublist (h.times b ++ ops.filterMap time?) := by
  induction ops generalizing h as with
  | nil => simp [sinceReset]
  | cons op ops ih =>
    cases as with
    | nil => simp [sinceReset]
    | cons a as =>
      have hstep := (times_extend_sublist h b op a).append_right (ops.filterMap time?)
      have hcons : (op :: ops).filterMap time? = op.time?.toList ++ ops.filterMap time? := by
        cases ht : op.time? <;> simp [ht]
      rw [hcons, ← List.append_assoc]
      exact (ih (op.extend h a) as).trans hstep

/-- A clock that does not go back up to a time keeps the admissions of every bucket in order
and no later than that time. -/
theorem pairwise_times_sinceReset {past : List Operation} {now : Nat}
    (hclock : (past.filterMap time? ++ [now]).Pairwise (· ≤ ·)) (b : Bucket)
    (as : List Answer) : ((sinceReset [] past as).times b ++ [now]).Pairwise (· ≤ ·) :=
  hclock.sublist ((times_sinceReset_sublist [] b past as).append_right [now])

/-- **Nothing is held outside the window, and no request is turned away without cause**, as
long as the requests of the bucket were admitted in the order of their times, and none later
than the check: then after the check a counter holds no time that has left its window or
that is yet to come, and if the check turns the request away, some window has as many
admissions as it accepts. -/
theorem held_within_window (ws : String → List Window) (past : List Operation)
    (hfit : ∀ op ∈ past, op.Fits ws) (b : Bucket) (now : Nat)
    (horder : ((sinceReset [] past (run {} past).1).times b ++ [now]).Pairwise (· ≤ ·)) :
    let admitted := sinceReset [] past (run {} past).1
    let o := (run {} past).2.check b (ws b.policy) now
    (∀ i w, (ws b.policy)[i]? = some w → ∀ t ∈ o.2.counter ⟨b, i⟩,
        now ≤ t + 1000 * w.seconds ∧ t ≤ now) ∧
      (o.1.allowed = false → ∃ w ∈ ws b.policy,
        w.limit ≤ admitted.countWithin b (now - 1000 * w.seconds) now) := by
  intro admitted o
  have hlatest : Counters.HoldLatest ws (run {} past).2 admitted :=
    (Counters.holdLatest_empty ws).run hfit
  refine ⟨fun i w hw t ht => ?_, fun hrejected => ?_⟩
  · rw [Counters.counter_check_self _ hw] at ht
    split at ht
    · rcases List.mem_append.1 ht with hbefore | hnew
      · exact hlatest.mem_current horder hw hbefore
      · obtain rfl := List.mem_singleton.1 hnew
        exact ⟨by omega, Nat.le_refl _⟩
    · exact hlatest.mem_current horder hw ht
  · obtain ⟨i, w, hw, hfull⟩ := Counters.check_not_allowed_iff.1 hrejected
    exact ⟨w, List.mem_of_getElem? hw,
      Nat.le_trans hfull (hlatest.length_current_le horder hw)⟩

/-- The clock goes back between two requests of a caller, but not below the first of them:
the time 9000 belongs to somebody else.  At 1600 the caller has used the window up, and both
times are in it. -/
theorem held_within_window_beside_later_bucket :
    let ws : String → List Window := fun _ => [⟨2, 1⟩]
    let b : Bucket := ⟨"GET:/x", "ip:192.0.2.1"⟩
    let past : List Operation := [.check b (ws b.policy) 1000,
      .check ⟨"GET:/x", "ip:192.0.2.2"⟩ (ws "GET:/x") 9000, .check b (ws b.policy) 1500]
    let admitted := sinceReset [] past (run {} past).1
    let o := (run {} past).2.check b (ws b.policy) 1600
    (∀ op ∈ past, op.Fits ws) ∧ (admitted.times b ++ [1600]).Pairwise (· ≤ ·) ∧
      (∀ t ∈ o.2.counter ⟨b, 0⟩, 1600 ≤ t + 1000 * 1 ∧ t ≤ 1600) ∧ o.1.allowed = false ∧
      ∃ w ∈ ws b.policy, w.limit ≤ admitted.countWithin b (1600 - 1000 * w.seconds) 1600 := by
  intro ws b past admitted o
  have hfit : ∀ op ∈ past, op.Fits ws := by decide
  have horder : (admitted.times b ++ [1600]).Pairwise (· ≤ ·) := by decide +kernel
  have hrejected : o.1.allowed = false := by decide +kernel
  obtain ⟨hheld, hcause⟩ := held_within_window ws past hfit b 1600 horder
  exact ⟨hfit, horder, hheld 0 ⟨2, 1⟩ rfl, hrejected, hcause hrejected⟩

/-- A clock that went back by a second and forward again.  The time 4000 has left the window
at 5500, but 5000 stands before it in the counter and keeps it there; the request is turned
away although only one of the two that the window accepts has been admitted in it. -/
theorem rejected_with_room_left :
    let ws : String → List Window := fun _ => [⟨2, 1⟩]
    let b : Bucket := ⟨"GET:/x", "ip:192.0.2.1"⟩
    let past : List Operation := [.check b (ws b.policy) 5000, .check b (ws b.policy) 4000]
    let o := (run {} past).2.check b (ws b.policy) 5500
    (∀ op ∈ past, op.Fits ws) ∧ o.1.allowed = false ∧
      o.2.counter ⟨b, 0⟩ = [5000, 4000] ∧ ¬5500 ≤ 4000 + 1000 * 1 ∧
      ∀ w ∈ ws b.policy, (sinceReset [] past (run {} past).1).countWithin b
        (5500 - 1000 * w.seconds) 5500 < w.limit := by
  decide +kernel

end Operation
end Turnstile
