/-
# The counters keep the live part of the history

The counters forget: a time that has left its window is dropped from the front of the
counter when the counter is next looked at, and every window drops at moments of its own.
The history forgets nothing, and compares times without any cap.  As long as the clock
does not go back, nobody can tell the two apart from the answers.

The invariant is that a counter, once it is brought up to date, holds exactly the times
that are live for its window, now and at every later moment.
-/
import Turnstile.Proofs.Admission.Counters
import Turnstile.Proofs.Admission.Quota

namespace Turnstile

namespace Operation

/-- The times of a list of operations are words, and none is earlier than one before it. -/
structure Chronological (ops : List Operation) : Prop where
  le : (ops.filterMap time?).Pairwise (· ≤ ·)
  word : ∀ t ∈ ops.filterMap time?, t ≤ maxWord

theorem Chronological.tail {op : Operation} {ops : List Operation}
    (h : Chronological (op :: ops)) : Chronological ops := by
  have hsub : (ops.filterMap time?).Sublist ((op :: ops).filterMap time?) :=
    (List.sublist_cons_self op ops).filterMap _
  exact ⟨h.le.sublist hsub, fun t ht => h.word t (hsub.subset ht)⟩

end Operation

/-! ## What is past and what is live -/

namespace Counter

variable {w : Window} {now now' : Nat}

/-- Neither cap shows in what is past: a time is past if it is not live. -/
theorem isPast_eq_not_isLive (hnow : now ≤ maxWord) (t : Nat) :
    isPast w now t = !History.isLive w now t := by
  have hsub : now - w.millis = now - w.seconds * 1000 := sub_cappedMul hnow w.seconds 1000
  simp only [isPast, History.isLive, hsub, ← decide_not]
  congr 1
  apply propext
  omega

/-- Bringing a counter up to date makes no difference to bringing it up to date again, even
for another window, if nothing was past before that is not past then. -/
theorem current_current_of_le {v : Window} (hle : now - v.millis ≤ now' - w.millis)
    (c : Counter) : (c.current v now).current w now' = c.current w now' := by
  induction c with
  | nil => rfl
  | cons t ts ih =>
    by_cases hpast : isPast v now t
    · have hpast' : isPast w now' t := by
        simp only [isPast, decide_eq_true_eq] at hpast ⊢
        omega
      simpa [current, hpast, hpast'] using ih
    · simp [current, hpast]

/-- Bringing a counter up to date makes no difference afterwards, even for another window, if
nothing is past then that was not past before. -/
theorem current_of_current_of_le {v : Window} (hle : now' - w.millis ≤ now - v.millis)
    (c : Counter) : (c.current v now).current w now' = c.current v now := by
  induction c with
  | nil => rfl
  | cons t ts ih =>
    by_cases hpast : isPast v now t
    · simpa [current, hpast] using ih
    · have hpast' : ¬isPast w now' t := by
        simp only [isPast, decide_eq_true_eq] at hpast ⊢
        omega
      simp [current, hpast, hpast']

/-- It does not matter for which window and time a counter is brought up to date first. -/
theorem current_comm (v w : Window) (now now' : Nat) (c : Counter) :
    (c.current v now).current w now' = (c.current w now').current v now := by
  rcases Nat.le_total (now - v.millis) (now' - w.millis) with hle | hle
  · rw [current_current_of_le hle, current_of_current_of_le hle]
  · rw [current_of_current_of_le hle, current_current_of_le hle]

/-- What has been brought up to date is brought up to date further at a later time. -/
theorem current_current (hle : now ≤ now') (c : Counter) :
    (c.current w now).current w now' = c.current w now' :=
  current_current_of_le (by omega) c

/-- Unless everything in a counter is past, bringing it up to date keeps what is behind. -/
theorem current_append (c d : Counter) :
    (c ++ d).current w now =
      if c.current w now = [] then d.current w now else c.current w now ++ d := by
  induction c with
  | nil => simp
  | cons t ts ih =>
    by_cases hpast : isPast w now t
    · simp only [current, List.cons_append, List.dropWhile_cons, hpast, if_true] at ih ⊢
      exact ih
    · simp [current, hpast]

end Counter

namespace History

variable {h : History} {b : Bucket} {w : Window} {now : Nat}

@[simp] theorem live_nil (b : Bucket) (w : Window) (now : Nat) : live [] b w now = [] := rfl

theorem live_append_self (h : History) (b : Bucket) (w : Window) (now t : Nat) :
    (h ++ [Admission.mk b t]).live b w now =
      h.live b w now ++ if isLive w now t then [t] else [] := by
  by_cases hlive : isLive w now t <;> simp [live, hlive]

theorem live_append_of_ne {b' : Bucket} (hne : b' ≠ b) (h : History) (w : Window)
    (now t : Nat) : (h ++ [Admission.mk b' t]).live b w now = h.live b w now := by
  simp [live, hne]

theorem mem_live_iff {t : Nat} :
    t ∈ h.live b w now ↔ Admission.mk b t ∈ h ∧ isLive w now t = true := by
  simp only [live, List.mem_filter, List.mem_map, decide_eq_true_eq]
  constructor
  · rintro ⟨⟨⟨b', t'⟩, ⟨hmem, rfl⟩, rfl⟩, hlive⟩
    exact ⟨hmem, hlive⟩
  · rintro ⟨hmem, hlive⟩
    exact ⟨⟨⟨b, t⟩, ⟨hmem, rfl⟩, rfl⟩, hlive⟩

end History

/-! ## The invariant -/

/-- From the time `last` on the counters show a history: none of its admissions is later,
and each counter that is brought up to date holds what is live for its window. -/
structure Shows (ws : String → List Window) (last : Nat) (cs : Counters) (h : History) :
    Prop where
  time_le : ∀ a ∈ h, a.time ≤ last
  current_eq : ∀ b i w, (ws b.policy)[i]? = some w → ∀ now, last ≤ now → now ≤ maxWord →
    (cs.counter ⟨b, i⟩).current w now = h.live b w now

namespace Shows

variable {ws : String → List Window} {last now : Nat} {cs : Counters} {h : History}

theorem empty (ws : String → List Window) (last : Nat) : Shows ws last {} [] where
  time_le := by simp
  current_eq := by simp

theorem mono (hs : Shows ws last cs h) (hle : last ≤ now) : Shows ws now cs h where
  time_le a ha := Nat.le_trans (hs.time_le a ha) hle
  current_eq b i w hw now' hnow' := hs.current_eq b i w hw now' (Nat.le_trans hle hnow')

/-- A counter that has been brought up to date shows what it showed before. -/
theorem current_current_eq (hs : Shows ws last cs h) (hle : last ≤ now) {b : Bucket} {i : Nat}
    {w : Window} (hw : (ws b.policy)[i]? = some w) {now' : Nat} (hnow' : now ≤ now')
    (hword : now' ≤ maxWord) :
    ((cs.counter ⟨b, i⟩).current w now).current w now' = h.live b w now' := by
  rw [Counter.current_current hnow', hs.current_eq b i w hw now' (Nat.le_trans hle hnow') hword]

/-- An admission is recorded in a counter and in the history alike. -/
theorem current_record_eq (hs : Shows ws last cs h) (hle : last ≤ now) {b : Bucket} {i : Nat}
    {w : Window} (hw : (ws b.policy)[i]? = some w) {now' : Nat} (hnow' : now ≤ now')
    (hword : now' ≤ maxWord) :
    ((cs.counter ⟨b, i⟩).current w now ++ [now]).current w now' =
      (h ++ [Admission.mk b now]).live b w now' := by
  rw [Counter.current_append, hs.current_current_eq hle hw hnow' hword,
    History.live_append_self]
  split
  · next hnil =>
    rw [hnil]
    by_cases hlive : History.isLive w now' now <;>
      simp [Counter.current, Counter.isPast_eq_not_isLive hword, hlive]
  · next hne =>
    -- some earlier time is live, and so the time of the check is
    obtain ⟨t, ht⟩ := List.exists_mem_of_ne_nil _ hne
    obtain ⟨hmem, hlive⟩ := History.mem_live_iff.1 ht
    have htime : t ≤ last := hs.time_le _ hmem
    have hlive' : History.isLive w now' now = true := by
      simp only [History.isLive, decide_eq_true_eq] at hlive ⊢
      omega
    rw [if_pos hlive']

/-- Both sides admit the same requests. -/
theorem allowed_eq (hs : Shows ws last cs h) (hle : last ≤ now) (hword : now ≤ maxWord)
    (b : Bucket) :
    (cs.check b (ws b.policy) now).1.allowed = h.admits b (ws b.policy) now := by
  rw [Bool.eq_iff_iff, Counters.check_allowed_iff]
  simp only [History.admits, List.all_eq_true, decide_eq_true_eq]
  constructor
  · intro hroom w hw
    obtain ⟨i, hi⟩ := List.mem_iff_getElem?.1 hw
    have := hroom i w hi
    rwa [hs.current_eq b i w hi now hle hword] at this
  · intro hroom i w hi
    rw [hs.current_eq b i w hi now hle hword]
    exact hroom w (List.mem_of_getElem? hi)

/-- After a check the counters of the bucket hold what is live after it. -/
theorem counter_check_eq (hs : Shows ws last cs h) (hle : last ≤ now) (hword : now ≤ maxWord)
    {b : Bucket} {i : Nat} {w : Window} (hw : (ws b.policy)[i]? = some w) :
    (cs.check b (ws b.policy) now).2.counter ⟨b, i⟩ =
      (h.perform (.check b (ws b.policy) now)).2.live b w now := by
  have hself : History.isLive w now now = true := by simp [History.isLive]
  rw [Counters.counter_check_self cs hw, hs.allowed_eq hle hword,
    hs.current_eq b i w hw now hle hword]
  simp only [History.perform]
  split
  · rw [History.live_append_self, if_pos hself]
  · rfl

/-- A check changes what the counters show as it changes the history. -/
theorem check (hs : Shows ws last cs h) (hle : last ≤ now) (hword : now ≤ maxWord)
    (b : Bucket) :
    Shows ws now (cs.check b (ws b.policy) now).2
      (h.perform (.check b (ws b.policy) now)).2 := by
  simp only [History.perform]
  rw [← hs.allowed_eq hle hword]
  constructor
  · intro a ha
    split at ha
    · rcases List.mem_append.1 ha with ha | ha
      · exact Nat.le_trans (hs.time_le a ha) hle
      · exact Nat.le_of_eq (congrArg Admission.time (List.mem_singleton.1 ha))
    · exact Nat.le_trans (hs.time_le a ha) hle
  · intro b' i w hw now' hnow' hword'
    by_cases hb : b' = b
    · subst hb
      rw [Counters.counter_check_self cs hw]
      split
      · exact hs.current_record_eq hle hw hnow' hword'
      · exact hs.current_current_eq hle hw hnow' hword'
    · rw [Counters.counter_check_of_ne cs hb,
        hs.current_eq b' i w hw now' (Nat.le_trans hle hnow') hword']
      split
      · rw [History.live_append_of_ne fun h => hb h.symm]
      · rfl

/-- Asking for a count does not change what the counters show. -/
theorem recorded (hs : Shows ws last cs h) (hle : last ≤ now) {k : CounterKey} {w : Window}
    (hw : (ws k.bucket.policy)[k.index]? = some w) :
    Shows ws now (cs.recorded k w now).2 h where
  time_le := (hs.mono hle).time_le
  current_eq b i w' hw' now' hnow' hword' := by
    rw [Counters.counter_recorded]
    split
    · next hk =>
      subst hk
      obtain rfl : w = w' := Option.some.inj (hw.symm.trans hw')
      exact hs.current_current_eq hle hw hnow' hword'
    · exact hs.current_eq b i w' hw' now' (Nat.le_trans hle hnow') hword'

end Shows

/-! ## The states that are reported -/

/-- A counter that holds what is live has the state that the history reports: the reset of
the oldest time is the same with the length of the window capped or not. -/
theorem Counter.state_live (h : History) (b : Bucket) (w : Window) (now : Nat) :
    Counter.state w now (h.live b w now) = h.state b w now := by
  have hreset : ∀ oldest, cappedAdd oldest w.millis = min (oldest + 1000 * w.seconds) maxWord := by
    intro oldest
    simp only [cappedAdd, Window.millis, cappedMul]
    omega
  simp [Counter.state, History.state, Counter.resetAt, hreset]

/-- A check reports the same verdict in both accounts. -/
theorem Shows.verdict_eq {ws : String → List Window} {last now : Nat} {cs : Counters}
    {h : History} (hs : Shows ws last cs h) (hle : last ≤ now) (hword : now ≤ maxWord)
    (b : Bucket) :
    Operation.Answer.verdict (cs.check b (ws b.policy) now).1 =
      (h.perform (.check b (ws b.policy) now)).1 := by
  have hallowed := hs.allowed_eq hle hword b
  have hwindows : (cs.check b (ws b.policy) now).1.windows = (ws b.policy).map fun w =>
      (h.perform (.check b (ws b.policy) now)).2.state b w now := by
    rw [Counters.check_windows]
    apply List.ext_getElem
    · simp
    · intro i hi hi'
      have hlen : i < (ws b.policy).length := by simpa using hi
      have hw : (ws b.policy)[i]? = some (ws b.policy)[i] := List.getElem?_eq_getElem hlen
      simp only [List.getElem_map, List.getElem_zipIdx, Nat.zero_add,
        hs.counter_check_eq hle hword hw, Counter.state_live]
  cases hv : (cs.check b (ws b.policy) now).1 with
  | mk allowed windows =>
    rw [hv] at hallowed hwindows
    simp only [History.perform] at hwindows ⊢
    simp only at hallowed
    rw [hwindows, hallowed]

/-! ## Operations and runs -/

namespace Operation

variable {ws : String → List Window} {last : Nat} {cs : Counters} {h : History}

/-- One operation answers alike on the counters and on the history that they show, and
leaves counters that show the history that it leaves. -/
theorem perform_shows {op : Operation} (hs : Shows ws last cs h) (hfit : op.Fits ws)
    (htime : ∀ t ∈ op.time?, last ≤ t ∧ t ≤ maxWord) :
    (op.perform cs).1 = (h.perform op).1 ∧
      Shows ws (op.time?.getD last) (op.perform cs).2 (h.perform op).2 := by
  cases op with
  | check b l now =>
    obtain rfl : l = ws b.policy := hfit
    obtain ⟨hle, hword⟩ := htime now rfl
    exact ⟨hs.verdict_eq hle hword b, hs.check hle hword b⟩
  | recorded k w now =>
    obtain ⟨hle, hword⟩ := htime now rfl
    refine ⟨?_, hs.recorded hle hfit⟩
    simp only [perform, History.perform, Counters.recorded_count]
    rw [hs.current_eq k.bucket k.index w hfit now hle hword]
  | reset => exact ⟨rfl, Shows.empty ws last⟩

/-- A run on counters that show a history answers as the run on the history does. -/
theorem run_shows {ops : List Operation} (hs : Shows ws last cs h)
    (hfit : ∀ op ∈ ops, op.Fits ws) (hchron : Chronological ops)
    (hlast : ∀ t ∈ ops.filterMap time?, last ≤ t) :
    (run cs ops).1 = (h.run ops).1 := by
  induction ops generalizing last cs h with
  | nil => rfl
  | cons op ops ih =>
    have htime : ∀ t ∈ op.time?, last ≤ t ∧ t ≤ maxWord := by
      intro t ht
      have hmem : t ∈ (op :: ops).filterMap time? :=
        List.mem_filterMap.2 ⟨op, List.mem_cons_self, ht⟩
      exact ⟨hlast t hmem, hchron.word t hmem⟩
    obtain ⟨hanswer, hs'⟩ := perform_shows hs (hfit op List.mem_cons_self) htime
    -- the time of this operation is no later than those of the operations behind it
    have hlater : ∀ t ∈ ops.filterMap time?, op.time?.getD last ≤ t := by
      intro t ht
      cases hop : op.time? with
      | none => exact hlast t (by rw [List.filterMap_cons_none hop]; exact ht)
      | some now =>
        have hle := hchron.le
        rw [List.filterMap_cons_some hop, List.pairwise_cons] at hle
        exact hle.1 t ht
    have hrest := ih hs' (fun op' hop' => hfit op' (List.mem_cons_of_mem _ hop')) hchron.tail
      hlater
    simp only [run, History.run, hanswer, hrest]

/-- **The counters refine the history.**  A run of any operations that go by fixed windows,
at times that do not go back, gets from the counters the answers that the history gives.
No window ever has more live times than its limit, so that what the history reports as
remaining is the exact difference. -/
theorem answers_eq_history (ws : String → List Window) (ops : List Operation)
    (hfit : ∀ op ∈ ops, op.Fits ws) (hchron : Chronological ops) :
    (run {} ops).1 = (History.run [] ops).1 ∧
      ∀ b, ∀ w ∈ ws b.policy, ∀ now, (∀ t ∈ ops.filterMap time?, t ≤ now) →
        ((History.run [] ops).2.live b w now).length ≤ w.limit := by
  refine ⟨run_shows (Shows.empty ws 0) hfit hchron fun t _ => Nat.zero_le t, ?_⟩
  intro b w hw now hnow
  have hq := (History.keepsQuotas_nil ws).run hfit
  exact hq.length_live_le hw (History.time_le_of_mem_run (by simp) hnow)

/-- Two windows, one over a second and one over a minute, with a time at the very end of
the shorter one, a count that is asked for, and a reset. -/
theorem answers_eq_history_two_windows :
    let ws : String → List Window := fun _ => [⟨2, 1⟩, ⟨3, 60⟩]
    let b : Bucket := ⟨"GET:/x", "user:a"⟩
    let ops : List Operation :=
      [.check b (ws b.policy) 0, .check b (ws b.policy) 600, .check b (ws b.policy) 1000,
       .check b (ws b.policy) 1001, .recorded ⟨b, 1⟩ ⟨3, 60⟩ 1001, .check b (ws b.policy) 2000,
       .reset, .check b (ws b.policy) 2000]
    (∀ op ∈ ops, op.Fits ws) ∧ Chronological ops ∧ (run {} ops).1 = (History.run [] ops).1 := by
  intro ws b ops
  have hfit : ∀ op ∈ ops, op.Fits ws := by decide
  have hchron : Chronological ops := ⟨by decide, by decide⟩
  exact ⟨hfit, hchron, (answers_eq_history ws ops hfit hchron).1⟩

/-- **No window is ever overrun.**  Of the requests of a bucket that are admitted between
two resets, no interval of the length of a window of its policy holds more than the limit
of that window, wherever the interval lies. -/
theorem countWithin_admissions_le_limit (ws : String → List Window)
    (before between after : List Operation)
    (hfit : ∀ op ∈ before ++ between ++ after, op.Fits ws)
    (hchron : Chronological (before ++ between ++ after)) (hreset : .reset ∉ between)
    (b : Bucket) (w : Window) (hw : w ∈ ws b.policy) (first : Int) :
    (admissions between
        ((run {} (before ++ between ++ after)).1.drop before.length)).countWithin
      b first (first + 1000 * w.seconds) ≤ w.limit := by
  have hanswers := run_shows (Shows.empty ws 0) hfit hchron fun t _ => Nat.zero_le t
  have hq : History.KeepsQuotas ws (History.run [] (before ++ between)).2 :=
    (History.keepsQuotas_nil ws).run fun op hop => hfit op (List.mem_append_left _ hop)
  -- the history after the operations in between ends with what they admitted
  rw [History.run_append, History.run_eq_append hreset] at hq
  have hle := hq b w hw first
  rw [History.countWithin_append] at hle
  rw [hanswers, List.append_assoc, History.run_append, History.run_append]
  simp only [← History.length_run [] before, List.drop_left]
  rw [admissions_append_right (History.length_run _ between)]
  omega

/-- Four requests within a second and a bit, of which the second window rejects one, after
a reset that let the bucket begin anew. -/
theorem countWithin_admissions_le_three :
    let ws : String → List Window := fun _ => [⟨2, 1⟩, ⟨3, 60⟩]
    let b : Bucket := ⟨"GET:/x", "user:a"⟩
    let check : Nat → Operation := fun now => .check b (ws b.policy) now
    let before := [check 0, check 10, .reset]
    let between := [check 10, check 500, check 1011, check 1502]
    (∀ op ∈ before ++ between ++ [.reset], op.Fits ws) ∧
      Chronological (before ++ between ++ [.reset]) ∧
      (admissions between
          ((run {} (before ++ between ++ [.reset])).1.drop before.length)).countWithin
        b (-58000) (-58000 + 1000 * 60) ≤ 3 := by
  intro ws b check before between
  have hfit : ∀ op ∈ before ++ between ++ [.reset], op.Fits ws := by decide
  have hchron : Chronological (before ++ between ++ [.reset]) := ⟨by decide, by decide⟩
  exact ⟨hfit, hchron, countWithin_admissions_le_limit ws before between [.reset] hfit hchron
    (by decide) b ⟨3, 60⟩ (by decide) (-58000)⟩

end Operation
end Turnstile
