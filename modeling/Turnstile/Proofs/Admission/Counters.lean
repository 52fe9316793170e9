/-
# What the operations do to a single counter

A check walks over all windows of a policy, and every window has a counter of its own.
Seen from one counter little of this matters: the check brings it up to date, records the
request in it if the request is admitted, and leaves every other counter alone.  The
lemmas here say so for each operation, so that nothing below has to look at the register
that holds the counters or at the walk over the windows.
-/
import Turnstile.Admission.Run

namespace Turnstile
namespace Counters

variable {b : Bucket} {ws : List Window} {now : Nat}

@[simp] theorem counter_empty (k : CounterKey) : ({} : Counters).counter k = [] := rfl

@[simp] theorem counter_reset (k : CounterKey) : reset.counter k = [] := rfl

/-! ## One counter at a time -/

theorem counter_insert (cs : Counters) (k l : CounterKey) (c : Counter) :
    (⟨cs.register.insert k c⟩ : Counters).counter l = if k = l then c else cs.counter l := by
  by_cases h : k = l <;> simp [counter, Register.getD, Register.get?_insert, h]

theorem counter_erase (cs : Counters) (k l : CounterKey) :
    (⟨cs.register.erase k⟩ : Counters).counter l = if k = l then [] else cs.counter l := by
  by_cases h : k = l <;> simp [counter, Register.getD, Register.get?_erase, h]

theorem counter_of_get?_none {cs : Counters} {k : CounterKey} (h : cs.register.get? k = none) :
    cs.counter k = [] := by
  simp [counter, Register.getD, h]

theorem counter_of_get?_some {cs : Counters} {k : CounterKey} {c : Counter}
    (h : cs.register.get? k = some c) : cs.counter k = c := by
  simp [counter, Register.getD, h]

theorem counter_refresh (now : Nat) (cs : Counters) (slot : CounterKey × Window)
    (k : CounterKey) :
    (cs.refresh now slot).counter k =
      if slot.1 = k then (cs.counter k).current slot.2 now else cs.counter k := by
  cases hget : cs.register.get? slot.1 with
  | none =>
    simp only [refresh, hget]
    by_cases hk : slot.1 = k
    · rw [if_pos hk, ← hk, counter_of_get?_none hget, Counter.current_nil]
    · rw [if_neg hk]
  | some c =>
    have hc := counter_of_get?_some hget
    cases hcur : c.current slot.2 now with
    | nil =>
      simp only [refresh, hget, hcur, counter_erase]
      split
      · next hk => rw [← hk, hc, hcur]
      · rfl
    | cons t ts =>
      simp only [refresh, hget, hcur, counter_insert]
      split
      · next hk => rw [← hk, hc, hcur]
      · rfl

theorem counter_record (now : Nat) (cs : Counters) (slot : CounterKey × Window)
    (k : CounterKey) :
    (cs.record now slot).counter k =
      if slot.1 = k then cs.counter k ++ [now] else cs.counter k := by
  rw [record, counter_insert]
  split
  · next hk => rw [hk]
  · rfl

/-! ## All windows of a policy -/

/-- The window of a list that a counter belongs to, if it is a counter of the bucket. -/
def windowOf? (b : Bucket) (ws : List Window) (k : CounterKey) : Option Window :=
  if k.bucket = b then ws[k.index]? else none

@[simp] theorem windowOf?_self (b : Bucket) (ws : List Window) (i : Nat) :
    windowOf? b ws ⟨b, i⟩ = ws[i]? := by
  simp [windowOf?]

theorem mem_slots_iff {slot : CounterKey × Window} :
    slot ∈ slots b ws ↔ ∃ i w, ws[i]? = some w ∧ slot = (⟨b, i⟩, w) := by
  simp only [slots, List.mem_map, Prod.exists, List.mem_zipIdx_iff_getElem?]
  constructor
  · rintro ⟨w, i, hw, rfl⟩
    exact ⟨i, w, hw, rfl⟩
  · rintro ⟨i, w, hw, rfl⟩
    exact ⟨w, i, hw, rfl⟩

/-- A walk over the windows of a policy that changes, at every window, only the counter of
that window changes each counter once. -/
theorem counter_foldl_slots {f : Counters → CounterKey × Window → Counters}
    {g : Window → Counter → Counter}
    (hf : ∀ cs slot k, (f cs slot).counter k =
      if slot.1 = k then g slot.2 (cs.counter k) else cs.counter k)
    (cs : Counters) (b : Bucket) (ws : List Window) (k : CounterKey) :
    ((slots b ws).foldl f cs).counter k =
      (windowOf? b ws k).elim (cs.counter k) fun w => g w (cs.counter k) := by
  -- the walk may begin at any index `n`; the counter is met at index `k.index`, if at all
  suffices h : ∀ n, (((ws.zipIdx n).map fun p => ((⟨b, p.2⟩ : CounterKey), p.1)).foldl f
      cs).counter k = (if k.bucket = b ∧ n ≤ k.index then ws[k.index - n]? else none).elim
        (cs.counter k) fun w => g w (cs.counter k) by
    simpa [slots, windowOf?] using h 0
  induction ws generalizing cs with
  | nil => intro n; simp
  | cons w ws ih =>
    intro n
    rw [List.zipIdx_cons, List.map_cons, List.foldl_cons, ih, hf]
    obtain ⟨kb, ki⟩ := k
    by_cases hb : kb = b
    · rcases Nat.lt_trichotomy ki n with hlt | rfl | hgt
      · have h1 : ¬ n + 1 ≤ ki := by omega
        have h2 : ¬ n ≤ ki := by omega
        have h3 : n ≠ ki := by omega
        simp [h1, h2, h3]
      · have h1 : ¬ ki + 1 ≤ ki := by omega
        simp [hb, h1]
      · have h1 : n + 1 ≤ ki := hgt
        have h2 : n ≤ ki := by omega
        have h3 : n ≠ ki := by omega
        have h4 : ki - n = (ki - (n + 1)) + 1 := by omega
        simp [hb, h1, h2, h3, h4]
    · have hb' : b ≠ kb := fun h => hb h.symm
      simp [hb, hb']

theorem check_snd (cs : Counters) (b : Bucket) (ws : List Window) (now : Nat) :
    (cs.check b ws now).2 =
      if (cs.check b ws now).1.allowed then
        (slots b ws).foldl (record now) ((slots b ws).foldl (refresh now) cs)
      else (slots b ws).foldl (refresh now) cs := rfl

/-- A check brings every counter of the bucket up to date, adds the time to it if the
request is admitted, and leaves the counters of other buckets as they are. -/
theorem counter_check (cs : Counters) (b : Bucket) (ws : List Window) (now : Nat)
    (k : CounterKey) :
    (cs.check b ws now).2.counter k =
      (windowOf? b ws k).elim (cs.counter k) fun w =>
        if (cs.check b ws now).1.allowed then (cs.counter k).current w now ++ [now]
        else (cs.counter k).current w now := by
  have hfresh := counter_foldl_slots (g := fun w c => c.current w now)
    (counter_refresh now) cs b ws k
  have hrecord := counter_foldl_slots (g := fun _ c => c ++ [now]) (counter_record now)
    ((slots b ws).foldl (refresh now) cs) b ws k
  rw [check_snd]
  cases hw : windowOf? b ws k <;> rw [hw] at hfresh hrecord <;> split <;>
    simp only [hrecord, hfresh, Option.elim_none, Option.elim_some]

/-- What a check leaves of the counter of a window of its policy. -/
theorem counter_check_self (cs : Counters) {i : Nat} {w : Window} (hw : ws[i]? = some w) :
    (cs.check b ws now).2.counter ⟨b, i⟩ =
      if (cs.check b ws now).1.allowed then (cs.counter ⟨b, i⟩).current w now ++ [now]
      else (cs.counter ⟨b, i⟩).current w now := by
  rw [counter_check, windowOf?_self, hw, Option.elim_some]

/-- A check leaves the counters of other buckets alone. -/
theorem counter_check_of_ne (cs : Counters) {k : CounterKey} (hk : k.bucket ≠ b)
    (ws : List Window) (now : Nat) : (cs.check b ws now).2.counter k = cs.counter k := by
  rw [counter_check, windowOf?, if_neg hk, Option.elim_none]

/-- A request is admitted if and only if every window has room for it. -/
theorem check_allowed_iff {cs : Counters} :
    (cs.check b ws now).1.allowed = true ↔
      ∀ i w, ws[i]? = some w → ((cs.counter ⟨b, i⟩).current w now).length < w.limit := by
  have hfresh := counter_foldl_slots (g := fun w c => c.current w now)
    (counter_refresh now) cs b ws
  simp only [check, haveRoom, List.all_eq_true, Counter.hasRoom, decide_eq_true_eq]
  constructor
  · intro h i w hw
    have := h _ (mem_slots_iff.2 ⟨i, w, hw, rfl⟩)
    rwa [hfresh, windowOf?_self, hw] at this
  · intro h slot hslot
    obtain ⟨i, w, hw, rfl⟩ := mem_slots_iff.1 hslot
    rw [hfresh, windowOf?_self, hw]
    exact h i w hw

/-- The states that a check reports are those of the counters that it leaves. -/
theorem check_windows (cs : Counters) (b : Bucket) (ws : List Window) (now : Nat) :
    (cs.check b ws now).1.windows =
      ws.zipIdx.map fun p => ((cs.check b ws now).2.counter ⟨b, p.2⟩).state p.1 now := by
  simp [check, slots]

/-- A check cannot tell two sets of counters apart in which the counters of its bucket are the
same once they are up to date. -/
theorem check_congr {cs cs' : Counters}
    (h : ∀ i w, ws[i]? = some w →
      (cs.counter ⟨b, i⟩).current w now = (cs'.counter ⟨b, i⟩).current w now) :
    (cs.check b ws now).1 = (cs'.check b ws now).1 ∧
      ∀ i w, ws[i]? = some w →
        (cs.check b ws now).2.counter ⟨b, i⟩ = (cs'.check b ws now).2.counter ⟨b, i⟩ := by
  have hallowed : (cs.check b ws now).1.allowed = (cs'.check b ws now).1.allowed := by
    rw [Bool.eq_iff_iff, check_allowed_iff, check_allowed_iff]
    constructor
    · intro hroom i w hw
      rw [← h i w hw]
      exact hroom i w hw
    · intro hroom i w hw
      rw [h i w hw]
      exact hroom i w hw
  have hcounter : ∀ i w, ws[i]? = some w →
      (cs.check b ws now).2.counter ⟨b, i⟩ = (cs'.check b ws now).2.counter ⟨b, i⟩ := by
    intro i w hw
    rw [counter_check_self cs hw, counter_check_self cs' hw, hallowed, h i w hw]
  have hwindows : (cs.check b ws now).1.windows = (cs'.check b ws now).1.windows := by
    rw [check_windows, check_windows]
    apply List.map_congr_left
    rintro ⟨w, i⟩ hslot
    rw [hcounter i w (List.mem_zipIdx_iff_getElem?.1 hslot)]
  refine ⟨?_, hcounter⟩
  calc (cs.check b ws now).1
      = ⟨(cs.check b ws now).1.allowed, (cs.check b ws now).1.windows⟩ := rfl
    _ = ⟨(cs'.check b ws now).1.allowed, (cs'.check b ws now).1.windows⟩ := by
        rw [hallowed, hwindows]
    _ = (cs'.check b ws now).1 := rfl

/-! ## Asking for a count -/

theorem recorded_count (cs : Counters) (k : CounterKey) (w : Window) (now : Nat) :
    (cs.recorded k w now).1 = ((cs.counter k).current w now).length := by
  cases hget : cs.register.get? k with
  | none =>
    simp only [recorded, hget]
    rw [counter_of_get?_none hget]
    rfl
  | some c =>
    simp only [recorded, hget]
    rw [counter_of_get?_some hget]

/-- Asking for a count brings the counter that is asked for up to date. -/
theorem counter_recorded (cs : Counters) (k l : CounterKey) (w : Window) (now : Nat) :
    (cs.recorded k w now).2.counter l =
      if k = l then (cs.counter l).current w now else cs.counter l := by
  cases hget : cs.register.get? k with
  | none =>
    simp only [recorded, hget]
    by_cases hk : k = l
    · rw [if_pos hk, ← hk, counter_of_get?_none hget, Counter.current_nil]
    · rw [if_neg hk]
  | some c =>
    simp only [recorded, hget, counter_insert]
    split
    · next hk => rw [← hk, counter_of_get?_some hget]
    · rfl

end Counters
end Turnstile
