/-
# Runs with inputs left out

A machine goes through a list of inputs and answers each of them.  Whether some of the
inputs have any bearing on the answers to others is a question about two runs: one over the
whole list, and one over the list without the inputs in question.

The two runs are kept in step by a relation between their states.  It may look at the inputs
that are still to come, so that it can speak of times that lie ahead.  It has to survive an
input that both runs take and one that only the first run takes, and it has to make the
answers that are looked at equal; then it holds at the end, and these answers are the same
in both runs.
-/

namespace Turnstile

variable {σ α β : Type}

/-- The answers of a machine to a list of inputs in sequence, and the state it ends in. -/
def runAll (step : σ → α → β × σ) (s : σ) : List α → List β × σ
  | [] => ([], s)
  | a :: as =>
    let (b, s') := step s a
    let (bs, s'') := runAll step s' as
    (b :: bs, s'')

/-- Of the answers to a list of inputs those to the inputs of a kind. -/
def answersTo (kind : α → Bool) (as : List α) (bs : List β) : List β :=
  ((as.zip bs).filter fun p => kind p.1).map Prod.snd

section Answers

variable {step : σ → α → β × σ} {kind : α → Bool}

@[simp] theorem runAll_nil (s : σ) : runAll step s [] = ([], s) := rfl

theorem runAll_cons (s : σ) (a : α) (as : List α) :
    runAll step s (a :: as) =
      ((step s a).1 :: (runAll step (step s a).2 as).1, (runAll step (step s a).2 as).2) := rfl

theorem length_runAll (s : σ) (as : List α) : (runAll step s as).1.length = as.length := by
  induction as generalizing s with
  | nil => rfl
  | cons a as ih => simp [runAll_cons, ih]

@[simp] theorem answersTo_nil (bs : List β) : answersTo kind [] bs = [] := rfl

theorem answersTo_cons (a : α) (as : List α) (b : β) (bs : List β) :
    answersTo kind (a :: as) (b :: bs) =
      if kind a = true then b :: answersTo kind as bs else answersTo kind as bs := by
  by_cases h : kind a = true <;> simp [answersTo, h]

/-- If all inputs are of the kind, all answers are answers to it. -/
theorem answersTo_of_forall {as : List α} {bs : List β} (hall : ∀ a ∈ as, kind a = true)
    (hlen : bs.length = as.length) : answersTo kind as bs = bs := by
  induction as generalizing bs with
  | nil => exact (List.length_eq_zero_iff.1 hlen).symm
  | cons a as ih =>
    cases bs with
    | nil => simp at hlen
    | cons b bs =>
      rw [answersTo_cons, if_pos (hall a (by simp)),
        ih (fun c hc => hall c (by simp [hc])) (by simpa using hlen)]

end Answers

/-- A relation between the states of two runs, given the inputs to come, which shows that
what is seen of the first run does not depend on the inputs that the second leaves out. -/
structure Unseen (step : σ → α → β × σ) (kept seen : α → Bool)
    (R : List α → σ → σ → Prop) : Prop where
  /-- Nothing that is seen is left out. -/
  kept_of_seen : ∀ a, seen a = true → kept a = true
  /-- An input that both runs take keeps the relation. -/
  both : ∀ {a as s s'}, R (a :: as) s s' → kept a = true → R as (step s a).2 (step s' a).2
  /-- An input that only the first run takes keeps the relation. -/
  alone : ∀ {a as s s'}, R (a :: as) s s' → kept a = false → R as (step s a).2 s'
  /-- What is seen is the same in both runs. -/
  answer_eq : ∀ {a as s s'}, R (a :: as) s s' → seen a = true → (step s a).1 = (step s' a).1

namespace Unseen

variable {step : σ → α → β × σ} {kept seen : α → Bool} {R : List α → σ → σ → Prop}

/-- What is seen of a run is not changed by leaving inputs out, and the relation still holds
between the states that the runs end in. -/
theorem run_filter (h : Unseen step kept seen R) {as : List α} {s s' : σ} (hr : R as s s') :
    answersTo seen as (runAll step s as).1 =
        answersTo seen (as.filter kept) (runAll step s' (as.filter kept)).1 ∧
      R [] (runAll step s as).2 (runAll step s' (as.filter kept)).2 := by
  induction as generalizing s s' with
  | nil => exact ⟨rfl, hr⟩
  | cons a as ih =>
    cases hkept : kept a with
    | true =>
      obtain ⟨hrest, hend⟩ := ih (h.both hr hkept)
      rw [List.filter_cons_of_pos hkept, runAll_cons, runAll_cons, answersTo_cons,
        answersTo_cons, hrest]
      refine ⟨?_, hend⟩
      split
      · next hseen => rw [h.answer_eq hr hseen]
      · rfl
    | false =>
      obtain ⟨hrest, hend⟩ := ih (h.alone hr hkept)
      have hseen : ¬seen a = true := fun hs => by simp [h.kept_of_seen a hs] at hkept
      rw [List.filter_cons_of_neg (by simp [hkept]), runAll_cons, answersTo_cons,
        if_neg hseen]
      exact ⟨hrest, hend⟩

/-- If all that is kept is seen, the answers that are seen are those of the second run. -/
theorem answersTo_eq (h : Unseen step kept kept R) {as : List α} {s s' : σ} (hr : R as s s') :
    answersTo kept as (runAll step s as).1 = (runAll step s' (as.filter kept)).1 := by
  rw [(h.run_filter hr).1]
  exact answersTo_of_forall (fun a ha => (List.mem_filter.1 ha).2) (length_runAll _ _)

end Unseen

end Turnstile
