/-
# Moves are all or nothing

A move that fails leaves no trace in the committed rows, and what it reports is the first
of its failures in the order of precedence, never that of the rollback.  A move that does
not fail leaves the rows of its owner shifted and all others alone.  This holds of every
store with transactions, whichever of its calls fail.

The two passes that write are one sequence of steps, each of which either has no placement
or makes one; what such a sequence comes to is a single induction on the steps.
-/
import Turnstile.Proofs.Ordering.Script

namespace Turnstile

variable {σ τ : Type} {outside : σ → String → List Item}
  {inside : σ × τ → String → List Item}

/-! ## The calls of an observed store -/

namespace OrderStore

variable (store : OrderStore σ τ)

theorem observed_begin_runOn (owner : String) (s : σ) (j : Journal) :
    (store.observed.begin owner).runOn (s, j) =
      ⟨((store.begin owner).runOn s).result, (((store.begin owner).runOn s).state,
        { j with begin := failure? ((store.begin owner).runOn s).result }),
        ((store.begin owner).runOn s).events⟩ := rfl

theorem observed_rowsOf_runOn (owner : String) (s : σ) (j : Journal) (tx : τ) :
    (store.observed.rowsOf owner).runOn ((s, j), tx) =
      ⟨((store.rowsOf owner).runOn (s, tx)).result,
        ((((store.rowsOf owner).runOn (s, tx)).state.1,
          { j with listings := j.listings ++ [((store.rowsOf owner).runOn (s, tx)).result] }),
          ((store.rowsOf owner).runOn (s, tx)).state.2),
        ((store.rowsOf owner).runOn (s, tx)).events⟩ := rfl

theorem observed_place_runOn (id : Int) (owner : String) (order : Int) (s : σ) (j : Journal)
    (tx : τ) :
    (store.observed.place id owner order).runOn ((s, j), tx) =
      ⟨((store.place id owner order).runOn (s, tx)).result,
        ((((store.place id owner order).runOn (s, tx)).state.1,
          { j with placements :=
              j.placements ++ [failure? ((store.place id owner order).runOn (s, tx)).result] }),
          ((store.place id owner order).runOn (s, tx)).state.2),
        ((store.place id owner order).runOn (s, tx)).events⟩ := rfl

theorem observed_commit_runOn (tx : τ) (s : σ) (j : Journal) :
    (store.observed.commit tx).runOn (s, j) =
      ⟨((store.commit tx).runOn s).result, (((store.commit tx).runOn s).state,
        { j with commit := failure? ((store.commit tx).runOn s).result }),
        ((store.commit tx).runOn s).events⟩ := rfl

theorem observed_rollback_runOn (tx : τ) (s : σ) (j : Journal) :
    (store.observed.rollback tx).runOn (s, j) =
      ⟨((store.rollback tx).runOn s).result, (((store.rollback tx).runOn s).state,
        { j with rollback := failure? ((store.rollback tx).runOn s).result }),
        ((store.rollback tx).runOn s).events⟩ := rfl

end OrderStore

namespace Move

variable {store : OrderStore σ τ}

/-! ## The steps that write -/

/-- Takes a step that writes: makes its placement, or fails if it has none. -/
def write (store : OrderStore σ τ) (m : Move) (step : Except MoveFault (Int × Int)) :
    Attempt (σ × τ) Unit := do
  let p ← orFail step
  store.place p.1 m.owner p.2

/-- The step that parks a row. -/
def parkStep (i : Item) : Except MoveFault (Int × Int) := (parking i.id).map fun p => (i.id, p)

/-- What a step fails with by itself. -/
def stepFault? : Except MoveFault (Int × Int) → Option Error
  | .ok _ => none
  | .error f => some f.toError

theorem park_eq_write (store : OrderStore σ τ) (m : Move) (i : Item) :
    park store m i = write store m (parkStep i) := by
  simp only [park, write, parkStep]
  cases parking i.id <;> rfl

/-- Parking and placing all rows is one sequence of steps. -/
theorem rearrange_eq_forM (store : OrderStore σ τ) (m : Move) (items : List Item)
    (plan : List (Int × Int)) :
    rearrange store m items plan =
      forM (items.map parkStep ++ plan.map Except.ok) (write store m) := by
  have hpark : park store m = fun i => write store m (parkStep i) :=
    funext (park_eq_write store m)
  have hplace : (fun p : Int × Int => store.place p.1 m.owner p.2) =
      fun p => write store m (.ok p) := rfl
  simp only [rearrange, hpark, hplace, List.forM_eq_forM, List.forM_append, List.forM_map]

theorem stepFaults_eq (items : List Item) {plan : List (Int × Int)}
    (hlen : plan.length = items.length) :
    (items.map parkStep ++ plan.map Except.ok).map stepFault? = stepFaults items := by
  have hpark : ∀ i : Item, stepFault? (parkStep i) =
      if 0 < i.id then none else some (MoveFault.unparkable i.id).toError := by
    intro i
    simp only [parkStep, parking]
    split <;> rfl
  have hplace : ∀ p : Int × Int, stepFault? (.ok p) = none := fun _ => rfl
  simp only [List.map_append, List.map_map, stepFaults, Function.comp_def, hpark, hplace,
    List.map_const', hlen]

/-- Rows with positive ids can all be parked. -/
theorem map_parkStep {items : List Item} (h : ∀ i ∈ items, 0 < i.id) :
    items.map parkStep = (parkings items).map Except.ok := by
  rw [parkings, List.map_map]
  refine List.map_congr_left fun i hi => ?_
  rw [parkStep, parking, if_pos (h i hi)]
  rfl

/-- If no step fails by itself, the steps are the placements that park all rows and those of
the plan. -/
theorem steps_eq_map {items : List Item} {plan ps : List (Int × Int)}
    (h : items.map parkStep ++ plan.map Except.ok = ps.map Except.ok) :
    ps = parkings items ++ plan := by
  have hpositive : ∀ i ∈ items, 0 < i.id := by
    intro i hi
    have hmem : parkStep i ∈ ps.map Except.ok :=
      h ▸ List.mem_append_left _ (List.mem_map_of_mem hi)
    obtain ⟨p, -, hp⟩ := List.mem_map.1 hmem
    by_contra hid
    rw [parkStep, parking, if_neg hid] at hp
    cases hp
  rw [map_parkStep hpositive, ← List.map_append] at h
  exact (List.map_injective_iff.2 (fun _ _ heq => Except.ok.inj heq) h).symm

/-- What a sequence of steps comes to: nothing is seen outside, and it fails with the first
failure of a step, or every step makes its placement. -/
theorem forM_write (h : store.IsTransactional outside inside) (m : Move)
    (steps : List (Except MoveFault (Int × Int))) (s : σ) (j : Journal) (tx : τ) :
    let o := (forM steps (write store.observed m)).runOn ((s, j), tx)
    ∃ placed, o.state.1.2 = { j with placements := j.placements ++ placed } ∧
      outside o.state.1.1 = outside s ∧
      match firstStepFailure (steps.map stepFault?) placed with
      | some e => o.result = .error e
      | none => o.result = .ok () ∧ ∃ ps, steps = ps.map Except.ok ∧
          inside (o.state.1.1, o.state.2) = Function.update (inside (s, tx)) m.owner
            (Item.repositionAll ps (inside (s, tx) m.owner)) := by
  induction steps generalizing s j tx with
  | nil => exact ⟨[], by simp, rfl, rfl, [], rfl, by simp [Item.repositionAll]⟩
  | cons step steps ih =>
    cases step with
    | error f => exact ⟨[], by simp [write, orFail], rfl, rfl⟩
    | ok p =>
      have hout := h.place_outside p.1 m.owner p.2 (s, tx)
      have hin := h.place_inside p.1 m.owner p.2 (s, tx)
      rcases hcall : (store.place p.1 m.owner p.2).runOn (s, tx) with ⟨r, ⟨s', tx'⟩, es⟩
      have hcall' := OrderStore.observed_place_runOn store p.1 m.owner p.2 s j tx
      rw [hcall] at hout hin hcall'
      have hwrite : (write store.observed m (.ok p)).runOn ((s, j), tx) =
        ⟨r, ((s', { j with placements := j.placements ++ [failure? r] }), tx'), es⟩ := hcall'
      rw [List.forM_cons]
      cases r with
      | error e =>
        -- the run stops here, and this placement is the last in the journal
        rw [Attempt.runOn_bind_of_error (e := e) (by rw [hwrite]), hwrite]
        exact ⟨[some e], rfl, hout, rfl⟩
      | ok u =>
        rw [Attempt.runOn_bind_of_ok (a := u) (by rw [hwrite]), hwrite]
        obtain ⟨placed, hj, hout', hmatch⟩ :=
          ih s' { j with placements := j.placements ++ [failure? (.ok u)] } tx'
        refine ⟨none :: placed, ?_, hout'.trans hout, ?_⟩
        · simpa using hj
        · have hfirst : firstStepFailure (((Except.ok p) :: steps).map stepFault?)
              (none :: placed) = firstStepFailure (steps.map stepFault?) placed := rfl
          rw [hfirst]
          cases hf : firstStepFailure (steps.map stepFault?) placed with
          | some e =>
            rw [hf] at hmatch
            exact hmatch
          | none =>
            rw [hf] at hmatch
            obtain ⟨hok, ps, rfl, hins⟩ := hmatch
            refine ⟨hok, p :: ps, rfl, ?_⟩
            rw [Outcome.state_after, hins, hin rfl, Function.update_idem, Function.update_self]
            rfl

/-! ## Within the transaction -/

/-- A listing in any sequence shows whether the move is refused. -/
theorem fault?_eq_refusal? (m : Move) {items rows : List Item} (hp : items.Perm rows) :
    (m.fault? items).map MoveFault.toError = m.refusal? rows := by
  have habsent : (items.any fun i => i.order == m.origin) = true ↔
      ∃ i ∈ rows, i.order = m.origin := by
    simp only [List.any_eq_true, beq_iff_eq, hp.mem_iff]
  have houtside : isPosition rows.length m.target = true ↔
      1 ≤ m.target ∧ m.target ≤ rows.length := by
    rw [isPosition_iff, mem_positions]
  rw [fault?, hp.length_eq, refusal?]
  by_cases h1 : ∃ i ∈ rows, i.order = m.origin
  · rw [habsent.2 h1, if_pos h1]
    by_cases h2 : 1 ≤ m.target ∧ m.target ≤ rows.length
    · rw [houtside.2 h2, if_pos h2]
      rfl
    · rw [Bool.eq_false_iff.2 (houtside.not.2 h2), if_neg h2]
      rfl
  · rw [Bool.eq_false_iff.2 (habsent.not.2 h1), if_neg h1]
    rfl

/-- A move of arranged rows is refused unless both its ends are among their positions. -/
theorem refusal?_eq_none_iff {m : Move} {rows : List Item} (h : Arranged rows) :
    m.refusal? rows = none ↔
      m.origin ∈ positions rows.length ∧ m.target ∈ positions rows.length := by
  have horigin : m.origin ∈ positions rows.length ↔ ∃ i ∈ rows, i.order = m.origin := by
    rw [← List.Perm.mem_iff h, List.mem_map]
  rw [refusal?, horigin, mem_positions]
  split_ifs with h1 h2 h2
  · exact ⟨fun _ => ⟨h1, h2⟩, fun _ => rfl⟩
  · exact ⟨nofun, fun hboth => absurd hboth.2 h2⟩
  · exact ⟨nofun, fun hboth => absurd hboth.1 h1⟩
  · exact ⟨nofun, fun hboth => absurd hboth.1 h1⟩

/-- The planner refuses a move that was not refused before for one reason only: arranged
rows show both its origin and its target to be among their positions. -/
theorem planMove_eq {m : Move} {items : List Item} (hfault : m.fault? items = none) :
    planMove items m.origin m.target =
      if Arranged items then .ok (planOf items m.origin m.target)
      else .error .notPermutation := by
  have hrefusal : m.refusal? items = none := by
    rw [← fault?_eq_refusal? m (List.Perm.refl items), hfault]
    rfl
  rw [planMove]
  by_cases h : Arranged items
  · obtain ⟨ho, ht⟩ := (refusal?_eq_none_iff h).1 hrefusal
    rw [isArranged_iff.2 h, isPosition_iff.2 ho, isPosition_iff.2 ht, if_pos h]
    rfl
  · rw [Bool.eq_false_iff.2 (isArranged_iff.not.2 h), if_neg h]
    rfl

/-- What writing comes to when the rows are arranged and the move is among their positions. -/
theorem rearrange_observed (h : store.IsTransactional outside inside) {m : Move}
    {items : List Item} (harr : Arranged items) (ho : m.origin ∈ positions items.length)
    (ht : m.target ∈ positions items.length) (s : σ) (j : Journal) (tx : τ) :
    let plan := planOf items m.origin m.target
    let o := (rearrange store.observed m items plan).runOn ((s, j), tx)
    ∃ placed, o.state.1.2 = { j with placements := j.placements ++ placed } ∧
      outside o.state.1.1 = outside s ∧
      match firstStepFailure (stepFaults items) placed with
      | some e => o.result = .error e
      | none => o.result = .ok () ∧ inside (o.state.1.1, o.state.2) =
          Function.update (inside (s, tx)) m.owner
            (Item.repositionAll (parkings items ++ plan) (inside (s, tx) m.owner)) := by
  intro plan o
  obtain ⟨placed, hj, hout, hmatch⟩ :=
    forM_write h m (items.map parkStep ++ plan.map Except.ok) s j tx
  rw [stepFaults_eq items (length_planOf harr ho ht), ← rearrange_eq_forM] at hmatch
  rw [← rearrange_eq_forM] at hj hout
  refine ⟨placed, hj, hout, ?_⟩
  cases hf : firstStepFailure (stepFaults items) placed with
  | some e =>
    rw [hf] at hmatch
    exact hmatch
  | none =>
    rw [hf] at hmatch
    obtain ⟨hok, ps, hps, hins⟩ := hmatch
    exact ⟨hok, by rw [hins, steps_eq_map hps]⟩

/-- A move to where the row is already is carried out by doing nothing. -/
theorem carried_refl {m : Move} (hsame : m.origin = m.target) {rows : String → List Item}
    {items : List Item} (hperm : items.Perm (rows m.owner)) : m.Carried rows rows items where
  items_perm := hperm
  others _ _ := rfl
  stays _ := rfl
  rows _ := by rw [hsame, Item.shift_self, List.map_id']

/-- The placements that park the rows and those of the plan carry out a move. -/
theorem carried_update {m : Move} (hne : m.origin ≠ m.target)
    {before after : String → List Item} {items items' : List Item} (harr : Arranged items)
    (ho : m.origin ∈ positions items.length) (ht : m.target ∈ positions items.length)
    (hperm : items.Perm (before m.owner))
    (hafter : after = Function.update before m.owner (Item.repositionAll
      (parkings items ++ planOf items m.origin m.target) (before m.owner)))
    (hperm' : items'.Perm (after m.owner)) : m.Carried before after items' where
  items_perm := hperm'
  others owner hne := by rw [hafter, Function.update_of_ne hne]
  stays hsame := absurd hsame hne
  rows hids := by
    rw [hafter, Function.update_self, repositionAll_planOf harr hperm hids ho ht]

/-- The second half of what happens within the transaction of a move, after a first listing
has shown that it can be planned. -/
theorem rearrange_list_observed (h : store.IsTransactional outside inside) {m : Move}
    {items : List Item} (hne : m.origin ≠ m.target) (harr : Arranged items)
    (ho : m.origin ∈ positions items.length) (ht : m.target ∈ positions items.length) (s : σ)
    (tx : τ) (hperm : items.Perm (inside (s, tx) m.owner)) :
    let o := (do
        rearrange store.observed m items (planOf items m.origin m.target)
        store.observed.rowsOf m.owner).runOn ((s, { listings := [.ok items] }), tx)
    ∃ relisted placed,
      o.state.1.2 = { listings := .ok items :: relisted, placements := placed } ∧
      outside o.state.1.1 = outside s ∧
      match firstStepFailure (stepFaults items) placed <|> o.state.1.2.listFailure 1 with
      | some e => o.result = .error e
      | none => ∃ items', o.result = .ok items' ∧
          m.Carried (inside (s, tx)) (inside (o.state.1.1, o.state.2)) items' := by
  obtain ⟨placed, hj, hout, hmatch⟩ :=
    rearrange_observed h harr ho ht s { listings := [.ok items] } tx
  rcases hwritten : (rearrange store.observed m items (planOf items m.origin m.target)).runOn
    ((s, { listings := [.ok items] }), tx) with ⟨r, ⟨⟨s₁, j₁⟩, tx₁⟩, es⟩
  rw [hwritten] at hj hout hmatch
  obtain rfl : j₁ = { listings := [.ok items], placements := placed } := hj
  cases hf : firstStepFailure (stepFaults items) placed with
  | some e =>
    rw [hf] at hmatch
    rw [Attempt.runOn_bind_of_error (e := e) (by rw [hwritten]; exact hmatch), hwritten]
    exact ⟨[], placed, rfl, hout, by rw [hf]; rfl⟩
  | none =>
    rw [hf] at hmatch
    obtain ⟨hok, hins⟩ := hmatch
    rw [Attempt.runOn_bind_of_ok (a := ()) (by rw [hwritten]; exact hok), hwritten]
    have hout₂ := h.rowsOf_outside m.owner (s₁, tx₁)
    have hin₂ := h.rowsOf_inside m.owner (s₁, tx₁)
    rcases hcall : (store.rowsOf m.owner).runOn (s₁, tx₁) with ⟨r₂, ⟨s₂, tx₂⟩, es₂⟩
    have hlist := OrderStore.observed_rowsOf_runOn store m.owner s₁
      { listings := [.ok items], placements := placed } tx₁
    rw [hcall] at hout₂ hin₂ hlist
    dsimp only
    rw [hlist]
    refine ⟨[r₂], placed, rfl, hout₂.trans hout, ?_⟩
    rw [hf]
    cases r₂ with
    | error e => exact rfl
    | ok items' =>
      obtain ⟨hins₂, hperm₂⟩ := hin₂ items' rfl
      refine ⟨items', rfl, carried_update hne harr ho ht hperm (hins₂.trans hins) ?_⟩
      rw [← hins₂] at hperm₂
      exact hperm₂

/-- What happens within the transaction of a move to another position once a first listing has
shown nothing wrong with it. -/
theorem replaced_observed (h : store.IsTransactional outside inside) {m : Move}
    {items : List Item} (hfault : m.fault? items = none) (hne : m.origin ≠ m.target) (s : σ)
    (tx : τ) (hperm : items.Perm (inside (s, tx) m.owner)) :
    let o := (do
        rearrange store.observed m items (← orFail (planMove items m.origin m.target))
        store.observed.rowsOf m.owner).runOn ((s, { listings := [.ok items] }), tx)
    ∃ relisted placed,
      o.state.1.2 = { listings := .ok items :: relisted, placements := placed } ∧
      outside o.state.1.1 = outside s ∧
      match m.failureWithin (inside (s, tx) m.owner) o.state.1.2 with
      | some e => o.result = .error e
      | none => ∃ items', o.result = .ok items' ∧
          m.Carried (inside (s, tx)) (inside (o.state.1.1, o.state.2)) items' := by
  have hrefusal : m.refusal? (inside (s, tx) m.owner) = none := by
    rw [← fault?_eq_refusal? m hperm, hfault]
    rfl
  rw [planMove_eq hfault]
  by_cases harr : Arranged items
  · have harr' := (arranged_congr hperm).1 harr
    obtain ⟨ho, ht⟩ := (refusal?_eq_none_iff harr').1 hrefusal
    rw [← hperm.length_eq] at ho ht
    rw [if_pos harr, Attempt.orFail_ok, pure_bind]
    obtain ⟨relisted, placed, hj, hout, hmatch⟩ :=
      rearrange_list_observed h hne harr ho ht s tx hperm
    refine ⟨relisted, placed, hj, hout, ?_⟩
    rw [hj] at hmatch ⊢
    rw [failureWithin, hrefusal, if_neg hne, if_pos harr']
    exact hmatch
  · rw [if_neg harr]
    refine ⟨[], [], rfl, rfl, ?_⟩
    rw [failureWithin, hrefusal, if_neg hne, if_neg (arranged_congr hperm |>.not.1 harr)]
    rfl

/-- What happens within the transaction of a move: nothing is seen outside, and it fails with
the first failure within it, or carries out the move. -/
theorem within_observed (h : store.IsTransactional outside inside) (m : Move) (s : σ) (tx : τ) :
    let o := (within store.observed m).runOn ((s, {}), tx)
    ∃ listings placements,
      o.state.1.2 = { listings := listings, placements := placements } ∧
      outside o.state.1.1 = outside s ∧ (m.origin = m.target → placements = []) ∧
      match m.failureWithin (inside (s, tx) m.owner) o.state.1.2 with
      | some e => o.result = .error e
      | none => ∃ items, o.result = .ok items ∧
          m.Carried (inside (s, tx)) (inside (o.state.1.1, o.state.2)) items := by
  have hout := h.rowsOf_outside m.owner (s, tx)
  have hin := h.rowsOf_inside m.owner (s, tx)
  rcases hcall : (store.rowsOf m.owner).runOn (s, tx) with ⟨r, ⟨s₁, tx₁⟩, es⟩
  have hlist := OrderStore.observed_rowsOf_runOn store m.owner s {} tx
  rw [hcall] at hout hin hlist
  rw [within]
  cases r with
  | error e =>
    rw [Attempt.runOn_bind_of_error (e := e) (by rw [hlist]), hlist]
    exact ⟨[.error e], [], rfl, hout, fun _ => rfl, rfl⟩
  | ok items =>
    obtain ⟨hins, hperm⟩ := hin items rfl
    have hrefusal := fault?_eq_refusal? m hperm
    rw [Attempt.runOn_bind_of_ok (a := items) (by rw [hlist]), hlist]
    -- from here on the cases are those of the program, in its order
    cases hfault : m.fault? items with
    | some f =>
      rw [hfault] at hrefusal
      refine ⟨[.ok items], [], rfl, hout, fun _ => rfl, ?_⟩
      dsimp only [Outcome.state_after]
      rw [failureWithin, ← hrefusal]
      rfl
    | none =>
      rw [hfault] at hrefusal
      dsimp only
      by_cases hsame : m.origin = m.target
      · rw [if_pos hsame]
        refine ⟨[.ok items], [], rfl, hout, fun _ => rfl, ?_⟩
        dsimp only [Outcome.state_after]
        rw [failureWithin, ← hrefusal, if_pos hsame]
        refine ⟨items, rfl, ?_⟩
        dsimp only at hins
        rw [Attempt.runOn_pure, hins]
        exact carried_refl hsame hperm
      · rw [if_neg hsame]
        obtain ⟨relisted, placed, hj, hout', hmatch⟩ :=
          replaced_observed h hfault hsame s₁ tx₁ (hins ▸ hperm)
        have hins' : inside (s₁, tx₁) = inside (s, tx) := hins
        rw [hins'] at hmatch
        exact ⟨.ok items :: relisted, placed, hj, hout'.trans hout,
          fun hsame' => absurd hsame' hsame, hmatch⟩

/-! ## The whole move -/

/-- What a move comes to once its transaction is open. -/
theorem complete_observed (h : store.IsTransactional outside inside) (m : Move) (s : σ) (tx : τ)
    (hbegin : inside (s, tx) = outside s) :
    let o := (complete store.observed m tx).runOn (s, {})
    o.state.2.begin = none ∧ (m.origin = m.target → o.state.2.placements = []) ∧
      match m.failureWithin (outside s m.owner) o.state.2 <|> o.state.2.commit with
      | some e => o.result = .error e ∧ outside o.state.1 = outside s
      | none => ∃ items, o.result = .ok items ∧
          m.Carried (outside s) (outside o.state.1) items := by
  obtain ⟨listings, placements, hj, hout, hsame, hmatch⟩ := within_observed h m s tx
  rw [complete_runOn]
  rcases hwithin : (within store.observed m).runOn ((s, {}), tx) with ⟨r, ⟨⟨s₁, j₁⟩, tx₁⟩, es⟩
  rw [hwithin] at hj hout hmatch
  obtain rfl : j₁ = { listings := listings, placements := placements } := hj
  rw [hbegin] at hmatch
  cases hf : m.failureWithin (outside s m.owner)
      { listings := listings, placements := placements } with
  | some e =>
    rw [hf] at hmatch
    obtain rfl : r = .error e := hmatch
    obtain ⟨hresult, hstate⟩ := abandon_runOn store.observed m tx₁ e
      (s₁, { listings := listings, placements := placements })
    rw [OrderStore.observed_rollback_runOn] at hstate
    dsimp only [Outcome.state_after, Outcome.result_after]
    rw [hresult, hstate]
    refine ⟨rfl, hsame, ?_⟩
    -- what the rollback came to is in the journal, but no failure of the move
    have hf' : ∀ e', m.failureWithin (outside s m.owner)
        { listings := listings, placements := placements, rollback := e' } = some e := fun _ => hf
    rw [hf']
    exact ⟨rfl, (h.rollback_outside s₁ tx₁).trans hout⟩
  | none =>
    rw [hf] at hmatch
    obtain ⟨items, hok, hcarried⟩ := hmatch
    obtain rfl : r = .ok items := hok
    obtain ⟨hresult, hstate⟩ := conclude_runOn store.observed m tx₁ items
      (s₁, { listings := listings, placements := placements })
    rw [OrderStore.observed_commit_runOn] at hresult hstate
    dsimp only [Outcome.state_after, Outcome.result_after] at hcarried ⊢
    rw [hresult, hstate]
    refine ⟨rfl, hsame, ?_⟩
    have hf' : ∀ e', m.failureWithin (outside s m.owner)
        { listings := listings, placements := placements, commit := e' } = none := fun _ => hf
    rw [hf']
    cases hcommit : ((store.commit tx₁).runOn s₁).result with
    | error e => exact ⟨rfl, (h.commit_error s₁ tx₁ e hcommit).trans hout⟩
    | ok u =>
      rw [← h.commit_ok s₁ tx₁ hcommit] at hcarried
      exact ⟨items, rfl, hcarried⟩

/-- A move on an observed store, up to what it leaves in the journal. -/
theorem perform_observed (h : store.IsTransactional outside inside) (m : Move) (s : σ) :
    let o := (m.perform store.observed).runOn (s, {})
    (m.origin = m.target → o.state.2.placements = []) ∧
      match m.firstFailure (outside s m.owner) o.state.2 with
      | some e => o.result = .error e ∧ outside o.state.1 = outside s
      | none => ∃ items, o.result = .ok items ∧
          m.Carried (outside s) (outside o.state.1) items := by
  have hbegin := OrderStore.observed_begin_runOn store m.owner s {}
  have hout := h.begin_outside m.owner s
  rw [perform_runOn, hbegin]
  cases hr : ((store.begin m.owner).runOn s).result with
  | error e => exact ⟨fun _ => rfl, rfl, hout⟩
  | ok tx =>
    have hcomplete := complete_observed h m ((store.begin m.owner).runOn s).state tx
      ((h.begin_inside m.owner s tx hr).trans hout.symm)
    rw [hout] at hcomplete
    generalize hrun : (complete store.observed m tx).runOn
      (((store.begin m.owner).runOn s).state, {}) = o at hcomplete
    have hproceed : (proceed store.observed m (.ok tx)).runOn
        (((store.begin m.owner).runOn s).state, {}) = o := hrun
    obtain ⟨hnone, hsame, hmatch⟩ := hcomplete
    rw [failure?_ok, hproceed]
    refine ⟨hsame, ?_⟩
    dsimp only [Outcome.state_after, Outcome.result_after]
    rw [firstFailure, hnone]
    exact hmatch

/-- On any store with transactions, whichever of its calls fail, a move reports the first
failure in the order of precedence and leaves all committed rows as they were; if there is
none, it reports success and is carried out.  A move to where the row is already writes
nothing. -/
theorem perform_all_or_nothing (h : store.IsTransactional outside inside) (m : Move) (s : σ) :
    let o := (m.perform store).runOn s
    let j := m.journal store s
    (∀ e, m.firstFailure (outside s m.owner) j = some e →
      o.result = .error e ∧ outside o.state = outside s) ∧
    (m.firstFailure (outside s m.owner) j = none →
      ∃ items, o.result = .ok items ∧ m.Carried (outside s) (outside o.state) items) ∧
    (m.origin = m.target → j.placements = []) := by
  obtain ⟨hresult, hstate, -⟩ := perform_mirrors store.observed_mirrors m (s, {}) s rfl
  obtain ⟨hsame, hmatch⟩ := perform_observed h m s
  dsimp only at hmatch ⊢
  rw [← hresult, ← hstate]
  refine ⟨fun e hfirst => ?_, fun hfirst => ?_, hsame⟩
  · rw [journal] at hfirst
    rw [hfirst] at hmatch
    exact hmatch
  · rw [journal] at hfirst
    rw [hfirst] at hmatch
    exact hmatch

/-- Three rows on a store whose fourth placement fails, and the rollback too: the placement
is reported and nothing is moved. -/
theorem perform_all_or_nothing_fourth_placement :
    let s : FaultyStore := {
      rows := [⟨7, ⟨3⟩, "ann", "c", 3⟩, ⟨5, ⟨1⟩, "ann", "a", 1⟩, ⟨6, ⟨2⟩, "ann", "b", 2⟩]
      script := { rollback := true, place := fun n => n == 4 } }
    let o := ((⟨.status, "ann", 3, 1⟩ : Move).perform FaultyStore.interface).runOn s
    o.result = .error (FaultyStore.injected "update 4") ∧
      (fun owner => Item.ownedBy owner o.state.rows) = fun owner => Item.ownedBy owner s.rows := by
  intro s
  have hfirst : (⟨.status, "ann", 3, 1⟩ : Move).firstFailure (Item.ownedBy "ann" s.rows)
      ((⟨.status, "ann", 3, 1⟩ : Move).journal FaultyStore.interface s) =
        some (FaultyStore.injected "update 4") := by decide +kernel
  exact (perform_all_or_nothing FaultyStore.isTransactional _ s).1 _ hfirst

end Move
end Turnstile
