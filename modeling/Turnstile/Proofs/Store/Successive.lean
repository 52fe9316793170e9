/-
# Moves one after the other

A row that has been moved can be moved on.  As long as nobody else comes for the rows of the
owner in between, what both moves make of them is what one move, from where the first began
to where the second ends, makes of them at once; in particular a move back undoes a move.
Tasks of other owners may do whatever they like in between.

The reason lies in the positions alone (`shifted_trans`).  The rest is that a move leaves the
lock of its owner free, and that steps of others touch neither the lock nor the rows.
-/
import Turnstile.Proofs.Store.Moves
import Turnstile.Proofs.Store.Replay

namespace Turnstile
namespace Machine

variable {m : Machine}

/-- A move that is asked for and then made at once. -/
def makeMove (mv : Move) (m : Machine) : Outcome Machine (List Response) :=
  (steps [.arrive (.move mv), .enter m.nextTicket]).run m

theorem steps_reached (settings : StoreSettings) (ss ss' : List Step) :
    ((steps ss').run (reached settings ss)).state = reached settings (ss ++ ss') :=
  (steps_append ss ss' _).2.symm

theorem state_makeMove (mv : Move) (settings : StoreSettings) (ss : List Step) :
    (makeMove mv (reached settings ss)).state = reached settings
      (ss ++ [.arrive (.move mv), .enter (reached settings ss).nextTicket]) :=
  steps_reached settings ss _

/-- Ids tell the rows of an owner apart in every reachable state. -/
theorem reached_numbered (settings : StoreSettings) (ss : List Step) (owner : String) :
    Numbered ((reached settings ss).rows.of owner) :=
  ((reached_sound (numberedBefore_lasting settings.maxItems) ss).rows.of owner).2.1

/-- The lock of an owner is free if and only if nobody uses it. -/
theorem Guarded.isFree_iff (h : m.Guarded) {owner : String} :
    m.locks.IsFree owner ↔ ∀ ticket, ¬m.Uses ticket owner := by
  constructor
  · intro hfree ticket huses
    obtain ⟨c, hc, -, howner⟩ := (h.users _ _).1 huses
    exact hfree c hc howner
  · rintro hnone c hc rfl
    exact hnone c.ticket (h.uses_of_mem hc)

/-- A move that finds the lock free leaves it free. -/
theorem Orderly.isFree_makeMove (h : m.Orderly) (mv : Move) (hfree : m.locks.IsFree mv.owner) :
    (makeMove mv m).state.locks.IsFree mv.owner := by
  have harrived := (Taken.arrived (m := m) (.move mv) rfl).run.2
  have hholds : (m.locks.claim m.nextTicket mv.owner).holds m.nextTicket = true :=
    OwnerLocks.holds_claim h.locks hfree fun c hc => (h.tickets c hc).ne
  have hworked := (Taken.worked (m := { m with
      locks := m.locks.claim m.nextTicket mv.owner
      waiting := m.waiting.insert m.nextTicket (.move mv)
      nextTicket := m.nextTicket + 1 }) m.nextTicket (.move mv)
    (Register.get?_insert_self _ _ _) hholds rfl).run.2
  have hstate : (makeMove mv m).state = ((step (.enter m.nextTicket)).run
      ((step (.arrive (.move mv))).run m).state).state := rfl
  rw [hstate, harrived]
  exact (congrArg Machine.locks hworked).symm ▸
    h.locks.isFree_release_claim hfree m.nextTicket mv.owner

/-- What a move does that finds the rows arranged and the lock free. -/
theorem Orderly.makeMove_of_arranged (h : m.Orderly) (mv : Move)
    (hfree : m.locks.IsFree mv.owner) (hnum : Numbered (m.rows.of mv.owner))
    (harr : Arranged (m.rows.of mv.owner))
    (ho : mv.origin ∈ positions (m.rows.of mv.owner).length)
    (ht : mv.target ∈ positions (m.rows.of mv.owner).length) :
    let after := (m.rows.of mv.owner).map (Item.shift mv.origin mv.target)
    (makeMove mv m).result = [.arrived m.nextTicket, .ended (.ok (.items (Item.sorted after)))] ∧
      (makeMove mv m).state.rows = m.rows.replace mv.owner after := by
  obtain ⟨hanswers, hrows⟩ := arrive_enter h (.move mv) rfl hfree
  obtain ⟨hwork, hworkState⟩ := work_move_eq_perform true mv m.rows
  obtain ⟨hresult, hstate, -⟩ := mv.perform_of_arranged m.rows hnum harr ho ht
  obtain ⟨hobserved, hobservedState, -⟩ :=
    Move.perform_mirrors (Rows.interface true).observed_mirrors mv (m.rows, {}) m.rows rfl
  refine ⟨hanswers.trans ?_, ?_⟩
  · rw [hwork, ← hobserved, hresult]
    rfl
  · exact hrows.trans (by rw [hworkState, ← hobservedState, hstate])

/-- Steps that bring in no task of an owner whose lock is free leave its lock free and its rows
alone. -/
theorem Guarded.steps_of_isFree (h : m.Guarded) {owner : String} (hfree : m.locks.IsFree owner)
    {ss : List Step} (hss : ∀ task, Step.arrive task ∈ ss → task.owner ≠ owner) :
    ((steps ss).run m).state.locks.IsFree owner ∧
      ((steps ss).run m).state.rows.of owner = m.rows.of owner := by
  have hafter : ((steps ss).run m).state.Guarded := steps_induction (fun h hm => h.taken hm) ss h
  have hnone := h.isFree_iff.1 hfree
  obtain ⟨huses, hrows⟩ := steps_apart (P := (· ≠ owner))
    (fun ticket o huses heq => hnone ticket (heq ▸ huses)) hss
  exact ⟨hafter.isFree_iff.2 fun ticket hin => huses ticket owner hin rfl, hrows owner (· rfl)⟩

section

variable {settings : StoreSettings} {ss : List Step}

/-- What a move does in a reachable state. -/
theorem reached_makeMove (mv : Move) (hfree : (reached settings ss).locks.IsFree mv.owner)
    (harr : Arranged ((reached settings ss).rows.of mv.owner))
    (ho : mv.origin ∈ positions ((reached settings ss).rows.of mv.owner).length)
    (ht : mv.target ∈ positions ((reached settings ss).rows.of mv.owner).length) :
    let m := reached settings ss
    let after := (m.rows.of mv.owner).map (Item.shift mv.origin mv.target)
    (makeMove mv m).result = [.arrived m.nextTicket, .ended (.ok (.items (Item.sorted after)))] ∧
      (makeMove mv m).state.rows = m.rows.replace mv.owner after :=
  (reached_orderly settings ss).makeMove_of_arranged mv hfree (reached_numbered settings ss _)
    harr ho ht

/-- A move and steps of others lead to a reachable state in which the owner's rows are those
that the move has left and the lock is free again. -/
theorem reached_makeMove_steps (mv : Move) (hfree : (reached settings ss).locks.IsFree mv.owner)
    (harr : Arranged ((reached settings ss).rows.of mv.owner))
    (ho : mv.origin ∈ positions ((reached settings ss).rows.of mv.owner).length)
    (ht : mv.target ∈ positions ((reached settings ss).rows.of mv.owner).length)
    {between : List Step} (hbetween : ∀ task, Step.arrive task ∈ between → task.owner ≠ mv.owner) :
    ∃ ss', ((steps between).run (makeMove mv (reached settings ss)).state).state =
        reached settings ss' ∧
      (reached settings ss').locks.IsFree mv.owner ∧
      (reached settings ss').rows.of mv.owner =
        ((reached settings ss).rows.of mv.owner).map (Item.shift mv.origin mv.target) := by
  have hmoved := state_makeMove mv settings ss
  obtain ⟨-, hrows⟩ := reached_makeMove mv hfree harr ho ht
  have hfree' := (reached_orderly settings ss).isFree_makeMove mv hfree
  rw [hmoved] at hrows hfree' ⊢
  obtain ⟨hfree'', hsame⟩ := (reached_guarded settings _).steps_of_isFree hfree' hbetween
  rw [steps_reached] at hfree'' hsame ⊢
  refine ⟨_, rfl, hfree'', ?_⟩
  rw [hsame, hrows, Rows.of_replace, Function.update_self]

end

/-- **Moves compose.**  In every reachable state in which the rows of an owner are at the
positions 1 to N and its lock is free, the row at `a` can be moved to `b` and then on to `c`,
with any steps in between that bring in no task of this owner.  The rows of the owner are then
exactly what moving the row from `a` to `c` at once makes of them, and so is the list that is
reported; if `c` is `a`, they are what they were at first.  The second move touches the rows of
nobody else, and if nothing happens in between all committed rows are the same. -/
theorem moves_compose (settings : StoreSettings) (ss between : List Step)
    (entity entity' entity'' : Entity) {owner : String} {a b c : Int}
    (hfree : (reached settings ss).locks.IsFree owner)
    (harr : Arranged ((reached settings ss).rows.of owner))
    (ha : a ∈ positions ((reached settings ss).rows.of owner).length)
    (hb : b ∈ positions ((reached settings ss).rows.of owner).length)
    (hc : c ∈ positions ((reached settings ss).rows.of owner).length)
    (hbetween : ∀ task, Step.arrive task ∈ between → task.owner ≠ owner) :
    let m := reached settings ss
    let first := makeMove ⟨entity, owner, a, b⟩ m
    let m' := ((steps between).run first.state).state
    let second := makeMove ⟨entity', owner, b, c⟩ m'
    let once := makeMove ⟨entity'', owner, a, c⟩ m
    (∃ items, first.result = [.arrived m.nextTicket, .ended (.ok (.items items))]) ∧
      (∃ items, second.result = [.arrived m'.nextTicket, .ended (.ok (.items items))] ∧
        once.result = [.arrived m.nextTicket, .ended (.ok (.items items))]) ∧
      second.state.rows.of owner = once.state.rows.of owner ∧
      (c = a → second.state.rows.of owner = m.rows.of owner) ∧
      (∀ other, other ≠ owner → second.state.rows.of other = m'.rows.of other) ∧
      (between = [] → second.state.rows = once.state.rows ∧
        (c = a → second.state.rows = m.rows)) := by
  intro m first m' second once
  obtain ⟨hfirst, hrows⟩ := reached_makeMove ⟨entity, owner, a, b⟩ hfree harr ha hb
  obtain ⟨honce, honceRows⟩ := reached_makeMove ⟨entity'', owner, a, c⟩ hfree harr ha hc
  obtain ⟨ss', hm', hfree', hof⟩ :=
    reached_makeMove_steps ⟨entity, owner, a, b⟩ hfree harr ha hb hbetween
  have hlen : ((reached settings ss').rows.of owner).length = (m.rows.of owner).length := by
    rw [hof, List.length_map]
  have harr' : Arranged ((reached settings ss').rows.of owner) := hof ▸ harr.map_shift ha hb
  obtain ⟨hsecond, hsecondRows⟩ := reached_makeMove ⟨entity', owner, b, c⟩ hfree' harr'
    (hlen ▸ hb) (hlen ▸ hc)
  have hcomposed : ((reached settings ss').rows.of owner).map (Item.shift b c) =
      (m.rows.of owner).map (Item.shift a c) := by
    rw [hof, Item.map_shift_map_shift]
  rw [hcomposed, ← hm'] at hsecond hsecondRows
  have hof' : second.state.rows.of owner = (m.rows.of owner).map (Item.shift a c) := by
    rw [hsecondRows, Rows.of_replace, Function.update_self]
  have hback : c = a → (m.rows.of owner).map (Item.shift a c) = m.rows.of owner := by
    rintro rfl
    rw [Item.shift_self, List.map_id']
  refine ⟨⟨_, hfirst⟩, ⟨_, hsecond, honce⟩, ?_, fun hca => hof'.trans (hback hca), ?_, ?_⟩
  · rw [hof', honceRows, Rows.of_replace, Function.update_self]
  · intro other hne
    rw [hsecondRows, Rows.of_replace, Function.update_of_ne hne]
  · rintro rfl
    have hwhole : second.state.rows =
        m.rows.replace owner ((m.rows.of owner).map (Item.shift a c)) := by
      rw [hsecondRows]
      exact (congrArg (Rows.replace · owner _) hrows).trans (Rows.replace_replace _ _ _ _)
    refine ⟨hwhole.trans honceRows.symm, fun hca => ?_⟩
    have hsome : m.rows.of owner ≠ [] := by
      intro hnone
      rw [hnone] at ha
      exact absurd ha List.not_mem_nil
    rw [hwhole, hback hca, Rows.replace_of hsome]

/-- Three rows that came in out of sequence: the last of them goes to the front and from there
to the middle, while somebody else adds a row. -/
theorem moves_compose_three :
    let ss : List Step := [.arrive (.insert "ann" "c" 3 ⟨1⟩), .enter 0,
      .arrive (.insert "ann" "a" 1 ⟨2⟩), .enter 1, .arrive (.insert "ann" "b" 2 ⟨3⟩), .enter 2]
    let between : List Step := [.arrive (.insert "bob" "z" 7 ⟨4⟩), .enter 4]
    let m := reached { maxItems := 10 } ss
    let m' := ((steps between).run (makeMove ⟨.status, "ann", 3, 1⟩ m).state).state
    let second := makeMove ⟨.status, "ann", 1, 2⟩ m'
    let once := makeMove ⟨.priority, "ann", 3, 2⟩ m
    m.locks.IsFree "ann" ∧ Arranged (m.rows.of "ann") ∧
      (∀ task, Step.arrive task ∈ between → task.owner ≠ "ann") ∧
      second.state.rows.of "ann" = once.state.rows.of "ann" ∧
      once.state.rows.of "ann" =
        [⟨1, ⟨1⟩, "ann", "c", 2⟩, ⟨2, ⟨2⟩, "ann", "a", 1⟩, ⟨3, ⟨3⟩, "ann", "b", 3⟩] := by
  intro ss between m m' second once
  have hstate : m.locks.claims = [] ∧ m.rows.of "ann" =
      [⟨1, ⟨1⟩, "ann", "c", 3⟩, ⟨2, ⟨2⟩, "ann", "a", 1⟩, ⟨3, ⟨3⟩, "ann", "b", 2⟩] := by
    decide +kernel
  obtain ⟨hclaims, hrows⟩ := hstate
  have hfree : m.locks.IsFree "ann" := fun c hc => absurd (hclaims ▸ hc) List.not_mem_nil
  have harr : Arranged (m.rows.of "ann") := by
    rw [hrows]
    decide
  have hbetween : ∀ task, Step.arrive task ∈ between → task.owner ≠ "ann" := by
    intro task hmem
    simp only [between, List.mem_cons, Step.arrive.injEq, reduceCtorEq, List.not_mem_nil,
      or_false] at hmem
    subst hmem
    decide
  have ho : (3 : Int) ∈ positions (m.rows.of "ann").length := by
    rw [hrows]
    decide
  have ht : (2 : Int) ∈ positions (m.rows.of "ann").length := by
    rw [hrows]
    decide
  obtain ⟨-, -, hsame, -⟩ := moves_compose { maxItems := 10 } ss between .status .status .priority
    (b := 1) hfree harr ho (by rw [hrows]; decide) ht hbetween
  obtain ⟨-, honce⟩ := reached_makeMove ⟨.priority, "ann", 3, 2⟩ hfree harr ho ht
  refine ⟨hfree, harr, hbetween, hsame, ?_⟩
  calc once.state.rows.of "ann"
      = (m.rows.of "ann").map (Item.shift 3 2) := by
        rw [honce, Rows.of_replace, Function.update_self]
    _ = _ := by
        rw [hrows]
        decide

end Machine
end Turnstile
