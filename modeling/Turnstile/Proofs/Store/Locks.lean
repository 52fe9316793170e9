/-
# The table of locks

Pruning must drop only locks that nobody uses, and a lock must never be shared by two
owners.  `OwnerLocks.Consistent` says so of the table and of the claims: every claim is on
the lock that the table gives to its owner, and no two owners have the same lock.  Looking
up a lock, claiming it and giving a claim back all keep this.

Claims queue up in the order of their tickets, so that the holder of a lock is the one with
the least ticket among those who claim it.  This is why "holds" survives the arrival and the
departure of others.

Main statements: whoever claims the lock of an owner on which there are no claims holds it;
and `OwnerLocks.Lawful.holds_iff`.
-/
import Turnstile.Proofs.Register
import Turnstile.Store.OwnerLocks

namespace Turnstile

namespace OwnerLocks

/-- Claims are on the locks that the table gives to their owners, and no two owners have the
same lock. -/
structure Consistent (l : OwnerLocks) : Prop where
  owners : (l.table.entries.map Prod.fst).Nodup
  locks : (l.table.entries.map Prod.snd).Nodup
  old : ∀ e ∈ l.table.entries, e.2 < l.nextLock
  claims : ∀ c ∈ l.claims, (c.owner, c.lock) ∈ l.table.entries

/-- Nobody claims the lock of an owner. -/
def IsFree (l : OwnerLocks) (owner : String) : Prop := ∀ c ∈ l.claims, c.owner ≠ owner

instance (l : OwnerLocks) (owner : String) : Decidable (l.IsFree owner) :=
  inferInstanceAs (Decidable (∀ c ∈ l.claims, c.owner ≠ owner))

variable {l : OwnerLocks}

theorem consistent_empty : ({} : OwnerLocks).Consistent :=
  ⟨List.nodup_nil, List.nodup_nil, nofun, nofun⟩

/-- Pruning drops no lock that is claimed. -/
theorem Consistent.prune (h : l.Consistent) : l.prune.Consistent where
  owners := h.owners.sublist (List.filter_sublist.map _)
  locks := h.locks.sublist (List.filter_sublist.map _)
  old e he := h.old e (List.mem_of_mem_filter he)
  claims c hc := by
    refine List.mem_filter.2 ⟨h.claims c hc, ?_⟩
    rw [isClaimed, List.any_eq_true]
    exact ⟨c, hc, beq_self_eq_true _⟩

/-- Looking up the lock of an owner yields the one that the table has then, and ends no
claim. -/
theorem Consistent.lookUp (h : l.Consistent) (owner : String) :
    (l.lookUp owner).2.Consistent ∧ (l.lookUp owner).2.claims = l.claims ∧
      (owner, (l.lookUp owner).1) ∈ (l.lookUp owner).2.table.entries := by
  have hpruned := h.prune
  rw [OwnerLocks.lookUp]
  cases hfound : l.prune.table.get? owner with
  | some lock => exact ⟨hpruned, rfl, Register.mem_of_findIn_eq_some hfound⟩
  | none =>
    have hnew := Register.findIn_eq_none_iff.1 hfound
    have hentries : (l.prune.table.insert owner l.prune.nextLock).entries =
        l.prune.table.entries ++ [(owner, l.prune.nextLock)] :=
      Register.setIn_of_notMem _ hnew
    dsimp only
    refine ⟨⟨?_, ?_, ?_, ?_⟩, rfl, ?_⟩
    · rw [hentries, List.map_append, List.map_singleton, List.nodup_append_comm]
      exact List.nodup_cons.2 ⟨hnew, hpruned.owners⟩
    · rw [hentries, List.map_append, List.map_singleton, List.nodup_append_comm]
      refine List.nodup_cons.2 ⟨fun hmem => ?_, hpruned.locks⟩
      obtain ⟨e, he, hlock⟩ := List.mem_map.1 hmem
      exact absurd hlock (hpruned.old e he).ne
    · intro e he
      rw [hentries, List.mem_append, List.mem_singleton] at he
      rcases he with he | rfl
      · exact Nat.lt_succ_of_lt (hpruned.old e he)
      · exact Nat.lt_succ_self _
    · intro c hc
      rw [hentries]
      exact List.mem_append_left _ (hpruned.claims c hc)
    · rw [hentries]
      exact List.mem_append_right _ (List.mem_singleton_self _)

theorem claims_claim (ticket : Nat) (owner : String) :
    (l.claim ticket owner).claims =
      (l.lookUp owner).2.claims ++ [⟨ticket, owner, (l.lookUp owner).1⟩] := rfl

theorem Consistent.claim (h : l.Consistent) (ticket : Nat) (owner : String) :
    (l.claim ticket owner).Consistent := by
  obtain ⟨hlooked, -, hmem⟩ := h.lookUp owner
  refine ⟨hlooked.owners, hlooked.locks, hlooked.old, fun c hc => ?_⟩
  rw [claims_claim, List.mem_append, List.mem_singleton] at hc
  rcases hc with hc | rfl
  · exact hlooked.claims c hc
  · exact hmem

theorem Consistent.release (h : l.Consistent) (ticket : Nat) : (l.release ticket).Consistent :=
  ⟨h.owners, h.locks, h.old, fun c hc => h.claims c (List.mem_of_mem_filter hc)⟩

/-- Whoever claims a lock that nobody claims holds it. -/
theorem holds_claim (h : l.Consistent) {owner : String} (hfree : l.IsFree owner) {ticket : Nat}
    (hnew : ∀ c ∈ l.claims, c.ticket ≠ ticket) : (l.claim ticket owner).holds ticket = true := by
  obtain ⟨hlooked, hclaims, hmem⟩ := h.lookUp owner
  have hother : ∀ c ∈ l.claims, c.lock ≠ (l.lookUp owner).1 := by
    intro c hc hlock
    have hc' := hlooked.claims c (hclaims ▸ hc)
    -- otherwise two owners would have the same lock
    have heq : (c.owner, c.lock) = (owner, (l.lookUp owner).1) :=
      List.inj_on_of_nodup_map hlooked.locks hc' hmem hlock
    exact hfree c hc (congrArg Prod.fst heq)
  have hclaim : (l.claim ticket owner).claimOf? ticket =
      some ⟨ticket, owner, (l.lookUp owner).1⟩ := by
    rw [claimOf?, claims_claim, hclaims, List.find?_append, List.find?_eq_none.2, Option.none_or]
    · simp
    · intro c hc
      simpa using hnew c hc
  have hholder : (l.claim ticket owner).holder? (l.lookUp owner).1 = some ticket := by
    rw [holder?, claims_claim, hclaims, List.find?_append, List.find?_eq_none.2, Option.none_or]
    · simp
    · intro c hc
      simpa using hother c hc
  rw [holds, hclaim]
  dsimp only
  rw [hholder]
  exact beq_self_eq_true _

theorem isFree_empty (owner : String) : ({} : OwnerLocks).IsFree owner := List.forall_mem_nil _

/-- A claim that is made and ended again leaves a lock free. -/
theorem Consistent.isFree_release_claim (h : l.Consistent) {owner : String} (hfree : l.IsFree owner)
    (ticket : Nat) (owner' : String) : ((l.claim ticket owner').release ticket).IsFree owner := by
  intro c hc
  obtain ⟨hc, hticket⟩ := List.mem_filter.1 hc
  rw [claims_claim, (h.lookUp owner').2.1, List.mem_append, List.mem_singleton] at hc
  rcases hc with hc | rfl
  · exact hfree c hc
  · exact absurd rfl (bne_iff_ne.1 hticket)

theorem holds_claim_empty (ticket : Nat) (owner : String) :
    (({} : OwnerLocks).claim ticket owner).holds ticket = true :=
  holds_claim consistent_empty (isFree_empty owner) (List.forall_mem_nil _)

end OwnerLocks

/-! ## Lists searched for one element -/

/-- In a list in ascending order, the first with a property is the least with it. -/
theorem find?_eq_some_iff_least {α : Type} {f : α → Nat} {p : α → Bool} {l : List α}
    (h : l.Pairwise fun a b => f a < f b) {a : α} :
    l.find? p = some a ↔ a ∈ l ∧ p a = true ∧ ∀ b ∈ l, p b = true → f a ≤ f b := by
  induction l with
  | nil => simp
  | cons c l ih =>
    obtain ⟨hc, hl⟩ := List.pairwise_cons.1 h
    rw [List.find?_cons]
    cases hpc : p c with
    | true =>
      simp only [Option.some.injEq, List.mem_cons]
      constructor
      · rintro rfl
        exact ⟨.inl rfl, hpc, fun b hb _ => hb.elim (fun heq => heq ▸ le_refl _)
          fun hb => (hc b hb).le⟩
      · rintro ⟨rfl | ha, -, hleast⟩
        · rfl
        · exact absurd (hleast c (.inl rfl) hpc) (not_le.2 (hc a ha))
    | false =>
      have hne : ∀ b, p b = true → b ≠ c := by
        rintro b hb rfl
        rw [hpc] at hb
        cases hb
      refine (ih hl).trans ⟨fun ⟨ha, hpa, hleast⟩ => ⟨List.mem_cons_of_mem _ ha, hpa, ?_⟩,
        fun ⟨ha, hpa, hleast⟩ => ⟨List.mem_of_ne_of_mem (hne a hpa) ha, hpa, ?_⟩⟩
      · exact fun b hb hpb => hleast b (List.mem_of_ne_of_mem (hne b hpb) hb) hpb
      · exact fun b hb hpb => hleast b (List.mem_cons_of_mem _ hb) hpb

/-! ## Queues of claims -/

namespace OwnerLocks

/-- The locks are consistent, and claims queue up in the order of their tickets. -/
structure Lawful (l : OwnerLocks) : Prop extends l.Consistent where
  ascending : l.claims.Pairwise fun c d => c.ticket < d.ticket

variable {l : OwnerLocks}

theorem lawful_empty : ({} : OwnerLocks).Lawful := ⟨consistent_empty, List.Pairwise.nil⟩

theorem Lawful.claim (h : l.Lawful) {ticket : Nat} (hnew : ∀ c ∈ l.claims, c.ticket < ticket)
    (owner : String) : (l.claim ticket owner).Lawful := by
  refine ⟨h.toConsistent.claim ticket owner, ?_⟩
  rw [claims_claim, (h.lookUp owner).2.1, List.pairwise_append]
  refine ⟨h.ascending, List.pairwise_singleton _ _, fun c hc d hd => ?_⟩
  obtain rfl := List.mem_singleton.1 hd
  exact hnew c hc

theorem Lawful.release (h : l.Lawful) (ticket : Nat) : (l.release ticket).Lawful :=
  ⟨h.toConsistent.release ticket, h.ascending.filter _⟩

/-- A ticket has one claim at most. -/
theorem Lawful.claimOf?_eq_some_iff (h : l.Lawful) {ticket : Nat} {c : Claim} :
    l.claimOf? ticket = some c ↔ c ∈ l.claims ∧ c.ticket = ticket := by
  rw [claimOf?, find?_eq_some_iff_least h.ascending]
  simp only [beq_iff_eq]
  exact ⟨fun ⟨hc, ht, _⟩ => ⟨hc, ht⟩, fun ⟨hc, ht⟩ => ⟨hc, ht, fun d _ hd => (ht.trans hd.symm).le⟩⟩

/-- Claims are on one lock if they are on the lock of one owner. -/
theorem Consistent.lock_eq_iff (h : l.Consistent) {c d : Claim} (hc : c ∈ l.claims)
    (hd : d ∈ l.claims) : c.lock = d.lock ↔ c.owner = d.owner := by
  constructor
  · intro hlock
    exact congrArg Prod.fst
      (List.inj_on_of_nodup_map h.locks (h.claims c hc) (h.claims d hd) hlock)
  · intro howner
    exact congrArg Prod.snd
      (List.inj_on_of_nodup_map h.owners (h.claims c hc) (h.claims d hd) howner)

/-- The holder of an owner's lock is the first of those who claim it. -/
theorem Lawful.holds_iff (h : l.Lawful) {ticket : Nat} :
    l.holds ticket = true ↔
      ∃ c ∈ l.claims, c.ticket = ticket ∧
        ∀ d ∈ l.claims, d.owner = c.owner → ticket ≤ d.ticket := by
  have hholder : ∀ c ∈ l.claims, c.ticket = ticket → ((l.holder? c.lock == some ticket) = true ↔
      ∀ d ∈ l.claims, d.owner = c.owner → ticket ≤ d.ticket) := by
    rintro c hc rfl
    rw [beq_iff_eq, holder?, Option.map_eq_some_iff]
    constructor
    · rintro ⟨e, he, hticket⟩ d hd howner
      obtain ⟨-, -, hleast⟩ := (find?_eq_some_iff_least h.ascending).1 he
      rw [← hticket]
      exact hleast d hd (beq_iff_eq.2 ((h.lock_eq_iff hd hc).2 howner))
    · intro hleast
      refine ⟨c, (find?_eq_some_iff_least h.ascending).2 ⟨hc, beq_self_eq_true _, ?_⟩, rfl⟩
      intro d hd hlock
      exact hleast d hd ((h.lock_eq_iff hd hc).1 (beq_iff_eq.1 hlock))
  rw [holds]
  cases hclaim : l.claimOf? ticket with
  | none =>
    refine ⟨nofun, fun ⟨c, hc, ht, _⟩ => ?_⟩
    rw [h.claimOf?_eq_some_iff.2 ⟨hc, ht⟩] at hclaim
    cases hclaim
  | some c =>
    obtain ⟨hc, ht⟩ := h.claimOf?_eq_some_iff.1 hclaim
    refine (hholder c hc ht).trans ⟨fun hleast => ⟨c, hc, ht, hleast⟩, ?_⟩
    rintro ⟨d, hd, hticket, hleast⟩
    obtain rfl : c = d := by
      have hsome := h.claimOf?_eq_some_iff.2 ⟨hd, hticket⟩
      exact Option.some.inj (hclaim.symm.trans hsome)
    exact hleast

/-- Two tickets cannot both hold the lock of an owner. -/
theorem Lawful.holder_unique (h : l.Lawful) {c d : Claim} (hc : c ∈ l.claims) (hd : d ∈ l.claims)
    (howner : c.owner = d.owner) (hholds : l.holds c.ticket = true)
    (hholds' : l.holds d.ticket = true) : c.ticket = d.ticket := by
  have hleast : ∀ {a b : Claim}, a ∈ l.claims → b ∈ l.claims → b.owner = a.owner →
      l.holds a.ticket = true → a.ticket ≤ b.ticket := by
    intro a b ha hb hab hholds
    obtain ⟨e, he, hticket, hleast⟩ := h.holds_iff.1 hholds
    obtain rfl : e = a := Option.some.inj ((h.claimOf?_eq_some_iff.2 ⟨he, hticket⟩).symm.trans
      (h.claimOf?_eq_some_iff.2 ⟨ha, rfl⟩))
    exact hleast b hb hab
  exact le_antisymm (hleast hc hd howner.symm hholds) (hleast hd hc howner hholds')

/-- A lock that is claimed is held. -/
theorem Lawful.exists_holder (h : l.Lawful) {c : Claim} (hc : c ∈ l.claims) :
    ∃ d ∈ l.claims, d.owner = c.owner ∧ l.holds d.ticket = true := by
  cases hfind : l.claims.find? fun d => d.owner == c.owner with
  | none =>
    have hnone := List.find?_eq_none.1 hfind c hc
    rw [beq_self_eq_true] at hnone
    exact absurd rfl hnone
  | some d =>
    obtain ⟨hd, howner, hleast⟩ := (find?_eq_some_iff_least h.ascending).1 hfind
    have howner := beq_iff_eq.1 howner
    refine ⟨d, hd, howner, h.holds_iff.2 ⟨d, hd, rfl, fun e he heq => ?_⟩⟩
    exact hleast e he (beq_iff_eq.2 (heq.trans howner))

/-- Whoever holds a lock keeps it when somebody else claims one. -/
theorem Lawful.holds_claim (h : l.Lawful) {ticket : Nat}
    (hnew : ∀ c ∈ l.claims, c.ticket < ticket) (owner : String) {ticket' : Nat}
    (hholds : l.holds ticket' = true) : (l.claim ticket owner).holds ticket' = true := by
  obtain ⟨c, hc, hticket, hleast⟩ := h.holds_iff.1 hholds
  have hclaims := claims_claim (l := l) ticket owner
  rw [(h.lookUp owner).2.1] at hclaims
  refine (h.claim hnew owner).holds_iff.2 ⟨c, ?_, hticket, fun d hd howner => ?_⟩
  · rw [hclaims]
    exact List.mem_append_left _ hc
  · rw [hclaims, List.mem_append, List.mem_singleton] at hd
    rcases hd with hd | rfl
    · exact hleast d hd howner
    · exact hticket ▸ (hnew c hc).le

/-- Whoever holds a lock keeps it when somebody else gives a claim back. -/
theorem Lawful.holds_release (h : l.Lawful) {ticket ticket' : Nat} (hne : ticket' ≠ ticket)
    (hholds : l.holds ticket' = true) : (l.release ticket).holds ticket' = true := by
  obtain ⟨c, hc, hticket, hleast⟩ := h.holds_iff.1 hholds
  refine (h.release ticket).holds_iff.2 ⟨c, List.mem_filter.2 ⟨hc, ?_⟩, hticket, fun d hd => ?_⟩
  · rw [hticket]
    exact bne_iff_ne.2 hne
  · exact hleast d (List.mem_of_mem_filter hd)

/-- The owners that have a lock. -/
def owners (l : OwnerLocks) : List String := l.table.entries.map Prod.fst

/-- After a lock has been looked up, the table has that lock and those that are claimed. -/
theorem Consistent.mem_owners_lookUp (h : l.Consistent) {owner owner' : String} :
    owner' ∈ (l.lookUp owner).2.owners ↔ owner' = owner ∨ ∃ c ∈ l.claims, c.owner = owner' := by
  have hpruned : owner' ∈ l.prune.owners ↔ ∃ c ∈ l.claims, c.owner = owner' := by
    constructor
    · intro hmem
      obtain ⟨e, he, rfl⟩ := List.mem_map.1 hmem
      obtain ⟨he, hclaimed⟩ := List.mem_filter.1 he
      obtain ⟨c, hc, hlock⟩ := List.any_eq_true.1 hclaimed
      refine ⟨c, hc, congrArg Prod.fst
        (List.inj_on_of_nodup_map h.locks (h.claims c hc) he (beq_iff_eq.1 hlock))⟩
    · rintro ⟨c, hc, rfl⟩
      exact List.mem_map_of_mem (f := Prod.fst) (h.prune.claims c hc)
  obtain ⟨-, -, hmem⟩ := h.lookUp owner
  have hself : owner ∈ (l.lookUp owner).2.owners := List.mem_map_of_mem (f := Prod.fst) hmem
  rw [OwnerLocks.lookUp] at hself ⊢
  cases hfound : l.prune.table.get? owner with
  | some lock =>
    rw [hfound] at hself
    refine hpruned.trans ⟨.inr, ?_⟩
    rintro (rfl | hclaimed)
    · exact hpruned.1 hself
    · exact hclaimed
  | none =>
    have hentries : (l.prune.table.insert owner l.prune.nextLock).entries =
        l.prune.table.entries ++ [(owner, l.prune.nextLock)] :=
      Register.setIn_of_notMem _ (Register.findIn_eq_none_iff.1 hfound)
    change owner' ∈ (l.prune.table.insert owner l.prune.nextLock).entries.map Prod.fst ↔ _
    rw [hentries, List.map_append, List.map_singleton, List.mem_append, List.mem_singleton, or_comm]
    exact or_congr_right hpruned

/-- The table has one entry for an owner whose lock is claimed, and it is the lock that is
claimed. -/
theorem Consistent.filter_table (h : l.Consistent) {c : Claim} (hc : c ∈ l.claims) :
    l.table.entries.filter (fun e => e.1 == c.owner) = [(c.owner, c.lock)] := by
  have hmem := h.claims c hc
  refine filter_eq_singleton (List.Nodup.of_map _ h.owners) hmem (beq_self_eq_true _) ?_
  exact fun e he howner => List.inj_on_of_nodup_map h.owners he hmem (beq_iff_eq.1 howner)

end OwnerLocks

end Turnstile
