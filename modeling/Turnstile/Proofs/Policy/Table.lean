/-
# Which lists of policies make a table

A list of policies makes a table exactly if every method and path has a letter left after
trimming, every window has a limit and a length, and no two policies have the same method and
path.  Otherwise the report names the first policy that breaks one of these rules given the
ones before it, and the first of the rules that it breaks.

In a table, a method and a path find the policy that has just these, the policies can be kept
under their method and path without one replacing another, and they are displayed in the
strict order of their paths and methods, byte by byte.
-/
import Turnstile.Limiter
import Turnstile.Proofs.Text.ByteOrder

namespace Turnstile

namespace Text

theorem isBlankText_iff {s : String} : isBlankText s = true ↔ trim s = "" := by
  rw [trim, String.ofList_eq_empty_iff, trimList_eq_nil_iff, isBlankText]

end Text

namespace Policy

variable {p : Policy} {ps earlier : List Policy} {f : PolicyFault}

/-! ## The rules -/

/-- The method and path of a policy. -/
def names (p : Policy) : String × String := (p.method, p.path)

/-- A policy whose method and path are not blank. -/
def IsNamed (p : Policy) : Prop := Text.trim p.method ≠ "" ∧ Text.trim p.path ≠ ""

/-- A policy all of whose windows can accept a request. -/
def IsOpen (p : Policy) : Prop := ∀ w ∈ p.windows, w.limit ≠ 0 ∧ w.seconds ≠ 0

/-- A list of policies that keeps all rules. -/
structure IsTable (ps : List Policy) : Prop where
  named : ∀ p ∈ ps, p.IsNamed
  isOpen : ∀ p ∈ ps, p.IsOpen
  distinct : (ps.map names).Nodup

/-- How a policy breaks a rule, given the ones before it; it is reported for the first rule
that it breaks. -/
inductive Breaks (earlier : List Policy) (p : Policy) : PolicyFault → Prop where
  | blankName : ¬p.IsNamed → Breaks earlier p .blankName
  | voidWindow : p.IsNamed → ¬p.IsOpen → Breaks earlier p (.voidWindow p.key)
  | duplicate : p.IsNamed → p.IsOpen → p.names ∈ earlier.map names →
      Breaks earlier p (.duplicate p.key)

theorem covers_iff {method route : String} :
    p.covers method route = true ↔ p.names = (method, route) := by
  simp [covers, names]

theorem isNamed_iff :
    p.IsNamed ↔ (Text.isBlankText p.method || Text.isBlankText p.path) = false := by
  rw [IsNamed, Bool.or_eq_false_iff, ← Bool.not_eq_true, ← Bool.not_eq_true,
    Text.isBlankText_iff, Text.isBlankText_iff]

theorem isOpen_iff : p.IsOpen ↔ p.windows.any Window.isVoid = false := by
  simp [IsOpen, Window.isVoid]

theorem names_mem_iff :
    p.names ∈ earlier.map names ↔ (earlier.any fun q => q.covers p.method p.path) = true := by
  simp only [List.mem_map, List.any_eq_true, covers_iff]
  exact Iff.rfl

theorem fault?_eq_some_iff : p.fault? earlier = some f ↔ p.Breaks earlier f := by
  rw [fault?]
  constructor
  · intro h
    split at h
    · next hblank =>
      cases h
      exact .blankName fun hnamed => Bool.false_ne_true ((isNamed_iff.1 hnamed).symm.trans hblank)
    · next hblank =>
      have hnamed := isNamed_iff.2 (Bool.eq_false_iff.2 hblank)
      split at h
      · next hvoid =>
        cases h
        exact .voidWindow hnamed fun hopen =>
          Bool.false_ne_true ((isOpen_iff.1 hopen).symm.trans hvoid)
      · next hvoid =>
        have hopen := isOpen_iff.2 (Bool.eq_false_iff.2 hvoid)
        split at h
        · next htaken =>
          cases h
          exact .duplicate hnamed hopen (names_mem_iff.2 htaken)
        · cases h
  · rintro (hblank | ⟨hnamed, hvoid⟩ | ⟨hnamed, hopen, htaken⟩)
    · rw [isNamed_iff, Bool.not_eq_false] at hblank
      rw [if_pos hblank]
    · rw [isOpen_iff, Bool.not_eq_false] at hvoid
      rw [isNamed_iff.1 hnamed, hvoid]
      rfl
    · rw [isNamed_iff.1 hnamed, isOpen_iff.1 hopen, names_mem_iff.1 htaken]
      rfl

theorem fault?_eq_none_iff :
    p.fault? earlier = none ↔ p.IsNamed ∧ p.IsOpen ∧ p.names ∉ earlier.map names := by
  rw [isNamed_iff, isOpen_iff, names_mem_iff, fault?, Bool.not_eq_true]
  cases Text.isBlankText p.method || Text.isBlankText p.path <;>
    cases p.windows.any Window.isVoid <;>
    cases earlier.any (fun q => q.covers p.method p.path) <;> simp

/-! ## The first fault of a list -/

/-- No policy of a table has a fault, given the ones before it. -/
theorem IsTable.fault?_eq_none (h : IsTable (earlier ++ p :: ps)) : p.fault? earlier = none := by
  refine fault?_eq_none_iff.2 ⟨h.named p (by simp), h.isOpen p (by simp), fun hmem => ?_⟩
  have hdistinct := h.distinct
  rw [List.map_append, List.nodup_append] at hdistinct
  exact hdistinct.2.2 _ hmem _ List.mem_cons_self rfl

/-- A table takes one more policy if that has no fault. -/
theorem IsTable.concat (h : IsTable earlier) (hp : p.fault? earlier = none) :
    IsTable (earlier ++ [p]) := by
  obtain ⟨hnamed, hopen, hnew⟩ := fault?_eq_none_iff.1 hp
  refine ⟨?_, ?_, ?_⟩
  · simpa only [List.forall_mem_append, List.forall_mem_singleton] using ⟨h.named, hnamed⟩
  · simpa only [List.forall_mem_append, List.forall_mem_singleton] using ⟨h.isOpen, hopen⟩
  · rw [List.map_append, List.map_singleton, ← List.concat_eq_append]
    exact h.distinct.concat hnew

/-- A list that goes on from a table has no fault if it makes a table with it. -/
theorem firstFault?_eq_none_iff (hearlier : IsTable earlier) :
    firstFault? earlier ps = none ↔ IsTable (earlier ++ ps) := by
  induction ps generalizing earlier with
  | nil => simpa [firstFault?] using hearlier
  | cons p ps ih =>
    cases hfault : p.fault? earlier with
    | some f =>
      simp only [firstFault?, hfault]
      exact ⟨nofun, fun h => absurd (hfault.symm.trans h.fault?_eq_none) nofun⟩
    | none =>
      simp only [firstFault?, hfault]
      rw [ih (hearlier.concat hfault), ← List.append_cons]

/-- The first fault of a list is that of the policy behind its longest part that makes a
table. -/
theorem firstFault?_eq_some_iff (hearlier : IsTable earlier) :
    firstFault? earlier ps = some f ↔ ∃ before p after, ps = before ++ p :: after ∧
      IsTable (earlier ++ before) ∧ p.Breaks (earlier ++ before) f := by
  induction ps generalizing earlier with
  | nil => simp [firstFault?]
  | cons q ps ih =>
    cases hfault : q.fault? earlier with
    | some g =>
      simp only [firstFault?, hfault, Option.some.injEq]
      constructor
      · rintro rfl
        refine ⟨[], q, ps, rfl, ?_, ?_⟩ <;> rw [List.append_nil]
        · exact hearlier
        · exact fault?_eq_some_iff.1 hfault
      · rintro ⟨before, p, after, hps, htable, hbreaks⟩
        rcases List.cons_eq_append_iff.1 hps with ⟨rfl, hp⟩ | ⟨before', rfl, -⟩
        · obtain ⟨rfl, -⟩ := List.cons.inj hp
          rw [List.append_nil] at hbreaks
          exact Option.some.inj (hfault.symm.trans (fault?_eq_some_iff.2 hbreaks))
        · exact absurd (hfault.symm.trans htable.fault?_eq_none) nofun
    | none =>
      simp only [firstFault?, hfault]
      rw [ih (hearlier.concat hfault)]
      constructor
      · rintro ⟨before, p, after, rfl, htable, hbreaks⟩
        rw [← List.append_cons] at htable hbreaks
        exact ⟨q :: before, p, after, rfl, htable, hbreaks⟩
      · rintro ⟨before, p, after, hps, htable, hbreaks⟩
        rcases List.cons_eq_append_iff.1 hps with ⟨rfl, hp⟩ | ⟨before', rfl, hrest⟩
        · obtain ⟨rfl, -⟩ := List.cons.inj hp
          rw [List.append_nil] at hbreaks
          exact absurd (hfault.symm.trans (fault?_eq_some_iff.2 hbreaks)) nofun
        · rw [List.append_cons] at htable hbreaks
          exact ⟨before', p, after, hrest, htable, hbreaks⟩

theorem isTable_nil : IsTable [] := ⟨nofun, nofun, List.nodup_nil⟩

/-! ## The order of display -/

/-- A policy is displayed before another one: by the bytes of its path, then of its method. -/
def DisplaysBefore (p q : Policy) : Prop :=
  Text.utf8 p.path < Text.utf8 q.path ∨
    p.path = q.path ∧ Text.utf8 p.method < Text.utf8 q.method

theorem displayLE_iff {p q : Policy} :
    displayLE p q = true ↔ p.path < q.path ∨ p.path = q.path ∧ p.method ≤ q.method := by
  rw [displayLE, Bool.or_eq_true, Bool.and_eq_true, decide_eq_true_iff, decide_eq_true_iff,
    beq_iff_eq]

theorem displayLE_trans {p q r : Policy} (hpq : displayLE p q = true)
    (hqr : displayLE q r = true) : displayLE p r = true := by
  rw [displayLE_iff] at *
  rcases hpq with hpq | ⟨hpq, hpq'⟩ <;> rcases hqr with hqr | ⟨hqr, hqr'⟩
  · exact .inl (hpq.trans hqr)
  · exact .inl (hqr ▸ hpq)
  · exact .inl (hpq ▸ hqr)
  · exact .inr ⟨hpq.trans hqr, hpq'.trans hqr'⟩

theorem displayLE_total (p q : Policy) : (displayLE p q || displayLE q p) = true := by
  rw [Bool.or_eq_true, displayLE_iff, displayLE_iff]
  rcases lt_trichotomy p.path q.path with hlt | heq | hgt
  · exact .inl (.inl hlt)
  · rcases le_total p.method q.method with hle | hge
    · exact .inl (.inr ⟨heq, hle⟩)
    · exact .inr (.inr ⟨heq.symm, hge⟩)
  · exact .inr (.inl hgt)

/-- Policies in the order of display are in strict order if their names differ. -/
theorem displaysBefore_of_displayLE {p q : Policy} (hle : displayLE p q = true)
    (hne : p.names ≠ q.names) : p.DisplaysBefore q := by
  rw [DisplaysBefore, Text.utf8_lt_utf8_iff, Text.utf8_lt_utf8_iff]
  refine (displayLE_iff.1 hle).imp_right fun ⟨hpath, hmethod⟩ => ⟨hpath, ?_⟩
  refine lt_of_le_of_ne hmethod fun heq => hne ?_
  rw [names, names, hpath, heq]

end Policy

namespace PolicyTable

variable {t : PolicyTable}

theorem isTable (t : PolicyTable) : Policy.IsTable t.policies := by
  simpa using (Policy.firstFault?_eq_none_iff Policy.isTable_nil).1 t.faultless

/-- What is found is in the table and has the method and route. -/
theorem mem_of_find? {method route : String} {p : Policy} (h : t.find? method route = some p) :
    p ∈ t.policies ∧ p.names = (method, route) := by
  rw [find?] at h
  have hcovers := List.find?_some h
  exact ⟨List.mem_of_find?_eq_some h, Policy.covers_iff.1 hcovers⟩

theorem find?_eq_some_iff {method route : String} {p : Policy} :
    t.find? method route = some p ↔ p ∈ t.policies ∧ p.names = (method, route) := by
  refine ⟨mem_of_find?, ?_⟩
  rintro ⟨hp, hnames⟩
  cases hfind : t.find? method route with
  | none =>
    have hnot := List.find?_eq_none.1 hfind p hp
    exact absurd (Policy.covers_iff.2 hnames) hnot
  | some q =>
    obtain ⟨hq, hqnames⟩ := mem_of_find? hfind
    rw [List.inj_on_of_nodup_map t.isTable.distinct hq hp (hqnames.trans hnames.symm)]

/-- The policies of a table under their methods and paths, later ones winning. -/
def index (t : PolicyTable) : Register (String × String) Policy :=
  .ofList (t.policies.map fun p => (p.names, p))

/-- No policy replaces another one. -/
theorem entries_index (t : PolicyTable) :
    t.index.entries = t.policies.map fun p => (p.names, p) := by
  refine Register.entries_ofList ?_
  rw [List.map_map]
  exact t.isTable.distinct

theorem get?_index (t : PolicyTable) (method route : String) :
    t.index.get? (method, route) = t.find? method route := by
  rw [Register.get?, entries_index, find?]
  induction t.policies with
  | nil => rfl
  | cons p ps ih =>
    rw [List.map_cons, Register.findIn, List.find?_cons, ih]
    by_cases hp : p.names = (method, route)
    · rw [if_pos hp, Policy.covers_iff.2 hp]
    · rw [if_neg hp, Bool.eq_false_iff.2 (Policy.covers_iff.not.2 hp)]

theorem sorted_perm (t : PolicyTable) : t.sorted.Perm t.policies := List.mergeSort_perm _ _

theorem sorted_pairwise (t : PolicyTable) : t.sorted.Pairwise Policy.DisplaysBefore := by
  have hle : t.sorted.Pairwise fun p q => Policy.displayLE p q = true := by
    apply List.pairwise_mergeSort
    · intro p q r hpq hqr
      exact Policy.displayLE_trans hpq hqr
    · intro p q
      exact Policy.displayLE_total p q
  have hdistinct : (t.sorted.map Policy.names).Nodup :=
    (t.sorted_perm.map Policy.names).nodup_iff.2 t.isTable.distinct
  have hne : t.sorted.Pairwise fun p q => p.names ≠ q.names := List.pairwise_map.1 hdistinct
  exact (hle.and hne).imp fun h => Policy.displaysBefore_of_displayLE h.1 h.2

/-- **Policy tables are exact.**  A list of policies makes a table if and only if it keeps
all rules; otherwise it is reported for the first policy that breaks one given those before
it, which make a table, and as a fault of the configuration.  A configuration is found faulty
for the same reason.  A table has the length of the list; a method and a route find the
policy of the list that has just these, and nothing if there is none; a register of the
policies by method and path loses none of them and finds the same; and the display has them
all, in strict order. -/
theorem ofList_exact (ps : List Policy) :
    ((∃ t, ofList ps = .ok t) ↔ Policy.IsTable ps) ∧
      (∀ f, ofList ps = .error f ↔ ∃ before p after, ps = before ++ p :: after ∧
        Policy.IsTable before ∧ p.Breaks before f) ∧
      (∀ f, ofList ps = .error f → f.toError = .config f.message) ∧
      (∀ trust f, LimiterConfig.fault? ⟨trust, ps⟩ = some f ↔ ofList ps = .error f) ∧
      ∀ t, ofList ps = .ok t →
        t.size = ps.length ∧
        (∀ method route p, t.find? method route = some p ↔
          p ∈ ps ∧ p.method = method ∧ p.path = route) ∧
        (t.index.size = ps.length ∧
          ∀ method route, t.index.get? (method, route) = t.find? method route) ∧
        t.sorted.Perm ps ∧ t.sorted.Pairwise Policy.DisplaysBefore := by
  refine ⟨?_, fun f => ?_, fun _ _ => rfl, fun trust f => ofList_eq_error_iff.symm,
    fun t ht => ?_⟩
  · constructor
    · rintro ⟨t, ht⟩
      rw [← (ofList_eq_ok_iff.1 ht).2]
      exact t.isTable
    · intro h
      have hnone := (Policy.firstFault?_eq_none_iff Policy.isTable_nil).2 h
      exact ⟨⟨ps, hnone⟩, ofList_eq_ok_iff.2 ⟨hnone, rfl⟩⟩
  · rw [ofList_eq_error_iff, Policy.firstFault?_eq_some_iff Policy.isTable_nil]
    rfl
  · obtain rfl : t.policies = ps := (ofList_eq_ok_iff.1 ht).2
    refine ⟨rfl, fun method route p => ?_, ⟨?_, t.get?_index⟩, t.sorted_perm, t.sorted_pairwise⟩
    · rw [find?_eq_some_iff, Policy.names, Prod.mk.injEq]
    · rw [Register.size, entries_index, List.length_map]

end PolicyTable
end Turnstile
