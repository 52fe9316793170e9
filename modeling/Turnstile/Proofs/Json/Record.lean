/-
# Written records read back

A record is written as an object with all its fields, in the sequence of their declaration.
Reading goes through the members in that sequence too, and each member fills the field that
it was written for: at every key the fields before it are the ones seen so far, and as no two
fields have one name, the key is neither one of those nor the name of a later field.
-/
import Turnstile.Json.Record
import Turnstile.Proofs.Json.Value

namespace Turnstile.Json

variable {ρ α : Type} {r r' : ρ} {value rest : List Char}

/-! ## Filling fields -/

/-- A field turns one record into another with what a text says. -/
def Field.FillsFrom (f : Field ρ) (value : List Char) (r r' : ρ) : Prop :=
  ∀ rest, IsEnded rest → f.fill r (value ++ rest) = .ok (r', rest)

/-- Fields turn one record into another with members that have their names. -/
inductive Fills : List (Field ρ) → List (String × List Char) → ρ → ρ → Prop
  | nil (r : ρ) : Fills [] [] r r
  | cons {f : Field ρ} {fs : List (Field ρ)} {value : List Char}
      {members : List (String × List Char)} {r r' r'' : ρ} (first : f.FillsFrom value r r')
      (others : Fills fs members r' r'') : Fills (f :: fs) ((f.name, value) :: members) r r''

/-- A field that is read with a reader is filled from what is read as its value. -/
theorem IsReadAs.fillsFrom {read : Reader α} {a : α} (h : IsReadAs read value a) {name : String}
    {set : ρ → α → ρ} {r : ρ} : (field name read set).FillsFrom value r (set r a) := by
  intro rest hrest
  simp only [field, h.eq rest hrest, bind, Except.bind]
  rfl

/-- A field that may be left out is filled like any other one when it is there. -/
theorem Field.FillsFrom.orBlank {f : Field ρ} (h : f.FillsFrom value r r') :
    f.orBlank.FillsFrom value r r' := h

/-! ## Keys -/

theorem nextKey_first (cs : List Char) : nextKey true ('"' :: cs) = .ok (some cs) := rfl

theorem nextKey_comma (cs : List Char) : nextKey false (',' :: '"' :: cs) = .ok (some cs) := rfl

theorem nextKey_brace (first : Bool) (cs : List Char) :
    nextKey first ('\x7d' :: cs) = .ok none := rfl

/-- A written member is its key behind a quote, and after a colon its value. -/
theorem printMember_append (name : String) (value rest : List Char) :
    printMember name value ++ rest =
      '"' :: (name.toList.flatMap escaped ++ '"' :: ':' :: (value ++ rest)) := by
  simp [printMember, printString]

/-- The written members of an object. -/
def printMembers (members : List (String × List Char)) : List (List Char) :=
  members.map fun m => printMember m.1 m.2

/-! ## Going through the members -/

variable {s : Schema ρ} {before fs : List (Field ρ)} {f : Field ρ}
  {members : List (String × List Char)}

/-- The names of the fields that were read, the last one first. -/
def seenNames (before : List (Field ρ)) : List String := (before.map Field.name).reverse

theorem seenNames_concat (before : List (Field ρ)) (f : Field ρ) :
    seenNames (before ++ [f]) = f.name :: seenNames before := by
  simp [seenNames]

/-- No field before another one has its name. -/
theorem Schema.name_ne_of_mem (hfields : s.fields = before ++ f :: fs)
    (hnodup : (s.fields.map Field.name).Nodup) {g : Field ρ} (hg : g ∈ before) :
    g.name ≠ f.name := by
  rw [hfields, List.map_append, List.map_cons, List.nodup_append] at hnodup
  obtain ⟨-, -, hapart⟩ := hnodup
  exact hapart _ (List.mem_map_of_mem hg) _ List.mem_cons_self

theorem Schema.find?_name (hfields : s.fields = before ++ f :: fs)
    (hnodup : (s.fields.map Field.name).Nodup) :
    (s.fields.find? fun g => g.name == f.name) = some f := by
  have hbefore : (before.find? fun g => g.name == f.name) = none := by
    rw [List.find?_eq_none]
    intro g hg hname
    exact s.name_ne_of_mem hfields hnodup hg (beq_iff_eq.1 hname)
  rw [hfields, List.find?_append, hbefore]
  simp

theorem Schema.name_notMem_seenNames (hfields : s.fields = before ++ f :: fs)
    (hnodup : (s.fields.map Field.name).Nodup) : f.name ∉ seenNames before := by
  rw [seenNames, List.mem_reverse, List.mem_map]
  rintro ⟨g, hg, hname⟩
  exact s.name_ne_of_mem hfields hnodup hg hname

/-- After all fields were read none is missing. -/
theorem Schema.missing?_seenNames : s.missing? (seenNames s.fields) = none := by
  rw [Schema.missing?, Option.map_eq_none_iff, List.find?_eq_none]
  intro f hf
  have hmem : f.name ∈ seenNames s.fields := by
    rw [seenNames, List.mem_reverse]
    exact List.mem_map_of_mem hf
  simp [hmem]

/-- The value of a key fills the field with that name. -/
theorem Schema.readMember_eq (hfields : s.fields = before ++ f :: fs)
    (hnodup : (s.fields.map Field.name).Nodup) (hfill : f.FillsFrom value r r')
    (hrest : IsEnded rest) :
    s.readMember f.name (seenNames before) r (':' :: (value ++ rest)) =
      .ok (r', seenNames (before ++ [f]), rest) := by
  have hunseen := s.name_notMem_seenNames hfields hnodup
  have hcolon : readColon (':' :: (value ++ rest)) = .ok (value ++ rest) := rfl
  simp only [readMember, s.find?_name hfields hnodup, List.contains_eq_mem, hunseen, hcolon,
    hfill rest hrest, seenNames_concat, bind, Except.bind]
  rfl

/-- One round: a member is read into the field that it was written for. -/
theorem Schema.membersFor_member (hfields : s.fields = before ++ f :: fs)
    (hnodup : (s.fields.map Field.name).Nodup) (hfill : f.FillsFrom value r r')
    (hrest : IsEnded rest) {first : Bool} {cs : List Char}
    (hkey : nextKey first cs =
      .ok (some (f.name.toList.flatMap escaped ++ '"' :: ':' :: (value ++ rest)))) (n : Nat) :
    s.membersFor first (seenNames before) r cs (n + 1) =
      s.membersFor false (seenNames (before ++ [f])) r' rest n := by
  have hmember := Schema.readMember_eq hfields hnodup hfill hrest
  simp only [membersFor, hkey, readString_escaped, hmember, bind, Except.bind]

/-- The round that ends it: no field is missing at the closing brace. -/
theorem Schema.membersFor_brace (first : Bool) (r : ρ) (rest : List Char) (n : Nat) :
    s.membersFor first (seenNames s.fields) r ('\x7d' :: rest) (n + 1) = .ok (r, rest) := by
  simp only [membersFor, nextKey_brace, Schema.missing?_seenNames, bind, Except.bind]
  rfl

/-- All rounds after the first one, by induction over the fields that are left. -/
theorem Schema.membersFor_commaed (hfills : Fills fs members r r')
    (hfields : s.fields = before ++ fs) (hnodup : (s.fields.map Field.name).Nodup)
    (rest : List Char) {n : Nat} (hn : members.length < n) :
    s.membersFor false (seenNames before) r (commaed (printMembers members) ++ '\x7d' :: rest) n =
      .ok (r', rest) := by
  obtain ⟨m, rfl⟩ := Nat.exists_eq_add_of_lt hn
  induction hfills generalizing before m with
  | nil r =>
    rw [List.append_nil] at hfields
    rw [← hfields]
    exact s.membersFor_brace false r rest _
  | @cons f fs value members r r' r'' first _ ih =>
    have hended := isEnded_commaed (printMembers members) _ (isEnded_brace rest)
    have htext : commaed (printMembers ((f.name, value) :: members)) ++ '\x7d' :: rest =
        ',' :: (printMember f.name value ++
          (commaed (printMembers members) ++ '\x7d' :: rest)) := by
      simp [commaed, printMembers]
    rw [htext, printMember_append, List.length_cons, Nat.add_right_comm members.length 1 m,
      s.membersFor_member hfields hnodup first hended (nextKey_comma _)]
    exact ih (by rw [hfields, List.append_assoc]; rfl) m (by omega)

theorem Schema.membersFor_joined (hfills : Fills s.fields members s.blank r)
    (hnodup : (s.fields.map Field.name).Nodup) (rest : List Char) {n : Nat}
    (hn : members.length < n) :
    s.membersFor true (seenNames ([] : List (Field ρ))) s.blank
      (joined (printMembers members) ++ '\x7d' :: rest) n = .ok (r, rest) := by
  obtain ⟨m, rfl⟩ := Nat.exists_eq_add_of_lt hn
  generalize hfields : s.fields = fs at hfills
  generalize s.blank = b at hfills ⊢
  cases hfills with
  | nil =>
    have hbrace := s.membersFor_brace true r rest (0 + m)
    rwa [hfields] at hbrace
  | @cons f fs value members _ r' _ first others =>
    have hended := isEnded_commaed (printMembers members) _ (isEnded_brace rest)
    have htext : joined (printMembers ((f.name, value) :: members)) ++ '\x7d' :: rest =
        printMember f.name value ++ (commaed (printMembers members) ++ '\x7d' :: rest) := by
      simp [joined_cons, printMembers]
    rw [htext, printMember_append,
      s.membersFor_member hfields hnodup first hended (nextKey_first _)]
    exact s.membersFor_commaed others hfields hnodup rest (by rw [List.length_cons]; omega)

/-- A written record is read back if its members fill the fields from the blank record. -/
theorem Schema.isReadAs_printObject (hfills : Fills s.fields members s.blank r)
    (hnodup : (s.fields.map Field.name).Nodup) : IsReadAs s.read (printObject members) r := by
  refine ⟨⟨'\x7b', _, rfl, by decide, by decide⟩, fun rest _ => ?_⟩
  have hlen := length_lt_length_joined (printMembers members) '\x7d' rest
  rw [printMembers, List.length_map, ← printMembers] at hlen
  have hread := Schema.membersFor_joined hfills hnodup rest hlen
  have htext : printObject members ++ rest =
      '\x7b' :: (joined (printMembers members) ++ '\x7d' :: rest) := by
    simp [printObject, printMembers]
  have hfront : readFront ('\x7b' :: (joined (printMembers members) ++ '\x7d' :: rest)) =
      .ok (.object, joined (printMembers members) ++ '\x7d' :: rest) := rfl
  simp only [read, htext, hfront, bind, Except.bind]
  exact hread

end Turnstile.Json
