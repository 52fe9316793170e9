/-
# Headers that are written on a response

The names of headers ignore the case of ASCII letters, and the headers that report a quota or
a rejection are set one after the other.  On a list of headers each of them takes the place
of all entries of its name: the others stay as they are, and those that are written follow
them.  On a map a header takes the place only of the entry with exactly its name.  If the
response had it in other letters, both entries are there afterwards, and which of them a
client sees is left open; if it had not, the map and the list give the same answers.
-/
import Turnstile.Proofs.Register
import Turnstile.Reply.Rejection

namespace Turnstile

/-- Whether a name is that of one of some headers, the case of letters aside. -/
def isNamedIn (pairs : List (String × String)) (name : String) : Bool :=
  pairs.any fun p => Text.sameName name p.1

/-- The value of the first of some headers with a name, the case of letters aside. -/
def headerIn? (entries : List (String × String)) (name : String) : Option String :=
  (entries.find? fun e => Text.sameName e.1 name).map Prod.snd

/-- No two headers have one name, the case of letters aside. -/
def NamedApart (pairs : List (String × String)) : Prop :=
  (pairs.map Prod.fst).Pairwise fun name name' => Text.sameName name name' = false

theorem QuotaHeaders.namedApart (q : QuotaHeaders) : NamedApart q.pairs := by
  change List.Pairwise _ ["X-RateLimit-Limit", "X-RateLimit-Remaining", "X-RateLimit-Reset"]
  decide

theorem Rejection.namedApart (r : Rejection) : NamedApart r.pairs := by
  change List.Pairwise _
    ["X-RateLimit-Limit", "X-RateLimit-Remaining", "X-RateLimit-Reset", "Retry-After"]
  decide

section

variable {pairs : List (String × String)}

theorem NamedApart.nodup (h : NamedApart pairs) : (pairs.map Prod.fst).Nodup := by
  refine List.Pairwise.imp (fun {name name'} hne heq => ?_) h
  rw [heq, Text.sameName_refl] at hne
  cases hne

theorem NamedApart.eq_of_sameName (h : NamedApart pairs) {p q : String × String} (hp : p ∈ pairs)
    (hq : q ∈ pairs) (hsame : Text.sameName p.1 q.1 = true) : p = q := by
  have hsymm : Std.Symm fun name name' : String => Text.sameName name name' = false :=
    ⟨fun name name' hne => Text.sameName_comm name name' ▸ hne⟩
  refine List.inj_on_of_nodup_map h.nodup hp hq ?_
  by_contra hne
  rw [List.Pairwise.forall h (List.mem_map_of_mem hp) (List.mem_map_of_mem hq) hne] at hsame
  cases hsame

theorem isNamedIn_iff {name : String} :
    isNamedIn pairs name = true ↔ ∃ p ∈ pairs, Text.sameName name p.1 = true := List.any_eq_true

/-- If a header is the one entry of its name, it is found under all spellings of the name. -/
theorem headerIn?_of_filter {entries : List (String × String)} {p : String × String}
    (hsingle : entries.filter (fun e => Text.sameName e.1 p.1) = [p]) {name : String}
    (hname : Text.sameName name p.1 = true) : headerIn? entries name = some p.2 := by
  have hspelling : ∀ e : String × String, Text.sameName e.1 name = Text.sameName e.1 p.1 := by
    intro e
    rw [Text.sameName, (Text.sameName_iff name p.1).1 hname, ← Text.sameName]
  simp only [headerIn?, hspelling]
  rw [← List.head?_filter, hsingle]
  rfl

/-! ## On a list -/

namespace HeaderList

/-- Headers that are set on a list take out the entries of their names and follow the others. -/
theorem entries_setHeaders (h : HeaderList) (hapart : NamedApart pairs) :
    (setHeaders h pairs).entries = h.entries.filter (fun e => !isNamedIn pairs e.1) ++ pairs := by
  induction pairs generalizing h with
  | nil => simp [setHeaders, isNamedIn]
  | cons p ps ih =>
    obtain ⟨hp, hps⟩ := List.pairwise_cons.1 hapart
    -- the header that is set first is not taken out by those that follow
    have hstays : isNamedIn ps p.1 = false := by
      refine Bool.eq_false_iff.2 fun hnamed => ?_
      obtain ⟨q, hq, hsame⟩ := isNamedIn_iff.1 hnamed
      rw [hp q.1 (List.mem_map_of_mem hq)] at hsame
      cases hsame
    have hout : ∀ e : String × String, (!isNamedIn ps e.1 && !Text.sameName e.1 p.1) =
        !isNamedIn (p :: ps) e.1 := by
      intro e
      rw [isNamedIn, isNamedIn, List.any_cons, Bool.not_or, Bool.and_comm]
    calc (setHeaders h (p :: ps)).entries
        = (setHeaders (h.set p.1 p.2) ps).entries := rfl
      _ = ((h.remove p.1).entries ++ [p]).filter (fun e => !isNamedIn ps e.1) ++ ps := ih _ hps
      _ = h.entries.filter (fun e => !isNamedIn (p :: ps) e.1) ++ p :: ps := by
        rw [remove, List.filter_append, List.filter_filter]
        simp only [hout, List.filter_cons, hstays, Bool.not_false, if_true, List.filter_nil,
          List.append_assoc, List.singleton_append]

/-- Every header that is set is the one entry of its name. -/
theorem filter_setHeaders (h : HeaderList) (hapart : NamedApart pairs) {p : String × String}
    (hp : p ∈ pairs) :
    (setHeaders h pairs).entries.filter (fun e => Text.sameName e.1 p.1) = [p] := by
  have hnone : (h.entries.filter fun e => !isNamedIn pairs e.1).filter
      (fun e => Text.sameName e.1 p.1) = [] := by
    refine List.filter_eq_nil_iff.2 fun e he hsame => ?_
    have hnot := (List.mem_filter.1 he).2
    rw [isNamedIn_iff.2 ⟨p, hp, hsame⟩] at hnot
    cases hnot
  rw [entries_setHeaders h hapart, List.filter_append, hnone, List.nil_append]
  exact filter_eq_singleton (List.Nodup.of_map _ hapart.nodup) hp (Text.sameName_refl p.1)
    fun q hq hsame => hapart.eq_of_sameName hq hp hsame

end HeaderList

theorem QuotaHeaders.apply_headerList (q : QuotaHeaders) (h : HeaderList) :
    q.apply h = ⟨h.entries.filter (fun e => !isNamedIn q.pairs e.1) ++ q.pairs⟩ :=
  congrArg HeaderList.mk (HeaderList.entries_setHeaders h q.namedApart)

/-! ## On a map -/

namespace HeaderMap

variable {es : List (String × String)}

/-- Headers that are set on a map come after those that have built it up. -/
theorem setHeaders_ofList (es pairs : List (String × String)) :
    setHeaders (ofList es) pairs = ofList (es ++ pairs) := by
  induction pairs generalizing es with
  | nil =>
    rw [List.append_nil]
    rfl
  | cons p ps ih =>
    have hfirst : (ofList es).set p.1 p.2 = ofList (es ++ [p]) :=
      congrArg mk (Register.ofList_concat es p).symm
    calc setHeaders (ofList es) (p :: ps)
        = setHeaders ((ofList es).set p.1 p.2) ps := rfl
      _ = ofList (es ++ p :: ps) := by rw [hfirst, ih, List.append_assoc, List.singleton_append]

/-- A header that is set is the one entry of its name if and only if the response did not have
it in other letters. -/
theorem filter_setHeaders_iff (hapart : NamedApart pairs) {p : String × String} (hp : p ∈ pairs) :
    (setHeaders (ofList es) pairs).register.entries.filter (fun e => Text.sameName e.1 p.1) = [p] ↔
      ∀ e ∈ es, Text.sameName e.1 p.1 = true → e.1 = p.1 := by
  rw [setHeaders_ofList]
  have hnodup := Register.nodup_keys_ofList (es ++ pairs)
  have hthere : p ∈ (ofList (es ++ pairs)).register.entries :=
    (Register.mem_entries_iff hnodup).2 (Register.get?_ofList_append_of_mem hapart.nodup hp)
  constructor
  · intro hsingle e he hsame
    have hkey : e.1 ∈ (Register.ofList (es ++ pairs)).entries.map Prod.fst :=
      Register.mem_keys_ofList.2 (List.mem_map_of_mem (List.mem_append_left _ he))
    obtain ⟨e', he', hname⟩ := List.mem_map.1 hkey
    have hmem : e' ∈ [p] := hsingle ▸ List.mem_filter.2 ⟨he', hname ▸ hsame⟩
    rw [← hname, List.mem_singleton.1 hmem]
  · intro hexact
    refine filter_eq_singleton (List.Nodup.of_map _ hnodup) hthere (Text.sameName_refl p.1)
      fun e he hsame => List.inj_on_of_nodup_map hnodup he hthere ?_
    -- a name of the map comes from the response or from what is set on it
    have hkey := Register.mem_keys_ofList.1 (List.mem_map_of_mem he)
    rw [List.map_append, List.mem_append, List.mem_map, List.mem_map] at hkey
    rcases hkey with ⟨e', he', hname⟩ | ⟨q, hq, hname⟩
    · rw [← hname] at hsame ⊢
      exact hexact e' he' hsame
    · rw [← hname] at hsame ⊢
      rw [hapart.eq_of_sameName hq hp hsame]

end HeaderMap

end

/-! ## On both -/

/-- What becomes of a list and of a map with the same headers when some headers are set. -/
structure HeadersSet (es pairs : List (String × String)) (list : HeaderList) (map : HeaderMap) :
    Prop where
  /-- On the list they follow the entries of other names, which stay as they are. -/
  list_entries : list.entries = es.filter (fun e => !isNamedIn pairs e.1) ++ pairs
  /-- On the list each of them is the one entry of its name. -/
  list_single : ∀ p ∈ pairs, list.entries.filter (fun e => Text.sameName e.1 p.1) = [p]
  /-- On the list they are found under all spellings of their names. -/
  list_found : ∀ p ∈ pairs, ∀ name, Text.sameName name p.1 = true →
    headerIn? list.entries name = some p.2
  /-- On the map they have their values under their names, letter by letter. -/
  map_written : ∀ p ∈ pairs, map.register.get? p.1 = some p.2
  /-- On the map all names that differ from theirs by a letter stay as they are. -/
  map_others : ∀ name, name ∉ pairs.map Prod.fst →
    map.register.get? name = (HeaderMap.ofList es).register.get? name
  /-- On the map one of them is the one entry of its name exactly if there was none of this
  name in other letters. -/
  map_single_iff : ∀ p ∈ pairs,
    map.register.entries.filter (fun e => Text.sameName e.1 p.1) = [p] ↔
      ∀ e ∈ es, Text.sameName e.1 p.1 = true → e.1 = p.1
  /-- If there was none, it is found on the map under all spellings of its name too, whatever
  the sequence in which the map gives its entries. -/
  map_found : ∀ p ∈ pairs, (∀ e ∈ es, Text.sameName e.1 p.1 = true → e.1 = p.1) →
    ∀ entries, entries.Perm map.register.entries → ∀ name, Text.sameName name p.1 = true →
      headerIn? entries name = some p.2

theorem NamedApart.headersSet {pairs : List (String × String)} (hapart : NamedApart pairs)
    (es : List (String × String)) :
    HeadersSet es pairs (setHeaders ⟨es⟩ pairs) (setHeaders (.ofList es) pairs) where
  list_entries := HeaderList.entries_setHeaders ⟨es⟩ hapart
  list_single _ hp := HeaderList.filter_setHeaders ⟨es⟩ hapart hp
  list_found _ hp _ hname := headerIn?_of_filter (HeaderList.filter_setHeaders ⟨es⟩ hapart hp) hname
  map_written p hp := by
    rw [HeaderMap.setHeaders_ofList]
    exact Register.get?_ofList_append_of_mem hapart.nodup hp
  map_others name hname := by
    rw [HeaderMap.setHeaders_ofList]
    exact Register.get?_ofList_append_of_notMem hname
  map_single_iff _ hp := HeaderMap.filter_setHeaders_iff hapart hp
  map_found p hp hexact entries hperm name hname := by
    refine headerIn?_of_filter (List.perm_singleton.1 ?_) hname
    rw [← (HeaderMap.filter_setHeaders_iff hapart hp).2 hexact]
    exact hperm.filter _

/-- **Headers are replaced.**  Whatever headers a response has, those that report a quota and
those that report a rejection take the place of all entries of their names on a list, and on a
map they take the place of the entries with exactly their names; as long as the response had
none of them in other letters, the list and the map then answer alike. -/
theorem headers_replaced (es : List (String × String)) (q : QuotaHeaders) (r : Rejection) :
    HeadersSet es q.pairs (q.apply ⟨es⟩) (q.apply (.ofList es)) ∧
      HeadersSet es r.pairs (r.apply ⟨es⟩) (r.apply (.ofList es)) :=
  ⟨q.namedApart.headersSet es, r.namedApart.headersSet es⟩

/-- A response that has the limit in small letters: on a map the old value stays beside the new
one, and which of them is found under the name depends on the sequence of the entries. -/
theorem headers_doubled_on_map :
    let es := [("x-ratelimit-limit", "1")]
    let q : QuotaHeaders := ⟨7, 6, 9⟩
    let onList := (q.apply (HeaderList.mk es)).entries
    let onMap := (q.apply (HeaderMap.ofList es)).register.entries
    onMap.filter (fun e => Text.sameName e.1 "X-RateLimit-Limit") =
        [("x-ratelimit-limit", "1"), ("X-RateLimit-Limit", "7")] ∧
      onList.filter (fun e => Text.sameName e.1 "X-RateLimit-Limit") =
        [("X-RateLimit-Limit", "7")] ∧
      headerIn? onMap "X-RateLimit-Limit" = some "1" ∧
      headerIn? onMap.reverse "X-RateLimit-Limit" = some "7" ∧
      headerIn? onList "X-RateLimit-Limit" = some "7" := by
  decide +kernel

end Turnstile
