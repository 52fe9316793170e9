/-
# What a `Forwarded` value means

A `Forwarded` value lists elements between commas, and an element lists pairs of a name and a
value between semicolons.  A value is bare, or it stands between quotes and may then hold
anything but quotes and backslashes; blanks may stand around every comma, semicolon and
equals sign.  The address that such a value gives is that of the first pair named `for`.

The value is cut at commas and semicolons before any quote is looked at.  So it is read as it
is meant as long as no quoted value before the first `for` pair hides, behind a comma or a
semicolon, what would pass for a `for` pair, and the first `for` pair itself has no comma or
semicolon.  Equals signs and blanks between quotes do no harm, and it does not matter what
follows the first `for` pair.
-/
import Mathlib.Data.List.TakeWhile
import Turnstile.Caller.Address

namespace Turnstile

open Text

/-- Whether a letter can stand in a name, and in a value without quotes. -/
def isBare (c : Char) : Bool := c != '=' && c != ',' && c != ';' && c != '"' && !isBlank c

/-- Whether a letter can stand in a value between quotes. -/
def isQuotable (c : Char) : Bool := c != '"' && c != '\\'

/-- A pair of a `Forwarded` value, as it is written. -/
structure ForwardedPair where
  name : List Char
  value : List Char
  /-- Whether the value stands between quotes. -/
  quoted : Bool := false
  /-- The blanks before the name. -/
  lead : List Char := []
  /-- The blanks before the equals sign. -/
  before : List Char := []
  /-- The blanks behind the equals sign. -/
  after : List Char := []
  /-- The blanks behind the value. -/
  trail : List Char := []
deriving DecidableEq, Repr

namespace ForwardedPair

/-- The rules for what a pair consists of. -/
structure WellFormed (p : ForwardedPair) : Prop where
  name : p.name.all isBare = true
  value : p.value.all (if p.quoted then isQuotable else isBare) = true
  blanks : (p.lead ++ p.before ++ p.after ++ p.trail).all isBlank = true

instance : DecidablePred WellFormed := fun p =>
  decidable_of_iff (p.name.all isBare = true ∧
      p.value.all (if p.quoted then isQuotable else isBare) = true ∧
      (p.lead ++ p.before ++ p.after ++ p.trail).all isBlank = true)
    ⟨fun ⟨hname, hvalue, hblanks⟩ => ⟨hname, hvalue, hblanks⟩,
      fun h => ⟨h.name, h.value, h.blanks⟩⟩

/-- The value with its quotes, if it has any. -/
def written (p : ForwardedPair) : List Char :=
  if p.quoted then '"' :: p.value ++ ['"'] else p.value

/-- What stands before the equals sign. -/
def front (p : ForwardedPair) : List Char := p.lead ++ p.name ++ p.before

/-- What stands behind the equals sign. -/
def back (p : ForwardedPair) : List Char := p.after ++ p.written ++ p.trail

/-- The letters of a pair. -/
def text (p : ForwardedPair) : List Char := p.front ++ '=' :: p.back

/-- Whether a pair is named `for`, the case of letters aside. -/
def isFor (p : ForwardedPair) : Bool := folded p.name == "for".toList

/-- Whether a pair would pass for a `for` pair behind one of its commas and semicolons. -/
def hidesFor (p : ForwardedPair) : Bool :=
  (pieces endsPair p.text).tail.any fun piece => (forValue? piece).isSome

/-- The letters of a list of elements. -/
def textOf (elements : List (List ForwardedPair)) : List Char :=
  [','].intercalate (elements.map fun pairs => [';'].intercalate (pairs.map text))

/-- The address that a list of elements is meant to give: the value of the first `for` pair,
unless it is empty. -/
def address? (elements : List (List ForwardedPair)) : Option String :=
  match (elements.flatten.find? isFor).map value with
  | none | some [] => none
  | some ip => some (String.ofList ip)

end ForwardedPair

/-! ## Reading one piece -/

/-- A piece is read around its first equals sign. -/
theorem forValue?_append_cons {as : List Char} (has : ∀ c ∈ as, c ≠ '=') (bs : List Char) :
    forValue? (as ++ '=' :: bs) =
      if folded (trimList as) = "for".toList then some (trimBy (· == '"') (trimList bs))
      else none := by
  have hcut : cutAt (· == '=') (trimList (as ++ '=' :: bs)) =
      some (as.dropWhile isBlank, (bs.reverse.dropWhile isBlank).reverse) := by
    rw [trimList, trimBy_append_cons (by decide)]
    refine cutAt_append_cons _ _ _ _ (fun c hc => ?_) rfl
    exact beq_eq_false_iff_ne.2 (has c ((List.dropWhile_sublist _).subset hc))
  -- what trimming the piece takes away, trimming its two sides takes away as well
  have hfront : trimList (as.dropWhile isBlank) = trimList as := trimBy_dropWhile _ _
  have hback : trimList (bs.reverse.dropWhile isBlank).reverse = trimList bs :=
    trimBy_reverse_dropWhile _ _
  rw [forValue?, hcut]
  simp only [hfront, hback]

/-- The value of the first `for` pair in some letters of a `Forwarded` value. -/
def firstFor? (cs : List Char) : Option (List Char) := (pieces endsPair cs).findSome? forValue?

theorem firstFor?_append_cons {c : Char} (hc : endsPair c = true) (cs ds : List Char) :
    firstFor? (cs ++ c :: ds) = (firstFor? cs).or (firstFor? ds) := by
  rw [firstFor?, pieces_append_cons hc, List.findSome?_append]
  rfl

/-- Letters with separators between them are read one list after the other. -/
theorem firstFor?_intercalate {c : Char} (hc : endsPair c = true) (texts : List (List Char)) :
    firstFor? ([c].intercalate texts) = texts.findSome? firstFor? := by
  induction texts with
  | nil => rfl
  | cons cs texts ih =>
    cases texts with
    | nil => rw [List.intercalate_singleton, List.findSome?_singleton]
    | cons ds texts =>
      rw [List.intercalate_cons_cons, List.append_assoc, List.singleton_append,
        firstFor?_append_cons hc, ih, List.findSome?_cons (a := cs)]
      cases firstFor? cs <;> rfl

/-! ## Reading one pair -/

theorem of_isBare {c : Char} (h : isBare c = true) :
    c ≠ '=' ∧ endsPair c = false ∧ c ≠ '"' ∧ isBlank c = false := by
  simp only [isBare, Bool.and_eq_true, bne_iff_ne, ne_eq, Bool.not_eq_true'] at h
  simp [endsPair, h]

theorem of_isBlank {c : Char} (h : isBlank c = true) : c ≠ '=' ∧ endsPair c = false := by
  have hne : ∀ d, isBlank d = false → c ≠ d := by
    rintro d hd rfl
    rw [hd] at h
    cases h
  exact ⟨hne _ (by decide), by simp [endsPair, hne ',' (by decide), hne ';' (by decide)]⟩

namespace ForwardedPair

section

variable {p : ForwardedPair}

theorem WellFormed.isBlank_of_mem (h : p.WellFormed) {c : Char}
    (hc : c ∈ p.lead ∨ c ∈ p.before ∨ c ∈ p.after ∨ c ∈ p.trail) : isBlank c = true := by
  refine List.all_eq_true.1 h.blanks c ?_
  simpa only [List.mem_append, or_assoc] using hc

/-- Nothing before the equals sign of a pair is an equals sign or a separator. -/
theorem WellFormed.of_mem_front (h : p.WellFormed) {c : Char} (hc : c ∈ p.front) :
    c ≠ '=' ∧ endsPair c = false := by
  rw [front, List.mem_append, List.mem_append] at hc
  rcases hc with (hlead | hname) | hbefore
  · exact of_isBlank (h.isBlank_of_mem (.inl hlead))
  · have hbare := of_isBare (List.all_eq_true.1 h.name c hname)
    exact ⟨hbare.1, hbare.2.1⟩
  · exact of_isBlank (h.isBlank_of_mem (.inr (.inl hbefore)))

theorem WellFormed.trimList_front (h : p.WellFormed) : trimList p.front = p.name := by
  rw [front, trimList, trimBy_append_append (fun c hc => h.isBlank_of_mem (.inl hc))
    fun c hc => h.isBlank_of_mem (.inr (.inl hc))]
  exact trimBy_of_forall_not fun c hc => (of_isBare (List.all_eq_true.1 h.name c hc)).2.2.2

theorem WellFormed.trimList_back (h : p.WellFormed) : trimList p.back = p.written := by
  rw [back, trimList, trimBy_append_append
    (fun c hc => h.isBlank_of_mem (.inr (.inr (.inl hc))))
    fun c hc => h.isBlank_of_mem (.inr (.inr (.inr hc)))]
  have hvalue := h.value
  unfold written
  split at hvalue
  · next hquoted =>
    -- blanks within the quotes stay
    rw [if_pos hquoted]
    exact trimBy_of_ends (by decide) (by decide) _
  · next hbare =>
    rw [if_neg hbare]
    exact trimBy_of_forall_not fun c hc => (of_isBare (List.all_eq_true.1 hvalue c hc)).2.2.2

/-- What is left of a written value without its quotes is the value. -/
theorem WellFormed.trimBy_written (h : p.WellFormed) :
    trimBy (· == '"') p.written = p.value := by
  have hvalue := h.value
  have hnone : ∀ c ∈ p.value, (c == '"') = false := by
    intro c hc
    split at hvalue
    · have hquotable := List.all_eq_true.1 hvalue c hc
      simp only [isQuotable, Bool.and_eq_true, bne_iff_ne] at hquotable
      exact beq_eq_false_iff_ne.2 hquotable.1
    · exact beq_eq_false_iff_ne.2 (of_isBare (List.all_eq_true.1 hvalue c hc)).2.2.1
  have hquote : ∀ c ∈ ['"'], (c == '"') = true := by simp
  unfold written
  split
  · calc trimBy (· == '"') ('"' :: p.value ++ ['"'])
        = trimBy (· == '"') (['"'] ++ p.value ++ ['"']) := rfl
      _ = trimBy (· == '"') p.value := trimBy_append_append hquote hquote _
      _ = p.value := trimBy_of_forall_not hnone
  · exact trimBy_of_forall_not hnone

/-- The first piece of a pair goes up to the first separator behind its equals sign. -/
theorem WellFormed.pieces_text (h : p.WellFormed) : pieces endsPair p.text =
    (p.front ++ '=' :: p.back.takeWhile fun c => !endsPair c) ::
      (pieces endsPair p.back).tail := by
  have hplain : ∀ c ∈ p.front ++ ['='], endsPair c = false := by
    intro c hc
    rcases List.mem_append.1 hc with hfront | heq
    · exact (h.of_mem_front hfront).2
    · rw [List.mem_singleton.1 heq]
      rfl
  rw [text, List.append_cons, pieces_append_of_forall_not hplain, headD_pieces,
    List.append_assoc, List.singleton_append]

/-- Nothing behind the equals sign of a pair is a separator if nothing in its value is. -/
theorem WellFormed.of_mem_back (h : p.WellFormed) (hwhole : ∀ c ∈ p.value, endsPair c = false)
    {c : Char} (hc : c ∈ p.back) : endsPair c = false := by
  have hwritten : ∀ c ∈ p.written, endsPair c = false := by
    intro c hc
    unfold written at hc
    split at hc
    · simp only [List.cons_append, List.mem_cons, List.mem_append, List.not_mem_nil,
        or_false] at hc
      rcases hc with rfl | hvalue | rfl
      · rfl
      · exact hwhole c hvalue
      · rfl
    · exact hwhole c hc
  rw [back, List.mem_append, List.mem_append] at hc
  rcases hc with (hafter | hc) | htrail
  · exact (of_isBlank (h.isBlank_of_mem (.inr (.inr (.inl hafter))))).2
  · exact hwritten c hc
  · exact (of_isBlank (h.isBlank_of_mem (.inr (.inr (.inr htrail))))).2

/-- A `for` pair without separators gives its value. -/
theorem WellFormed.firstFor?_text (h : p.WellFormed) (hfor : p.isFor = true)
    (hwhole : ∀ c ∈ p.value, endsPair c = false) : firstFor? p.text = some p.value := by
  have hback : ∀ c ∈ p.back, endsPair c = false := fun c hc => h.of_mem_back hwhole hc
  have hpieces : pieces endsPair p.text = [p.text] := by
    rw [h.pieces_text, pieces_of_forall_not _ _ hback, text, List.tail_cons,
      List.takeWhile_eq_self_iff.2 fun c hc => by rw [hback c hc]; rfl]
  rw [firstFor?, hpieces, List.findSome?_singleton, text,
    forValue?_append_cons fun c hc => (h.of_mem_front hc).1, h.trimList_front, h.trimList_back,
    h.trimBy_written, if_pos (eq_of_beq hfor)]

/-- A pair of another name that hides nothing gives nothing. -/
theorem WellFormed.firstFor?_text_eq_none (h : p.WellFormed) (hfor : p.isFor = false)
    (hhides : p.hidesFor = false) : firstFor? p.text = none := by
  have hfirst : ∀ bs, forValue? (p.front ++ '=' :: bs) = none := by
    intro bs
    rw [forValue?_append_cons fun c hc => (h.of_mem_front hc).1, h.trimList_front,
      if_neg (ne_of_beq_false hfor)]
  have hrest : ∀ piece ∈ (pieces endsPair p.back).tail, forValue? piece = none := by
    intro piece hpiece
    rw [hidesFor, h.pieces_text, List.tail_cons, List.any_eq_false] at hhides
    simpa using hhides piece hpiece
  rw [firstFor?, h.pieces_text, List.findSome?_cons, hfirst]
  exact List.findSome?_eq_none_iff.2 hrest

end

/-! ## Reading a whole value -/

/-- Pairs are read one after the other, up to the first `for` pair. -/
theorem findSome?_text {pairs : List ForwardedPair} (hpairs : ∀ p ∈ pairs, p.WellFormed)
    (hhides : ∀ p ∈ pairs.takeWhile (!·.isFor), p.hidesFor = false)
    (hwhole : ∀ p ∈ pairs.find? isFor, ∀ c ∈ p.value, endsPair c = false) :
    pairs.findSome? (firstFor? ∘ text) = (pairs.find? isFor).map value := by
  induction pairs with
  | nil => rfl
  | cons p ps ih =>
    have hp := hpairs p List.mem_cons_self
    have hps : ∀ q ∈ ps, q.WellFormed := fun q hq => hpairs q (List.mem_cons_of_mem _ hq)
    cases hfor : p.isFor with
    | true =>
      rw [List.find?_cons_of_pos hfor] at hwhole ⊢
      simp [hp.firstFor?_text hfor (hwhole p rfl)]
    | false =>
      have hnone := hp.firstFor?_text_eq_none hfor (hhides p (by simp [hfor]))
      rw [List.find?_cons_of_neg (by simp [hfor])] at hwhole ⊢
      rw [List.findSome?_cons, Function.comp_apply, hnone]
      exact ih hps (fun q hq => hhides q (by simp [hfor, hq])) hwhole

/-- A list of elements is read pair by pair. -/
theorem firstFor?_textOf (elements : List (List ForwardedPair)) :
    firstFor? (textOf elements) = elements.flatten.findSome? (firstFor? ∘ text) := by
  rw [textOf, firstFor?_intercalate (by decide)]
  induction elements with
  | nil => rfl
  | cons pairs elements ih =>
    rw [List.map_cons, List.findSome?_cons, firstFor?_intercalate (by decide),
      List.findSome?_map, ih, List.flatten_cons, List.findSome?_append]
    cases pairs.findSome? (firstFor? ∘ text) <;> rfl

/-- Letters of well-formed pairs give the address they are meant to give, as long as nothing
before the first `for` pair hides another one and its own value is whole. -/
theorem forwardedFor?_textOf {elements : List (List ForwardedPair)}
    (hpairs : ∀ p ∈ elements.flatten, p.WellFormed)
    (hhides : ∀ p ∈ elements.flatten.takeWhile (!·.isFor), p.hidesFor = false)
    (hwhole : ∀ p ∈ elements.flatten.find? isFor, ∀ c ∈ p.value, endsPair c = false) :
    forwardedFor? (String.ofList (textOf elements)) = address? elements := by
  have hread : firstFor? (textOf elements) = (elements.flatten.find? isFor).map value := by
    rw [firstFor?_textOf, findSome?_text hpairs hhides hwhole]
  rw [forwardedFor?, String.toList_ofList, ← firstFor?, hread]
  rfl

end ForwardedPair

/-! ## The address of the caller -/

open ForwardedPair

theorem firstHop?_eq_none_iff (value : String) :
    firstHop? value = none ↔ (value.toList.takeWhile (· != ',')).all isBlank = true := by
  have hfirst : (pieces (· == ',') value.toList).headD [] = value.toList.takeWhile (· != ',') :=
    headD_pieces _ _
  rw [firstHop?, hfirst, ← trimList_eq_nil_iff]
  cases trimList (value.toList.takeWhile (· != ',')) <;> simp

/-- **A `Forwarded` value is read as it is meant.**  If proxies are trusted and the first entry
of `X-Forwarded-For` is missing or blank, the address of the caller is the value of the first
`for` pair of `Forwarded`, unless it is empty, and the direct address otherwise: whatever the
pairs are, their case, quotes and blanks, as long as no quoted value before the first `for`
pair hides one behind a comma or a semicolon, and the first one has no comma or semicolon. -/
theorem clientAddress_of_forwarded (r : Request) (elements : List (List ForwardedPair))
    (hpairs : ∀ p ∈ elements.flatten, p.WellFormed)
    (hforwarded : r.header? "Forwarded" = some (String.ofList (textOf elements)))
    (hhops : ∀ value, r.header? "X-Forwarded-For" = some value →
      (value.toList.takeWhile (· != ',')).all isBlank = true)
    (hhides : ∀ p ∈ elements.flatten.takeWhile (!·.isFor), p.hidesFor = false)
    (hwhole : ∀ p ∈ elements.flatten.find? isFor, ∀ c ∈ p.value, c ≠ ',' ∧ c ≠ ';') :
    clientAddress true r = (address? elements).getD (r.remote.getD "unknown") := by
  have hnohop : (r.header? "X-Forwarded-For").bind firstHop? = none :=
    Option.bind_eq_none_iff.2 fun value hvalue =>
      (firstHop?_eq_none_iff value).2 (hhops value hvalue)
  have hread : forwardedFor? (String.ofList (textOf elements)) = address? elements :=
    forwardedFor?_textOf hpairs hhides fun p hp c hc => by simp [endsPair, hwhole p hp c hc]
  rw [clientAddress, if_pos rfl, proxiedAddress?, hnohop, Option.none_or, hforwarded,
    Option.bind_some, hread]

/-- A comma and an equals sign between quotes, blanks and both cases of letters do no harm,
and the second pair named `for` comes too late. -/
theorem clientAddress_of_forwarded_quoted :
    let pair (name value : String) (quoted : Bool) : ForwardedPair :=
      { name := name.toList, value := value.toList, quoted := quoted }
    let elements : List (List ForwardedPair) :=
      [[pair "By" "proxy, inc" true,
        { pair "FOR" "[2001:db8::1]:a=b" true with
          lead := [' '], before := [' '], after := ['\t'] }],
       [{ pair "for" "192.0.2.9" false with lead := [' '] }]]
    let r : Request := ⟨"GET", "/x", some "10.0.0.7",
      [("x-forwarded-for", " , 192.0.2.8"),
        ("forwarded", "By=\"proxy, inc\"; FOR =\t\"[2001:db8::1]:a=b\", for=192.0.2.9")]⟩
    (∀ p ∈ elements.flatten, p.WellFormed) ∧
      r.header? "Forwarded" = some (String.ofList (textOf elements)) ∧
      clientAddress true r = "[2001:db8::1]:a=b" := by
  intro pair elements r
  have hpairs : ∀ p ∈ elements.flatten, p.WellFormed := by decide +kernel
  have hforwarded : r.header? "Forwarded" = some (String.ofList (textOf elements)) := by
    decide +kernel
  have hwhole : ∀ p ∈ elements.flatten.find? isFor, p.value.all (!endsPair ·) = true := by
    decide +kernel
  refine ⟨hpairs, hforwarded, ?_⟩
  have hread := clientAddress_of_forwarded r elements hpairs hforwarded (by decide +kernel)
    (by decide +kernel) fun p hp => by simpa [endsPair] using hwhole p hp
  exact hread.trans (by decide +kernel)

/-- A proxy's quoted name hides a `for` pair behind a semicolon, and the hidden pair is taken
for the address of the caller. -/
theorem clientAddress_of_hidden_for :
    let chars : String → List Char := String.toList
    let elements : List (List ForwardedPair) :=
      [[⟨chars "by", chars "x;for=6.6.6.6", true, [], [], [], []⟩,
        ⟨chars "for", chars "192.0.2.1", false, [], [], [], []⟩]]
    let r : Request :=
      ⟨"GET", "/x", none, [("Forwarded", "by=\"x;for=6.6.6.6\";for=192.0.2.1")]⟩
    (∀ p ∈ elements.flatten, p.WellFormed) ∧
      r.header? "Forwarded" = some (String.ofList (textOf elements)) ∧
      r.header? "X-Forwarded-For" = none ∧
      (address? elements).getD (r.remote.getD "unknown") = "192.0.2.1" ∧
      clientAddress true r = "6.6.6.6" := by
  decide +kernel

end Turnstile
