/-
# Written configurations read back

A limiter configuration is written with all its fields, also those that may be left out, so
that reading it never falls back on what is built in.  Whether it would be accepted makes no
difference: any sequence of policies comes back, with any texts, as long as its counts are
64-bit ones.
-/
import Turnstile.Policy.Json
import Turnstile.Proofs.Json.Record

namespace Turnstile

open Json

/-! ## Keyings -/

theorem Keying.readName_printString (k : Keying) (rest : List Char) :
    Keying.readName (printString k.name ++ rest) = .ok (k, rest) := by
  have hread : readTextAs "variant identifier" (printString k.name ++ rest) =
      .ok (k.name, rest) := scalar_eq (readFront_quote k.name rest) rfl
  simp only [readName, hread, bind, Except.bind, ofName?_name]
  rfl

theorem Keying.isReadAs_printString (k : Keying) : IsReadAs Keying.read (printString k.name) k :=
  -- a keying is written as a text, which is what its opening quote tells
  ⟨opens_printString k.name, fun rest _ => k.readName_printString rest⟩

/-! ## Windows and policies -/

/-- Whether the counts of a window are 64-bit ones. -/
def Window.IsWord (w : Window) : Prop := w.limit ≤ maxWord ∧ w.seconds ≤ maxWord

instance (w : Window) : Decidable w.IsWord :=
  inferInstanceAs (Decidable (w.limit ≤ maxWord ∧ w.seconds ≤ maxWord))

theorem Window.isReadAs_print {w : Window} (h : w.IsWord) :
    IsReadAs Window.schema.read w.print w :=
  have hfills : Fills Window.schema.fields _ Window.schema.blank w :=
    .cons (isReadAs_printCount h.1).fillsFrom <|
    .cons (isReadAs_printCount h.2).fillsFrom <| .nil _
  Schema.isReadAs_printObject hfills (by decide)

theorem Policy.isReadAs_print {p : Policy} (h : ∀ w ∈ p.windows, w.IsWord) :
    IsReadAs Policy.schema.read p.print p :=
  have hwindows := isReadAs_printArray fun w hw => Window.isReadAs_print (h w hw)
  have hfills : Fills Policy.schema.fields _ Policy.schema.blank p :=
    .cons (isReadAs_printString "a string" p.method).fillsFrom <|
    .cons (isReadAs_printString "a string" p.path).fillsFrom <|
    .cons p.keying.isReadAs_printString.fillsFrom <|
    .cons hwindows.fillsFrom <| .nil _
  Schema.isReadAs_printObject hfills (by decide)

theorem Policy.isReadAs_printList {ps : List Policy}
    (h : ∀ p ∈ ps, ∀ w ∈ p.windows, w.IsWord) :
    IsReadAs Policy.readList (Policy.printList ps) ps :=
  isReadAs_printArray fun p hp => Policy.isReadAs_print (h p hp)

/-! ## Configurations -/

/-- Whether the counts in a configuration are 64-bit ones. -/
def LimiterConfig.IsWord (c : LimiterConfig) : Prop :=
  ∀ p ∈ c.policies, ∀ w ∈ p.windows, w.IsWord

instance (c : LimiterConfig) : Decidable c.IsWord :=
  inferInstanceAs (Decidable (∀ p ∈ c.policies, ∀ w ∈ p.windows, w.IsWord))

theorem LimiterConfig.isReadAs_print {c : LimiterConfig} (h : c.IsWord) :
    IsReadAs LimiterConfig.schema.read c.print c :=
  have hfills : Fills LimiterConfig.schema.fields _ LimiterConfig.schema.blank c :=
    .cons (isReadAs_printFlag c.trustProxies).fillsFrom.orBlank <|
    .cons (Policy.isReadAs_printList h).fillsFrom.orBlank <| .nil _
  Schema.isReadAs_printObject hfills (by decide)

/-- **Configurations read back.**  Reading the text of a configuration gives that
configuration, and reading the text of its policies gives these: every flag, every sequence of
policies, every letter in a method or a path, every keying and every 64-bit count in a window
comes back. -/
theorem LimiterConfig.ofText_text (c : LimiterConfig) (h : c.IsWord) :
    LimiterConfig.ofText c.text = .ok c ∧
      Policy.listOfText (Policy.listText c.policies) = .ok c.policies :=
  ⟨(LimiterConfig.isReadAs_print h).readWhole_eq, (Policy.isReadAs_printList h).readWhole_eq⟩

/-- Letters that are written as escapes, a letter beyond the basic plane, the largest count
and the smallest one, a policy that comes twice and one without windows. -/
theorem LimiterConfig.ofText_text_of_unusual :
    let odd : Policy :=
      ⟨"\"GET\"", "C:\\tab\tend\u0000\u001f/𝒜", .user, [⟨maxWord, 0⟩, ⟨0, maxWord⟩]⟩
    let c : LimiterConfig := ⟨true, [odd, ⟨"", "", .ip, []⟩, odd]⟩
    c.IsWord ∧ LimiterConfig.ofText c.text = .ok c ∧
      Policy.listOfText (Policy.listText c.policies) = .ok c.policies :=
  ⟨by decide, LimiterConfig.ofText_text _ (by decide)⟩

end Turnstile
