import PlayableCards.Proofs.Card.Marker
import PlayableCards.Proofs.Text.Lowercase

/-!
# Digital-only markers in any case

Markers are looked for in the lower case of a text. That finds the characters of the text whose
lower case is a marker and that have no alphabetic character beside them, and also those directly
behind a dotted capital I, which is alphabetic and ends with a mark in lower case.
-/

namespace PlayableCards
namespace Marker

/-- Characters of a text that are a digital-only marker in lower case have no alphabetic character
directly after them, and what is directly before them is `apart`. -/
def HasDigital (apart : Option Char → Prop) (text : List Char) : Prop :=
  ∃ marker ∈ digitalOnly, ∃ before word after, text = before ++ (word ++ after)
    ∧ Text.lowercase word = marker.toList ∧ apart before.getLast? ∧ bounds after.head? = true

/-- Lower case tells where a marker like this comes from: no character's form begins or ends within
it, and no other characters have the same. -/
structure Plain (marker : List Char) : Prop where
  nonempty : marker ≠ []
  first : marker.head? ≠ some '\u0307'
  last : marker.getLast? ≠ some 'i'
  sigma : 'σ' ∉ marker
  finalSigma : 'ς' ∉ marker

theorem plain_of_mem_digitalOnly {marker : String} (h : marker ∈ digitalOnly) :
    Plain marker.toList := by
  have hall : ∀ marker ∈ digitalOnly, marker.toList ≠ [] ∧ marker.toList.head? ≠ some '\u0307'
      ∧ marker.toList.getLast? ≠ some 'i' ∧ 'σ' ∉ marker.toList ∧ 'ς' ∉ marker.toList := by
    decide +kernel
  obtain ⟨hnonempty, hfirst, hlast, hsigma, hfinal⟩ := hall marker h
  exact ⟨hnonempty, hfirst, hlast, hsigma, hfinal⟩

theorem bounds_getLast? {cs lower : List Char} (h : Text.Lowered cs lower) :
    bounds lower.getLast? = true ↔ bounds cs.getLast? = true ∨ cs.getLast? = some '\u0130' := by
  rw [bounds, bounds, h.any_getLast?]
  cases cs.getLast?.any Text.isAlphabetic <;> simp

theorem bounds_head? {cs lower : List Char} (h : Text.Lowered cs lower) :
    bounds lower.head? = bounds cs.head? := by
  rw [bounds, bounds, h.any_head?]

/-- A plain marker in the lower case of a text is the lower case of some of its characters. -/
theorem stands_lowercase_iff {marker : List Char} (h : Plain marker) (text : List Char) :
    Stands marker (Text.lowercase text)
      ↔ ∃ before word after, text = before ++ (word ++ after) ∧ Text.lowercase word = marker
        ∧ (bounds before.getLast? = true ∨ before.getLast? = some '\u0130')
        ∧ bounds after.head? = true := by
  have hlower := Text.lowered_lowercase text
  constructor
  · rintro ⟨front, rest, htext, hfront, hrest⟩
    rw [htext] at hlower
    have hfirst : (marker ++ rest).head? ≠ some '\u0307' := by
      rw [List.head?_append_of_ne_nil _ h.nonempty]
      exact h.first
    obtain ⟨before, tail, rfl, hbefore, htail⟩ := hlower.cut (.inr hfirst)
    obtain ⟨word, after, rfl, hword, hafter⟩ := htail.cut (.inl h.last)
    refine ⟨before, word, after, rfl, ?_, (bounds_getLast? hbefore).mp hfront, ?_⟩
    · exact hword.unique (Text.lowered_lowercase word) h.sigma h.finalSigma
    · rwa [← bounds_head? hafter]
  · rintro ⟨before, word, after, rfl, rfl, hbefore, hafter⟩
    obtain ⟨front, tail, htext, hfront, htail⟩ := hlower.of_append
    obtain ⟨lower, rest, rfl, hword, hrest⟩ := htail.of_append
    have hmarker : lower = Text.lowercase word :=
      (Text.lowered_lowercase word).unique hword h.sigma h.finalSigma
    refine ⟨front, rest, by rw [htext, hmarker], (bounds_getLast? hfront).mpr hbefore, ?_⟩
    rwa [bounds_head? hrest]

theorem anyDigital_eq_true {text : String} :
    anyDigital text = true
      ↔ HasDigital (fun c => bounds c = true ∨ c = some '\u0130') text.toList := by
  rw [anyDigital_iff_stands]
  exact exists_congr fun marker => and_congr_right fun hmarker =>
    stands_lowercase_iff (plain_of_mem_digitalOnly hmarker) _

theorem anyDigital_iff_or {text : String} :
    anyDigital text = true ↔ HasDigital (bounds · = true) text.toList
      ∨ HasDigital (· = some '\u0130') text.toList := by
  rw [anyDigital_eq_true]
  simp only [HasDigital, or_and_right, and_or_left, exists_or]

theorem not_hasDigital_of_letters {text : List Char} (hletters : text.all Text.isAlphabetic = true)
    (hnone : ∀ marker ∈ digitalOnly, Text.lowercase text ≠ marker.toList) :
    ¬ HasDigital (bounds · = true) text := by
  have hbounds : ∀ c ∈ text, bounds (some c) = false := by
    intro c hc
    rw [bounds, Option.any_some, List.all_eq_true.mp hletters c hc, Bool.not_true]
  rintro ⟨marker, hmarker, before, word, after, rfl, hword, hbefore, hafter⟩
  rcases List.eq_nil_or_concat before with rfl | ⟨front, c, rfl⟩
  · cases after with
    | nil =>
      rw [List.nil_append, List.append_nil] at hnone
      exact hnone marker hmarker hword
    | cons c after =>
      have hc := hbounds c (by simp)
      cases hc.symm.trans hafter
  · have hc := hbounds c (by simp)
    rw [List.concat_eq_append, List.getLast?_concat, hc] at hbefore
    cases hbefore

theorem not_hasDigital_dotted : ¬ HasDigital (bounds · = true) "\u0130seek".toList :=
  not_hasDigital_of_letters (by decide +kernel) (by decide +kernel)

/-- **Digital-only markers are found** where characters of a text are one in lower case, with no
alphabetic character beside them, and where they are behind a dotted capital I. So it is told
rightly whether a text has one that stands by itself, unless all that it has are behind a dotted
capital. -/
theorem anyDigital_iff (text : String) :
    (anyDigital text = true ↔ HasDigital (bounds · = true) text.toList
        ∨ HasDigital (· = some '\u0130') text.toList)
      ∧ ((anyDigital text = true ↔ HasDigital (bounds · = true) text.toList)
        ↔ (HasDigital (· = some '\u0130') text.toList
          → HasDigital (bounds · = true) text.toList)) := by
  refine ⟨anyDigital_iff_or, ?_⟩
  rw [anyDigital_iff_or]
  tauto

/-- The word `İseek`, which is all letters: `seek` is found in it and does not stand by itself. -/
theorem digital_behind_dotted : anyDigital "\u0130seek" = true
    ∧ ¬ HasDigital (bounds · = true) "\u0130seek".toList :=
  ⟨by decide +kernel, not_hasDigital_dotted⟩

end Marker
end PlayableCards
