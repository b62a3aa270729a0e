import PlayableCards.Proofs.Stream.Next
import PlayableCards.Proofs.Verdict

/-!
# Foresight

When no part of a text shows more than all of it. A text with an item or the closing bracket in
front is always so; a text at fault is unless it is a word with more text on it; a text that shows
nothing is unless a part of it is a number that the target refuses.
-/

namespace PlayableCards
namespace Target

variable {t : Target α}

/-- A target that refuses what it refuses for good: what it says then does not ask for more text,
and no number that it refuses begins a value that it takes. -/
structure Firm (t : Target α) : Prop where
  unwanted : ∀ v cause, t.convert v = .error cause → cause.category = .unwanted
  numbers : ∀ part text : Bytes, part <+: text → t.RefusesNumber part →
    ∀ value used, t.decode text true ≠ .complete value used

/-- Some part of the text from its start is a number that the target refuses. -/
def RefusesStart (t : Target α) (text : Bytes) : Prop :=
  ∃ part, part <+: text ∧ t.RefusesNumber part

theorem not_refusesNumber_map (f : Json → α) (text : Bytes) : ¬ (map f).RefusesNumber text := by
  rintro ⟨number, cause, -, hrefuses⟩
  cases hrefuses

theorem firm_map (f : Json → α) : (map f).Firm where
  unwanted := by
    intro v cause h
    cases h
  numbers := fun part _ _ hnumber => absurd hnumber (not_refusesNumber_map f part)

theorem convert_byte {v : Json} {value : UInt8} (h : byte.convert v = .ok value) :
    ∃ k : Int, v = .number (.integer k) ∧ 0 ≤ k ∧ k < 256 := by
  simp only [byte] at h
  split at h
  · rename_i k
    split at h
    · exact ⟨k, rfl, ‹_›⟩
    · cases h
  · cases h

theorem firm_byte : byte.Firm where
  unwanted := by
    intro v cause h
    simp only [byte] at h
    split at h
    · split at h <;> cases h
      rfl
    · cases h
      rfl
  numbers := by
    rintro part text ⟨more, rfl⟩ ⟨number, cause, hpart, hrefuses⟩ value used hdecode
    obtain ⟨first, tail, rest, -, hread, -⟩ := decode_eq_complete hdecode
    obtain ⟨v, htext, hconvert⟩ := readFirst_eq_ok hread
    cases hthrough : Reader.start.through part with
    | none =>
      rw [Reader.read_of_settled hthrough, hpart] at htext
      cases htext
      rw [hrefuses] at hconvert
      cases hconvert
    | some r =>
      -- the number goes on behind the part, and is a byte in the end
      obtain ⟨n, number', rfl, hn, hnumber⟩ := Reader.number_of_through hthrough hpart
      cases hnumber
      rw [Reader.read_of_through hthrough] at htext
      obtain ⟨k, rfl, hk⟩ := convert_byte hconvert
      obtain ⟨k', rfl, hk'⟩ := (Numeral.finish_isByte hn).mp (Reader.isByte_of_run htext hk)
      simp only [byte, if_pos hk'] at hrefuses
      cases hrefuses

theorem firm_string : string.Firm where
  unwanted := by
    intro v cause h
    simp only [string] at h
    split at h <;> cases h
    rfl
  numbers := by
    rintro part text ⟨more, rfl⟩ ⟨number, cause, hpart, hrefuses⟩ value used hdecode
    obtain ⟨first, tail, rest, -, hread, -⟩ := decode_eq_complete hdecode
    obtain ⟨v, htext, hconvert⟩ := readFirst_eq_ok hread
    obtain ⟨b, tail, hb, hnumber⟩ := Reader.begunBy_of_read hpart
    obtain ⟨b', tail', hb', hshape⟩ := Reader.begunBy_of_read htext
    rw [dropWhile_append_of_cons hb] at hb'
    cases hb'
    rw [hnumber] at hshape
    cases v with
    | string s => cases hshape
    | null | bool | number | array | object => cases hconvert

theorem refusal?_of_endsItself {first : UInt8} (h : endsItself first = false) :
    t.refusal? first = none := by
  simp only [endsItself, Bool.or_eq_false_iff, beq_eq_false_iff_ne] at h
  rw [refusal?]
  split
  · rfl
  · rw [if_neg h.1.2, if_neg h.2]

theorem endsItself_of_mem_words {word : Bytes} (h : word ∈ Reader.words) :
    ∃ first letters, word = first :: letters ∧ endsItself first = false := by
  simp only [Reader.words, List.mem_cons, List.not_mem_nil, or_false] at h
  rcases h with rfl | rfl | rfl <;> exact ⟨_, _, rfl, rfl⟩

theorem decode_of_runsOn (hfirm : t.Firm) {text : Bytes}
    (h : runsOn (text.dropWhile Ascii.isSpace) = true) :
    ∃ fault, t.decode text true = .invalid fault := by
  simp only [runsOn, List.any_eq_true, Bool.and_eq_true, List.isPrefixOf_iff_prefix] at h
  obtain ⟨word, hword, ⟨more, hmore⟩, hrun⟩ := h
  rw [← hmore, List.drop_left] at hrun
  obtain ⟨first, letters, rfl, hfirst⟩ := endsItself_of_mem_words hword
  obtain ⟨v, hrest⟩ := Reader.run_of_mem_words hword (blanks text) more
  have hread := Reader.read_eq_run text
  rw [← hmore, hrest] at hread
  have hprecede : mayPrecede first more = false := by
    cases more with
    | nil => cases hrun
    | cons b more => simpa [mayPrecede, hfirst] using hrun
  simp only [decode, ← hmore, List.cons_append, readNext, readFirst_eq hmore.symm,
    refusal?_of_endsItself hfirst, hread]
  cases hconvert : t.convert v with
  | error cause => simp [Fault.inText, hfirm.unwanted v cause hconvert]
  | ok value => simp [hprecede, Fault.inText, Cause.category]

theorem sight?_of_mem_words (f : Json → α) {word : Bytes} (h : word ∈ Reader.words) :
    ∃ value used, Stream.sight? (map f) false word = some (.item value used) := by
  simp only [Reader.words, List.mem_cons, List.not_mem_nil, or_false] at h
  rcases h with rfl | rfl | rfl
  · exact ⟨f .null, 4, rfl⟩
  · exact ⟨f (.bool true), 4, rfl⟩
  · exact ⟨f (.bool false), 5, rfl⟩

theorem sight?_cons {b : UInt8} (hb : b ≠ Ascii.closeBracket) (rest : Bytes) (final : Bool) :
    Stream.sight? t final (b :: rest) =
      match t.decode (b :: rest) final with
      | .complete value used => some (.item value used)
      | .invalid fault => some (.fault fault)
      | .incomplete => none :=
  if_neg hb

theorem sight?_of_refusesNumber (hfirm : t.Firm) {text : Bytes} (h : t.RefusesNumber text) :
    ∃ fault, Stream.sight? t false text = some (.fault fault) := by
  obtain ⟨number, cause, hread, hrefuses⟩ := h
  obtain ⟨first, tail, hfirst, hbegun⟩ := Reader.begunBy_of_read hread
  have hscalar : endsItself first = false := by
    rw [Shape.begunBy] at hbegun
    grind [endsItself, Json.shape]
  have hdecode : t.decode text false = .invalid (.inText text cause text.length) := by
    simp only [decode, hfirst, readNext, readFirst_eq hfirst, refusal?_of_endsItself hscalar, hread,
      hrefuses]
    simp [Fault.inText, hfirm.unwanted _ cause hrefuses]
  cases text with
  | nil => cases hfirst
  | cons b rest =>
    have hb : b ≠ Ascii.closeBracket := by
      rintro rfl
      cases hfirst
      cases hbegun
    exact ⟨_, by rw [sight?_cons hb, hdecode]⟩

/-- Other than run on words and refused numbers, no part shows more than the whole. -/
theorem foresees_of {text : Bytes} (hword : runsOn (text.dropWhile Ascii.isSpace) = false)
    (hnumber : ¬ t.RefusesStart text) : t.Foresees text := by
  rintro part ⟨more, rfl⟩ seen hseen
  have hpart : ¬ t.RefusesNumber part := fun h => hnumber ⟨part, List.prefix_append _ _, h⟩
  cases part with
  | nil => cases hseen
  | cons b part =>
    by_cases hb : b = Ascii.closeBracket
    · subst hb
      cases hseen
      rfl
    · rw [sight?_cons hb] at hseen
      rw [List.cons_append, sight?_cons hb, ← List.cons_append]
      cases hdecode : t.decode (b :: part) false with
      | complete value used =>
        rcases decode_complete_append hdecode more true with h | h
        · rw [h, ← hseen, hdecode]
        · rw [hword] at h
          cases h
      | invalid fault => rw [decode_invalid_append hdecode hpart more true, ← hseen, hdecode]
      | incomplete =>
        rw [hdecode] at hseen
        cases hseen

theorem foresees_of_item (hfirm : t.Firm) {text : Bytes} {value : α} {used : Nat}
    (h : Stream.sight? t true text = some (.item value used)) : t.Foresees text := by
  have hdecode := Stream.sight?_item h
  refine foresees_of (Bool.eq_false_iff.mpr fun hrun => ?_) ?_
  · obtain ⟨fault, hfault⟩ := decode_of_runsOn hfirm hrun
    cases hdecode.symm.trans hfault
  · rintro ⟨part, hpart, hnumber⟩
    exact hfirm.numbers part text hpart hnumber value used hdecode

theorem foresees_iff_of_ended (hfirm : t.Firm) {text : Bytes}
    (h : Stream.sight? t true text = none ∨ Stream.sight? t true text = some .close) :
    t.Foresees text ↔ ¬ t.RefusesStart text := by
  constructor
  · rintro hforesees ⟨part, hpart, hnumber⟩
    obtain ⟨fault, hfault⟩ := sight?_of_refusesNumber hfirm hnumber
    rw [hforesees part hpart _ hfault] at h
    rcases h with h | h <;> cases h
  · intro hnumber
    refine foresees_of (Bool.eq_false_iff.mpr fun hrun => ?_) hnumber
    obtain ⟨fault, hfault⟩ := decode_of_runsOn hfirm hrun
    cases text with
    | nil => cases hfault
    | cons b text =>
      by_cases hb : b = Ascii.closeBracket
      · subst hb
        cases hrun
      · rw [sight?_cons hb, hfault] at h
        rcases h with h | h <;> cases h

theorem foresees_iff_of_fault (f : Json → α) {text : Bytes}
    (htext : text.dropWhile Ascii.isSpace = text) {fault : Fault}
    (h : Stream.sight? (map f) true text = some (.fault fault)) :
    (map f).Foresees text ↔ runsOn text = false := by
  constructor
  · intro hforesees
    refine Bool.eq_false_iff.mpr fun hrun => ?_
    simp only [runsOn, List.any_eq_true, Bool.and_eq_true, List.isPrefixOf_iff_prefix] at hrun
    obtain ⟨word, hword, hprefix, -⟩ := hrun
    obtain ⟨value, used, hseen⟩ := sight?_of_mem_words f hword
    cases (hforesees word hprefix _ hseen).symm.trans h
  · intro hrun
    refine foresees_of (by rwa [htext]) ?_
    rintro ⟨part, -, hnumber⟩
    exact not_refusesNumber_map f part hnumber

end Target
end PlayableCards
