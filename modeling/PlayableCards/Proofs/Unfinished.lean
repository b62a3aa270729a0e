import PlayableCards.Proofs.Portion
import PlayableCards.Proofs.Reader.Closing

/-!
# Unfinished values

What a value's text begins with is waited for, wherever it breaks off. At the end of the input such
a buffer is incomplete because its reader has not come to an end. Most readers would with the right
bytes behind them; those that are stranded would not, and the buffer is taken for incomplete all
the same.
-/

namespace PlayableCards

theorem Numeral.finish_of_past {n : Numeral} {b : UInt8} {cause : Cause} (h : n.step b = .past)
    (hfinish : n.finish = .error cause) : cause = .numberOutOfRange := by
  rcases Numeral.finish_error hfinish with hcategory | hrange
  · cases n with
    | signed | point | mark | signedMark =>
      simp only [step] at h
      repeat' split at h
      all_goals cases h
    | zero | whole | vanished => cases hfinish
    | _ => exact Numeral.float_error hfinish
  · exact hrange

namespace Reader

theorem step_fault {r : Reader} {b : UInt8} {cause : Cause} {back : Nat}
    (h : r.step b = .fault cause back) : cause.category = .malformed := by
  cases r with
  | value s | firstItem s | nextItem s items =>
    simp only [step, startValue, openWith, deliver] at h
    grind [Cause.category]
  | numeral stack n =>
    have hstep : ∀ cause, n.step b = .fault cause → cause.category = .malformed := by
      intro cause hn
      cases n <;> simp only [Numeral.step, Numeral.afterDigits, Numeral.powerDigit] at hn <;>
        grind [Cause.category]
    simp only [step, pastNumber, stepAfterItem, stepAfterMember, deliver] at h
    grind [Cause.category, Numeral.finish_of_past]
  | string s role content escape =>
    simp only [step, stepString, closeString, takeUnit, deliver] at h
    grind [Cause.category]
  | word s rest v =>
    simp only [step, stepWord, deliver] at h
    grind [Cause.category]
  | _ =>
    simp only [step, stepAfterItem, stepAfterMember, startKey, deliver] at h
    grind [Cause.category]

theorem through_of_unfinished {r : Reader} {index : Nat} {bytes : Bytes} {cause : Cause}
    {at' : Nat} (h : r.run index bytes = .fault cause at')
    (hcause : cause.category = .unfinished) :
    ∃ r', r.through bytes = some r' ∧ r'.finish = .error cause := by
  induction bytes generalizing r index with
  | nil =>
    rw [run] at h
    split at h <;> cases h
    exact ⟨r, rfl, ‹_›⟩
  | cons b bytes ih =>
    rw [run] at h
    rw [through]
    cases hstep : r.step b <;> simp only [hstep] at h ⊢
    case next next => exact ih h
    case fault =>
      cases h
      cases (step_fault hstep).symm.trans hcause
    all_goals cases h

end Reader

namespace Target

/-- **An unfinished value is waited for.** Whatever the bytes of a value begin with is incomplete
while more may come, unless it is all of them: it is neither refused nor taken for a value. -/
theorem unfinished_waits (f : Json → α) {text part : Bytes} {value : α}
    (h : (map f).decode text true = .complete value text.length) (hpart : part <+: text)
    (hproper : part ≠ text) : (map f).decode part false = .incomplete := by
  obtain ⟨first, tail, rest, -, hread, -, -⟩ := decode_eq_complete h
  obtain ⟨v, hvalue, -⟩ := readFirst_eq_ok hread
  have hlength : part.length < text.length :=
    Nat.lt_of_le_of_ne hpart.length_le fun heq => hproper (hpart.eq_of_length heq)
  obtain ⟨r, hthrough⟩ := Reader.through_of_cut hvalue hpart hlength
  exact decode_of_through_map f hthrough

/-- The number `120` after two digits, and `["\uD83D\uDE00"]` within the second half of a pair. -/
theorem unfinished_waits_for_digit_and_pair :
    (map id).decode [0x31, 0x32] false = .incomplete
      ∧ (map id).decode [0x5B, 0x22, 0x5C, 0x75, 0x44, 0x38, 0x33, 0x44, 0x5C, 0x75, 0x44] false
        = .incomplete := by
  have hnumber : (map id).decode [0x31, 0x32, 0x30] true
      = .complete (.number (.integer 120)) 3 := by rfl
  have hstring : (map id).decode [0x5B, 0x22, 0x5C, 0x75, 0x44, 0x38, 0x33, 0x44, 0x5C, 0x75, 0x44,
      0x45, 0x30, 0x30, 0x22, 0x5D] true = .complete (.array [.string "😀"]) 16 := by rfl
  exact ⟨unfinished_waits id hnumber (by decide) (by decide),
    unfinished_waits id hstring (by decide) (by decide)⟩

theorem through_of_incomplete {f : Json → α} {buffer : Bytes}
    (h : (map f).decode buffer true = .incomplete) :
    ∃ r cause, Reader.start.through buffer = some r ∧ r.finish = .error cause
      ∧ cause.category = .unfinished := by
  cases hfirst : buffer.dropWhile Ascii.isSpace with
  | nil =>
    rw [List.dropWhile_eq_nil_iff] at hfirst
    exact ⟨_, _, Reader.through_blanks (List.all_eq_true.mpr hfirst), rfl, rfl⟩
  | cons first tail =>
    simp only [decode, hfirst, readNext, readFirst_eq hfirst, refusal?, map] at h
    cases hread : Reader.read buffer with
    | value v used rest =>
      by_cases hprecede : mayPrecede first rest = true <;>
        simp [hread, hprecede, Fault.inText, Cause.category] at h
    | fault cause index =>
      simp only [hread, Fault.inText] at h
      cases hcategory : cause.category <;> simp only [hcategory] at h
      case unfinished =>
        obtain ⟨r, hthrough, hfinish⟩ := Reader.through_of_unfinished hread hcategory
        exact ⟨r, cause, hthrough, hfinish, hcategory⟩
      case malformed => simp at h
      case unwanted => cases h

theorem decode_ne_complete (f : Json → α) {buffer : Bytes} {r : Reader}
    (hthrough : Reader.start.through buffer = some r) (h : r.Stranded) (more : Bytes)
    (final : Bool) (value : α) (used : Nat) :
    (map f).decode (buffer ++ more) final ≠ .complete value used := by
  intro hdecode
  obtain ⟨first, tail, rest, -, hread, -, -⟩ := decode_eq_complete hdecode
  obtain ⟨v, hvalue, -⟩ := readFirst_eq_ok hread
  rw [Reader.read_of_through hthrough] at hvalue
  have hstart : Reader.start.Unspent := trivial
  exact h.run_ne_value (Reader.unspent_of_through hstart hthrough) _ _ _ _ _ hvalue

/-- **What is incomplete at the end of the input** begins a longer text that is a value, unless the
reader is stranded: unless the bytes of its string are no UTF-8, the digits of its escape make no
unit that may stand there, or its number is out of range whatever the exponent upward. -/
theorem begins_value_iff (f : Json → α) {buffer : Bytes}
    (h : (map f).decode buffer true = .incomplete) :
    (∃ more value used, (map f).decode (buffer ++ more) true = .complete value used
        ∧ buffer.length < used)
      ↔ ¬ ∃ r, Reader.start.through buffer = some r ∧ r.Stranded := by
  constructor
  · rintro ⟨more, value, used, hdecode, -⟩ ⟨r, hthrough, hstranded⟩
    exact decode_ne_complete f hthrough hstranded more true value used hdecode
  · intro hstranded
    obtain ⟨r, cause, hthrough, hfinish, hcategory⟩ := through_of_incomplete h
    have hstart : Reader.start.Unspent := trivial
    obtain ⟨more, v, hrun⟩ := Reader.canEnd_of_not_stranded
      (Reader.unspent_of_through hstart hthrough) (fun hr => hstranded ⟨r, hthrough, hr⟩) (by
        rintro hrange
        cases hfinish.symm.trans hrange
        cases hcategory)
    have hread := Reader.read_of_through hthrough more
    rw [hrun] at hread
    have hdecode := decode_of_read f hread rfl (show (!true && _) = false from rfl)
    refine ⟨more, f v, _, hdecode, ?_⟩
    cases more with
    | nil =>
      rw [List.append_nil, h] at hdecode
      cases hdecode
    | cons b more =>
      rw [List.length_cons]
      omega

/-- The buffer `["a\uD83D`, which ends behind the first half of a pair. -/
theorem begins_value_within_pair :
    (map id).decode [0x5B, 0x22, 0x61, 0x5C, 0x75, 0x44, 0x38, 0x33, 0x44] true = .incomplete
      ∧ ∃ more value used, (map id).decode
          ([0x5B, 0x22, 0x61, 0x5C, 0x75, 0x44, 0x38, 0x33, 0x44] ++ more) true
          = .complete value used ∧ 9 < used := by
  have hincomplete : (map id).decode [0x5B, 0x22, 0x61, 0x5C, 0x75, 0x44, 0x38, 0x33, 0x44] true
      = .incomplete := by rfl
  refine ⟨hincomplete, (begins_value_iff id hincomplete).mpr ?_⟩
  rintro ⟨r, hthrough, hstranded⟩
  cases hthrough
  rcases hstranded with hwhole | hend
  · exact hwhole (Utf8.whole_char 'a')
  · exact hend trivial

/-- **The buffer `"\uZZ`** is incomplete at the end of the input, though `Z` is no hexadecimal
digit: no text that it begins is a value. -/
theorem begins_no_value_within_unit :
    (map id).decode [0x22, 0x5C, 0x75, 0x5A, 0x5A] true = .incomplete
      ∧ ∀ more final value used, (map id).decode ([0x22, 0x5C, 0x75, 0x5A, 0x5A] ++ more) final
        ≠ .complete value used := by
  refine ⟨rfl, decode_ne_complete id (r := .string [] .value [] (.unit none [0x5A, 0x5A])) rfl
    (.inr ?_)⟩
  have hnone : ∀ more, Reader.unitValue? (more ++ [0x5A, 0x5A]) = none := by
    intro more
    induction more with
    | nil => rfl
    | cons b more ih => rw [List.cons_append, Reader.unitValue?, ih]; rfl
  rintro ⟨more, unit, -, hvalue, -⟩
  cases (hnone more).symm.trans hvalue

end Target
end PlayableCards
