import PlayableCards.Proofs.Reader.Shape

/-!
# Words and numbers

A word ends with its last letter, whatever follows. A number ends only where a byte follows that
is not part of it, or where the text does; until then its kind stays open.
-/

namespace PlayableCards
namespace Reader

def words : List Bytes :=
  [[0x6E, 0x75, 0x6C, 0x6C], [0x74, 0x72, 0x75, 0x65], [0x66, 0x61, 0x6C, 0x73, 0x65]]

theorem run_word {letters : Bytes} (hletters : letters ≠ []) {w : Json} {index : Nat}
    {bytes : Bytes} {v : Json} {used : Nat} {rest : Bytes}
    (h : (word [] letters w).run index bytes = .value v used rest) : bytes = letters ++ rest := by
  induction letters generalizing index bytes with
  | nil => exact absurd rfl hletters
  | cons letter letters ih =>
    cases bytes with
    | nil => simp [run, finish] at h
    | cons b bytes =>
      simp only [run, step, stepWord] at h
      by_cases hb : b = letter
      · cases letters with
        | nil => simp_all [deliver]
        | cons next letters =>
          rw [if_pos hb] at h
          simp only [List.isEmpty_cons, Bool.false_eq_true, if_false] at h
          rw [hb, ih (List.cons_ne_nil _ _) h]
          rfl
      · simp [hb] at h

/-- A number at the end of a text is not settled. -/
theorem through_of_run_numeral {n : Numeral} {index : Nat} {bytes : Bytes} {v : Json} {used : Nat}
    (h : (numeral [] n).run index bytes = .value v used []) :
    (numeral [] n).through bytes ≠ none := by
  induction bytes generalizing n index with
  | nil => simp
  | cons b bytes ih =>
    simp only [run, step] at h
    cases hstep : n.step b with
    | next n' =>
      simp only [hstep] at h
      simpa only [through, step, hstep] using ih h
    | past =>
      simp only [hstep, pastNumber] at h
      cases hfinish : n.finish <;> simp [hfinish] at h
    | fault cause => simp [hstep] at h

theorem startValue_scalar {first : UInt8} (hfirst : Target.endsItself first = false) :
    (∃ letters v, startValue [] first = .next (word [] letters v) ∧ letters ≠ []
        ∧ first :: letters ∈ words)
      ∨ (∃ n, startValue [] first = .next (numeral [] n))
      ∨ startValue [] first = .fault .expectedValue 0 := by
  simp only [Target.endsItself, Bool.or_eq_false_iff, beq_eq_false_iff_ne] at hfirst
  obtain ⟨⟨hquote, hbracket⟩, hbrace⟩ := hfirst
  rw [startValue]
  rw [if_neg hquote, if_neg hbracket, if_neg hbrace]
  split
  · rename_i hb
    exact .inl ⟨_, _, rfl, by simp, by simp [words, hb]⟩
  split
  · rename_i hb
    exact .inl ⟨_, _, rfl, by simp, by simp [words, hb]⟩
  split
  · rename_i hb
    exact .inl ⟨_, _, rfl, by simp, by simp [words, hb]⟩
  split
  · exact .inr (.inl ⟨_, rfl⟩)
  · exact .inr (.inr rfl)

theorem mem_words_of_read {first : UInt8} {tail : Bytes} (hspace : Ascii.isSpace first = false)
    (hfirst : Target.endsItself first = false) {v : Json} {used : Nat}
    (h : read (first :: tail) = .value v used [])
    (hsettled : start.through (first :: tail) = none) :
    first :: tail ∈ words := by
  simp only [read, start, run, step, hspace, Bool.false_eq_true, if_false] at h
  simp only [through, start, step, hspace, Bool.false_eq_true, if_false] at hsettled
  rcases startValue_scalar hfirst with ⟨letters, w, hstart, hne, hmem⟩ | ⟨n, hstart⟩ | hstart
  · simp only [hstart] at h
    have := run_word hne h
    rw [List.append_nil] at this
    rwa [this]
  · simp only [hstart] at h hsettled
    exact absurd hsettled (through_of_run_numeral h)
  · simp [hstart] at h

theorem run_of_mem_words {letters : Bytes} (h : letters ∈ words) (index : Nat) (rest : Bytes) :
    ∃ v, start.run index (letters ++ rest) = .value v (index + letters.length) rest := by
  simp only [words, List.mem_cons, List.not_mem_nil, or_false] at h
  rcases h with rfl | rfl | rfl
  · exact ⟨.null, rfl⟩
  · exact ⟨.bool true, rfl⟩
  · exact ⟨.bool false, rfl⟩

end Reader

namespace Numeral

def isByte : Numeral → Bool
  | zero negative => !negative
  | whole negative digits => !negative && digits < 256
  | signed | long _ _ _ | point _ _ _ | fraction _ _ _ | longFraction _ _ _ | mark _ _ _
  | signedMark _ _ _ _ | power _ _ _ _ _ | vanished _ => false

theorem isByte_of_step {n n' : Numeral} {b : UInt8} (h : n.step b = .next n') (hn : n'.isByte) :
    n.isByte := by
  cases n <;> simp only [step, afterDigits, fractionDigit, powerDigit] at h <;> grind [isByte]

theorem finish_isByte {n : Numeral} {number : Number} (h : n.finish = .ok number) :
    n.isByte ↔ ∃ k : Int, number = .integer k ∧ 0 ≤ k ∧ k < 256 := by
  have hfloat : ∀ negative digits scale, float negative digits scale = .ok number →
      ∀ k, number ≠ .integer k := by
    intro negative digits scale hf k
    rw [float] at hf
    split at hf <;> cases hf
    simp
  cases n with
  | zero negative =>
    cases h
    cases negative <;> simp [isByte, integer]
  | whole negative digits =>
    cases h
    cases negative with
    | false =>
      simp only [isByte, integer, Bool.not_false, Bool.true_and, if_true, decide_eq_true_eq]
      refine ⟨fun h => ⟨digits, rfl, by omega⟩, ?_⟩
      rintro ⟨k, hk, hbound⟩
      cases hk
      omega
    | true =>
      simp only [isByte, integer, Bool.not_true, Bool.false_and, Bool.false_eq_true, if_false,
        false_iff]
      rintro ⟨k, hk, hbound⟩
      split at hk
      · cases hk
      · rename_i hzero
        have hneg : -(digits : Int) = k := Number.integer.inj hk
        simp only [Bool.or_eq_true, decide_eq_true_eq] at hzero
        omega
  | vanished => cases h; simp [isByte]
  | signed | point | mark | signedMark => cases h
  | long | fraction | longFraction | power =>
    simp only [isByte, Bool.false_eq_true, false_iff]
    rintro ⟨k, hk, -⟩
    exact hfloat _ _ _ h k hk

end Numeral

namespace Reader

theorem isByte_of_run {n : Numeral} {index : Nat} {bytes : Bytes} {k : Int} {used : Nat}
    {rest : Bytes} (h : (numeral [] n).run index bytes = .value (.number (.integer k)) used rest)
    (hk : 0 ≤ k ∧ k < 256) : n.isByte := by
  induction bytes generalizing n index with
  | nil =>
    rw [run] at h
    split at h <;> cases h
    rename_i hfinish
    obtain ⟨n', number, hn, hn', hnumber⟩ := finish_eq_ok hfinish
    cases hn
    cases hnumber
    exact (Numeral.finish_isByte hn').mpr ⟨k, rfl, hk⟩
  | cons b bytes ih =>
    simp only [run, step] at h
    cases hstep : n.step b with
    | next n' =>
      simp only [hstep] at h
      exact Numeral.isByte_of_step hstep (ih h)
    | past =>
      simp only [hstep, pastNumber] at h
      cases hfinish : n.finish <;> simp only [hfinish] at h <;> cases h
      exact (Numeral.finish_isByte hfinish).mpr ⟨k, rfl, hk⟩
    | fault cause =>
      simp only [hstep] at h
      cases h

end Reader
end PlayableCards
