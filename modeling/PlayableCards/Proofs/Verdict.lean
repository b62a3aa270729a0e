import Mathlib.Data.List.TakeWhile
import PlayableCards.Proofs.Position
import PlayableCards.Proofs.Reader.Scalar

/-!
# Verdicts on a buffer that may grow

What is decoded from a buffer before the end of the input is decoded from every text that the
buffer begins, with two exceptions: a word at the end of the buffer may turn out to be run into by
what follows, and a number there that the target refuses may turn out to be longer.
-/

namespace PlayableCards
namespace Target

variable {t : Target α}

/-- The text is a number, and not one for this target. -/
def RefusesNumber (t : Target α) (text : Bytes) : Prop :=
  ∃ number cause, Reader.read text = .value (.number number) text.length []
    ∧ t.convert (.number number) = .error cause

/-- A word that text follows directly. -/
def runsOn (text : Bytes) : Bool :=
  Reader.words.any fun word =>
    word.isPrefixOf text && (text.drop word.length).head?.any (!separates ·)

theorem readFirst_eq {text tail : Bytes} {first : UInt8}
    (h : text.dropWhile Ascii.isSpace = first :: tail) :
    t.readFirst text =
      match t.refusal? first with
      | some cause => .error (.inText text cause (blanks text))
      | none =>
        match Reader.read text with
        | .fault cause index => .error (.inText text cause index)
        | .value v used rest =>
          match t.convert v with
          | .error cause => .error (.inText text cause used)
          | .ok value => .ok ⟨value, used, rest⟩ := by
  have hhead : (text.drop (blanks text)).head?.bind t.refusal? = t.refusal? first := by
    simp [drop_blanks, h]
  rw [← hhead]
  exact readFirst.eq_1 t text

/-- What is settled by a buffer is read from every text that it begins. -/
theorem readFirst_append {text tail : Bytes} {first : UInt8}
    (h : text.dropWhile Ascii.isSpace = first :: tail)
    (hsettled : t.refusal? first = none → Reader.start.through text = none) (more : Bytes) :
    t.readFirst (text ++ more)
      = (t.readFirst text).map fun item => { item with rest := item.rest ++ more } := by
  rw [readFirst_eq h, readFirst_eq (dropWhile_append_of_cons h more), blanks_append h]
  cases hrefusal : t.refusal? first with
  | some cause => simp only [Except.map, Fault.inText_append (blanks_le text)]
  | none =>
    simp only [Reader.read_of_settled (hsettled hrefusal)]
    cases hread : Reader.read text with
    | fault cause index =>
      have hindex := Reader.read_fault_le hread
      simp only [Reader.Outcome.before, Except.map, Fault.inText_append hindex]
    | value v used rest =>
      have hused : used ≤ text.length := by
        have := Reader.read_value hread
        omega
      simp only [Reader.Outcome.before]
      cases t.convert v with
      | error cause => simp only [Except.map, Fault.inText_append hused]
      | ok value => rfl

/-- As long as nothing is settled, a buffer is incomplete, unless it is a refused number. -/
theorem decode_of_through {text tail : Bytes} {first : UInt8}
    (h : text.dropWhile Ascii.isSpace = first :: tail) (hrefusal : t.refusal? first = none)
    {r : Reader} (hr : Reader.start.through text = some r) (hnumber : ¬ t.RefusesNumber text) :
    t.decode text false = .incomplete := by
  have hread : Reader.read text = r.run text.length [] := by
    simpa using Reader.read_of_through hr []
  simp only [decode, h, readNext, readFirst_eq h, hrefusal]
  cases hfinish : r.finish with
  | ok v =>
    obtain ⟨n, number, rfl, hn, rfl⟩ := Reader.finish_eq_ok hfinish
    have hgrow : mayGrow text [] = true := by
      rw [mayGrow, Reader.endsInDigit_of_through hr, Numeral.endsInDigit_of_finish hn]
      rfl
    simp only [hread, Reader.run, hfinish]
    cases hconvert : t.convert (.number number) with
    | error cause =>
      exact absurd ⟨number, cause, by simp only [hread, Reader.run, hfinish], hconvert⟩ hnumber
    | ok value => simp [mayPrecede, hgrow]
  | error cause =>
    have hend := (Fault.isEndOf_inText (Nat.le_refl text.length) cause).mpr rfl
    simp only [hread, Reader.run, hfinish, Fault.inText, List.take_length] at hend ⊢
    rcases Reader.finish_error hfinish with hcategory | rfl
    · simp [hcategory]
    · simp [Cause.category, hend]

theorem readNext_error {text tail : Bytes} {first : UInt8}
    (h : text.dropWhile Ascii.isSpace = first :: tail) {fault : Fault}
    (hnext : t.readNext first text = .error fault) :
    ∃ cause index, index ≤ text.length ∧ fault = .inText text cause index := by
  rw [readNext, readFirst_eq h] at hnext
  cases hrefusal : t.refusal? first with
  | some cause =>
    simp only [hrefusal, Except.error.injEq] at hnext
    exact ⟨cause, blanks text, blanks_le text, hnext.symm⟩
  | none =>
    simp only [hrefusal] at hnext
    cases hread : Reader.read text with
    | fault cause index =>
      simp only [hread, Except.error.injEq] at hnext
      exact ⟨cause, index, Reader.read_fault_le hread, hnext.symm⟩
    | value v used rest =>
      have hused := Reader.read_value hread
      simp only [hread] at hnext
      cases hconvert : t.convert v with
      | error cause =>
        simp only [hconvert, Except.error.injEq] at hnext
        exact ⟨cause, used, by omega, hnext.symm⟩
      | ok value =>
        simp only [hconvert] at hnext
        split at hnext
        · cases hnext
        · rename_i hprecede
          cases rest with
          | nil => simp [mayPrecede] at hprecede
          | cons b rest =>
            simp only [Except.error.injEq] at hnext
            exact ⟨.trailingCharacters, used + 1, by simp at hused; omega, hnext.symm⟩

theorem settled_of_decode {text tail : Bytes} {first : UInt8}
    (h : text.dropWhile Ascii.isSpace = first :: tail) (hnumber : ¬ t.RefusesNumber text)
    (hdecode : t.decode text false ≠ .incomplete) (hrefusal : t.refusal? first = none) :
    Reader.start.through text = none := by
  cases hthrough : Reader.start.through text with
  | none => rfl
  | some r => exact absurd (decode_of_through h hrefusal hthrough hnumber) hdecode

theorem decode_eq_complete {text : Bytes} {final : Bool} {value : α} {used : Nat}
    (h : t.decode text final = .complete value used) :
    ∃ first tail rest, text.dropWhile Ascii.isSpace = first :: tail
      ∧ t.readFirst text = .ok ⟨value, used, rest⟩ ∧ mayPrecede first rest = true
      ∧ (!final && mayGrow text rest) = false := by
  rw [decode] at h
  split at h
  · cases h
  · rename_i first tail hfirst
    rw [readNext] at h
    cases hread : t.readFirst text with
    | error fault =>
      simp only [hread] at h
      repeat' split at h
      all_goals cases h
    | ok item =>
      simp only [hread] at h
      by_cases hprecede : mayPrecede first item.rest = true
      · rw [if_pos hprecede] at h
        simp only at h
        split at h
        · cases h
        · rename_i hgrow
          cases h
          exact ⟨first, tail, item.rest, hfirst, rfl, hprecede, by simpa using hgrow⟩
      · rw [if_neg hprecede] at h
        simp only at h
        repeat' split at h
        all_goals cases h

theorem decode_of_readFirst {text tail : Bytes} {first : UInt8}
    (h : text.dropWhile Ascii.isSpace = first :: tail) {value : α} {used : Nat} {rest : Bytes}
    (hread : t.readFirst text = .ok ⟨value, used, rest⟩) (hprecede : mayPrecede first rest = true)
    {final : Bool} (hgrow : (!final && mayGrow text rest) = false) :
    t.decode text final = .complete value used := by
  simp [decode, h, readNext, hread, hprecede, hgrow]

theorem mayPrecede_append {first : UInt8} {rest : Bytes} (h : rest ≠ []) (more : Bytes) :
    mayPrecede first (rest ++ more) = mayPrecede first rest := by
  cases rest with
  | nil => exact absurd rfl h
  | cons b rest => rfl

theorem mayGrow_of_ne_nil {text rest : Bytes} (h : rest ≠ []) : mayGrow text rest = false := by
  cases rest with
  | nil => exact absurd rfl h
  | cons b rest => rfl

theorem runsOn_of_settled {text tail : Bytes} {first : UInt8}
    (h : text.dropWhile Ascii.isSpace = first :: tail) {v : Json} {used : Nat}
    (hread : Reader.read text = .value v used []) (hsettled : Reader.start.through text = none)
    {more : Bytes} (hprecede : mayPrecede first more = false) :
    runsOn ((text ++ more).dropWhile Ascii.isSpace) = true := by
  simp only [mayPrecede, Bool.or_eq_false_iff] at hprecede
  obtain ⟨hfirst, hmore⟩ := hprecede
  have hsplit : text = text.takeWhile Ascii.isSpace ++ first :: tail := by
    rw [← h, List.takeWhile_append_dropWhile]
  rw [hsplit, Reader.through_append, Reader.through_takeWhile, Option.bind_some] at hsettled
  obtain ⟨used', hread'⟩ := Reader.read_dropWhile hread
  rw [h] at hread'
  have hword := Reader.mem_words_of_read (neg_of_dropWhile h) hfirst hread' hsettled
  rw [dropWhile_append_of_cons h, ← List.cons_append]
  refine List.any_eq_true.mpr ⟨first :: tail, hword, ?_⟩
  rw [List.drop_left]
  cases more with
  | nil => simp at hmore
  | cons b more => simpa using hmore

theorem settled_of_complete {text tail : Bytes} {first : UInt8}
    (hfirst : text.dropWhile Ascii.isSpace = first :: tail) {value : α} {used : Nat}
    (h : t.decode text false = .complete value used) (hrefusal : t.refusal? first = none) :
    Reader.start.through text = none := by
  refine settled_of_decode hfirst ?_ (by simp [h]) hrefusal
  rintro ⟨number, cause, hnumber, hrefuses⟩
  obtain ⟨_, _, rest, -, hread, -⟩ := decode_eq_complete h
  obtain ⟨v, hvalue, hconvert⟩ := readFirst_eq_ok hread
  rw [hvalue] at hnumber
  cases hnumber
  rw [hconvert] at hrefuses
  cases hrefuses

theorem decode_append_of_mayPrecede {text tail : Bytes} {first : UInt8}
    (hfirst : text.dropWhile Ascii.isSpace = first :: tail) {value : α} {used : Nat} {rest : Bytes}
    (h : t.decode text false = .complete value used)
    (hread : t.readFirst text = .ok ⟨value, used, rest⟩)
    {more : Bytes} (hprecede : mayPrecede first (rest ++ more) = true) (final : Bool) :
    t.decode (text ++ more) final = .complete value used := by
  obtain ⟨_, _, rest', -, hread', -, hgrow⟩ := decode_eq_complete h
  cases hread.symm.trans hread'
  have hmore := readFirst_append hfirst (settled_of_complete hfirst h) more
  rw [hread] at hmore
  refine decode_of_readFirst (dropWhile_append_of_cons hfirst more) hmore hprecede ?_
  cases rest with
  | cons b rest => simp [mayGrow]
  | nil =>
    cases more with
    | nil => cases final <;> simp_all
    | cons b more => simp [mayGrow]

/-- **A value decoded from a buffer is decoded from every text that the buffer begins**, unless it
is a word that the text runs into. -/
theorem decode_complete_append {text : Bytes} {value : α} {used : Nat}
    (h : t.decode text false = .complete value used) (more : Bytes) (final : Bool) :
    t.decode (text ++ more) final = .complete value used
      ∨ runsOn ((text ++ more).dropWhile Ascii.isSpace) = true := by
  obtain ⟨first, tail, rest, hfirst, hread, hprecede, -⟩ := decode_eq_complete h
  cases hrest : rest with
  | cons b rest' =>
    refine .inl (decode_append_of_mayPrecede hfirst h hread ?_ final)
    rwa [mayPrecede_append (by simp [hrest])]
  | nil =>
    subst hrest
    cases hrun : mayPrecede first more with
    | true => exact .inl (decode_append_of_mayPrecede hfirst h hread hrun final)
    | false =>
      obtain ⟨v, hvalue, -⟩ := readFirst_eq_ok hread
      refine .inr (runsOn_of_settled hfirst hvalue (settled_of_complete hfirst h ?_) hrun)
      rw [readFirst_eq hfirst] at hread
      cases hrefusal : t.refusal? first <;> simp_all

theorem readNext_append_error {text tail : Bytes} {first : UInt8}
    (h : text.dropWhile Ascii.isSpace = first :: tail)
    (hsettled : t.refusal? first = none → Reader.start.through text = none) {fault : Fault}
    (hnext : t.readNext first text = .error fault) (more : Bytes) :
    t.readNext first (text ++ more) = .error fault := by
  have hmore := readFirst_append h hsettled more
  rw [readNext] at hnext ⊢
  cases hread : t.readFirst text with
  | error fault' =>
    simp only [hread] at hnext hmore
    simpa only [hmore, Except.map] using hnext
  | ok item =>
    simp only [hread] at hnext hmore
    cases hrest : item.rest with
    | nil => simp [hrest, mayPrecede] at hnext
    | cons b rest =>
      obtain ⟨v, hvalue, -⟩ := readFirst_eq_ok hread
      have hlength := Reader.read_value hvalue
      rw [hrest, List.length_cons] at hlength
      split at hnext
      · cases hnext
      · rename_i hprecede
        have hrest' : item.rest ≠ [] := by simp [hrest]
        simp only [hmore, Except.map, mayPrecede_append hrest', hprecede, if_false,
          Fault.inText_append (show item.used + 1 ≤ text.length by omega), Bool.false_eq_true]
        exact hnext

theorem decode_eq_invalid {text : Bytes} {final : Bool} {fault : Fault}
    (h : t.decode text final = .invalid fault) :
    ∃ first tail, text.dropWhile Ascii.isSpace = first :: tail
      ∧ t.readNext first text = .error fault ∧ fault.cause.category ≠ .unfinished
      ∧ (fault.cause.category = .malformed → (!final && fault.position.isEndOf text) = false) := by
  rw [decode] at h
  split at h
  · cases h
  · rename_i first tail hfirst
    refine ⟨first, tail, hfirst, ?_⟩
    cases hnext : t.readNext first text with
    | ok item =>
      simp only [hnext] at h
      split at h <;> cases h
    | error fault' =>
      simp only [hnext] at h
      cases hcategory : fault'.cause.category <;> simp only [hcategory] at h
      case unfinished => cases h
      case unwanted =>
        cases h
        simp [hcategory]
      case malformed =>
        split at h
        · cases h
        · rename_i hend
          cases h
          simpa [hcategory] using hend

theorem decode_of_readNext_error {text tail : Bytes} {first : UInt8}
    (h : text.dropWhile Ascii.isSpace = first :: tail) {fault : Fault}
    (hnext : t.readNext first text = .error fault) (hcategory : fault.cause.category ≠ .unfinished)
    {final : Bool}
    (hend : fault.cause.category = .malformed → (!final && fault.position.isEndOf text) = false) :
    t.decode text final = .invalid fault := by
  simp only [decode, h, hnext]
  cases hc : fault.cause.category <;> simp_all

/-- **A buffer that is refused is refused whatever follows**, unless it is a number that is not one
for the target. -/
theorem decode_invalid_append {text : Bytes} {fault : Fault}
    (h : t.decode text false = .invalid fault) (hnumber : ¬ t.RefusesNumber text) (more : Bytes)
    (final : Bool) : t.decode (text ++ more) final = .invalid fault := by
  obtain ⟨first, tail, hfirst, hnext, hcategory, hend⟩ := decode_eq_invalid h
  have hsettled := settled_of_decode hfirst hnumber (by simp [h])
  have hnext' := readNext_append_error hfirst hsettled hnext more
  refine decode_of_readNext_error (dropWhile_append_of_cons hfirst more) hnext' hcategory ?_
  intro hmalformed
  obtain ⟨cause, index, hindex, rfl⟩ := readNext_error hfirst hnext
  have hwithin : ¬ (Fault.inText text cause index).position.isEndOf text := by
    simpa using hend hmalformed
  rw [Fault.isEndOf_inText hindex] at hwithin
  rw [← Fault.inText_append hindex more, Bool.and_eq_false_iff]
  refine .inr (Bool.eq_false_iff.mpr fun hend' => ?_)
  rw [Fault.isEndOf_inText (by rw [List.length_append]; omega), List.length_append] at hend'
  omega

/-- **A value that ends before the end of a buffer is decoded from the buffer**, if it is decoded
from a longer text. -/
theorem decode_complete_of_append {text more : Bytes} {value : α} {used : Nat} {final : Bool}
    (h : t.decode (text ++ more) final = .complete value used) (hused : used < text.length) :
    t.decode text false = .complete value used := by
  obtain ⟨first', tail', rest, hfirst', hread, hprecede, -⟩ := decode_eq_complete h
  obtain ⟨v, hvalue, -⟩ := readFirst_eq_ok hread
  -- a reader that came through the buffer would end the value behind it
  have hsettled : Reader.start.through text = none := by
    cases hthrough : Reader.start.through text with
    | none => rfl
    | some r =>
      rw [Reader.read_of_through hthrough] at hvalue
      obtain ⟨taken, -, htaken⟩ := Reader.run_value hvalue
      simp only at htaken
      omega
  cases hfirst : text.dropWhile Ascii.isSpace with
  | nil =>
    rw [List.dropWhile_eq_nil_iff] at hfirst
    rw [Reader.through_blanks (List.all_eq_true.mpr hfirst)] at hsettled
    cases hsettled
  | cons first tail =>
    have hmore := readFirst_append (t := t) hfirst (fun _ => hsettled) more
    rw [dropWhile_append_of_cons hfirst] at hfirst'
    cases hfirst'
    rw [hread] at hmore
    cases hread' : t.readFirst text with
    | error fault => simp [hread', Except.map] at hmore
    | ok item =>
      obtain ⟨value', used', rest'⟩ := item
      simp only [hread', Except.map, Except.ok.injEq, Item.mk.injEq] at hmore
      obtain ⟨rfl, rfl, rfl⟩ := hmore
      obtain ⟨v', hvalue', -⟩ := readFirst_eq_ok hread'
      have hlength := Reader.read_value hvalue'
      have hrest' : rest' ≠ [] := by
        rintro rfl
        simp only [List.length_nil] at hlength
        omega
      refine decode_of_readFirst hfirst hread' ?_ ?_
      · rwa [mayPrecede_append hrest'] at hprecede
      · rw [mayGrow_of_ne_nil hrest', Bool.and_false]

end Target
end PlayableCards
