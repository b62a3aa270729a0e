import PlayableCards.Proofs.Reader.Passage
import PlayableCards.Proofs.Text.Utf8

/-!
# Stranded readers

A reader may go on within a token that no byte will end any more: a string whose content is not
UTF-8, which is told at its end only, an escape whose four digits are judged together, and a number
whose exponent grows though the number is out of range without it. Such a reader never comes to the
end of a value.
-/

namespace PlayableCards

namespace Numeral

/-- With no exponent upward is the number in range. -/
def Overflows (negative : Bool) (digits : Nat) (scale : Int) : Prop :=
  digits ≠ 0 ∧ ∀ p, powerFits p → float negative digits (scale + p) = .error .numberOutOfRange

/-- In an exponent upward of a number that is out of range with each. -/
def Hopeless : Numeral → Prop
  | signedMark negative digits scale false => Overflows negative digits scale
  | power negative digits scale false p => powerFits p ∧ Overflows negative digits scale
  | _ => False

def Step.Strands (n : Numeral) : Step → Prop
  | next n' => n'.Hopeless
  | past => ∃ cause, n.finish = .error cause
  | fault _ => True

theorem powerFits_digitValue (b : UInt8) :
    powerFits (Ascii.digitValue b) := by
  have hb : Ascii.digitValue b ≤ b.toNat := Nat.sub_le _ _
  have hlt := b.toNat_lt
  rw [powerFits, decide_eq_true_eq]
  omega

theorem Hopeless.step {n : Numeral} (h : n.Hopeless) (b : UInt8) : (n.step b).Strands n := by
  cases n with
  | signedMark negative digits scale downward =>
    cases downward with
    | true => exact h.elim
    | false =>
      simp only [Numeral.step]
      split
      · exact ⟨powerFits_digitValue b, h⟩
      · trivial
  | power negative digits scale downward p =>
    cases downward with
    | true => exact h.elim
    | false =>
      obtain ⟨hfits, hdigits, hall⟩ := h
      simp only [Numeral.step, powerDigit]
      split
      · split
        · exact ⟨‹_›, hdigits, hall⟩
        · simp only [bne_iff_ne.mpr hdigits, Bool.not_false, Bool.and_true, if_true]
          trivial
      · exact ⟨_, hall p hfits⟩
  | _ => exact h.elim

theorem Hopeless.finish {n : Numeral} (h : n.Hopeless) : ∃ cause, n.finish = .error cause := by
  cases n with
  | signedMark negative digits scale downward => exact ⟨_, rfl⟩
  | power negative digits scale downward p =>
    cases downward with
    | true => exact h.elim
    | false => exact ⟨_, h.2.2 p h.1⟩
  | _ => exact h.elim

end Numeral

namespace Escape

/-- Hexadecimal digits that follow can make it a code unit that may stand here: the second half of
a pair behind the first, and nowhere else. -/
def CanEnd : Escape → Prop
  | unit high digits => ∃ more unit, digits.length + more.length = 4
    ∧ Reader.unitValue? (more ++ digits) = some unit ∧ Reader.isLow unit = high.isSome
  | none | backslash | pair _ | pairBackslash _ => True

end Escape

namespace Reader

def Unspent : Reader → Prop
  | word _ rest _ => rest ≠ []
  | string _ _ _ (.unit _ digits) => digits.length < 4
  | _ => True

theorem unspent_step {r r' : Reader} {b : UInt8} (h : r.step b = .next r') : r'.Unspent := by
  cases r with
  | value s | firstItem s | nextItem s items =>
    simp only [step, startValue, openWith, deliver] at h
    grind [Unspent]
  | numeral stack n =>
    simp only [step, pastNumber, stepAfterItem, stepAfterMember, deliver] at h
    grind [Unspent]
  | string s role content escape =>
    simp only [step, stepString, closeString, takeUnit, deliver] at h
    grind [Unspent]
  | word s rest v =>
    simp only [step, stepWord, deliver] at h
    grind [Unspent]
  | _ =>
    simp only [step, stepAfterItem, stepAfterMember, startKey, deliver] at h
    grind [Unspent]

theorem unspent_of_through {r r' : Reader} (hr : r.Unspent) {bytes : Bytes}
    (h : r.through bytes = some r') : r'.Unspent := by
  induction bytes generalizing r with
  | nil =>
    cases h
    exact hr
  | cons b bytes ih =>
    simp only [through] at h
    cases hstep : r.step b <;> simp only [hstep] at h
    case next next => exact ih (unspent_step hstep) h
    all_goals cases h

/-- No bytes end the value that is being read, whatever they are. -/
def Stranded : Reader → Prop
  | string _ _ content .none => ¬ Utf8.Front content.reverse
  | string _ _ content escape => ¬ Utf8.Whole content.reverse ∨ ¬ escape.CanEnd
  | numeral _ n => n.Hopeless
  | _ => False

def Step.Strands : Step → Prop
  | next r => r.Stranded
  | done _ | past _ => False
  | fault _ _ => True

variable {stack : List Frame} {role : Role} {content : Bytes} {b : UInt8}

/-- A character does not make bytes whole that are cut within one. -/
theorem not_front_char (h : ¬ Utf8.Whole content.reverse) (c : Char) :
    ¬ Utf8.Front (content.reverse ++ String.utf8EncodeChar c) := by
  obtain ⟨first, tails, hc, hfirst, -⟩ := Utf8.exists_tails c
  rw [hc, ← List.singleton_append, ← List.append_assoc]
  exact fun hfront => h (Utf8.whole_of_front hfront.of_append hfirst)

theorem isTail_of_escaped? {c : UInt8} (h : escaped? b = some c) : Utf8.isTail c = false := by
  simp only [escaped?] at h
  grind [Utf8.isTail]

theorem strands_takeUnit (h : ¬ Utf8.Whole content.reverse) (high : Option Nat) (unit : Nat) :
    (takeUnit stack role content high unit).Strands := by
  have hchar : ∀ n, (string stack role (pushChar content n) .none).Stranded := by
    intro n
    simp only [Stranded, pushChar, List.reverse_append, List.reverse_reverse]
    exact not_front_char h _
  unfold takeUnit
  repeat' split
  · exact hchar _
  · trivial
  · trivial
  · exact .inl h
  · exact hchar _

theorem strands_stepString {escape : Escape} (hr : (string stack role content escape).Unspent)
    (h : (string stack role content escape).Stranded) (b : UInt8) :
    (stepString stack role content escape b).Strands := by
  cases escape with
  | none =>
    simp only [stepString]
    split
    · rw [closeString]
      split
      · trivial
      · rename_i hdecode
        exact absurd (Utf8.whole_of_decode hdecode).front h
    split
    · exact .inl fun hwhole => h hwhole.front
    split
    · trivial
    · simp only [Step.Strands, Stranded, List.reverse_cons]
      exact fun hfront => h hfront.of_append
  | backslash =>
    have hwhole : ¬ Utf8.Whole content.reverse := h.resolve_right (not_not_intro trivial)
    simp only [stepString]
    split
    · exact .inl hwhole
    split
    · rename_i c hc
      simp only [Step.Strands, Stranded, List.reverse_cons]
      exact fun hfront => hwhole (Utf8.whole_of_front hfront (isTail_of_escaped? hc))
    · trivial
  | unit high digits =>
    simp only [stepString]
    split
    · refine h.imp id fun hend => ?_
      rintro ⟨more, unit, hlength, hvalue, hlow⟩
      refine hend ⟨more ++ [b], unit, ?_, ?_, hlow⟩
      · simp only [List.length_append, List.length_cons, List.length_nil] at hlength ⊢
        omega
      · rwa [List.append_assoc]
    split
    · rename_i hthree unit hvalue
      rcases h with hwhole | hend
      · exact strands_takeUnit hwhole high unit
      · -- the fourth digit makes a unit that may not stand here
        have hlow : isLow unit ≠ high.isSome := by
          intro hlow
          refine hend ⟨[b], unit, ?_, hvalue, hlow⟩
          simp only [Unspent] at hr
          simp only [List.length_singleton]
          omega
        cases high with
        | none =>
          have : isLow unit = true := by simpa using hlow
          simp only [takeUnit, this, if_true, Step.Strands]
        | some high =>
          have : isLow unit = false := by simpa using hlow
          simp only [takeUnit, this, Bool.false_eq_true, if_false, Step.Strands]
    · trivial
  | pair high =>
    have hwhole : ¬ Utf8.Whole content.reverse := h.resolve_right (not_not_intro trivial)
    simp only [stepString]
    split
    · exact .inl hwhole
    · trivial
  | pairBackslash high =>
    have hwhole : ¬ Utf8.Whole content.reverse := h.resolve_right (not_not_intro trivial)
    simp only [stepString]
    split
    · exact .inl hwhole
    · trivial

theorem Stranded.step {r : Reader} (hr : r.Unspent) (h : r.Stranded) (b : UInt8) :
    (r.step b).Strands := by
  cases r with
  | string stack role content escape => exact strands_stepString hr h b
  | numeral stack n =>
    have hn : n.Hopeless := h
    have hstep := hn.step b
    simp only [Reader.step]
    split <;> rename_i heq <;> rw [heq] at hstep
    · exact hstep
    · obtain ⟨cause, hcause⟩ := hstep
      simp only [pastNumber, hcause, Step.Strands]
    · trivial
  | _ => exact h.elim

/-- **A stranded reader comes to no value**, whatever it reads. -/
theorem Stranded.run_ne_value {r : Reader} (hr : r.Unspent) (h : r.Stranded) (index : Nat)
    (bytes : Bytes) (v : Json) (used : Nat) (rest : Bytes) :
    r.run index bytes ≠ .value v used rest := by
  intro hrun
  induction bytes generalizing r index with
  | nil =>
    rw [run] at hrun
    split at hrun
    · rename_i w hfinish
      obtain ⟨n, number, rfl, hn, -⟩ := finish_eq_ok hfinish
      obtain ⟨cause, hcause⟩ := Numeral.Hopeless.finish h
      cases hn.symm.trans hcause
    · cases hrun
  | cons b bytes ih =>
    have hstrands := h.step hr b
    rw [run] at hrun
    cases hstep : r.step b <;> simp only [hstep] at hrun hstrands
    case next next => exact ih (unspent_step hstep) hstrands _ hrun
    case fault => cases hrun
    all_goals exact hstrands

end Reader
end PlayableCards
