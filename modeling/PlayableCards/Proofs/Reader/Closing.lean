import PlayableCards.Proofs.Reader.Stranded

/-!
# Ending a value that is being read

Unless it is stranded, or its number out of range already, a reader comes to the end of the value
with some bytes: they complete the token and close the containers around it.
-/

namespace PlayableCards

namespace Numeral

variable {negative : Bool} {digits : Nat} {scale : Int} {downward : Bool}

/-- Some bytes make it a number. -/
inductive CanEnd : Numeral → Prop
  | here {n : Numeral} {number : Number} (h : n.finish = .ok number) : CanEnd n
  | after {n n' : Numeral} (b : UInt8) (h : n.step b = .next n') (h' : CanEnd n') : CanEnd n

theorem exists_digit {d : Nat} (h : d < 10) :
    ∃ b : UInt8, Ascii.isDigit b ∧ Ascii.digitValue b = d := by
  have hall : ∀ d : Fin 10, Ascii.isDigit (UInt8.ofNat (0x30 + d))
      ∧ Ascii.digitValue (UInt8.ofNat (0x30 + d)) = d := by decide
  exact ⟨_, hall ⟨d, h⟩⟩

theorem powerFits_of_le {p q : Nat} (h : powerFits q) (hp : p ≤ q) : powerFits p := by
  rw [powerFits, decide_eq_true_eq] at h ⊢
  omega

/-- Every exponent that is kept comes about digit by digit. -/
theorem canEnd_of_power {p : Nat} (hp : powerFits p)
    (h : CanEnd (power negative digits scale downward p)) :
    CanEnd (signedMark negative digits scale downward) := by
  induction p using Nat.strongRecOn with
  | ind p ih =>
    by_cases hdigit : p < 10
    · obtain ⟨b, hb, rfl⟩ := exists_digit hdigit
      exact .after b (by simp only [step, hb, if_true]) h
    · obtain ⟨b, hb, hvalue⟩ := exists_digit (Nat.mod_lt p (show 0 < 10 by decide))
      have hmore : p / 10 * 10 + Ascii.digitValue b = p := by omega
      refine ih (p / 10) (by omega) (powerFits_of_le hp (by omega)) (.after b ?_ h)
      simp only [step, hb, if_true, powerDigit, hmore, hp]

/-- Past all bounds a number vanishes if its exponent is downward, and zero does in any case. -/
theorem canEnd_of_vanishing (h : digits = 0 ∨ downward) :
    CanEnd (signedMark negative digits scale downward) := by
  have hvanished : CanEnd (vanished negative) := .here rfl
  refine canEnd_of_power (p := 0x7FFFFFFF) rfl (.after Ascii.nine ?_ hvanished)
  rcases h with rfl | rfl
  · rfl
  · cases digits <;> rfl

theorem canEnd_mark : CanEnd (mark negative digits scale) :=
  .after Ascii.minus rfl (canEnd_of_vanishing (.inr rfl))

theorem canEnd_point : CanEnd (point negative digits scale) := by
  refine .after Ascii.zero rfl ?_
  simp only [fractionDigit]
  split <;> exact .after 0x65 rfl canEnd_mark

theorem canEnd_of_not_hopeless {n : Numeral} (h : ¬ n.Hopeless)
    (hfinish : n.finish ≠ .error .numberOutOfRange) : n.CanEnd := by
  cases n with
  | signed => exact .after Ascii.zero rfl (.here rfl)
  | point => exact canEnd_point
  | mark => exact canEnd_mark
  | signedMark negative digits scale downward =>
    by_cases hvanishing : digits = 0 ∨ downward
    · exact canEnd_of_vanishing hvanishing
    · rw [not_or, Bool.not_eq_true] at hvanishing
      obtain ⟨hdigits, rfl⟩ := hvanishing
      simp only [Hopeless, Overflows, not_and, not_forall] at h
      obtain ⟨p, hp, hfloat⟩ := h hdigits
      cases hnumber : float negative digits (scale + p) with
      | ok number => exact canEnd_of_power hp (.here hnumber)
      | error cause => exact absurd (float_error hnumber ▸ hnumber) hfloat
  | _ =>
    cases hn : finish _ with
    | ok number => exact .here hn
    | error cause =>
      rcases finish_error hn with hcategory | rfl
      · first
        | cases hn
        | cases float_error hn; cases hcategory
      · exact absurd hn hfinish

theorem step_of_closing {n : Numeral} {number : Number} (h : n.finish = .ok number) {b : UInt8}
    (hb : b = Ascii.closeBracket ∨ b = Ascii.closeBrace) : n.step b = .past := by
  rcases hb with rfl | rfl <;> cases n <;> first | rfl | cases h

end Numeral

namespace Reader

/-- Some bytes come to the end of the value, and to no more. -/
def CanEnd (r : Reader) : Prop :=
  ∃ bytes v, ∀ index, r.run index bytes = .value v (index + bytes.length) []

def Step.CanEnd : Step → Prop
  | next r => r.CanEnd
  | done _ => True
  | past _ | fault _ _ => False

variable {stack : List Frame} {role : Role} {content : Bytes}

theorem canEnd_of_step {r : Reader} (b : UInt8) (h : (r.step b).CanEnd) : r.CanEnd := by
  cases hstep : r.step b with
  | next r' =>
    rw [hstep] at h
    obtain ⟨bytes, v, hrun⟩ := h
    refine ⟨b :: bytes, v, fun index => ?_⟩
    simp only [run, hstep, hrun, List.length_cons, Nat.add_assoc, Nat.add_comm 1]
  | done v => exact ⟨[b], v, fun index => by simp only [run, hstep, List.length_singleton]⟩
  | past v => exact (hstep ▸ h).elim
  | fault cause back => exact (hstep ▸ h).elim

/-- Behind a value the containers around it are closed, from the innermost out. -/
theorem canEnd_deliver (stack : List Frame) (v : Json) : (deliver stack v).CanEnd := by
  induction stack generalizing v with
  | nil => trivial
  | cons frame stack ih =>
    cases frame with
    | item items => exact canEnd_of_step Ascii.closeBracket (ih _)
    | member members key => exact canEnd_of_step Ascii.closeBrace (ih _)

theorem canEnd_number {n : Numeral} {number : Number} (h : n.finish = .ok number) :
    (numeral stack n).CanEnd := by
  cases stack with
  | nil => exact ⟨[], .number number, fun index => by simp [run, finish, h]⟩
  | cons frame stack =>
    cases frame with
    | item items =>
      refine canEnd_of_step Ascii.closeBracket ?_
      simp only [step, Numeral.step_of_closing h (.inl rfl), pastNumber, h]
      exact canEnd_deliver stack _
    | member members key =>
      refine canEnd_of_step Ascii.closeBrace ?_
      simp only [step, Numeral.step_of_closing h (.inr rfl), pastNumber, h]
      exact canEnd_deliver stack _

theorem canEnd_numeral {n : Numeral} (h : n.CanEnd) : (numeral stack n).CanEnd := by
  induction h with
  | here h => exact canEnd_number h
  | after b h _ ih =>
    refine canEnd_of_step b ?_
    simp only [step, h]
    exact ih

theorem canEnd_string (h : Utf8.Whole content.reverse) :
    (string stack role content .none).CanEnd := by
  obtain ⟨s, hs⟩ := h.decode
  refine canEnd_of_step Ascii.quote ?_
  simp only [step, stepString, if_true, closeString, hs]
  cases role with
  | value => exact canEnd_deliver stack _
  | key members =>
    -- an empty string is the value
    refine canEnd_of_step Ascii.colon (canEnd_of_step Ascii.quote (canEnd_of_step Ascii.quote ?_))
    exact canEnd_deliver (.member members s :: stack) (.string "")

theorem canEnd_value (stack : List Frame) : (value stack).CanEnd :=
  canEnd_of_step Ascii.quote (canEnd_string ⟨[], rfl⟩)

theorem canEnd_tails {tails : Bytes} (htails : ∀ b ∈ tails, Utf8.isTail b)
    (h : (string stack role (tails.reverse ++ content) .none).CanEnd) :
    (string stack role content .none).CanEnd := by
  induction tails generalizing content with
  | nil => exact h
  | cons b tails ih =>
    have hb : 0x80 ≤ b.toNat := (Utf8.isTail_iff.mp (htails b List.mem_cons_self)).1
    have hquote : b ≠ Ascii.quote := by rintro rfl; exact absurd hb (by decide)
    have hbackslash : b ≠ Ascii.backslash := by rintro rfl; exact absurd hb (by decide)
    have hcontrol : ¬ b < 0x20 := by rw [UInt8.lt_iff_toNat_lt]; exact fun h => by simp at h; omega
    refine canEnd_of_step b ?_
    simp only [step, stepString, hquote, hbackslash, hcontrol, if_false]
    refine ih (fun x hx => htails x (List.mem_cons_of_mem _ hx)) ?_
    rwa [List.reverse_cons, List.append_assoc] at h

theorem whole_pushChar (h : Utf8.Whole content.reverse) (n : Nat) :
    Utf8.Whole (pushChar content n).reverse := by
  rw [pushChar, List.reverse_append, List.reverse_reverse]
  exact h.append (Utf8.whole_char _)

theorem canEnd_unit {high : Option Nat} {digits : Bytes} (more : Bytes) (unit : Nat)
    (hmore : more ≠ []) (hlength : digits.length + more.length = 4)
    (hvalue : unitValue? (more.reverse ++ digits) = some unit)
    (h : (takeUnit stack role content high unit).CanEnd) :
    (string stack role content (.unit high digits)).CanEnd := by
  induction more generalizing digits with
  | nil => exact absurd rfl hmore
  | cons b more ih =>
    refine canEnd_of_step b ?_
    rw [List.reverse_cons, List.append_assoc, List.singleton_append] at hvalue
    rw [List.length_cons] at hlength
    simp only [step, stepString]
    cases more with
    | nil =>
      rw [if_neg (by rw [List.length_nil] at hlength; omega)]
      rw [List.reverse_nil, List.nil_append] at hvalue
      simpa only [hvalue] using h
    | cons b' more =>
      rw [if_pos (by rw [List.length_cons] at hlength; omega)]
      refine ih (List.cons_ne_nil _ _) ?_ hvalue
      rwa [List.length_cons, Nat.add_right_comm]

theorem canEnd_takeUnit_low (h : Utf8.Whole content.reverse) {high unit : Nat}
    (hunit : isLow unit = true) : (takeUnit stack role content (some high) unit).CanEnd := by
  simp only [takeUnit, hunit, if_true]
  exact canEnd_string (whole_pushChar h _)

theorem canEnd_pairBackslash (h : Utf8.Whole content.reverse) (high : Nat) :
    (string stack role content (.pairBackslash high)).CanEnd := by
  refine canEnd_of_step 0x75 ?_
  -- the digits DC00
  exact canEnd_unit [0x44, 0x43, 0x30, 0x30] 0xDC00 (List.cons_ne_nil _ _) rfl rfl
    (canEnd_takeUnit_low h rfl)

theorem canEnd_pair (h : Utf8.Whole content.reverse) (high : Nat) :
    (string stack role content (.pair high)).CanEnd :=
  canEnd_of_step Ascii.backslash (canEnd_pairBackslash h high)

theorem canEnd_takeUnit (h : Utf8.Whole content.reverse) {high : Option Nat} {unit : Nat}
    (hunit : isLow unit = high.isSome) : (takeUnit stack role content high unit).CanEnd := by
  cases high with
  | some high => exact canEnd_takeUnit_low h hunit
  | none =>
    simp only [takeUnit, show isLow unit = false from hunit, Bool.false_eq_true, if_false]
    split
    · exact canEnd_pair h unit
    · exact canEnd_string (whole_pushChar h unit)

theorem canEnd_word {rest : Bytes} (h : rest ≠ []) (v : Json) : (word stack rest v).CanEnd := by
  induction rest with
  | nil => exact absurd rfl h
  | cons b rest ih =>
    refine canEnd_of_step b ?_
    simp only [step, stepWord, if_true]
    cases rest with
    | nil => exact canEnd_deliver stack v
    | cons b' rest => exact ih (List.cons_ne_nil _ _)

theorem canEnd_escape {escape : Escape} (hr : (string stack role content escape).Unspent)
    (h : ¬ (string stack role content escape).Stranded) :
    (string stack role content escape).CanEnd := by
  cases escape with
  | none =>
    obtain ⟨tails, htails, hwhole⟩ := (not_not.mp h).completion
    refine canEnd_tails htails (canEnd_string ?_)
    rwa [List.reverse_append, List.reverse_reverse]
  | backslash =>
    obtain ⟨hwhole, -⟩ := not_or.mp h
    -- a line feed is escaped
    refine canEnd_of_step 0x6E (canEnd_string ?_)
    rw [List.reverse_cons]
    exact (not_not.mp hwhole).append (Utf8.whole_char '\n')
  | unit high digits =>
    obtain ⟨hwhole, hend⟩ := not_or.mp h
    obtain ⟨more, unit, hlength, hvalue, hunit⟩ := not_not.mp hend
    have hdigits : digits.length < 4 := hr
    refine canEnd_unit more.reverse unit ?_ ?_ ?_
      (canEnd_takeUnit (not_not.mp hwhole) hunit)
    · rw [ne_eq, List.reverse_eq_nil_iff]
      rintro rfl
      rw [List.length_nil] at hlength
      omega
    · rwa [List.length_reverse]
    · rwa [List.reverse_reverse]
  | pair high => exact canEnd_pair (not_not.mp (not_or.mp h).1) high
  | pairBackslash high => exact canEnd_pairBackslash (not_not.mp (not_or.mp h).1) high

/-- **A reader that is not stranded comes to the end of the value**, unless its number is out of
range already. -/
theorem canEnd_of_not_stranded {r : Reader} (hr : r.Unspent) (h : ¬ r.Stranded)
    (hfinish : r.finish ≠ .error .numberOutOfRange) : r.CanEnd := by
  cases r with
  | value stack => exact canEnd_value stack
  | firstItem stack => exact canEnd_of_step Ascii.closeBracket (canEnd_deliver stack _)
  | nextItem stack items =>
    have hstring : (string (.item items :: stack) .value [] .none).CanEnd := canEnd_string ⟨[], rfl⟩
    exact canEnd_of_step Ascii.quote hstring
  | afterItem stack items => exact canEnd_of_step Ascii.closeBracket (canEnd_deliver stack _)
  | firstKey stack => exact canEnd_of_step Ascii.closeBrace (canEnd_deliver stack _)
  | nextKey stack members =>
    have hstring : (string stack (.key members) [] .none).CanEnd := canEnd_string ⟨[], rfl⟩
    exact canEnd_of_step Ascii.quote hstring
  | afterKey stack members key => exact canEnd_of_step Ascii.colon (canEnd_value _)
  | afterMember stack members => exact canEnd_of_step Ascii.closeBrace (canEnd_deliver stack _)
  | string stack role content escape => exact canEnd_escape hr h
  | word stack rest v => exact canEnd_word hr v
  | numeral stack n =>
    refine canEnd_numeral (Numeral.canEnd_of_not_hopeless h fun hn => hfinish ?_)
    simp only [finish, hn]

end Reader
end PlayableCards
