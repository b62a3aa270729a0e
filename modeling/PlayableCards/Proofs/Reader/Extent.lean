import PlayableCards.Proofs.Reader.Shape

/-!
# Where a value ends

A value is read from its own bytes as it is from a text that goes on. All but numbers end with
their last byte and are settled by it; a number is settled by the byte behind it.
-/

namespace PlayableCards
namespace Json

/-- The bytes that have to be seen behind a value before it is known to have ended. -/
def lookahead : Json → Nat
  | number _ => 1
  | null | bool _ | string _ | array _ | object _ => 0

theorem lookahead_eq_zero {v : Json} : v.lookahead = 0 ↔ v.shape ≠ .number := by
  cases v <;> simp [lookahead, shape]

end Json
namespace Reader

/-- Only a number by itself ends before the byte that shows its end. -/
theorem step_past {r : Reader} {b : UInt8} {v : Json} (h : r.step b = .past v) :
    ∃ n number, r = numeral [] n ∧ n.finish = .ok number ∧ v = .number number := by
  cases r with
  | numeral stack n =>
    simp only [step, pastNumber, stepAfterItem, stepAfterMember, deliver] at h
    grind
  | value s | firstItem s | nextItem s items =>
    simp only [step, startValue, openWith, deliver] at h
    grind
  | string s role content escape =>
    simp only [step, stepString, closeString, takeUnit, deliver] at h
    grind
  | word s rest v =>
    simp only [step, stepWord, deliver] at h
    grind
  | _ =>
    simp only [step, stepAfterItem, stepAfterMember, startKey, deliver] at h
    grind

/-- Within a word stand letters of a value that is no number. -/
def Worded : Reader → Prop
  | word _ rest v => v.shape = .word ∧ rest.all fun b => !Ascii.isDigit b
  | _ => True

theorem worded_startValue {stack : List Frame} {b : UInt8} {r : Reader}
    (h : startValue stack b = .next r) : r.Worded := by
  unfold startValue openWith at h
  repeat' split at h
  all_goals cases h
  all_goals trivial

theorem worded_step {r r' : Reader} {b : UInt8} (hr : r.Worded) (h : r.step b = .next r') :
    r'.Worded := by
  cases r with
  | value s | firstItem s | nextItem s items =>
    simp only [step, deliver] at h
    grind [Worded, worded_startValue]
  | numeral stack n =>
    simp only [step, pastNumber, stepAfterItem, stepAfterMember, deliver] at h
    grind [Worded]
  | string s role content escape =>
    simp only [step, stepString, closeString, takeUnit, deliver] at h
    grind [Worded]
  | word s rest v =>
    simp only [step, stepWord, deliver] at h
    grind [Worded]
  | _ =>
    simp only [step, stepAfterItem, stepAfterMember, startKey, deliver] at h
    grind [Worded]

theorem startValue_ne_done (stack : List Frame) (b : UInt8) (v : Json) :
    startValue stack b ≠ .done v := by
  unfold startValue openWith
  repeat' split
  all_goals simp

theorem deliver_done {stack : List Frame} {v w : Json} (h : deliver stack v = .done w) : w = v := by
  cases stack with
  | nil => cases h; rfl
  | cons frame stack => cases frame <;> cases h

theorem step_done {r : Reader} {b : UInt8} {v : Json} (hr : r.Worded) (h : r.step b = .done v) :
    v.shape ≠ .number ∧ Ascii.isDigit b = false := by
  have hquote : Ascii.isDigit Ascii.quote = false := rfl
  have hbracket : Ascii.isDigit Ascii.closeBracket = false := rfl
  have hbrace : Ascii.isDigit Ascii.closeBrace = false := rfl
  cases r with
  | value s | firstItem s | nextItem s items =>
    simp only [step] at h
    grind [Json.shape, deliver_done, startValue_ne_done]
  | numeral stack n =>
    simp only [step, pastNumber, stepAfterItem, stepAfterMember] at h
    grind [Json.shape, deliver_done]
  | string s role content escape =>
    simp only [step, stepString, closeString, takeUnit] at h
    grind [Json.shape, deliver_done]
  | word s rest v =>
    simp only [step, stepWord] at h
    grind [Worded, Json.shape, deliver_done]
  | _ =>
    simp only [step, stepAfterItem, stepAfterMember, startKey] at h
    grind [Json.shape, deliver_done]

theorem run_taken {r : Reader} {index : Nat} {taken rest : Bytes} {v : Json}
    (h : r.run index (taken ++ rest) = .value v (index + taken.length) rest) :
    r.run index taken = .value v (index + taken.length) [] := by
  induction taken generalizing r index with
  | nil =>
    rw [List.nil_append] at h
    cases rest with
    | nil => exact h
    | cons b rest =>
      simp only [run] at h
      cases hstep : r.step b <;> simp only [hstep] at h
      case next next =>
        obtain ⟨more, -, hused⟩ := run_value h
        simp only [List.length_nil] at hused
        omega
      case done => simp at h
      case past =>
        cases h
        obtain ⟨n, number, rfl, hn, rfl⟩ := step_past hstep
        simp [run, finish, hn]
      case fault => cases h
  | cons b taken ih =>
    have hlength : index + (b :: taken).length = index + 1 + taken.length := by
      rw [List.length_cons]
      omega
    rw [hlength] at h ⊢
    rw [List.cons_append, run] at h
    rw [run]
    cases hstep : r.step b <;> simp only [hstep] at h ⊢
    case next next => exact ih h
    case done w =>
      simp only [Outcome.value.injEq, List.append_left_eq_self] at h
      obtain ⟨rfl, -, rfl⟩ := h
      rfl
    case past w =>
      simp only [Outcome.value.injEq] at h
      omega
    case fault => cases h

/-- Where a reader comes to an end in the bytes of a value: with the last of them, or with the byte
behind when the value is a number. -/
theorem through_take_eq_none_iff {r : Reader} (hr : r.Worded) {index : Nat} {bytes : Bytes}
    {v : Json} {used : Nat} {rest : Bytes} (h : r.run index bytes = .value v used rest) {n : Nat}
    (hn : n ≤ bytes.length) :
    r.through (bytes.take n) = none ↔ used + v.lookahead ≤ index + n := by
  induction bytes generalizing r index n with
  | nil =>
    rw [run] at h
    split at h <;> cases h
    rename_i hfinish
    obtain ⟨-, number, -, -, rfl⟩ := finish_eq_ok hfinish
    simp only [List.take_nil, through_nil, reduceCtorEq, Json.lookahead, false_iff]
    simp only [List.length_nil] at hn
    omega
  | cons b bytes ih =>
    rw [run] at h
    cases n with
    | zero =>
      simp only [List.take_zero, through_nil, reduceCtorEq, false_iff]
      cases hstep : r.step b <;> simp only [hstep] at h
      case next next =>
        obtain ⟨taken, -, hused⟩ := run_value h
        omega
      case done => cases h; omega
      case past =>
        cases h
        obtain ⟨-, number, -, -, rfl⟩ := step_past hstep
        simp [Json.lookahead]
      case fault => cases h
    | succ n =>
      rw [List.take_succ_cons, through]
      cases hstep : r.step b <;> simp only [hstep] at h ⊢
      case next next =>
        rw [ih (worded_step hr hstep) h (by simpa using hn)]
        omega
      case done =>
        cases h
        rw [Json.lookahead_eq_zero.mpr (step_done hr hstep).1]
        simp
      case past =>
        cases h
        obtain ⟨-, number, -, -, rfl⟩ := step_past hstep
        simp [Json.lookahead]
      case fault => cases h

theorem getLast?_of_run {r : Reader} (hr : r.Worded) {index : Nat} {bytes : Bytes} {v : Json}
    {used : Nat} (h : r.run index bytes = .value v used []) (hv : v.shape ≠ .number) :
    bytes.getLast?.any Ascii.isDigit = false := by
  induction bytes generalizing r index with
  | nil => rfl
  | cons b bytes ih =>
    rw [run] at h
    cases hstep : r.step b <;> simp only [hstep] at h
    case next next =>
      have hlast := ih (worded_step hr hstep) h
      cases bytes with
      | nil =>
        rw [run] at h
        split at h <;> cases h
        rename_i hfinish
        obtain ⟨-, number, -, -, rfl⟩ := finish_eq_ok hfinish
        exact absurd rfl hv
      | cons b' bytes => rwa [List.getLast?_cons_cons]
    case done =>
      cases h
      simpa using (step_done hr hstep).2
    case past => cases h
    case fault => cases h

/-- A value is read alone from the bytes that it takes of a text. -/
theorem read_take {text : Bytes} {v : Json} {used : Nat} {rest : Bytes}
    (h : read text = .value v used rest) : read (text.take used) = .value v used [] := by
  obtain ⟨taken, rfl, hused⟩ := run_value h
  rw [Nat.zero_add] at hused
  subst hused
  rw [List.take_left]
  have hrun : start.run 0 (taken ++ rest) = .value v (0 + taken.length) rest := by
    rwa [Nat.zero_add]
  simpa only [read, Nat.zero_add] using run_taken hrun

theorem through_take_of_read {text : Bytes} {v : Json} {used : Nat} {rest : Bytes}
    (h : read text = .value v used rest) {n : Nat} (hn : n ≤ text.length) :
    start.through (text.take n) = none ↔ used + v.lookahead ≤ n := by
  have hstart : start.Worded := trivial
  simpa only [Nat.zero_add] using through_take_eq_none_iff hstart h hn

theorem through_of_cut {text part : Bytes} {v : Json} {used : Nat} {rest : Bytes}
    (h : read text = .value v used rest) (hpart : part <+: text) (hused : part.length < used) :
    ∃ r, start.through part = some r := by
  have hsettled := through_take_of_read h hpart.length_le
  rw [← List.prefix_iff_eq_take.mp hpart] at hsettled
  refine Option.ne_none_iff_exists'.mp fun hnone => ?_
  have := hsettled.mp hnone
  omega

end Reader
end PlayableCards
