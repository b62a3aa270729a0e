import PlayableCards.Json.Decode
import PlayableCards.Proofs.Skipping

/-!
# Reading past the end of a buffer

Reading a text is reading its bytes in turn. Either the reader comes through all bytes of a buffer
and reads on from there, or the buffer already settles what is read, and nothing that follows it
changes that.
-/

namespace PlayableCards

namespace Numeral

def endsInDigit : Numeral → Bool
  | signed | point _ _ _ | mark _ _ _ | signedMark _ _ _ _ => false
  | zero _ | whole _ _ | long _ _ _ | fraction _ _ _ | longFraction _ _ _ | power _ _ _ _ _
  | vanished _ => true

theorem isDigit_of_isMark {b : UInt8} (h : isMark b) : Ascii.isDigit b = false := by
  simp only [isMark, Bool.or_eq_true, beq_iff_eq] at h
  rcases h with rfl | rfl <;> rfl

theorem endsInDigit_fractionDigit (negative : Bool) (digits : Nat) (scale : Int) (b : UInt8) :
    (fractionDigit negative digits scale b).endsInDigit = true := by
  simp only [fractionDigit]
  split <;> rfl

theorem endsInDigit_start? {b : UInt8} {n : Numeral} (h : start? b = some n) :
    n.endsInDigit = Ascii.isDigit b := by
  have hzero : Ascii.isDigit Ascii.zero = true := rfl
  have hminus : Ascii.isDigit Ascii.minus = false := rfl
  simp only [start?] at h
  grind [endsInDigit]

theorem endsInDigit_step {n n' : Numeral} {b : UInt8} (h : n.step b = .next n') :
    n'.endsInDigit = Ascii.isDigit b := by
  have hzero : Ascii.isDigit Ascii.zero = true := rfl
  have hpoint : Ascii.isDigit Ascii.point = false := rfl
  have hplus : Ascii.isDigit Ascii.plus = false := rfl
  have hminus : Ascii.isDigit Ascii.minus = false := rfl
  have hmark : isMark b → Ascii.isDigit b = false := isDigit_of_isMark
  cases n <;> simp only [step, afterDigits, powerDigit] at h <;>
    grind [endsInDigit, endsInDigit_fractionDigit]

theorem endsInDigit_of_finish {n : Numeral} {number : Number} (h : n.finish = .ok number) :
    n.endsInDigit = true := by
  cases n <;> first | rfl | simp [finish] at h

theorem float_error {negative : Bool} {digits : Nat} {scale : Int} {cause : Cause}
    (h : float negative digits scale = .error cause) : cause = .numberOutOfRange := by
  rw [float] at h
  split at h <;> cases h
  rfl

theorem finish_error {n : Numeral} {cause : Cause} (h : n.finish = .error cause) :
    cause.category = .unfinished ∨ cause = .numberOutOfRange := by
  cases n <;> simp only [finish] at h
  case long | fraction | longFraction | power => exact .inr (float_error h)
  all_goals cases h
  all_goals exact .inl rfl

end Numeral

namespace Reader

/-- The reader past `bytes`, unless the value ends or fails within them. -/
def through (r : Reader) : Bytes → Option Reader
  | [] => some r
  | b :: rest =>
    match r.step b with
    | .next r => r.through rest
    | .done _ | .past _ | .fault _ _ => none

def Outcome.before (o : Outcome) (more : Bytes) : Outcome :=
  match o with
  | value v used rest => value v used (rest ++ more)
  | fault cause index => fault cause index

@[simp] theorem through_nil (r : Reader) : r.through [] = some r := rfl

theorem through_append (r : Reader) (bytes more : Bytes) :
    r.through (bytes ++ more) = (r.through bytes).bind (·.through more) := by
  induction bytes generalizing r with
  | nil => rfl
  | cons b bytes ih =>
    simp only [List.cons_append, through]
    cases r.step b <;> simp [ih]

theorem run_of_through {r r' : Reader} {bytes : Bytes} (h : r.through bytes = some r')
    (index : Nat) (more : Bytes) :
    r.run index (bytes ++ more) = r'.run (index + bytes.length) more := by
  induction bytes generalizing r index with
  | nil => simp_all
  | cons b bytes ih =>
    simp only [through] at h
    cases hstep : r.step b <;> simp only [hstep] at h
    case next next =>
      simp only [List.cons_append, run, hstep, ih h, List.length_cons]
      congr 1
      omega
    all_goals cases h

/-- A buffer that the reader does not come through settles the outcome. -/
theorem run_of_settled {r : Reader} {bytes : Bytes} (h : r.through bytes = none)
    (index : Nat) (more : Bytes) :
    r.run index (bytes ++ more) = (r.run index bytes).before more := by
  induction bytes generalizing r index with
  | nil => cases h
  | cons b bytes ih =>
    simp only [through] at h
    simp only [List.cons_append, run]
    cases hstep : r.step b <;> simp only [hstep] at h
    case next next => exact ih h _
    all_goals rfl

theorem read_of_through {r : Reader} {bytes : Bytes} (h : start.through bytes = some r)
    (more : Bytes) : read (bytes ++ more) = r.run bytes.length more := by
  simpa [read] using run_of_through h 0 more

theorem read_of_settled {bytes : Bytes} (h : start.through bytes = none) (more : Bytes) :
    read (bytes ++ more) = (read bytes).before more :=
  run_of_settled h 0 more

theorem run_value_from {r : Reader} {index : Nat} {bytes : Bytes} {v : Json} {used : Nat}
    {rest : Bytes} (h : r.run index bytes = .value v used rest) (index' : Nat) :
    ∃ used', r.run index' bytes = .value v used' rest := by
  induction bytes generalizing r index index' with
  | nil =>
    rw [run] at h
    split at h <;> cases h
    rename_i hfinish
    exact ⟨index', by simp only [run, hfinish]⟩
  | cons b bytes ih =>
    simp only [run] at h
    cases hstep : r.step b <;> simp only [hstep] at h
    case next next =>
      obtain ⟨used', h'⟩ := ih h (index' + 1)
      exact ⟨used', by simpa only [run, hstep] using h'⟩
    case fault => cases h
    all_goals
      cases h
      simp only [run, hstep]
      exact ⟨_, rfl⟩

theorem run_fault_le {r : Reader} {index : Nat} {bytes : Bytes} {cause : Cause} {at' : Nat}
    (h : r.run index bytes = .fault cause at') : at' ≤ index + bytes.length := by
  induction bytes generalizing r index with
  | nil =>
    rw [run] at h
    split at h <;> cases h
    exact Nat.le_refl _
  | cons b bytes ih =>
    rw [run] at h
    split at h
    · have := ih h
      simp only [List.length_cons]
      omega
    · cases h
    · cases h
    · simp only [Outcome.fault.injEq] at h
      simp only [List.length_cons]
      omega

theorem read_fault_le {text : Bytes} {cause : Cause} {index : Nat}
    (h : read text = .fault cause index) : index ≤ text.length := by
  simpa using run_fault_le h

theorem finish_eq_ok {r : Reader} {v : Json} (h : r.finish = .ok v) :
    ∃ n number, r = numeral [] n ∧ n.finish = .ok number ∧ v = .number number := by
  cases r with
  | numeral stack n =>
    simp only [finish] at h
    split at h
    · cases h
    · rename_i number hn
      split at h
      · rename_i hstack
        cases h
        exact ⟨n, number, by rw [List.isEmpty_iff.mp hstack], hn, rfl⟩
      · cases h
  | _ => cases h

theorem finish_error {r : Reader} {cause : Cause} (h : r.finish = .error cause) :
    cause.category = .unfinished ∨ cause = .numberOutOfRange := by
  cases r with
  | numeral stack n =>
    simp only [finish] at h
    split at h
    · rename_i hn
      cases h
      exact Numeral.finish_error hn
    · split at h
      · cases h
      · cases h
        refine .inl ?_
        cases stack with
        | nil => rfl
        | cons frame stack => cases frame <;> rfl
  | _ =>
    cases h
    exact .inl rfl

theorem endsInDigit_step {r : Reader} {b : UInt8} {stack : List Frame} {n : Numeral}
    (h : r.step b = .next (numeral stack n)) : n.endsInDigit = Ascii.isDigit b := by
  cases r with
  | value s =>
    simp only [step, startValue, openWith] at h
    grind [Numeral.endsInDigit_start?]
  | firstItem s =>
    simp only [step, startValue, openWith, deliver] at h
    grind [Numeral.endsInDigit_start?]
  | nextItem s items =>
    simp only [step, startValue, openWith] at h
    grind [Numeral.endsInDigit_start?]
  | numeral s n' =>
    simp only [step, pastNumber, stepAfterItem, stepAfterMember, deliver] at h
    grind [Numeral.endsInDigit_step]
  | string s role content escape =>
    simp only [step, stepString, closeString, takeUnit, deliver] at h
    grind
  | word s rest v =>
    simp only [step, stepWord, deliver] at h
    grind
  | _ =>
    simp only [step, stepAfterItem, stepAfterMember, startKey, deliver] at h
    grind

theorem endsInDigit_of_through {bytes : Bytes} {stack : List Frame} {n : Numeral}
    (h : start.through bytes = some (numeral stack n)) :
    bytes.getLast?.any Ascii.isDigit = n.endsInDigit := by
  rcases List.eq_nil_or_concat bytes with rfl | ⟨front, b, rfl⟩
  · cases h
  · rw [List.concat_eq_append, through_append, Option.bind_eq_some_iff] at h
    obtain ⟨r, -, hb⟩ := h
    simp only [through] at hb
    cases hstep : r.step b <;> simp only [hstep] at hb <;> cases hb
    simp [endsInDigit_step hstep]

/-- A reader that comes through a text that is a value is reading a number. -/
theorem number_of_through {bytes : Bytes} {r : Reader} (h : start.through bytes = some r) {v : Json}
    {used : Nat} {rest : Bytes} (hread : read bytes = .value v used rest) :
    ∃ n number, r = numeral [] n ∧ n.finish = .ok number ∧ v = .number number := by
  have hend := read_of_through h []
  rw [List.append_nil, hread] at hend
  rw [run] at hend
  split at hend <;> cases hend
  rename_i hfinish
  exact finish_eq_ok hfinish

theorem through_blanks {blanks : Bytes} (h : blanks.all Ascii.isSpace) :
    start.through blanks = some start := by
  induction blanks with
  | nil => rfl
  | cons b blanks ih =>
    simp only [List.all_cons, Bool.and_eq_true] at h
    simpa only [through, start, step, h.1, if_true] using ih h.2

theorem through_takeWhile (text : Bytes) :
    start.through (text.takeWhile Ascii.isSpace) = some start :=
  through_blanks List.all_takeWhile

theorem read_eq_run (text : Bytes) :
    read text = start.run (Target.blanks text) (text.dropWhile Ascii.isSpace) := by
  have hread := read_of_through (through_takeWhile text) (text.dropWhile Ascii.isSpace)
  rwa [List.takeWhile_append_dropWhile] at hread

theorem read_dropWhile {text : Bytes} {v : Json} {used : Nat} {rest : Bytes}
    (h : read text = .value v used rest) :
    ∃ used', read (text.dropWhile Ascii.isSpace) = .value v used' rest := by
  rw [read_eq_run] at h
  exact run_value_from h 0

end Reader

end PlayableCards
