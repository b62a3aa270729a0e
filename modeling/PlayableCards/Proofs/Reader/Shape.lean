import PlayableCards.Proofs.Reader.Passage

/-!
# What a value begins with

The first byte of a value tells its kind. Whatever a reader holds, the kind of the value it will
end with is that of its outermost container, or of the token being read when there is none.
-/

namespace PlayableCards

/-- Kinds of values that differ in how they begin. -/
inductive Shape where
  | word
  | number
  | string
  | list
  | object
  deriving DecidableEq, Repr

namespace Shape

def begunBy (b : UInt8) : Option Shape :=
  if b = Ascii.quote then some string
  else if b = Ascii.openBracket then some list
  else if b = Ascii.openBrace then some object
  else if b = 0x6E || b = 0x74 || b = 0x66 then some word
  else if (Numeral.start? b).isSome then some number
  else none

theorem eq_openBracket_of_begunBy {b : UInt8} (h : begunBy b = some list) :
    b = Ascii.openBracket := by
  rw [begunBy] at h
  grind

theorem eq_openBrace_of_begunBy {b : UInt8} (h : begunBy b = some object) :
    b = Ascii.openBrace := by
  rw [begunBy] at h
  grind

end Shape

namespace Json

def shape : Json → Shape
  | null | bool _ => .word
  | number _ => .number
  | string _ => .string
  | array _ => .list
  | object _ => .object

end Json

namespace Reader

/-- The kind of the outermost container, or `top` when there is none. -/
def outermost : List Frame → Shape → Shape
  | [], top => top
  | .item _ :: stack, _ => outermost stack .list
  | .member _ _ :: stack, _ => outermost stack .object

/-- The kind of the value that a reader will end with, once it has begun. -/
def shape? : Reader → Option Shape
  | value [] => none
  | value (frame :: stack) => some (outermost (frame :: stack) .word)
  | firstItem stack | nextItem stack _ | afterItem stack _ => some (outermost stack .list)
  | firstKey stack | nextKey stack _ | afterKey stack _ _ | afterMember stack _ =>
    some (outermost stack .object)
  | string stack .value _ _ => some (outermost stack .string)
  | string stack (.key _) _ _ => some (outermost stack .object)
  | word stack _ v => some (outermost stack v.shape)
  | numeral stack _ => some (outermost stack .number)

def Step.Keeps (k : Shape) : Step → Prop
  | next r => r.shape? = some k
  | done v | past v => v.shape = k
  | fault _ _ => True

theorem keeps_deliver {stack : List Frame} {v : Json} {k : Shape}
    (h : outermost stack v.shape = k) : (deliver stack v).Keeps k := by
  cases stack with
  | nil => exact h
  | cons frame stack =>
    cases frame <;> exact congrArg some h

theorem keeps_openWith {stack : List Frame} {r : Reader} {k : Shape} (h : r.shape? = some k) :
    (openWith stack r).Keeps k := by
  rw [openWith]
  split
  · exact h
  · trivial

theorem keeps_startValue {stack : List Frame} {b : UInt8} {k : Shape}
    (h : ∀ top, Shape.begunBy b = some top → outermost stack top = k) :
    (startValue stack b).Keeps k := by
  rw [startValue]
  split
  · rename_i hb
    exact congrArg some (h .string (hb ▸ rfl))
  split
  · rename_i hb
    exact keeps_openWith (congrArg some (h .list (hb ▸ rfl)))
  split
  · rename_i hb
    exact keeps_openWith (congrArg some (h .object (hb ▸ rfl)))
  split
  · rename_i hb
    exact congrArg some (h .word (hb ▸ rfl))
  split
  · rename_i hb
    exact congrArg some (h .word (hb ▸ rfl))
  split
  · rename_i hb
    exact congrArg some (h .word (hb ▸ rfl))
  split
  · exact congrArg some (h .number (by simp [Shape.begunBy, *]))
  · trivial

theorem keeps_stepAfterItem {stack : List Frame} {items : List Json} {b : UInt8} {k : Shape}
    (h : outermost stack .list = k) : (stepAfterItem stack items b).Keeps k := by
  rw [stepAfterItem]
  split
  · exact congrArg some h
  · split
    · exact congrArg some h
    · split
      · exact keeps_deliver h
      · trivial

theorem keeps_stepAfterMember {stack : List Frame} {members : Members} {b : UInt8} {k : Shape}
    (h : outermost stack .object = k) : (stepAfterMember stack members b).Keeps k := by
  rw [stepAfterMember]
  split
  · exact congrArg some h
  · split
    · exact congrArg some h
    · split
      · exact keeps_deliver h
      · trivial

theorem keeps_startKey {stack : List Frame} {members : Members} {b : UInt8} {k : Shape}
    (h : outermost stack .object = k) : (startKey stack members b).Keeps k := by
  rw [startKey]
  split
  · exact congrArg some h
  · trivial

theorem keeps_pastNumber {stack : List Frame} {n : Numeral} {b : UInt8} {k : Shape}
    (h : outermost stack .number = k) : (pastNumber stack n b).Keeps k := by
  rw [pastNumber]
  split
  · trivial
  · cases stack with
    | nil => exact h
    | cons frame stack =>
      cases frame with
      | item items => exact keeps_stepAfterItem h
      | member members key => exact keeps_stepAfterMember h

theorem keeps_stepString {stack : List Frame} {role : Role} {content : Bytes} {escape : Escape}
    {b : UInt8} {k : Shape} (h : ∀ c e, (string stack role c e).shape? = some k) :
    (stepString stack role content escape b).Keeps k := by
  have hclose : (closeString stack role content).Keeps k := by
    rw [closeString]
    split
    · trivial
    · cases role with
      | value => exact keeps_deliver (Option.some.inj (h [] .none))
      | key members => exact h [] .none
  have hunit : ∀ c high unit, (takeUnit stack role c high unit).Keeps k := by
    intro c high unit
    unfold takeUnit
    repeat' split
    all_goals first | exact h _ _ | trivial
  unfold stepString
  repeat' split
  all_goals first | exact hclose | exact hunit _ _ _ | exact h _ _ | trivial

/-- No byte changes the kind of the value that has begun. -/
theorem keeps_step {r : Reader} {k : Shape} (h : r.shape? = some k) (b : UInt8) :
    (r.step b).Keeps k := by
  cases r with
  | value stack =>
    cases stack with
    | nil => cases h
    | cons frame stack =>
      simp only [step]
      split
      · exact h
      · exact keeps_startValue fun top _ => by cases frame <;> exact Option.some.inj h
  | firstItem stack =>
    simp only [step]
    split
    · exact h
    · split
      · exact keeps_deliver (Option.some.inj h)
      · exact keeps_startValue fun top _ => Option.some.inj h
  | nextItem stack items =>
    simp only [step]
    split
    · exact h
    · split
      · trivial
      · exact keeps_startValue fun top _ => Option.some.inj h
  | afterItem stack items => exact keeps_stepAfterItem (Option.some.inj h)
  | firstKey stack =>
    simp only [step]
    split
    · exact h
    · split
      · exact keeps_deliver (Option.some.inj h)
      · exact keeps_startKey (Option.some.inj h)
  | nextKey stack members =>
    simp only [step]
    split
    · exact h
    · split
      · trivial
      · exact keeps_startKey (Option.some.inj h)
  | afterKey stack members key =>
    simp only [step]
    split
    · exact h
    · split
      · exact h
      · trivial
  | afterMember stack members => exact keeps_stepAfterMember (Option.some.inj h)
  | string stack role content escape => exact keeps_stepString fun c e => by cases role <;> exact h
  | word stack rest v =>
    simp only [step, stepWord]
    repeat' split
    · trivial
    · exact keeps_deliver (Option.some.inj h)
    · exact h
    · trivial
  | numeral stack n =>
    simp only [step]
    split
    · exact h
    · exact keeps_pastNumber (Option.some.inj h)
    · trivial

theorem run_shape {r : Reader} {k : Shape} (h : r.shape? = some k) {index : Nat} {bytes : Bytes}
    {v : Json} {used : Nat} {rest : Bytes} (hrun : r.run index bytes = .value v used rest) :
    v.shape = k := by
  induction bytes generalizing r index with
  | nil =>
    rw [run] at hrun
    split at hrun
    · rename_i hfinish
      obtain ⟨n, number, rfl, -, rfl⟩ := finish_eq_ok hfinish
      cases hrun
      exact Option.some.inj h
    · cases hrun
  | cons b bytes ih =>
    have hkeeps := keeps_step h b
    rw [run] at hrun
    cases hstep : r.step b <;> simp only [hstep] at hrun hkeeps
    case next next => exact ih hkeeps hrun
    case fault => cases hrun
    all_goals
      cases hrun
      exact hkeeps

/-- A value that is read is of the kind that its first byte begins. -/
theorem read_shape {first : UInt8} {tail : Bytes} (hfirst : Ascii.isSpace first = false) {v : Json}
    {used : Nat} {rest : Bytes} (h : read (first :: tail) = .value v used rest) :
    Shape.begunBy first = some v.shape := by
  cases hk : Shape.begunBy first with
  | none =>
    have hstart : startValue [] first = .fault .expectedValue 0 := by
      rw [startValue]
      grind [Shape.begunBy]
    simp [read, start, run, step, hfirst, hstart] at h
  | some k =>
    have hkeeps : (startValue [] first).Keeps k := by
      refine keeps_startValue fun top htop => ?_
      rw [hk] at htop
      exact (Option.some.inj htop).symm
    rw [read, start, run] at h
    simp only [step, hfirst, Bool.false_eq_true, if_false] at h
    cases hstep : startValue [] first <;> simp only [hstep] at h hkeeps
    case next next => rw [run_shape hkeeps h]
    case fault => cases h
    all_goals
      cases h
      rw [← hkeeps]

theorem begunBy_of_read {text : Bytes} {v : Json} {used : Nat} {rest : Bytes}
    (h : read text = .value v used rest) :
    ∃ first tail, text.dropWhile Ascii.isSpace = first :: tail
      ∧ Shape.begunBy first = some v.shape := by
  obtain ⟨used', hread⟩ := read_dropWhile h
  cases htext : text.dropWhile Ascii.isSpace with
  | nil =>
    rw [htext] at hread
    cases hread
  | cons first tail =>
    rw [htext] at hread
    exact ⟨first, tail, rfl, read_shape (neg_of_dropWhile htext) hread⟩

end Reader

end PlayableCards
