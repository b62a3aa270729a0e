import PlayableCards.Proofs.Reader.Nesting
import PlayableCards.Stream.Items

/-!
# Between the entries of a container

A list or an object is read entry by entry. Between two entries a reader skips blanks and commas,
until an entry starts or the container ends.
-/

namespace PlayableCards

/-- An outermost container, with what has been read of it. -/
inductive Container where
  | list (items : List Json)
  | object (members : Members)

namespace Container

def closer : Container → UInt8
  | list _ => Ascii.closeBracket
  | object _ => Ascii.closeBrace

def whole : Container → Json
  | list items => .array items.reverse
  | object members => .object members

def next : Container → Reader
  | list items => .nextItem [] items
  | object members => .nextKey [] members

def after : Container → Reader
  | list items => .afterItem [] items
  | object members => .afterMember [] members

end Container

namespace Reader

inductive Between : Container → Reader → Prop where
  | firstItem : Between (.list []) (firstItem [])
  | firstKey : Between (.object []) (firstKey [])
  | next (c : Container) : Between c c.next
  | after (c : Container) : Between c c.after

variable {c : Container} {r : Reader}

theorem Between.step_blank (hr : Between c r) {b : UInt8} (hspace : Ascii.isSpace b = true) :
    r.step b = .next r := by
  cases hr with
  | firstItem | firstKey => simp [step, hspace]
  | next c => cases c <;> simp [Container.next, step, hspace]
  | after c => cases c <;> simp [Container.after, step, stepAfterItem, stepAfterMember, hspace]

theorem Between.step_closer (hr : Between c r) :
    r.step c.closer = .done c.whole ∨ ∃ cause back, r.step c.closer = .fault cause back := by
  cases hr with
  | firstItem | firstKey => exact .inl rfl
  | next c => cases c <;> exact .inr ⟨_, _, rfl⟩
  | after c => cases c <;> exact .inl rfl

theorem Between.step_entry (hr : Between c r) {b : UInt8} (hspace : Ascii.isSpace b = false)
    (hcomma : b ≠ Ascii.comma) (hclose : b ≠ c.closer) :
    r.step b = c.next.step b ∨ ∃ cause back, r.step b = .fault cause back := by
  cases hr with
  | firstItem | firstKey =>
    rw [Container.closer] at hclose
    exact .inl (by simp [Container.next, step, hspace, hclose])
  | next c => exact .inl rfl
  | after c =>
    cases c with
    | list items =>
      rw [Container.closer] at hclose
      exact .inr ⟨.expectedItemEnd, 0, by simp [Container.after, step, stepAfterItem, *]⟩
    | object members =>
      rw [Container.closer] at hclose
      exact .inr ⟨.expectedMemberEnd, 0, by simp [Container.after, step, stepAfterMember, *]⟩

/-- Behind blanks and commas the container ends or an entry starts. -/
theorem run_between (hr : Between c r) {index : Nat} {bytes : Bytes} {whole : Json} {used : Nat}
    {rest : Bytes} (h : r.run index bytes = .value whole used rest) :
    (∃ tail, bytes.dropWhile Stream.isBetween = c.closer :: tail ∧ whole = c.whole)
      ∨ ∃ b tail index', bytes.dropWhile Stream.isBetween = b :: tail ∧ b ≠ c.closer
        ∧ Ascii.isSpace b = false ∧ c.next.run index' (b :: tail) = .value whole used rest := by
  induction bytes generalizing r index with
  | nil =>
    cases hr with
    | firstItem | firstKey => cases h
    | next c | after c => cases c <;> cases h
  | cons b bytes ih =>
    by_cases hspace : Ascii.isSpace b = true
    · rw [run, hr.step_blank hspace] at h
      rw [List.dropWhile_cons_of_pos (by simp [Stream.isBetween, hspace])]
      exact ih hr h
    by_cases hcomma : b = Ascii.comma
    · subst hcomma
      cases hr with
      | firstItem | firstKey => cases h
      | next c => cases c <;> cases h
      | after c =>
        have hstep : c.after.step Ascii.comma = .next c.next := by cases c <;> rfl
        rw [run, hstep] at h
        exact ih (.next c) h
    have hdrop : (b :: bytes).dropWhile Stream.isBetween = b :: bytes :=
      List.dropWhile_cons_of_neg (by simp [Stream.isBetween, hspace, hcomma])
    rw [Bool.not_eq_true] at hspace
    rw [run] at h
    by_cases hclose : b = c.closer
    · subst hclose
      rcases hr.step_closer with hstep | ⟨cause, back, hstep⟩ <;> rw [hstep] at h <;> cases h
      exact .inl ⟨_, hdrop, rfl⟩
    · rcases hr.step_entry hspace hcomma hclose with hstep | ⟨cause, back, hstep⟩ <;>
        rw [hstep] at h
      · exact .inr ⟨b, bytes, index, hdrop, hclose, hspace, h⟩
      · cases h

theorem run_nextItem {items : List Json} {b : UInt8} (hspace : Ascii.isSpace b = false)
    (hclose : b ≠ Ascii.closeBracket) (index : Nat) (tail : Bytes) :
    (nextItem [] items).run index (b :: tail)
      = (start.within (.item items)).run index (b :: tail) := by
  simp [run, step, start, within, hspace, hclose]

end Reader
end PlayableCards
