import PlayableCards.Json.Target

/-!
# Decoding a value from a buffer that may end anywhere

The bytes at hand may be all there is or the first part of more. A value is taken once no further
byte could change it, refused once no further byte could save it, and otherwise waited for.
-/

namespace PlayableCards

inductive Decoded (α : Type) where
  | complete (value : α) (used : Nat)
  | incomplete
  | invalid (fault : Fault)

namespace Target

/-- Values that end with their last byte: strings and containers. -/
def endsItself (first : UInt8) : Bool :=
  first == Ascii.quote || first == Ascii.openBracket || first == Ascii.openBrace

def separates (b : UInt8) : Bool :=
  Ascii.isSpace b || b == Ascii.quote || b == Ascii.openBracket || b == Ascii.closeBracket
    || b == Ascii.openBrace || b == Ascii.closeBrace || b == Ascii.comma || b == Ascii.colon

def mayPrecede (first : UInt8) (rest : Bytes) : Bool :=
  endsItself first || match rest with
    | [] => true
    | b :: _ => separates b

/-- A digit at the end of the buffer may be followed by another. -/
def mayGrow (buffer rest : Bytes) : Bool :=
  rest.isEmpty && buffer.getLast?.any Ascii.isDigit

def readNext (t : Target α) (first : UInt8) (buffer : Bytes) : Except Fault (Item α) :=
  match t.readFirst buffer with
  | .error fault => .error fault
  | .ok item =>
    if mayPrecede first item.rest then .ok item
    else .error (.inText buffer .trailingCharacters (item.used + 1))

/-- Decodes the value at the start of a buffer; `final` tells that no bytes will follow. Before
that, a value that may grow is incomplete, and so is a buffer at fault only at its very end. -/
def decode (t : Target α) (buffer : Bytes) (final : Bool) : Decoded α :=
  match buffer.dropWhile Ascii.isSpace with
  | [] => .incomplete
  | first :: _ =>
    match t.readNext first buffer with
    | .ok item =>
      if !final && mayGrow buffer item.rest then .incomplete
      else .complete item.value item.used
    | .error fault =>
      match fault.cause.category with
      | .unfinished => .incomplete
      | .malformed =>
        if !final && fault.position.isEndOf buffer then .incomplete else .invalid fault
      | .unwanted => .invalid fault

theorem decode_complete {t : Target α} {buffer : Bytes} {final : Bool} {value : α} {used : Nat}
    (h : t.decode buffer final = .complete value used) :
    ∃ item, t.readFirst buffer = .ok item ∧ item.value = value ∧ item.used = used := by
  unfold decode at h
  split at h
  · simp at h
  · rename_i first _ _
    split at h
    · rename_i item hnext
      split at h
      · simp at h
      · simp only [Decoded.complete.injEq] at h
        unfold readNext at hnext
        split at hnext
        · simp at hnext
        · rename_i read hread
          split at hnext
          · simp only [Except.ok.injEq] at hnext
            subst hnext
            exact ⟨read, hread, h.1, h.2⟩
          · simp at hnext
    · split at h
      · simp at h
      · split at h <;> simp at h
      · simp at h

theorem decode_complete_pos {t : Target α} {buffer : Bytes} {final : Bool} {value : α} {used : Nat}
    (h : t.decode buffer final = .complete value used) : 0 < used := by
  obtain ⟨item, hitem, -, rfl⟩ := decode_complete h
  obtain ⟨v, hread, -⟩ := readFirst_eq_ok hitem
  exact Reader.read_value_pos hread

theorem decode_complete_le {t : Target α} {buffer : Bytes} {final : Bool} {value : α} {used : Nat}
    (h : t.decode buffer final = .complete value used) : used ≤ buffer.length := by
  obtain ⟨item, hitem, -, rfl⟩ := decode_complete h
  obtain ⟨v, hread, -⟩ := readFirst_eq_ok hitem
  have := Reader.read_value hread
  omega

end Target

end PlayableCards
