import PlayableCards.Text.Utf8

/-!
# Windows

The part of an input that is in memory, cut where reading has come to. Bytes before the cut stay
until room is made for more.
-/

namespace PlayableCards

structure Window where
  /-- Bytes before the cut, last first. -/
  passed : Bytes
  /-- Bytes after the cut. -/
  pending : Bytes
  /-- Where the cut lies in the whole input. -/
  offset : Nat

namespace Window

def empty : Window := ⟨[], [], 0⟩

def buffer (w : Window) : Bytes := w.passed.reverse ++ w.pending

/-- Where the bytes in memory start in the whole input. -/
def base (w : Window) : Nat := w.offset - w.passed.length

def skip (w : Window) (n : Nat) : Window :=
  let bytes := w.pending.take n
  ⟨bytes.reverse ++ w.passed, w.pending.drop n, w.offset + bytes.length⟩

def skipWhile (w : Window) (p : UInt8 → Bool) : Window := w.skip (w.pending.takeWhile p).length

/-- Forgets the bytes before the cut. -/
def compact (w : Window) : Window := { w with passed := [] }

def append (w : Window) (bytes : Bytes) : Window := { w with pending := w.pending ++ bytes }

@[simp] theorem buffer_skip (w : Window) (n : Nat) : (w.skip n).buffer = w.buffer := by
  simp [buffer, skip]

@[simp] theorem buffer_compact (w : Window) : w.compact.buffer = w.pending := by
  simp [buffer, compact]

@[simp] theorem pending_compact (w : Window) : w.compact.pending = w.pending := rfl

@[simp] theorem offset_compact (w : Window) : w.compact.offset = w.offset := rfl

@[simp] theorem pending_append (w : Window) (bytes : Bytes) :
    (w.append bytes).pending = w.pending ++ bytes := rfl

@[simp] theorem offset_append (w : Window) (bytes : Bytes) :
    (w.append bytes).offset = w.offset := rfl

@[simp] theorem pending_skip (w : Window) (n : Nat) : (w.skip n).pending = w.pending.drop n := rfl

theorem pending_skipWhile_length (w : Window) (p : UInt8 → Bool) :
    (w.skipWhile p).pending.length ≤ w.pending.length := by
  simp [skipWhile]

end Window

end PlayableCards
