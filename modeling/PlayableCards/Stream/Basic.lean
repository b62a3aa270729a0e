import PlayableCards.Json.Fault
import PlayableCards.Stream.Source
import PlayableCards.Stream.Window

/-!
# Streams

A window on a source. The source is read only when the bytes in the window do not suffice to tell
what comes next, one chunk at a time, and never again after a read that brought nothing.
-/

namespace PlayableCards

inductive Phase where
  | opening
  | items
  /-- Closed, exhausted or failed. -/
  | done
  deriving DecidableEq, Repr

structure Stream where
  source : Source
  window : Window
  chunk : Nat
  /-- Whether a read has come back empty: none will follow. -/
  exhausted : Bool
  phase : Phase

namespace Stream

def defaultChunk : Nat := 65536

def ofSource (source : Source) : Stream :=
  ⟨source, .empty, defaultChunk, false, .opening⟩

def withChunk (s : Stream) (n : Nat) : Stream := { s with chunk := max n 1 }

def offset (s : Stream) : Nat := s.window.offset

def skip (s : Stream) (n : Nat) : Stream := { s with window := s.window.skip n }

def skipWhile (s : Stream) (p : UInt8 → Bool) : Stream :=
  { s with window := s.window.skipWhile p }

def finish (s : Stream) : Stream := { s with phase := .done }

def remaining (s : Stream) : Nat := s.source.unread.length + s.window.pending.length

/-- A bound on the reads that can still change the stream. -/
def demand (s : Stream) : Nat := 2 * s.source.unread.length + if s.exhausted then 0 else 1

@[simp] theorem exhausted_skipWhile (s : Stream) (p : UInt8 → Bool) :
    (s.skipWhile p).exhausted = s.exhausted := rfl

def fill (s : Stream) : Option IoFault × Stream :=
  let window := s.window.compact
  match s.source.read s.chunk with
  | (.error fault, source) => (some fault, { s with source, window })
  | (.ok bytes, source) =>
    (none, { s with source, window := window.append bytes, exhausted := bytes.isEmpty })

/-- A read brings bytes or shows that there are no more. -/
theorem demand_fill {s s' : Stream} (h : s.fill = (none, s')) (hs : s.exhausted = false) :
    s'.demand < s.demand := by
  unfold fill at h
  simp only at h
  split at h
  · simp at h
  · rename_i bytes source hread
    have hunread := Source.read_unread hread
    simp only [Prod.mk.injEq, true_and] at h
    subst h
    cases bytes with
    | nil => simp_all [demand]
    | cons b bytes =>
      simp only [demand, hs, hunread, List.length_append, List.length_cons, List.isEmpty_cons]
      omega

theorem remaining_fill {s s' : Stream} {fault : Option IoFault} (h : s.fill = (fault, s')) :
    s'.remaining = s.remaining := by
  unfold fill at h
  simp only at h
  split at h
  · rename_i hread
    have := Source.read_unread_of_error hread
    simp only [Prod.mk.injEq] at h
    simp [← h.2, remaining, this]
  · rename_i hread
    have := Source.read_unread hread
    simp only [Prod.mk.injEq] at h
    simp only [← h.2, remaining, this, Window.pending_append, Window.pending_compact,
      List.length_append]
    omega

theorem remaining_skip (s : Stream) (n : Nat) (h : n ≤ s.window.pending.length) :
    (s.skip n).remaining + n = s.remaining := by
  simp only [remaining, skip, Window.pending_skip, List.length_drop]
  omega

theorem remaining_skipWhile_le (s : Stream) (p : UInt8 → Bool) :
    (s.skipWhile p).remaining ≤ s.remaining := by
  have := s.window.pending_skipWhile_length p
  simp only [remaining, skipWhile]
  omega

/-- Skips bytes that satisfy `p` and reads on until `look` can tell something from the bytes that
follow, or until there are no more and `last` tells. -/
def gather (p : UInt8 → Bool) (look : Bytes → Option β) (last : Bytes → β) (s : Stream) :
    Except IoFault β × Stream :=
  let ahead := s.skipWhile p
  if _hs : ahead.exhausted then (.ok (last ahead.window.pending), ahead)
  else
    match look ahead.window.pending with
    | some b => (.ok b, ahead)
    | none =>
      match _h : ahead.fill with
      | (some fault, s') => (.error fault, s')
      | (none, s') => gather p look last s'
termination_by s.demand
decreasing_by
  have : s'.demand < ahead.demand := demand_fill _h (by simpa using _hs)
  exact this

theorem gather_ok {p : UInt8 → Bool} {look : Bytes → Option β} {last : Bytes → β} {s s' : Stream}
    {b : β} (h : s.gather p look last = (.ok b, s')) :
    look s'.window.pending = some b ∨ s'.exhausted ∧ last s'.window.pending = b := by
  fun_induction gather p look last s with
  | case1 s ahead hs =>
    simp only [Prod.mk.injEq, Except.ok.injEq] at h
    exact .inr ⟨h.2 ▸ hs, h.2 ▸ h.1⟩
  | case2 s ahead hs c hlook =>
    simp only [Prod.mk.injEq, Except.ok.injEq] at h
    exact .inl (h.2 ▸ h.1 ▸ hlook)
  | case3 => simp at h
  | case4 s ahead hs hlook s'' hfill ih => exact ih h

theorem remaining_gather_le (p : UInt8 → Bool) (look : Bytes → Option β) (last : Bytes → β)
    (s : Stream) : (s.gather p look last).2.remaining ≤ s.remaining := by
  fun_induction gather p look last s with
  | case1 s ahead hs => exact remaining_skipWhile_le s p
  | case2 s ahead hs c hlook => exact remaining_skipWhile_le s p
  | case3 s ahead hs hlook fault s' hfill =>
    exact remaining_fill hfill ▸ remaining_skipWhile_le s p
  | case4 s ahead hs hlook s' hfill ih =>
    exact Nat.le_trans ih (remaining_fill hfill ▸ remaining_skipWhile_le s p)

end Stream

end PlayableCards
