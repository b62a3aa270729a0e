import Mathlib.Data.List.TakeWhile
import PlayableCards.Proofs.Stream.Cursor

/-!
# Steady sources

A steady source delivers its input in pieces of any size, never fails and never brings nothing
while there is more. A stream that reads from it yields what its cursor yields, however the input
is cut, provided that no buffer tells more than the whole text does.
-/

namespace PlayableCards

namespace ReadEvent

/-- A call that brings bytes, if there are any, or is made again. -/
def brings : ReadEvent → Bool
  | deliver most => 0 < most
  | interrupt => true
  | fail _ => false

end ReadEvent

namespace Source

/-- A reading call to a steady source takes from the front, and nothing only at the end. -/
theorem read_of_brings {s : Source} {room : Nat} (hs : s.script.all ReadEvent.brings)
    (hroom : 0 < room) :
    ∃ bytes s', s.read room = (.ok bytes, s') ∧ s.unread = bytes ++ s'.unread
      ∧ s'.script.all ReadEvent.brings ∧ (bytes = [] → s.unread = [])
      ∧ (s.script = [] → s'.script = [] ∧ bytes = s.unread.take room) := by
  suffices hread : ∀ script : List ReadEvent, ∀ s : Source, script.all ReadEvent.brings →
      ∃ bytes s', s.readBy room script = (.ok bytes, s') ∧ s.unread = bytes ++ s'.unread
        ∧ s'.script.all ReadEvent.brings ∧ (bytes = [] → s.unread = [])
        ∧ (script = [] → s'.script = [] ∧ bytes = s.unread.take room) from
    hread s.script s hs
  have hdeliver : ∀ s : Source, ∀ n, 0 < n → s.script.all ReadEvent.brings →
      ∃ bytes s', s.deliver n = (.ok bytes, s') ∧ s.unread = bytes ++ s'.unread
        ∧ s'.script.all ReadEvent.brings ∧ (bytes = [] → s.unread = [])
        ∧ s'.script = s.script ∧ bytes = s.unread.take n := by
    intro s n hn hs
    refine ⟨s.unread.take n, _, rfl, (List.take_append_drop _ _).symm, hs, ?_, rfl, rfl⟩
    intro hnil
    rcases List.take_eq_nil_iff.mp hnil with h | h
    · omega
    · exact h
  intro script
  induction script with
  | nil =>
    intro s _
    obtain ⟨bytes, s', h, hunread, hscript, hnil, hkeep, htake⟩ :=
      hdeliver { s with script := [] } room hroom rfl
    exact ⟨bytes, s', h, hunread, hscript, hnil, fun _ => ⟨hkeep, htake⟩⟩
  | cons event script ih =>
    intro s hs
    simp only [List.all_cons, Bool.and_eq_true] at hs
    obtain ⟨hevent, hscript⟩ := hs
    cases event with
    | deliver most =>
      have hmost : 0 < min most room := by
        simp only [ReadEvent.brings, decide_eq_true_eq] at hevent
        omega
      obtain ⟨bytes, s', h, hunread, hscript', hnil, -, -⟩ :=
        hdeliver { s with script } (min most room) hmost hscript
      exact ⟨bytes, s', h, hunread, hscript', hnil, by simp⟩
    | interrupt =>
      obtain ⟨bytes, s', h, hunread, hscript', hnil, -⟩ :=
        ih { s with calls := s.calls + 1 } hscript
      exact ⟨bytes, s', h, hunread, hscript', hnil, by simp⟩
    | fail fault => cases hevent

end Source

namespace Stream

/-- Where a stream stands in its input, however much of it has been read. -/
def cursor (s : Stream) : Cursor := ⟨s.phase, s.offset, s.window.pending ++ s.source.unread⟩

/-- A stream that no read will fail or leave without the bytes that remain. -/
structure Steady (s : Stream) : Prop where
  brings : s.source.script.all ReadEvent.brings
  chunk_pos : 0 < s.chunk
  drained : s.exhausted = true → s.source.unread = []

/-- All bytes that remain have been read, or will be in one go. -/
def AtHand (s : Stream) : Prop :=
  s.source.unread = []
    ∨ s.window.pending = [] ∧ s.source.script = [] ∧ s.source.unread.length ≤ s.chunk

theorem steady_ofSource {input : Bytes} {script : List ReadEvent}
    (h : script.all ReadEvent.brings) : (ofSource (.ofBytes input script)).Steady :=
  ⟨h, Nat.zero_lt_succ _, by simp [ofSource]⟩

theorem Steady.withChunk {s : Stream} (hs : s.Steady) (n : Nat) : (s.withChunk n).Steady :=
  ⟨hs.brings, by simp only [Stream.withChunk]; omega, hs.drained⟩

theorem Steady.skip {s : Stream} (hs : s.Steady) (n : Nat) : (s.skip n).Steady :=
  ⟨hs.brings, hs.chunk_pos, hs.drained⟩

theorem Steady.inPhase {s : Stream} (hs : s.Steady) (phase : Phase) :
    Steady { s with phase } :=
  ⟨hs.brings, hs.chunk_pos, hs.drained⟩

theorem AtHand.skip {s : Stream} (hs : s.AtHand) (n : Nat) : (s.skip n).AtHand :=
  hs.imp id fun ⟨hpending, hsource⟩ => ⟨by simp [Stream.skip, hpending], hsource⟩

theorem cursor_skip {s : Stream} {n : Nat} (h : n ≤ s.window.pending.length) :
    (s.skip n).cursor = s.cursor.skip n := by
  simp only [cursor, Stream.skip, Cursor.skip, offset, Window.skip, List.take_append_of_le_length h,
    List.drop_append_of_le_length h]

@[simp] theorem cursor_finish (s : Stream) : s.finish.cursor = s.cursor.finish := rfl

/-- A read leaves the cursor as it is: what was in the source is in the window. -/
theorem fill_of_steady {s : Stream} (hs : s.Steady) :
    ∃ s', s.fill = (none, s') ∧ s'.Steady ∧ s'.cursor = s.cursor
      ∧ (s.AtHand → s'.source.unread = []) := by
  obtain ⟨bytes, source, hread, hunread, hscript, hnil, hall⟩ :=
    Source.read_of_brings hs.brings hs.chunk_pos
  have hfill : s.fill = (none, { s with
      source, window := s.window.compact.append bytes, exhausted := bytes.isEmpty }) := by
    simp only [fill, hread]
  refine ⟨_, hfill, ⟨hscript, hs.chunk_pos, ?_⟩, ?_, ?_⟩
  · intro hempty
    have hbytes : bytes = [] := List.isEmpty_iff.mp hempty
    have := hnil hbytes
    rw [hbytes, List.nil_append] at hunread
    exact hunread.symm.trans this
  · simp only [cursor, offset, Window.pending_append, Window.pending_compact, Window.offset_append,
      Window.offset_compact, List.append_assoc, hunread]
  · rintro (hempty | ⟨-, hnoscript, hroom⟩)
    · rw [hempty] at hunread
      exact (List.append_eq_nil_iff.mp hunread.symm).2
    · obtain ⟨-, htake⟩ := hall hnoscript
      rw [List.take_of_length_le hroom] at htake
      rw [htake] at hunread
      exact List.self_eq_append_right.mp hunread

theorem cursor_skipWhile {s : Stream} {p : UInt8 → Bool}
    (h : s.source.unread = [] ∨ (s.skipWhile p).window.pending ≠ []) :
    (s.skipWhile p).cursor = s.cursor.skipWhile p := by
  have htake : (s.window.pending ++ s.source.unread).takeWhile p
      = s.window.pending.takeWhile p := by
    rcases h with h | h
    · rw [h, List.append_nil]
    · rw [List.takeWhile_append, if_neg]
      intro hlength
      have hdrop : s.window.pending.drop (s.window.pending.takeWhile p).length = [] := by
        rw [hlength, List.drop_length]
      exact h hdrop
  have hle := (List.takeWhile_prefix (l := s.window.pending) p).length_le
  exact (cursor_skip hle).trans (by rw [Cursor.skipWhile, ← htake]; rfl)

theorem skipWhile_cursor_skipWhile (s : Stream) (p : UInt8 → Bool) :
    (s.skipWhile p).cursor.skipWhile p = s.cursor.skipWhile p := by
  have hprefix : s.window.pending.takeWhile p <+: s.window.pending := List.takeWhile_prefix p
  have hle := hprefix.length_le
  have hcursor : (s.skipWhile p).cursor = s.cursor.skip (s.window.pending.takeWhile p).length :=
    cursor_skip hle
  rw [hcursor]
  refine Cursor.skip_skipWhile (by simp only [cursor, List.length_append]; omega) fun b hb => ?_
  rw [cursor, List.take_append_of_le_length hle, ← List.prefix_iff_eq_take.mp hprefix] at hb
  exact List.mem_takeWhile_imp hb

section Gather

variable {p : UInt8 → Bool} {look : Bytes → Option β} {last : Bytes → β}

theorem gather_of_exhausted {s : Stream} (h : s.exhausted = true) :
    s.gather p look last = (.ok (last (s.skipWhile p).window.pending), s.skipWhile p) := by
  rw [gather]
  simp only [exhausted_skipWhile, h, dite_true]

theorem gather_of_look {s : Stream} (h : s.exhausted = false) {b : β}
    (hlook : look (s.skipWhile p).window.pending = some b) :
    s.gather p look last = (.ok b, s.skipWhile p) := by
  rw [gather]
  simp only [exhausted_skipWhile, h, Bool.false_eq_true, dite_false, hlook]

theorem gather_of_fill {s s' : Stream} (h : s.exhausted = false)
    (hlook : look (s.skipWhile p).window.pending = none) (hfill : (s.skipWhile p).fill = (none, s')) :
    s.gather p look last = s'.gather p look last := by
  rw [gather]
  simp only [exhausted_skipWhile, h, Bool.false_eq_true, dite_false, hlook]
  split <;> rename_i heq <;> cases hfill.symm.trans heq
  rfl

theorem gather_of_fault {s s' : Stream} (h : s.exhausted = false)
    (hlook : look (s.skipWhile p).window.pending = none)
    (hfill : (s.skipWhile p).fill = (some fault, s')) :
    s.gather p look last = (.error fault, s') := by
  rw [gather]
  simp only [exhausted_skipWhile, h, Bool.false_eq_true, dite_false, hlook]
  split <;> rename_i heq <;> cases hfill.symm.trans heq
  rfl

end Gather

/-- **What a stream gathers is what the whole of the text tells**, if no part of it tells anything
else. A stream that has all bytes at hand looks at no other part. -/
theorem gather_of_steady (p : UInt8 → Bool) (look : Bytes → Option β) (last : Bytes → β)
    (hnil : look [] = none) {s : Stream} (hs : s.Steady)
    (h : ∀ part, part <+: s.cursor.rest.dropWhile p →
      (s.AtHand → part = s.cursor.rest.dropWhile p) →
      ∀ b, look part = some b → b = last (s.cursor.rest.dropWhile p)) :
    ∃ s', s.gather p look last = (.ok (last (s.cursor.rest.dropWhile p)), s') ∧ s'.Steady
      ∧ s'.cursor = s.cursor.skipWhile p ∧ (s.AtHand → s'.AtHand) := by
  fun_induction gather p look last s with
  | case1 s ahead hexhausted =>
    have hunread : s.source.unread = [] := hs.drained hexhausted
    have hcursor : ahead.cursor = s.cursor.skipWhile p := cursor_skipWhile (.inl hunread)
    have hpending : ahead.window.pending = s.cursor.rest.dropWhile p := by
      rw [← Cursor.rest_skipWhile, ← hcursor]
      exact (List.append_nil _).symm.trans (by rw [← hunread]; rfl)
    exact ⟨ahead, by rw [hpending], hs.skip _, hcursor, fun hat => hat.skip _⟩
  | case2 s ahead hexhausted c hlook =>
    have hne : ahead.window.pending ≠ [] := by
      intro hempty
      rw [hempty, hnil] at hlook
      cases hlook
    have hcursor : ahead.cursor = s.cursor.skipWhile p := cursor_skipWhile (.inr hne)
    have hrest : s.cursor.rest.dropWhile p = ahead.window.pending ++ s.source.unread := by
      rw [← Cursor.rest_skipWhile, ← hcursor]
      rfl
    have hc : c = last (s.cursor.rest.dropWhile p) := by
      refine h _ (hrest ▸ List.prefix_append _ _) ?_ c hlook
      rintro (hunread | ⟨hpending, -⟩)
      · rw [hrest, hunread, List.append_nil]
      · exact absurd (by simp [ahead, skipWhile, Window.skipWhile, hpending]) hne
    exact ⟨ahead, by rw [hc], hs.skip _, hcursor, fun hat => hat.skip _⟩
  | case3 s ahead hexhausted hlook fault s' hfill =>
    obtain ⟨s'', hfill', -⟩ := fill_of_steady (hs.skip (s.window.pending.takeWhile p).length)
    cases hfill.symm.trans hfill'
  | case4 s ahead hexhausted hlook s' hfill ih =>
    obtain ⟨s'', hfill', hs', hcursor', hunread'⟩ :=
      fill_of_steady (hs.skip (s.window.pending.takeWhile p).length)
    cases hfill.symm.trans hfill'
    have hskip : s'.cursor.skipWhile p = s.cursor.skipWhile p := by
      rw [hcursor']
      exact skipWhile_cursor_skipWhile s p
    have hrest : s'.cursor.rest.dropWhile p = s.cursor.rest.dropWhile p := by
      rw [← Cursor.rest_skipWhile, hskip, Cursor.rest_skipWhile]
    have hhand : s.AtHand → s'.AtHand := fun hat => .inl (hunread' (hat.skip _))
    rw [hrest] at ih
    obtain ⟨s'', hgather, hs'', hcursor'', hhand''⟩ :=
      ih hs' fun part hpart hall b hb => h part hpart (fun hat => hall (hhand hat)) b hb
    exact ⟨s'', hgather, hs'', hcursor''.trans hskip, fun hat => hhand'' (hhand hat)⟩

end Stream
end PlayableCards
