import Mathlib.Order.Monotone.Basic
import PlayableCards.Proofs.Stream.Passing

/-!
# Drawing on a source

How much a stream reads. As long as it takes a certain number of bytes to tell what comes next, a
stream reads until as many have been delivered, and no further.
-/

namespace PlayableCards
namespace Source

def reads (s : Source) (room : Nat) : Nat → Source
  | 0 => s
  | n + 1 => reads (s.read room).2 room n

theorem reads_add (s : Source) (room m n : Nat) :
    s.reads room (m + n) = (s.reads room m).reads room n := by
  induction m generalizing s with
  | zero => rw [Nat.zero_add, reads]
  | succ m ih => rw [Nat.succ_add, reads, reads, ih]

theorem delivered_read (s : Source) (room : Nat) :
    (s.read room).2.delivered + (s.read room).2.unread.length = s.delivered + s.unread.length := by
  suffices h : ∀ script s,
      (readBy s room script).2.delivered + (readBy s room script).2.unread.length
        = s.delivered + s.unread.length from h s.script s
  intro script
  induction script with
  | nil =>
    intro s
    simp only [readBy, deliver, List.length_take, List.length_drop]
    omega
  | cons event script ih =>
    intro s
    cases event with
    | deliver most =>
      simp only [readBy, deliver, List.length_take, List.length_drop]
      omega
    | interrupt => exact ih _
    | fail fault => rfl

theorem delivered_reads (s : Source) (room n : Nat) :
    (s.reads room n).delivered + (s.reads room n).unread.length
      = s.delivered + s.unread.length := by
  induction n generalizing s with
  | zero => rfl
  | succ n ih => rw [reads, ih, delivered_read]

theorem calls_read_lt (s : Source) (room : Nat) : s.calls < (s.read room).2.calls := by
  suffices h : ∀ script s, Source.calls s < (readBy s room script).2.calls from h s.script s
  intro script
  induction script with
  | nil => exact fun s => Nat.lt_succ_self _
  | cons event script ih =>
    intro s
    cases event with
    | deliver most => exact Nat.lt_succ_self _
    | interrupt => exact Nat.lt_of_succ_lt (ih { s with calls := s.calls + 1 })
    | fail fault => exact Nat.lt_succ_self _

theorem reads_injective (s : Source) (room : Nat) : Function.Injective (s.reads room) := by
  have hmono : StrictMono fun n => (s.reads room n).calls := by
    refine strictMono_nat_of_lt_succ fun n => ?_
    rw [reads_add]
    exact calls_read_lt _ room
  exact Function.Injective.of_comp (f := Source.calls) hmono.injective

end Source

namespace Stream

/-- A stream has been read from until `goal` bytes had been delivered, and no further. -/
structure Drawn (goal : Nat) (s s' : Stream) : Prop where
  chunk : s'.chunk = s.chunk
  reads : ∃ n, s'.source = s.source.reads s.chunk n
    ∧ ∀ m < n, (s.source.reads s.chunk m).delivered < goal
  enough : goal ≤ s'.source.delivered

namespace Drawn

variable {goal goal' : Nat} {s s' s'' : Stream}

theorem refl (h : goal ≤ s.source.delivered) : Drawn goal s s :=
  ⟨rfl, ⟨0, rfl, fun _ hm => absurd hm (Nat.not_lt_zero _)⟩, h⟩

theorem congr (h : Drawn goal s s') (hsource : s''.source = s'.source)
    (hchunk : s''.chunk = s'.chunk) : Drawn goal s s'' :=
  ⟨hchunk.trans h.chunk, by rw [hsource]; exact h.reads, by rw [hsource]; exact h.enough⟩

theorem read (hsource : s'.source = (s.source.read s.chunk).2) (hchunk : s'.chunk = s.chunk)
    (hless : s.source.delivered < goal) (h : Drawn goal s' s'') : Drawn goal s s'' := by
  obtain ⟨n, hreads, hbefore⟩ := h.reads
  rw [hsource, hchunk] at hreads hbefore
  refine ⟨h.chunk.trans hchunk, ⟨n + 1, hreads, fun m hm => ?_⟩, h.enough⟩
  cases m with
  | zero => exact hless
  | succ m => exact hbefore m (Nat.lt_of_succ_lt_succ hm)

theorem trans (h : Drawn goal s s') (h' : Drawn goal' s' s'') (hle : goal ≤ goal') :
    Drawn goal' s s'' := by
  obtain ⟨n, hreads, hbefore⟩ := h.reads
  obtain ⟨n', hreads', hbefore'⟩ := h'.reads
  rw [hreads, h.chunk] at hreads' hbefore'
  refine ⟨h'.chunk.trans h.chunk, ⟨n + n', by rw [Source.reads_add, hreads'], fun m hm => ?_⟩,
    h'.enough⟩
  rcases Nat.lt_or_ge m n with hlt | hge
  · exact Nat.lt_of_lt_of_le (hbefore m hlt) hle
  · have hmore := hbefore' (m - n) (by omega)
    rwa [← Source.reads_add, Nat.add_sub_cancel' hge] at hmore

theorem delivered (h : Drawn goal s s') :
    s'.source.delivered + s'.source.unread.length
      = s.source.delivered + s.source.unread.length := by
  obtain ⟨n, hreads, -⟩ := h.reads
  rw [hreads, Source.delivered_reads]

end Drawn

/-- What has been delivered is what lies before the offset and what is in the window. -/
def Aligned (s : Stream) : Prop :=
  s.source.delivered + s.source.unread.length = s.offset + s.cursor.rest.length

theorem Aligned.delivered {s : Stream} (h : s.Aligned) :
    s.source.delivered = s.offset + s.window.pending.length := by
  rw [Aligned, cursor, List.length_append] at h
  omega

theorem Aligned.of_over {s s' : Stream} {passed : Bytes} (h : s.Aligned)
    (hover : Cursor.Over passed s.cursor s'.cursor)
    (hdelivered : s'.source.delivered + s'.source.unread.length
      = s.source.delivered + s.source.unread.length) : s'.Aligned := by
  have hrest := congrArg List.length hover.1
  have hoffset : s'.offset = s.offset + passed.length := hover.2
  rw [List.length_append] at hrest
  rw [Aligned] at h ⊢
  omega

theorem Aligned.skipWhile {s : Stream} (h : s.Aligned) (p : UInt8 → Bool) :
    (s.skipWhile p).Aligned :=
  h.of_over (over_skipWhile s p) rfl

theorem fill_source {s s' : Stream} {fault : Option IoFault} (h : s.fill = (fault, s')) :
    s'.source = (s.source.read s.chunk).2 ∧ s'.chunk = s.chunk := by
  rw [fill] at h
  split at h <;> rename_i hread <;> cases h <;> simp [hread]

/-- What has been delivered of the text behind the bytes that are skipped, is in the window. -/
theorem shown_of_aligned {s : Stream} (h : s.Aligned) {p : UInt8 → Bool} {ahead : Cursor}
    (hahead : s.cursor.skipWhile p = ahead)
    (hshown : s.source.unread = [] ∨ (s.skipWhile p).window.pending ≠ []) :
    ahead.rest = (s.skipWhile p).window.pending ++ s.source.unread
      ∧ s.source.delivered = ahead.offset + (s.skipWhile p).window.pending.length := by
  have hcursor : (s.skipWhile p).cursor = ahead := (cursor_skipWhile hshown).trans hahead
  rw [← hcursor]
  exact ⟨rfl, (h.skipWhile p).delivered⟩

theorem delivered_le_of_aligned {s : Stream} (h : s.Aligned) {p : UInt8 → Bool} {ahead : Cursor}
    (hahead : s.cursor.skipWhile p = ahead) (hnone : (s.skipWhile p).window.pending = []) :
    s.source.delivered ≤ ahead.offset := by
  have hdelivered := (h.skipWhile p).delivered
  rw [hnone, List.length_nil, Nat.add_zero] at hdelivered
  have hoffset : (s.skipWhile p).offset ≤ ahead.offset := by
    rw [← hahead, ← skipWhile_cursor_skipWhile]
    exact Nat.le_add_right _ _
  exact Nat.le_trans (Nat.le_of_eq hdelivered) hoffset

/-- **How much is gathered**, where what the window shows suffices from a certain number of bytes
on: the source is read until as many have been delivered. -/
theorem drawn_gather (p : UInt8 → Bool) (look : Bytes → Option β) (last : Bytes → β) {goal : Nat}
    {s : Stream} (hs : s.Steady) (haligned : s.Aligned) {ahead : Cursor}
    (hahead : s.cursor.skipWhile p = ahead) (hgoal : goal ≤ ahead.offset + ahead.rest.length)
    (hlook : ∀ part, part <+: ahead.rest → (look part = none ↔ ahead.offset + part.length < goal))
    (hnil : look [] = none) : Drawn goal s (s.gather p look last).2 := by
  have hless : ahead.offset < goal := by simpa [hnil] using hlook [] List.nil_prefix
  fun_induction gather p look last s with
  | case1 s window hexhausted =>
    have hunread : s.source.unread = [] := hs.drained hexhausted
    obtain ⟨hrest, hdelivered⟩ := shown_of_aligned haligned hahead (.inl hunread)
    rw [hunread, List.append_nil] at hrest
    rw [hrest, ← hdelivered] at hgoal
    exact (Drawn.refl hgoal).congr rfl rfl
  | case2 s window hexhausted c hseen =>
    have hne : (s.skipWhile p).window.pending ≠ [] := by
      intro hempty
      have hnone : look (s.skipWhile p).window.pending = none := by rw [hempty, hnil]
      cases hseen.symm.trans hnone
    obtain ⟨hrest, hdelivered⟩ := shown_of_aligned haligned hahead (.inr hne)
    have hshown := hlook (s.skipWhile p).window.pending (hrest ▸ List.prefix_append _ _)
    have henough : goal ≤ s.source.delivered := by
      rw [hdelivered, ← Nat.not_lt, ← hshown]
      exact fun hnone => Option.some_ne_none _ (hseen.symm.trans hnone)
    exact (Drawn.refl henough).congr rfl rfl
  | case3 s window hexhausted hseen fault s' hfill =>
    obtain ⟨s'', hfill', -⟩ := fill_of_steady (hs.skip (s.window.pending.takeWhile p).length)
    cases hfill.symm.trans hfill'
  | case4 s window hexhausted hseen s' hfill ih =>
    obtain ⟨s'', hfill', hs', hcursor, -⟩ :=
      fill_of_steady (hs.skip (s.window.pending.takeWhile p).length)
    cases hfill.symm.trans hfill'
    obtain ⟨hsource, hchunk⟩ := fill_source hfill
    have hshort : s.source.delivered < goal := by
      by_cases hempty : (s.skipWhile p).window.pending = []
      · exact Nat.lt_of_le_of_lt (delivered_le_of_aligned haligned hahead hempty) hless
      · obtain ⟨hrest, hdelivered⟩ := shown_of_aligned haligned hahead (.inr hempty)
        rw [hdelivered]
        exact (hlook _ (hrest ▸ List.prefix_append _ _)).mp hseen
    have hover : Cursor.Over [] (s.skipWhile p).cursor s'.cursor := hcursor ▸ Cursor.Over.refl _
    have haligned' : s'.Aligned := by
      refine (haligned.skipWhile p).of_over hover ?_
      rw [hsource, Source.delivered_read]
    have hahead' : s'.cursor.skipWhile p = ahead := by
      rw [hcursor, ← hahead]
      exact skipWhile_cursor_skipWhile s p
    exact .read hsource hchunk hshort (ih hs' haligned' hahead')

def Draws (s s' : Stream) : Prop := s'.chunk = s.chunk ∧ ∃ n, s'.source = s.source.reads s.chunk n

/-- One of the reads is made when `limit` bytes have been delivered. -/
def Meets (limit : Nat) (s s' : Stream) : Prop :=
  s'.chunk = s.chunk ∧ ∃ n, s'.source = s.source.reads s.chunk n
    ∧ ∃ m < n, (s.source.reads s.chunk m).delivered = limit

section Draws

variable {limit : Nat} {s s' s'' : Stream}

theorem Draws.refl (s : Stream) : Draws s s := ⟨rfl, 0, rfl⟩

theorem Draws.congr (h : Draws s s') (hsource : s''.source = s'.source)
    (hchunk : s''.chunk = s'.chunk) : Draws s s'' :=
  ⟨hchunk.trans h.1, by rw [hsource]; exact h.2⟩

theorem Draws.trans (h : Draws s s') (h' : Draws s' s'') : Draws s s'' := by
  obtain ⟨hchunk, n, hreads⟩ := h
  obtain ⟨hchunk', n', hreads'⟩ := h'
  refine ⟨hchunk'.trans hchunk, n + n', ?_⟩
  rw [hreads', hchunk, hreads, Source.reads_add]

theorem draws_fill (s : Stream) : Draws s s.fill.2 := by
  obtain ⟨hsource, hchunk⟩ := fill_source (s := s) rfl
  exact ⟨hchunk, 1, hsource⟩

theorem draws_gather (p : UInt8 → Bool) (look : Bytes → Option β) (last : Bytes → β) (s : Stream) :
    Draws s (s.gather p look last).2 := by
  fun_induction gather p look last s with
  | case1 s ahead | case2 s ahead => exact .congr (.refl s) rfl rfl
  | case3 s ahead hexhausted hlook fault s' hfill =>
    have hread := draws_fill ahead
    rw [hfill] at hread
    exact hread
  | case4 s ahead hexhausted hlook s' hfill ih =>
    have hread := draws_fill ahead
    rw [hfill] at hread
    exact hread.trans ih

theorem Meets.congr (h : Meets limit s s') (hsource : s''.source = s'.source)
    (hchunk : s''.chunk = s'.chunk) : Meets limit s s'' :=
  ⟨hchunk.trans h.1, by rw [hsource]; exact h.2⟩

theorem Meets.trans (h : Meets limit s s') (h' : Draws s' s'') : Meets limit s s'' := by
  obtain ⟨hchunk, n, hreads, m, hm, hlimit⟩ := h
  obtain ⟨hchunk', n', hreads'⟩ := h'
  refine ⟨hchunk'.trans hchunk, n + n', ?_, m, by omega, hlimit⟩
  rw [hreads', hchunk, hreads, Source.reads_add]

theorem Draws.meets (h : Draws s s') (h' : Meets limit s' s'') : Meets limit s s'' := by
  obtain ⟨hchunk, n, hreads⟩ := h
  obtain ⟨hchunk', n', hreads', m, hm, hlimit⟩ := h'
  rw [hchunk, hreads, ← Source.reads_add] at hreads' hlimit
  exact ⟨hchunk'.trans hchunk, n + n', hreads', n + m, by omega, hlimit⟩

theorem Drawn.lt_of_meets {goal : Nat} (hdrawn : Drawn goal s s') (hmeets : Meets limit s s') :
    limit < goal := by
  obtain ⟨n, hreads, hbefore⟩ := hdrawn.reads
  obtain ⟨-, n', hreads', m, hm, rfl⟩ := hmeets
  cases Source.reads_injective s.source s.chunk (hreads.symm.trans hreads')
  exact hbefore m hm

theorem meets_gather {p : UInt8 → Bool} {look : Bytes → Option β} (last : Bytes → β)
    (h : s.exhausted = false) (hlook : look (s.skipWhile p).window.pending = none)
    (hlimit : s.source.delivered = limit) : Meets limit s (s.gather p look last).2 := by
  have hfirst : Meets limit s (s.skipWhile p).fill.2 := by
    obtain ⟨hsource, hchunk⟩ := fill_source (s := s.skipWhile p) rfl
    exact ⟨hchunk, 1, hsource, 0, Nat.one_pos, hlimit⟩
  rcases hread : (s.skipWhile p).fill with ⟨outcome, s'⟩
  rw [hread] at hfirst
  cases outcome with
  | none =>
    rw [gather_of_fill h hlook hread]
    exact hfirst.trans (draws_gather p look last s')
  | some fault =>
    rw [gather_of_fault h hlook hread]
    exact hfirst

end Draws

end Stream
end PlayableCards
