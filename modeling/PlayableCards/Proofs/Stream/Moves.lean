import Mathlib.Logic.Relation
import PlayableCards.Proofs.Stream.Account
import PlayableCards.Proofs.Stream.Drawing

/-!
# Moves of a stream

Whatever is called, a stream passes over bytes at hand, reads, and changes its chunk and its phase,
and does nothing else. What each of these moves keeps holds in every state of every run, also in
those within a call.
-/

namespace PlayableCards

theorem Source.delivered_of_read {s s' : Source} {room : Nat} {bytes : Bytes}
    (h : s.read room = (.ok bytes, s')) : s'.delivered = s.delivered + bytes.length := by
  have hwhole := s.delivered_read room
  have hunread := congrArg List.length (Source.read_unread h)
  rw [h] at hwhole
  rw [List.length_append] at hunread
  simp only at hwhole
  omega

theorem Source.delivered_of_read_error {s s' : Source} {room : Nat} {fault : IoFault}
    (h : s.read room = (.error fault, s')) : s'.delivered = s.delivered := by
  have hwhole := s.delivered_read room
  rw [h, Source.read_unread_of_error h] at hwhole
  exact Nat.add_right_cancel hwhole

namespace Stream

variable {t : Target α} {input : Bytes} {s s' : Stream}

/-- What a stream does at a time. Only bytes at hand are passed over, and nothing is read after a
read that brought nothing. -/
inductive Move : Stream → Stream → Prop where
  | skip {s : Stream} {n : Nat} (hand : n ≤ s.window.pending.length) : Move s (s.skip n)
  | fill {s s' : Stream} {fault : Option IoFault} (more : s.exhausted = false)
      (read : s.fill = (fault, s')) : Move s s'
  | chunk (s : Stream) (n : Nat) : Move s (s.withChunk n)
  | phase (s : Stream) (phase : Phase) : Move s { s with phase }

abbrev Reaches : Stream → Stream → Prop := Relation.ReflTransGen Move

theorem reaches_skip (h : Reaches s s') {n : Nat} (hand : n ≤ s'.window.pending.length) :
    Reaches s (s'.skip n) := h.tail (.skip hand)

theorem reaches_phase (h : Reaches s s') (phase : Phase) : Reaches s { s' with phase } :=
  h.tail (.phase s' phase)

theorem reaches_gather {p : UInt8 → Bool} {look : Bytes → Option β} {last : Bytes → β}
    {outcome : Except IoFault β} (h : s.gather p look last = (outcome, s')) : Reaches s s' := by
  have hskip : ∀ s : Stream, Reaches s (s.skipWhile p) := fun s =>
    .single (.skip (List.takeWhile_prefix p).length_le)
  fun_induction gather p look last s with
  | case1 s ahead hexhausted | case2 s ahead hexhausted c hlook =>
    simp only [Prod.mk.injEq] at h
    exact h.2 ▸ hskip s
  | case3 s ahead hexhausted hlook fault s'' hfill =>
    simp only [Prod.mk.injEq] at h
    exact h.2 ▸ (hskip s).tail (.fill (Bool.not_eq_true _ ▸ hexhausted) hfill)
  | case4 s ahead hexhausted hlook s'' hfill ih =>
    exact ((hskip s).tail (.fill (Bool.not_eq_true _ ▸ hexhausted) hfill)).trans (ih h)

theorem reaches_skipMark (s : Stream) : Reaches s s.skipMark.2 := by
  rw [skipMark]
  split
  · rename_i hgather
    exact reaches_gather hgather
  · rename_i marked g hgather
    cases marked with
    | false => exact reaches_gather hgather
    | true =>
      refine reaches_skip (reaches_gather hgather) ?_
      rcases gather_ok hgather with hlook | ⟨-, hlast⟩
      · exact (marked?_eq_true.mp hlook).length_le
      · exact (marked?_eq_true.mp (by simpa using hlast)).length_le

theorem reaches_enter (s : Stream) : Reaches s s.enter.2 := by
  have hmark := reaches_skipMark s
  rw [enter]
  split
  · rename_i hskip
    rwa [hskip] at hmark
  · rename_i g hskip
    rw [hskip] at hmark
    split
    · rename_i g' hgather
      refine reaches_skip (hmark.trans (reaches_gather hgather)) ?_
      rcases gather_ok hgather with hlook | ⟨-, hlast⟩
      · exact length_of_opens? hlook
      · exact length_of_opens? (b := true) (by simpa using hlast)
    · exact hmark.trans (reaches_gather rfl)

theorem reaches_nextItem (t : Target α) (s : Stream) : Reaches s (s.nextItem t).2 := by
  rw [nextItem]
  split <;> rename_i hgather <;> have hreach := reaches_gather hgather
  · exact reaches_phase hreach .done
  · obtain ⟨final, hsight⟩ := exists_sight? hgather (by simp)
    exact reaches_phase (reaches_skip hreach (used_le_of_sight? hsight)) .items
  · exact reaches_phase hreach .done
  · obtain ⟨final, hsight⟩ := exists_sight? hgather (by simp)
    exact reaches_phase (reaches_skip hreach (length_of_close hsight)) .done
  · exact reaches_phase hreach .done

theorem reaches_next (t : Target α) (s : Stream) : Reaches s (s.next t).2 := by
  have henter := reaches_enter s
  rw [next]
  split
  · exact .refl
  · exact reaches_nextItem t s
  · split <;> rename_i hentry <;> rw [hentry] at henter
    · exact reaches_phase henter .done
    · exact reaches_phase henter .done
    · exact henter.trans (reaches_nextItem t _)

def call (t : Target α) (s : Stream) : Call → Stream
  | .next => (s.next t).2
  | .chunk size => s.withChunk size

theorem reaches_calls (t : Target α) (s : Stream) (calls : List Call) :
    Reaches s (calls.foldl (call t) s) := by
  induction calls generalizing s with
  | nil => exact .refl
  | cons call calls ih =>
    refine Relation.ReflTransGen.trans ?_ (ih _)
    cases call with
    | next => exact reaches_next t s
    | chunk size => exact .single (.chunk s size)

/-- The bytes in memory are a part of the input: `front` lies before it, what is unread after it. -/
def Placed (input : Bytes) (s : Stream) : Prop :=
  ∃ front, input = front ++ (s.window.buffer ++ s.source.unread)
    ∧ s.offset = front.length + s.window.passed.length
    ∧ s.source.delivered = front.length + s.window.buffer.length

theorem placed_ofSource (input : Bytes) (script : List ReadEvent) :
    Placed input (ofSource (.ofBytes input script)) := ⟨[], rfl, rfl, rfl⟩

theorem Placed.fill (h : Placed input s) {fault : Option IoFault} (hfill : s.fill = (fault, s')) :
    Placed input s' := by
  obtain ⟨front, hinput, hoffset, hdelivered⟩ := h
  have hoffset' : s'.offset = s.offset := congrArg Cursor.offset (cursor_fill hfill)
  rw [Window.buffer, List.length_append, List.length_reverse, ← Nat.add_assoc] at hdelivered
  -- what has been passed joins the front
  refine ⟨front ++ s.window.passed.reverse, ?_, ?_, ?_⟩
  all_goals
    rw [Stream.fill] at hfill
    split at hfill <;> rename_i hread <;> cases hfill
  · rw [hinput, Source.read_unread_of_error hread]
    simp [Window.buffer, Window.compact]
  · rw [hinput, Source.read_unread hread]
    simp [Window.buffer, Window.compact, Window.append]
  · rw [hoffset', hoffset]
    simp [Window.compact]
  · rw [hoffset', hoffset]
    simp [Window.compact, Window.append]
  · simp only [Source.delivered_of_read_error hread, hdelivered]
    simp [Window.buffer, Window.compact]
  · simp only [Source.delivered_of_read hread, hdelivered]
    simp [Window.buffer, Window.compact, Window.append, Nat.add_assoc]

theorem Placed.move (h : Placed input s) (hmove : Move s s') : Placed input s' := by
  cases hmove with
  | @skip n hand =>
    obtain ⟨front, hinput, hoffset, hdelivered⟩ := h
    refine ⟨front, ?_, ?_, ?_⟩
    · rwa [Stream.skip, Window.buffer_skip]
    · have hlength : (s.window.pending.take n).length = n := by
        rw [List.length_take, Nat.min_eq_left hand]
      simp only [offset] at hoffset
      simp only [Stream.skip, offset, Window.skip, List.length_append, List.length_reverse, hlength]
      omega
    · rwa [Stream.skip, Window.buffer_skip]
  | fill more read => exact h.fill read
  | chunk | phase => exact h

theorem Placed.reaches (h : Placed input s) (hreach : Reaches s s') : Placed input s' := by
  induction hreach with
  | refl => exact h
  | tail _ hmove ih => exact ih.move hmove

theorem offset_move_le (h : Move s s') : s.offset ≤ s'.offset := by
  cases h with
  | skip => exact Nat.le_add_right _ _
  | fill more read => exact Nat.le_of_eq (congrArg Cursor.offset (cursor_fill read)).symm
  | chunk | phase => exact Nat.le_refl _

theorem offset_le_of_reaches (h : Reaches s s') : s.offset ≤ s'.offset := by
  induction h with
  | refl => exact Nat.le_refl _
  | tail _ hmove ih => exact Nat.le_trans ih (offset_move_le hmove)

/-- A read that fails leaves what has not been consumed, and where it starts. -/
theorem fill_failed {fault : IoFault} (h : s.fill = (some fault, s')) :
    s'.window.pending = s.window.pending ∧ s'.offset = s.offset
      ∧ s'.source.delivered = s.source.delivered := by
  rw [fill] at h
  split at h <;> rename_i hread <;> cases h
  exact ⟨rfl, rfl, Source.delivered_of_read_error hread⟩

/-- **The bytes in memory are those of the input where they lie**, in every state that calls pass
through: they start where what has been forgotten ends, and end where what has been delivered ends,
with the cut among them. A read that fails changes none of it, and the offset never decreases. -/
theorem calls_placed (t : Target α) (input : Bytes) (script : List ReadEvent)
    (calls : List Call) :
    let start := ofSource (.ofBytes input script)
    Reaches start (calls.foldl (call t) start)
      ∧ ∀ s, Reaches start s →
        s.window.passed.length ≤ s.window.buffer.length
        ∧ s.window.base + s.window.buffer.length = s.source.delivered
        ∧ s.window.buffer
          = input.extract s.window.base (s.window.base + s.window.buffer.length)
        ∧ s.offset = s.window.base + s.window.passed.length
        ∧ (∀ fault s', s.fill = (some fault, s') → s'.window.pending = s.window.pending
          ∧ s'.offset = s.offset ∧ s'.source.delivered = s.source.delivered)
        ∧ ∀ s', Reaches s s' → s.offset ≤ s'.offset := by
  refine ⟨reaches_calls t _ calls, fun s hreach => ?_⟩
  obtain ⟨front, hinput, hoffset, hdelivered⟩ := (placed_ofSource input script).reaches hreach
  have hbase : s.window.base = front.length := by
    rw [Window.base, show s.window.offset = s.offset from rfl, hoffset, Nat.add_sub_cancel]
  refine ⟨?_, ?_, ?_, ?_, fun fault s' hfill => fill_failed hfill,
    fun s' hreach' => offset_le_of_reaches hreach'⟩
  · simp [Window.buffer]
  · rw [hbase, hdelivered]
  · rw [hbase, List.extract_eq_take_drop, Nat.add_sub_cancel_left, hinput, List.drop_left,
      List.take_left]
  · rw [hbase, hoffset]

/-- The document `[1]`, whose source fails behind the one: the one is in memory, where it lies. -/
theorem calls_placed_before_failure :
    let s := [Call.next].foldl (call .json)
      (ofSource (.ofBytes [0x5B, 0x31, 0x5D] [.interrupt, .deliver 2, .fail .denied]))
    s.window.buffer = [0x5B, 0x31, 0x5D].extract 1 2 ∧ s.source.delivered = 2 := by
  intro s
  obtain ⟨hreach, hall⟩ := calls_placed .json [0x5B, 0x31, 0x5D]
    [.interrupt, .deliver 2, .fail .denied] [.next]
  obtain ⟨-, hdelivered, hbuffer, -⟩ := hall s hreach
  have hbase : s.window.base = 1 := by decide +kernel
  have hlength : s.window.buffer.length = 1 := by decide +kernel
  rw [hbase, hlength] at hdelivered hbuffer
  exact ⟨hbuffer, hdelivered.symm⟩

end Stream
end PlayableCards
