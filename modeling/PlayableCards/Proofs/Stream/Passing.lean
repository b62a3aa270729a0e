import PlayableCards.Proofs.Stream.Next

/-!
# Ways through the input

Whatever its source does, a stream moves through its input from the front and over each byte once.
A read leaves the cursor where it is, be it that it fails or brings nothing.
-/

namespace PlayableCards
namespace Cursor

/-- The way from one cursor to another leads over the bytes `passed`. -/
def Over (passed : Bytes) (cur cur' : Cursor) : Prop :=
  cur.rest = passed ++ cur'.rest ∧ cur'.offset = cur.offset + passed.length

theorem Over.refl (cur : Cursor) : Over [] cur cur := ⟨rfl, rfl⟩

theorem Over.trans {passed passed' : Bytes} {cur cur' cur'' : Cursor} (h : Over passed cur cur')
    (h' : Over passed' cur' cur'') : Over (passed ++ passed') cur cur'' := by
  refine ⟨by rw [h.1, h'.1, List.append_assoc], ?_⟩
  rw [h'.2, h.2, List.length_append, Nat.add_assoc]

theorem over_skip (cur : Cursor) (n : Nat) : Over (cur.rest.take n) cur (cur.skip n) :=
  ⟨(List.take_append_drop n cur.rest).symm, rfl⟩

theorem Over.within {passed : Bytes} {cur cur' : Cursor} (h : Over passed cur cur') {input : Bytes}
    (hcur : cur.Within input) : cur'.Within input := by
  obtain ⟨hle, hrest⟩ := hcur
  have hlength := congrArg List.length hrest
  rw [h.1, List.length_append, List.length_drop] at hlength
  refine ⟨by rw [h.2]; omega, ?_⟩
  rw [h.2, ← List.drop_drop, ← hrest, h.1, List.drop_left]

theorem Over.extract {passed : Bytes} {cur cur' : Cursor} (h : Over passed cur cur')
    {input : Bytes} (hcur : cur.Within input) :
    input.extract cur.offset cur'.offset = passed := by
  rw [List.extract_eq_take_drop, ← hcur.2, h.1, h.2, Nat.add_sub_cancel_left, List.take_left]

end Cursor

namespace Stream

/-- A read leaves the cursor where it is, whatever becomes of it. -/
theorem cursor_fill {s s' : Stream} {fault : Option IoFault} (h : s.fill = (fault, s')) :
    s'.cursor = s.cursor := by
  rw [fill] at h
  split at h <;> rename_i hread <;> cases h
  · simp only [cursor, offset, Window.pending_compact, Window.offset_compact,
      Source.read_unread_of_error hread]
  · simp only [cursor, offset, Window.pending_append, Window.pending_compact,
      Window.offset_append, Window.offset_compact, List.append_assoc, Source.read_unread hread]

theorem over_skip {s : Stream} {n : Nat} (h : n ≤ s.window.pending.length) :
    Cursor.Over (s.window.pending.take n) s.cursor (s.skip n).cursor := by
  have hover := s.cursor.over_skip n
  rwa [← cursor_skip h, cursor, List.take_append_of_le_length h] at hover

theorem over_skipWhile (s : Stream) (p : UInt8 → Bool) :
    Cursor.Over (s.window.pending.takeWhile p) s.cursor (s.skipWhile p).cursor := by
  have hprefix : s.window.pending.takeWhile p <+: s.window.pending := List.takeWhile_prefix p
  have hover := over_skip hprefix.length_le
  rwa [← List.prefix_iff_eq_take.mp hprefix] at hover

theorem pending_skipWhile (s : Stream) (p : UInt8 → Bool) :
    (s.skipWhile p).window.pending = s.window.pending.dropWhile p :=
  drop_length_takeWhile p s.window.pending

theorem over_gather {p : UInt8 → Bool} {look : Bytes → Option β} {last : Bytes → β} {s s' : Stream}
    {outcome : Except IoFault β} (h : s.gather p look last = (outcome, s')) :
    ∃ passed, Cursor.Over passed s.cursor s'.cursor ∧ (∀ b ∈ passed, p b)
      ∧ (outcome.toOption.isSome → ∀ b rest, s'.window.pending = b :: rest → p b = false) := by
  have hskip : ∀ s : Stream, ∀ b ∈ s.window.pending.takeWhile p, p b = true :=
    fun s b hb => List.mem_takeWhile_imp hb
  have hhead : ∀ s : Stream, ∀ b rest, (s.skipWhile p).window.pending = b :: rest → p b = false :=
    fun s b rest hb => neg_of_dropWhile ((pending_skipWhile s p).symm.trans hb)
  fun_induction gather p look last s with
  | case1 s ahead hexhausted | case2 s ahead hexhausted c hlook =>
    simp only [Prod.mk.injEq] at h
    rw [← h.2]
    exact ⟨_, over_skipWhile s p, hskip s, fun _ => hhead s⟩
  | case3 s ahead hexhausted hlook fault s'' hfill =>
    simp only [Prod.mk.injEq] at h
    rw [← h.2, ← h.1]
    refine ⟨_, ?_, hskip s, by simp [Except.toOption]⟩
    rw [cursor_fill hfill]
    exact over_skipWhile s p
  | case4 s ahead hexhausted hlook s'' hfill ih =>
    obtain ⟨passed, hover, hpassed, hend⟩ := ih h
    rw [cursor_fill hfill] at hover
    refine ⟨_, (over_skipWhile s p).trans hover, fun b hb => ?_, hend⟩
    exact (List.mem_append.mp hb).elim (hskip s b) (hpassed b)

end Stream
end PlayableCards
