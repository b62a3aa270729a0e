import PlayableCards.Json.Fault

/-!
# Positions

A position tells how much of a text lies before it: the line counts the line feeds, the column the
bytes since the last one. No two places of a text have the same position, so the position of a
fault shows whether it stands at the very end.
-/

namespace PlayableCards

namespace Position

variable {text : Bytes} {p : Position} {first index : Nat}

/-- The line in which `index` lies begins at `first`: at the start of the text or behind a line
feed, with none from there to `index`. -/
structure BeginsLine (text : Bytes) (first index : Nat) : Prop where
  le : first ≤ index
  opens : ∀ i, i + 1 = first → text[i]? = some Ascii.lineFeed
  free : ∀ i, first ≤ i → i < index → text[i]? ≠ some Ascii.lineFeed

/-- `p` is the position of `index`: one line for each line feed before it and one more, one column
for each byte since the last of them. -/
structure IsAt (p : Position) (text : Bytes) (index : Nat) : Prop where
  line : p.line = 1 + (text.take index).count Ascii.lineFeed
  column : ∃ first, BeginsLine text first index ∧ p.column = index - first

theorem count_take_eq_iff {i j : Nat} (h : i ≤ j) :
    (text.take i).count Ascii.lineFeed = (text.take j).count Ascii.lineFeed
      ↔ ∀ k, i ≤ k → k < j → text[k]? ≠ some Ascii.lineFeed := by
  obtain ⟨n, rfl⟩ := Nat.exists_eq_add_of_le h
  rw [List.take_add, List.count_append, Nat.left_eq_add, List.count_eq_zero,
    List.mem_iff_getElem?]
  constructor
  · intro hfree k hi hk hbyte
    refine hfree ⟨k - i, ?_⟩
    rw [List.getElem?_take_of_lt (by omega), List.getElem?_drop, Nat.add_sub_cancel' hi, hbyte]
  · rintro hfree ⟨k, hk⟩
    rw [List.getElem?_take, List.getElem?_drop] at hk
    split at hk
    · exact hfree (i + k) (by omega) (by omega) hk
    · cases hk

theorem beginsLine_zero (hfree : ∀ i, i < index → text[i]? ≠ some Ascii.lineFeed) :
    BeginsLine text 0 index where
  le := Nat.zero_le index
  opens i hi := absurd hi (Nat.succ_ne_zero i)
  free i _ hi := hfree i hi

theorem beginsLine_succ {i : Nat} (hfeed : text[i]? = some Ascii.lineFeed) (hlt : i < index)
    (hfree : ∀ k, i < k → k < index → text[k]? ≠ some Ascii.lineFeed) :
    BeginsLine text (i + 1) index where
  le := hlt
  opens k hk := by rw [Nat.succ.inj hk, hfeed]
  free k hk := hfree k hk

namespace BeginsLine

theorem le_of_beginsLine (h : BeginsLine text first index) {other : Nat}
    (h' : BeginsLine text other index) : other ≤ first := by
  rcases other with _ | i
  · exact Nat.zero_le first
  · rw [Nat.succ_le_iff, ← Nat.not_le]
    intro hle
    exact h.free i hle h'.le (h'.opens i rfl)

theorem unique (h : BeginsLine text first index) {other : Nat}
    (h' : BeginsLine text other index) : first = other :=
  Nat.le_antisymm (h'.le_of_beginsLine h) (h.le_of_beginsLine h')

theorem extend (h : BeginsLine text first index) {further : Nat} (hle : index ≤ further)
    (hfree : ∀ i, index ≤ i → i < further → text[i]? ≠ some Ascii.lineFeed) :
    BeginsLine text first further where
  le := Nat.le_trans h.le hle
  opens := h.opens
  free i hfirst hi := by
    by_cases hlt : i < index
    · exact h.free i hfirst hlt
    · exact hfree i (by omega) hi

theorem count_take (h : BeginsLine text first index) :
    (text.take first).count Ascii.lineFeed = (text.take index).count Ascii.lineFeed :=
  (count_take_eq_iff h.le).mpr h.free

end BeginsLine

theorem of_lastLineFeed?_eq_some {i : Nat} (h : lastLineFeed? text = some i) :
    text[i]? = some Ascii.lineFeed ∧ ∀ k, i < k → text[k]? ≠ some Ascii.lineFeed := by
  obtain ⟨behind, hfind, rfl⟩ := Option.map_eq_some_iff.mp h
  obtain ⟨hlt, hfeed, hfree⟩ := List.findIdx?_eq_some_iff_getElem.mp hfind
  rw [List.length_reverse] at hlt
  simp only [List.getElem_reverse, beq_iff_eq] at hfeed hfree
  constructor
  · rw [List.getElem?_eq_getElem (by omega), hfeed]
  · intro k hk hbyte
    obtain ⟨hlt', hget⟩ := List.getElem?_eq_some_iff.mp hbyte
    apply hfree (text.length - 1 - k) (by omega)
    simpa only [show text.length - 1 - (text.length - 1 - k) = k by omega] using hget

theorem of_lastLineFeed?_eq_none (h : lastLineFeed? text = none) (k : Nat) :
    text[k]? ≠ some Ascii.lineFeed := by
  rw [lastLineFeed?, Option.map_eq_none_iff, List.findIdx?_eq_none_iff] at h
  intro hbyte
  simpa using h _ (List.mem_reverse.mpr (List.mem_of_getElem? hbyte))

/-- The last line of a text is that of its end. -/
theorem beginsLine_lineStart (text : Bytes) : BeginsLine text (lineStart text) text.length := by
  rw [lineStart]
  cases hlast : lastLineFeed? text with
  | none => exact beginsLine_zero fun i _ => of_lastLineFeed?_eq_none hlast i
  | some last =>
    obtain ⟨hfeed, hfree⟩ := of_lastLineFeed?_eq_some hlast
    obtain ⟨hlt, -⟩ := List.getElem?_eq_some_iff.mp hfeed
    exact beginsLine_succ hfeed hlt fun k hk _ => hfree k hk

theorem isAt_start (text : Bytes) : start.IsAt text 0 where
  line := rfl
  column := ⟨0, beginsLine_zero fun i hi => absurd hi (Nat.not_lt_zero i), rfl⟩

theorem IsAt.advance (h : p.IsAt text index) {b : UInt8} (hb : text[index]? = some b) :
    (p.advance b).IsAt text (index + 1) := by
  obtain ⟨hline, first, hfirst, hcolumn⟩ := h
  have hcount : (text.take (index + 1)).count Ascii.lineFeed
      = (text.take index).count Ascii.lineFeed + if b = Ascii.lineFeed then 1 else 0 := by
    rw [List.take_add_one, hb, List.count_append, Option.toList_some, List.count_singleton]
    simp
  rw [Position.advance]
  by_cases hfeed : b = Ascii.lineFeed
  · rw [if_pos hfeed] at hcount ⊢
    rw [hfeed] at hb
    have hline' : p.line + 1 = 1 + (text.take (index + 1)).count Ascii.lineFeed := by omega
    have hbegins : BeginsLine text (index + 1) (index + 1) :=
      beginsLine_succ hb (Nat.lt_succ_self index) fun k hk hlt => by omega
    exact ⟨hline', index + 1, hbegins, (Nat.sub_self _).symm⟩
  · rw [if_neg hfeed] at hcount ⊢
    have hbegins : BeginsLine text first (index + 1) := by
      refine hfirst.extend (Nat.le_succ index) fun i hi hlt => ?_
      obtain rfl : i = index := by omega
      simpa [hb] using hfeed
    have hcolumn' : p.column + 1 = index + 1 - first := by
      have := hfirst.le
      omega
    exact ⟨hline.trans (by omega), first, hbegins, hcolumn'⟩

theorem isAt_after_take (h : index ≤ text.length) : (after (text.take index)).IsAt text index := by
  induction index with
  | zero => exact isAt_start text
  | succ index ih =>
    have hget := List.getElem?_eq_getElem (l := text) (i := index) h
    rw [List.take_add_one, hget, Option.toList_some, after_concat]
    exact (ih (by omega)).advance hget

/-- No place further on has the same position: it would lie in the same line, and no further from
where the line begins. -/
theorem IsAt.le_of_isAt (h : p.IsAt text index) {other : Nat} (h' : p.IsAt text other) :
    other ≤ index := by
  rcases Nat.le_total other index with hle | hle
  · exact hle
  obtain ⟨hline, first, hfirst, hcolumn⟩ := h
  obtain ⟨hline', first', hfirst', hcolumn'⟩ := h'
  have hcount : (text.take index).count Ascii.lineFeed = (text.take other).count Ascii.lineFeed := by
    omega
  obtain rfl := (hfirst.extend hle ((count_take_eq_iff hle).mp hcount)).unique hfirst'
  have := hfirst.le
  omega

theorem IsAt.iff (h : p.IsAt text index) (other : Nat) : p.IsAt text other ↔ index = other := by
  constructor
  · intro h'
    exact Nat.le_antisymm (h'.le_of_isAt h) (h.le_of_isAt h')
  · rintro rfl
    exact h

theorem isEndOf_iff_isAt (p : Position) (text : Bytes) :
    p.isEndOf text = true ↔ p.IsAt text text.length := by
  have hstart := beginsLine_lineStart text
  rw [isEndOf, Bool.and_eq_true, beq_iff_eq, beq_iff_eq, hstart.count_take]
  constructor
  · rintro ⟨hline, hcolumn⟩
    exact ⟨hline, lineStart text, hstart, hcolumn⟩
  · rintro ⟨hline, first, hfirst, hcolumn⟩
    rw [hstart.unique hfirst]
    exact ⟨hline, hcolumn⟩

/-- **The position of a place is that of the end only at the end**, wherever line feeds stand, also
when one is the last byte. -/
theorem isEndOf_iff_eq_length (h : p.IsAt text index) :
    p.isEndOf text = true ↔ index = text.length :=
  (isEndOf_iff_isAt p text).trans (h.iff text.length)

/-- The end of two lines, `[` and `1`, that both end with a line feed, and the place before the
last line feed. -/
theorem isEndOf_behind_line_feed :
    let text : Bytes := [0x5B, 0x0A, 0x31, 0x0A]
    let behind : Position := ⟨3, 0⟩
    let before : Position := ⟨2, 1⟩
    (behind.IsAt text 4 ∧ behind.isEndOf text = true)
      ∧ before.IsAt text 3 ∧ before.isEndOf text = false := by
  intro text behind before
  have hbehind : behind.IsAt text 4 := isAt_after_take (show 4 ≤ text.length by decide)
  have hbefore : before.IsAt text 3 := isAt_after_take (show 3 ≤ text.length by decide)
  refine ⟨⟨hbehind, (isEndOf_iff_eq_length hbehind).mpr rfl⟩, hbefore, ?_⟩
  rw [Bool.eq_false_iff, ne_eq, isEndOf_iff_eq_length hbefore]
  decide

theorem isEndOf_take (h : index ≤ text.length) :
    (after (text.take index)).isEndOf text ↔ index = text.length :=
  (isEndOf_iff_isAt _ text).trans ((isAt_after_take h).iff text.length)

end Position

namespace Fault

theorem inText_append {text : Bytes} {index : Nat} (h : index ≤ text.length) (more : Bytes)
    (cause : Cause) : inText (text ++ more) cause index = inText text cause index := by
  rw [inText, inText, List.take_append_of_le_length h]

theorem isEndOf_inText {text : Bytes} {index : Nat} (h : index ≤ text.length) (cause : Cause) :
    (inText text cause index).position.isEndOf text ↔ index = text.length :=
  Position.isEndOf_take h

end Fault

end PlayableCards
