import Mathlib.Tactic.Conv
import PlayableCards.Proofs.Elements
import PlayableCards.Proofs.Foresight
import PlayableCards.Proofs.Stream.Cut

/-!
# Places in an input

A cursor at a place of an input enters the array where it opens, passes over the separators before
a place, and is told there what starts at it.
-/

namespace PlayableCards

namespace Stream

variable {input : Bytes} {start stop n : Nat}

theorem extract_take (h : stop ≤ n) :
    (input.take n).extract start stop = input.extract start stop := by
  rw [List.extract_eq_take_drop, List.extract_eq_take_drop, List.drop_take, List.take_take,
    Nat.min_eq_left (by omega)]

theorem getElem?_take (h : start < n) : (input.take n)[start]? = input[start]? :=
  List.getElem?_take_of_lt h

theorem separated_self (input : Bytes) (start : Nat) : Separated input start start := by
  refine ⟨Nat.le_refl start, fun b hb => ?_⟩
  rw [List.extract_eq_take_drop, Nat.sub_self, List.take_zero] at hb
  cases hb

theorem Separated.take {gap : Nat} (h : Separated input start stop) (hgap : gap ≤ stop)
    (hstart : start ≤ gap) (hn : gap ≤ n) : Separated (input.take n) start gap := by
  refine ⟨hstart, fun b hb => h.2 b ?_⟩
  rw [extract_take hn] at hb
  rw [List.extract_eq_take_drop] at hb ⊢
  exact (List.take_prefix_take_left (Nat.sub_le_sub_right hgap start)).subset hb

theorem Begins.take (h : Begins input start) (hn : start < n) : Begins (input.take n) start := by
  obtain ⟨b, hb, hbegins⟩ := h
  exact ⟨b, (getElem?_take hn).trans hb, hbegins⟩

theorem Begins.drop_eq (h : Begins input start) :
    ∃ b tail, input.drop start = b :: tail ∧ isBetween b = false ∧ b ≠ Ascii.closeBracket := by
  obtain ⟨b, hb, hbetween, hclose⟩ := h
  obtain ⟨hlt, rfl⟩ := List.getElem?_eq_some_iff.mp hb
  exact ⟨_, _, List.drop_eq_getElem_cons hlt, hbetween, hclose⟩

theorem drop_of_closes (h : input[start]? = some Ascii.closeBracket) :
    input.drop start = Ascii.closeBracket :: input.drop (start + 1) := by
  obtain ⟨hlt, hbracket⟩ := List.getElem?_eq_some_iff.mp h
  rw [List.drop_eq_getElem_cons hlt, hbracket]

theorem Enters.le (h : Enters input start) : start ≤ input.length := by
  obtain ⟨-, -, -, -, -, hle⟩ := h
  exact hle

theorem Enters.take (h : Enters input start) (hn : start ≤ n) (hle : n ≤ input.length) :
    Enters (input.take n) start := by
  obtain ⟨mark, blanks, hmark, hblanks, hfront, -⟩ := h
  refine ⟨mark, blanks, hmark, hblanks, ?_, ?_⟩
  · rwa [List.take_take, Nat.min_eq_left hn]
  · rwa [List.length_take, Nat.min_eq_left hle]

/-- What an input with an array starts with. -/
theorem Enters.split (h : Enters input start) :
    ∃ mark blanks, (mark = [] ∨ mark = byteOrderMark) ∧ (∀ b ∈ blanks, Ascii.isSpace b)
      ∧ input = mark ++ (blanks ++ Ascii.openBracket :: input.drop start)
      ∧ start = mark.length + (blanks.length + 1) := by
  obtain ⟨mark, blanks, hmark, hblanks, hfront, hle⟩ := h
  refine ⟨mark, blanks, hmark, hblanks, ?_, ?_⟩
  · conv_lhs => rw [← List.take_append_drop start input, hfront]
    simp
  · have := congrArg List.length hfront
    rwa [List.length_take, Nat.min_eq_left hle, List.length_append, List.length_append,
      List.length_singleton] at this

theorem opens?_blanks {blanks : Bytes} (hblanks : ∀ b ∈ blanks, Ascii.isSpace b) (within : Bytes) :
    opens? ((blanks ++ Ascii.openBracket :: within).dropWhile Ascii.isSpace) = some true := by
  rw [List.dropWhile_append_of_pos hblanks]
  rfl

theorem mem_of_opens {bytes : Bytes} (h : opens? bytes = some true) :
    Ascii.openBracket ∈ bytes := by
  cases bytes with
  | nil => cases h
  | cons b rest =>
    simp only [opens?, Option.some.injEq, beq_iff_eq] at h
    exact List.mem_cons.mpr (.inl h.symm)

end Stream

namespace Cursor

variable {t : Target α} {phase : Phase} {input : Bytes} {offset stop : Nat}

def place (phase : Phase) (input : Bytes) (offset : Nat) : Cursor :=
  ⟨phase, offset, input.drop offset⟩

theorem skip_place {n : Nat} (h : offset + n ≤ input.length) :
    (place phase input offset).skip n = place phase input (offset + n) := by
  simp only [place, skip, List.length_take, List.length_drop, List.drop_drop, Cursor.mk.injEq,
    true_and, and_true]
  omega

theorem skipWhile_place {p : UInt8 → Bool} (h : offset ≤ stop) (hle : stop ≤ input.length)
    (hpassed : ∀ b ∈ input.extract offset stop, p b) :
    (place phase input offset).skipWhile p = (place phase input stop).skipWhile p := by
  have hskip : (place phase input offset).skip (stop - offset) = place phase input stop := by
    rw [skip_place (by omega), Nat.add_sub_cancel' h]
  have htake : (place phase input offset).rest.take (stop - offset)
      = input.extract offset stop := List.extract_eq_take_drop.symm
  rw [← hskip, skip_skipWhile]
  · simp only [place, List.length_drop]
    omega
  · rwa [htake]

theorem skipWhile_of_head {p : UInt8 → Bool} {b : UInt8} {tail : Bytes}
    (h : input.drop stop = b :: tail) (hb : p b = false) :
    (place phase input stop).skipWhile p = place phase input stop := by
  have htake : (place phase input stop).rest.takeWhile p = [] := by
    rw [place, h]
    exact List.takeWhile_cons_of_neg (by simp [hb])
  rw [skipWhile, htake]
  simp [skip]

theorem skipWhile_of_separated (gap : Stream.Separated input offset stop)
    (begins : Stream.Begins input stop) :
    (place phase input offset).skipWhile Stream.isBetween = place phase input stop := by
  obtain ⟨b, tail, hdrop, hbetween, -⟩ := begins.drop_eq
  have hle : stop ≤ input.length := by
    have := congrArg List.length hdrop
    simp only [List.length_drop, List.length_cons] at this
    omega
  rw [skipWhile_place gap.1 hle gap.2, skipWhile_of_head hdrop hbetween]

theorem skipWhile_of_closes (gap : Stream.Separated input offset stop)
    (closes : input[stop]? = some Ascii.closeBracket) :
    (place phase input offset).skipWhile Stream.isBetween = place phase input stop := by
  have hlt := (List.getElem?_eq_some_iff.mp closes).1
  rw [skipWhile_place gap.1 (Nat.le_of_lt hlt) gap.2,
    skipWhile_of_head (Stream.drop_of_closes closes) rfl]

theorem nextItem_of_begins (gap : Stream.Separated input offset stop)
    (begins : Stream.Begins input stop) :
    (place phase input offset).nextItem t =
      match t.decode (input.drop stop) true with
      | .complete value used => (.item value, place .items input (stop + used))
      | .invalid fault => (.failed (.parse stop fault), place .done input stop)
      | .incomplete => (.ended, place .done input stop) := by
  obtain ⟨b, tail, hdrop, -, hclose⟩ := begins.drop_eq
  have hsight := Target.sight?_cons (t := t) hclose tail true
  rw [← hdrop] at hsight
  have hrest : (place phase input stop).rest = input.drop stop := rfl
  simp only [nextItem, skipWhile_of_separated gap begins, hrest, hsight]
  cases hdecode : t.decode (input.drop stop) true with
  | complete value used =>
    have hused := Target.decode_complete_le hdecode
    have hpos := Target.decode_complete_pos hdecode
    rw [List.length_drop] at hused
    simp only [Option.getD_some, skip_place (n := used) (show stop + used ≤ input.length by omega)]
    rfl
  | invalid fault => rfl
  | incomplete => rfl

theorem nextItem_of_closes (gap : Stream.Separated input offset stop)
    (closes : input[stop]? = some Ascii.closeBracket) :
    (place phase input offset).nextItem t = (.ended, place .done input (stop + 1)) := by
  have hlt : stop + 1 ≤ input.length := (List.getElem?_eq_some_iff.mp closes).1
  have hsight : Stream.sight? t true (place phase input stop).rest = some .close := by
    rw [place, Stream.drop_of_closes closes]
    rfl
  simp only [nextItem, skipWhile_of_closes gap closes, hsight, Option.getD_some, skip_place hlt]
  rfl

theorem nextItem_of_end (gap : Stream.Separated input offset input.length) :
    (place phase input offset).nextItem t = (.ended, place .done input input.length) := by
  have hskip : (place phase input offset).skipWhile Stream.isBetween
      = place phase input input.length := by
    rw [skipWhile_place gap.1 (Nat.le_refl _) gap.2]
    simp [skipWhile, skip, place]
  have hsight : Stream.sight? t true (place phase input input.length).rest = none := by
    rw [place, List.drop_length]
    rfl
  simp only [nextItem, hskip, hsight, Option.getD_none]
  rfl

theorem skipMark_start {mark blanks : Bytes} (hmark : mark = [] ∨ mark = Stream.byteOrderMark)
    (hblanks : ∀ b ∈ blanks, Ascii.isSpace b) {within : Bytes}
    (hinput : input = mark ++ (blanks ++ Ascii.openBracket :: within)) :
    (start input).skipMark = place .opening input mark.length := by
  subst hinput
  rcases hmark with rfl | rfl
  · have hmarked := Stream.marked?_of_opens (Stream.opens?_blanks hblanks within)
    rw [skipMark, List.nil_append, start, if_neg (by simp [hmarked])]
    rfl
  · have hmarked := Stream.marked?_eq_true.mpr (List.prefix_append Stream.byteOrderMark
      (blanks ++ Ascii.openBracket :: within))
    have hstart : start (Stream.byteOrderMark ++ (blanks ++ Ascii.openBracket :: within))
        = place .opening _ 0 := rfl
    rw [skipMark, start, if_pos (beq_iff_eq.mpr hmarked), ← start, hstart, skip_place (by simp),
      Nat.zero_add]

theorem skipWhile_blanks {mark blanks within : Bytes} (hblanks : ∀ b ∈ blanks, Ascii.isSpace b)
    (hinput : input = mark ++ (blanks ++ Ascii.openBracket :: within)) :
    (place .opening input mark.length).skipWhile Ascii.isSpace
        = place .opening input (mark.length + blanks.length)
      ∧ input.drop (mark.length + blanks.length) = Ascii.openBracket :: within := by
  have hbracket : input.drop (mark.length + blanks.length) = Ascii.openBracket :: within := by
    rw [hinput, ← List.append_assoc, ← List.length_append, List.drop_left]
  have hpassed : ∀ b ∈ input.extract mark.length (mark.length + blanks.length),
      Ascii.isSpace b := by
    rw [List.extract_eq_take_drop, hinput, List.drop_left, Nat.add_sub_cancel_left, List.take_left]
    exact hblanks
  have hle : mark.length + blanks.length ≤ input.length := by
    simp only [hinput, List.length_append]
    omega
  refine ⟨?_, hbracket⟩
  rw [skipWhile_place (Nat.le_add_right _ _) hle hpassed, skipWhile_of_head hbracket rfl]

theorem enter_of_enters (h : Stream.Enters input offset) :
    (start input).enter = (true, place .opening input offset) := by
  obtain ⟨mark, blanks, hmark, hblanks, hinput, hoffset⟩ := h.split
  obtain ⟨hskip, hbracket⟩ := skipWhile_blanks hblanks hinput
  have hopens : Stream.opens? (place .opening input (mark.length + blanks.length)).rest
      = some true := by
    rw [place, hbracket]
    rfl
  have hle := h.le
  simp only [enter, skipMark_start hmark hblanks hinput, hskip, hopens, BEq.rfl, if_true, skip_place
    (show mark.length + blanks.length + 1 ≤ input.length by omega)]
  rw [hoffset, Nat.add_assoc]

theorem next_of_enters (h : Stream.Enters input offset) :
    (start input).next t = (place .opening input offset).nextItem t := by
  have hphase : (start input).phase = .opening := rfl
  simp only [next, hphase, enter_of_enters h]

theorem mem_of_enter {cur within : Cursor} (h : cur.enter = (true, within)) :
    Ascii.openBracket ∈ cur.rest := by
  have hsuffix : (cur.skipMark.skipWhile Ascii.isSpace).rest <:+ cur.rest := by
    refine (skip_suffix _ _).trans ?_
    rw [skipMark]
    split
    · exact skip_suffix _ _
    · exact List.suffix_refl _
  simp only [enter] at h
  split at h
  · rename_i hopens
    rw [beq_iff_eq] at hopens
    exact hsuffix.subset (Stream.mem_of_opens hopens)
  · cases h

theorem next_of_not_entered (h : Stream.Enters input offset) {n : Nat} (hn : n < offset) :
    ∃ cur, (start (input.take n)).next t = (.ended, cur) := by
  have hphase : (start (input.take n)).phase = .opening := rfl
  rcases hentry : (start (input.take n)).enter with ⟨found, within⟩
  cases found with
  | false => exact ⟨within.finish, by simp only [next, hphase, hentry]⟩
  | true =>
    -- the bytes before the bracket are a mark and blanks
    obtain ⟨mark, blanks, hmark, hblanks, hinput, hoffset⟩ := h.split
    have hmem : Ascii.openBracket ∈ input.take n := mem_of_enter hentry
    have hbefore : input.take n <+: mark ++ blanks := by
      have hprefix := List.take_prefix n input
      have hwhole : mark ++ blanks <+: input := by
        rw [hinput, ← List.append_assoc]
        exact List.prefix_append _ _
      refine List.prefix_of_prefix_length_le hprefix hwhole ?_
      rw [List.length_take, List.length_append]
      omega
    rcases List.mem_append.mp (hbefore.subset hmem) with hin | hin
    · rcases hmark with rfl | rfl
      · cases hin
      · simp [Stream.byteOrderMark, Ascii.openBracket] at hin
    · cases hblanks _ hin

end Cursor
end PlayableCards
