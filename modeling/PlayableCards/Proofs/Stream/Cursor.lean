import PlayableCards.Proofs.Skipping
import PlayableCards.Stream.Items

/-!
# Cursors in an input

What a stream yields when all of its input is at hand. A cursor is what has not been consumed, with
its offset; from it every item follows without a source, a window or a chunk.
-/

namespace PlayableCards

structure Cursor where
  phase : Phase
  offset : Nat
  rest : Bytes

namespace Cursor

def start (input : Bytes) : Cursor := ⟨.opening, 0, input⟩

def skip (cur : Cursor) (n : Nat) : Cursor :=
  { cur with offset := cur.offset + (cur.rest.take n).length, rest := cur.rest.drop n }

def skipWhile (cur : Cursor) (p : UInt8 → Bool) : Cursor := cur.skip (cur.rest.takeWhile p).length

def finish (cur : Cursor) : Cursor := { cur with phase := .done }

def skipMark (cur : Cursor) : Cursor :=
  if Stream.marked? cur.rest == some true then cur.skip Stream.byteOrderMark.length else cur

def enter (cur : Cursor) : Bool × Cursor :=
  let ahead := cur.skipMark.skipWhile Ascii.isSpace
  if Stream.opens? ahead.rest == some true then (true, ahead.skip 1) else (false, ahead)

def nextItem (t : Target α) (cur : Cursor) : Yield α × Cursor :=
  let ahead := cur.skipWhile Stream.isBetween
  match (Stream.sight? t true ahead.rest).getD .nothing with
  | .item value used => (.item value, { ahead.skip used with phase := .items })
  | .fault fault => (.failed (.parse ahead.offset fault), ahead.finish)
  | .close => (.ended, (ahead.skip 1).finish)
  | .nothing => (.ended, ahead.finish)

def next (t : Target α) (cur : Cursor) : Yield α × Cursor :=
  match cur.phase with
  | .done => (.ended, cur)
  | .items => cur.nextItem t
  | .opening =>
    match cur.enter with
    | (true, within) => within.nextItem t
    | (false, before) => (.ended, before.finish)

/-- The text that the next item is looked for in, or nothing outside of the array. -/
def upcoming (cur : Cursor) : Bytes :=
  match cur.phase with
  | .done => []
  | .items => (cur.skipWhile Stream.isBetween).rest
  | .opening =>
    match cur.enter with
    | (true, within) => (within.skipWhile Stream.isBetween).rest
    | (false, _) => []

def Within (cur : Cursor) (input : Bytes) : Prop :=
  cur.offset ≤ input.length ∧ cur.rest = input.drop cur.offset

@[simp] theorem rest_skip (cur : Cursor) (n : Nat) : (cur.skip n).rest = cur.rest.drop n := rfl

@[simp] theorem rest_skipWhile (cur : Cursor) (p : UInt8 → Bool) :
    (cur.skipWhile p).rest = cur.rest.dropWhile p :=
  drop_length_takeWhile p cur.rest

theorem skipWhile_false (cur : Cursor) : cur.skipWhile (fun _ => false) = cur := by
  have htake : cur.rest.takeWhile (fun _ => false) = [] := by cases cur.rest <;> rfl
  simp [skipWhile, skip, htake]

theorem offset_skip {cur : Cursor} {n : Nat} (h : n ≤ cur.rest.length) :
    (cur.skip n).offset = cur.offset + n := by
  simp only [skip, List.length_take]
  omega

theorem skip_skip (cur : Cursor) (m n : Nat) : (cur.skip m).skip n = cur.skip (m + n) := by
  simp only [skip, List.drop_drop, List.take_add, List.length_append, Nat.add_assoc]

theorem skip_skipWhile {cur : Cursor} {p : UInt8 → Bool} {n : Nat} (hn : n ≤ cur.rest.length)
    (h : ∀ b ∈ cur.rest.take n, p b) : (cur.skip n).skipWhile p = cur.skipWhile p := by
  rw [skipWhile, skipWhile, takeWhile_of_take h, skip_skip, List.length_append, List.length_take,
    Nat.min_eq_left hn, rest_skip]

theorem within_start (input : Bytes) : (start input).Within input := ⟨Nat.zero_le _, rfl⟩

theorem Within.skip {cur : Cursor} {input : Bytes} (h : cur.Within input) (n : Nat) :
    (cur.skip n).Within input := by
  obtain ⟨hle, hrest⟩ := h
  have hlength := congrArg List.length hrest
  rw [List.length_drop] at hlength
  by_cases hn : n ≤ cur.rest.length
  · refine ⟨by rw [offset_skip hn]; omega, ?_⟩
    rw [offset_skip hn, rest_skip, hrest, List.drop_drop]
  · have hall : cur.rest.take n = cur.rest := List.take_of_length_le (by omega)
    refine ⟨by simp only [Cursor.skip, hall]; omega, ?_⟩
    rw [rest_skip, List.drop_of_length_le (by omega)]
    simp only [Cursor.skip, hall]
    rw [List.drop_of_length_le (by omega)]

theorem Within.skipWhile {cur : Cursor} {input : Bytes} (h : cur.Within input) (p : UInt8 → Bool) :
    (cur.skipWhile p).Within input := h.skip _

theorem Within.skipMark {cur : Cursor} {input : Bytes} (h : cur.Within input) :
    cur.skipMark.Within input := by
  rw [Cursor.skipMark]
  split
  · exact h.skip _
  · exact h

theorem Within.enter {cur : Cursor} {input : Bytes} (h : cur.Within input) :
    cur.enter.2.Within input := by
  have hahead := h.skipMark.skipWhile Ascii.isSpace
  unfold Cursor.enter
  simp only
  split
  · exact hahead.skip 1
  · exact hahead

end Cursor
end PlayableCards
