import PlayableCards.Proofs.Reader.Container
import PlayableCards.Proofs.Stream.Spans

/-!
# Elements of an array

Where in an input the elements of an array lie. A reader that accepts the array reads each of them
from its own bytes, and finds nothing but separators between them.
-/

namespace PlayableCards

/-- A value in an input, with where its bytes start and where they stop. -/
structure Element where
  value : Json
  start : Nat
  stop : Nat

namespace Element

/-- The value is read from the bytes of the element, and a byte follows that ends it. -/
structure In (e : Element) (input : Bytes) : Prop where
  begins : Stream.Begins input e.start
  reads : Reader.read (input.drop e.start) = .value e.value (e.stop - e.start) (input.drop e.stop)
  ends : ∃ b, input[e.stop]? = some b ∧ (Stream.isBetween b ∨ b = Ascii.closeBracket)

theorem In.lt {e : Element} {input : Bytes} (h : e.In input) : e.start < e.stop :=
  Nat.lt_of_sub_pos (Reader.read_value_pos h.reads)

theorem In.stop_lt {e : Element} {input : Bytes} (h : e.In input) : e.stop < input.length := by
  obtain ⟨b, hb, -⟩ := h.ends
  exact (List.getElem?_eq_some_iff.mp hb).1

theorem In.separates {e : Element} {input : Bytes} (h : e.In input) :
    (input.drop e.stop).head?.all Target.separates = true := by
  obtain ⟨b, hb, hends⟩ := h.ends
  rw [List.head?_drop, hb, Option.all_some, Target.separates]
  rcases hends with hbetween | rfl
  · rw [Stream.isBetween, Bool.or_eq_true, beq_iff_eq] at hbetween
    rcases hbetween with hspace | rfl
    · simp [hspace]
    · rfl
  · rfl

end Element

/-- The elements that the input holds from `offset` on, up to the bracket at `close`. -/
inductive Listed (input : Bytes) : Nat → List Element → Nat → Prop where
  | nil {offset close : Nat} (gap : Stream.Separated input offset close)
      (closes : input[close]? = some Ascii.closeBracket) : Listed input offset [] close
  | cons {offset close : Nat} {e : Element} {elements : List Element}
      (gap : Stream.Separated input offset e.start) (held : e.In input)
      (more : Listed input e.stop elements close) : Listed input offset (e :: elements) close

namespace Listed

variable {input : Bytes} {offset close : Nat} {elements : List Element}

theorem closes (h : Listed input offset elements close) :
    input[close]? = some Ascii.closeBracket := by
  induction h with
  | nil gap closes => exact closes
  | cons gap held more ih => exact ih

theorem bounds (h : Listed input offset elements close) {e : Element} (he : e ∈ elements) :
    e.In input ∧ offset ≤ e.start ∧ e.stop ≤ close := by
  have hle : ∀ {offset close elements}, Listed input offset elements close → offset ≤ close := by
    intro offset close elements h
    induction h with
    | nil gap closes => exact gap.1
    | cons gap held more ih => exact Nat.le_trans gap.1 (Nat.le_trans (Nat.le_of_lt held.lt) ih)
  induction h with
  | nil gap closes => cases he
  | cons gap held more ih =>
    rcases List.mem_cons.mp he with rfl | he
    · exact ⟨held, gap.1, hle more⟩
    · obtain ⟨hheld, hstart, hstop⟩ := ih he
      exact ⟨hheld, Nat.le_trans gap.1 (Nat.le_trans (Nat.le_of_lt held.lt) hstart), hstop⟩

end Listed

def past (input : Bytes) (p : UInt8 → Bool) (offset : Nat) : Nat :=
  offset + ((input.drop offset).takeWhile p).length

theorem drop_past (input : Bytes) (p : UInt8 → Bool) (offset : Nat) :
    input.drop (past input p offset) = (input.drop offset).dropWhile p := by
  rw [past, ← List.drop_drop, drop_length_takeWhile]

theorem separated_past (input : Bytes) (offset : Nat) :
    Stream.Separated input offset (past input Stream.isBetween offset) := by
  refine ⟨Nat.le_add_right _ _, fun b hb => ?_⟩
  rw [List.extract_eq_take_drop, past, Nat.add_sub_cancel_left,
    ← List.prefix_iff_eq_take.mp (List.takeWhile_prefix _)] at hb
  exact List.mem_takeWhile_imp hb

theorem getElem?_of_drop {input : Bytes} {n : Nat} {b : UInt8} {tail : Bytes}
    (h : input.drop n = b :: tail) : input[n]? = some b := by
  rw [← List.head?_drop, h, List.head?_cons]

namespace Reader

/-- **What a reader of a list reads on are the elements of the list.** -/
theorem listed_of_run {items all : List Json} {r : Reader} (hr : Between (.list items) r)
    {input : Bytes} {offset index used : Nat} {rest : Bytes}
    (h : r.run index (input.drop offset) = .value (.array all) used rest) :
    ∃ elements close, all = items.reverse ++ elements.map Element.value
      ∧ Listed input offset elements close := by
  induction hn : (input.drop offset).length using Nat.strong_induction_on
    generalizing items r offset index with
  | _ n ih =>
    subst hn
    have hgap := separated_past input offset
    have hpast := drop_past input Stream.isBetween offset
    have hshort := (List.dropWhile_suffix Stream.isBetween (l := input.drop offset)).length_le
    generalize past input Stream.isBetween offset = start at hgap hpast
    rcases run_between hr h with ⟨tail, hdrop, hall⟩ | ⟨b, tail, index', hdrop, hb, hspace, hitem⟩
    · rw [hdrop] at hpast
      exact ⟨[], start, by simpa [Container.whole] using hall, .nil hgap (getElem?_of_drop hpast)⟩
    · rw [Container.next, run_nextItem hspace hb] at hitem
      obtain ⟨v, mid, rest', hvalue, hafter⟩ := run_within (.item items) hitem
      obtain ⟨used', hread⟩ := run_value_from hvalue 0
      obtain ⟨first, more, hrest, hfirst⟩ := head_of_run_afterItem _ hafter
      obtain ⟨taken, htaken, hused⟩ := run_value hread
      have hpos := read_value_pos hread
      rw [hdrop] at hpast hshort
      have hstop : input.drop (start + used') = rest' := by
        rw [← List.drop_drop, hpast, htaken, hused, Nat.zero_add, List.drop_left]
      have hheld : Element.In ⟨v, start, start + used'⟩ input := by
        refine ⟨⟨b, getElem?_of_drop hpast, neg_of_dropWhile hdrop, hb⟩, ?_, first, ?_, ?_⟩
        · simp only [hpast, hstop, Nat.add_sub_cancel_left]
          exact hread
        · exact getElem?_of_drop (hstop.trans hrest)
        · rw [Stream.isBetween, Bool.or_eq_true, beq_iff_eq, or_assoc]
          exact hfirst
      have hless : (input.drop (start + used')).length < (input.drop offset).length := by
        rw [hstop]
        rw [htaken, List.length_append] at hshort
        omega
      rw [← hstop] at hafter
      obtain ⟨elements, close, hall, hlisted⟩ := ih _ hless (.after (.list (v :: items))) hafter rfl
      refine ⟨⟨v, start, start + used'⟩ :: elements, close, ?_, .cons hgap hheld hlisted⟩
      rw [hall, List.reverse_cons, List.append_assoc]
      rfl

end Reader

namespace Target

theorem read_of_readDocument {doc : Bytes} {items : List Json}
    (h : json.readDocument doc = .ok (.array items)) (tail : Bytes) :
    ∃ used rest, Reader.read (doc ++ tail) = .value (.array items) used rest := by
  rw [readDocument] at h
  cases hfirst : json.readFirst doc with
  | error fault => simp [hfirst] at h
  | ok item =>
    obtain ⟨v, hread, hconvert⟩ := readFirst_eq_ok hfirst
    simp only [hfirst] at h
    split at h
    · cases hconvert
      rw [Except.ok.inj h] at hread
      have hthrough : Reader.start.through doc = none := by
        cases hr : Reader.start.through doc with
        | none => rfl
        | some r =>
          obtain ⟨n, number, -, -, hnumber⟩ := Reader.number_of_through hr hread
          cases hnumber
      exact ⟨_, _, by rw [Reader.read_of_settled hthrough, hread]; rfl⟩
    · cases h

end Target

namespace Cursor

def mark (marked : Bool) : Bytes := if marked then Stream.byteOrderMark else []

end Cursor

/-- **The elements of a document** are listed in every input that begins with it, behind a
byte-order mark or none. -/
theorem listed_of_document {doc : Bytes} {items : List Json}
    (h : Target.json.readDocument doc = .ok (.array items)) (marked : Bool) (tail : Bytes) :
    ∃ offset elements close, Stream.Enters (Cursor.mark marked ++ (doc ++ tail)) offset
      ∧ Listed (Cursor.mark marked ++ (doc ++ tail)) offset elements close
      ∧ elements.map Element.value = items := by
  obtain ⟨used, rest, hread⟩ := Target.read_of_readDocument h tail
  obtain ⟨first, within, htext, hbegun⟩ := Reader.begunBy_of_read hread
  cases Shape.eq_openBracket_of_begunBy hbegun
  obtain ⟨used', hlist⟩ := Reader.read_dropWhile hread
  rw [htext] at hlist
  have hblanks : ∀ b ∈ (doc ++ tail).takeWhile Ascii.isSpace, Ascii.isSpace b :=
    fun b hb => List.mem_takeWhile_imp hb
  have hsplit := List.takeWhile_append_dropWhile (p := Ascii.isSpace) (l := doc ++ tail)
  rw [htext] at hsplit
  generalize (doc ++ tail).takeWhile Ascii.isSpace = blanks at hblanks hsplit
  have hinput : Cursor.mark marked ++ (doc ++ tail)
      = Cursor.mark marked ++ (blanks ++ [Ascii.openBracket]) ++ within := by
    rw [← hsplit]
    simp
  rw [hinput]
  have henters : Stream.Enters (Cursor.mark marked ++ (blanks ++ [Ascii.openBracket]) ++ within)
      (Cursor.mark marked ++ (blanks ++ [Ascii.openBracket])).length := by
    refine ⟨Cursor.mark marked, blanks, ?_, hblanks, List.take_left, by simp⟩
    cases marked with
    | true => exact .inr rfl
    | false => exact .inl rfl
  have hwithin : (Reader.firstItem []).run 1
      ((Cursor.mark marked ++ (blanks ++ [Ascii.openBracket]) ++ within).drop
        (Cursor.mark marked ++ (blanks ++ [Ascii.openBracket])).length)
      = .value (.array items) used' rest := by
    rw [List.drop_left]
    exact hlist
  obtain ⟨elements, close, hall, hlisted⟩ := Reader.listed_of_run .firstItem hwithin
  exact ⟨_, elements, close, henters, hlisted, hall.symm⟩

end PlayableCards
