import Mathlib.Data.List.Basic
import PlayableCards.Proofs.Export.Document
import PlayableCards.Proofs.Export.Lazy

/-!
# Blocks back from an export

A consumer cuts an export into lines and ends a piece at each separator line. The pieces are the
texts of the blocks just where no text has a separator line of its own: such a line, which a name or
a text of a card may bring along, ends a piece too early.
-/

namespace PlayableCards

section Cutting

variable [BEq α] {a : α}

/-- The parts that end before an `a` each, and what lies behind the last `a`. -/
def cutAt (a : α) (xs : List α) : List (List α) × List α :=
  ((xs.splitOn a).dropLast, (xs.splitOn a).getLast (List.splitOn_ne_nil a xs))

theorem length_splitOn (xs : List α) : (xs.splitOn a).length = xs.count a + 1 := by
  induction xs with
  | nil => rfl
  | cons x xs ih =>
    rw [List.splitOn_cons_eq_if_modifyHead, List.count_cons]
    split
    · rw [List.length_cons, ih]
    · rw [List.length_modifyHead, ih]

theorem length_flatMap_splitOn (f : β → List α) (bs : List β) :
    (bs.flatMap fun b => (f b).splitOn a).length = bs.length + (bs.flatMap f).count a := by
  induction bs with
  | nil => rfl
  | cons b bs ih =>
    rw [List.flatMap_cons, List.length_append, length_splitOn, ih, List.flatMap_cons,
      List.count_append, List.length_cons]
    omega

variable [LawfulBEq α]

theorem splitOn_append_of_not_mem {xs : List α} (h : a ∉ xs) (ys : List α) :
    (xs ++ ys).splitOn a = (ys.splitOn a).modifyHead (xs ++ ·) := by
  induction xs with
  | nil =>
    rw [List.nil_append]
    cases ys.splitOn a <;> rfl
  | cons x xs ih =>
    rw [List.mem_cons, not_or] at h
    rw [List.cons_append, List.splitOn_cons_eq_if_modifyHead,
      if_neg (mt beq_iff_eq.mp (Ne.symm h.1)), ih h.2, List.modifyHead_modifyHead]
    rfl

theorem cutAt_append_cons (xs ys : List α) :
    cutAt a (xs ++ a :: ys) = (xs.splitOn a ++ (cutAt a ys).1, (cutAt a ys).2) := by
  have hne := List.splitOn_ne_nil a ys
  simp only [cutAt, List.splitOn_append_cons_self]
  rw [List.dropLast_append_of_ne_nil hne, List.getLast_append_of_ne_nil _ hne]

theorem cutAt_flatMap (f : β → List α) (bs : List β) :
    cutAt a (bs.flatMap fun b => f b ++ [a]) = (bs.flatMap fun b => (f b).splitOn a, []) := by
  induction bs with
  | nil => rfl
  | cons b bs ih =>
    rw [List.flatMap_cons, List.append_assoc, List.singleton_append, cutAt_append_cons, ih,
      List.flatMap_cons]

end Cutting

namespace Utf8

/-- Only a line feed has the byte of one. -/
theorem lineFeed_mem_utf8EncodeChar {c : Char} :
    Ascii.lineFeed ∈ String.utf8EncodeChar c ↔ c = '\n' := by
  have hchar : c = '\n' ↔ c.val.toNat = 10 := by
    rw [← Char.val_inj, ← UInt32.toNat_inj]
    rfl
  have hbyte : ∀ n, Ascii.lineFeed = UInt8.ofNat n ↔ n % 256 = 10 := by
    intro n
    rw [← UInt8.toNat_inj, UInt8.toNat_ofNat, eq_comm]
    rfl
  rw [hchar, String.utf8EncodeChar]
  split_ifs <;> simp only [List.mem_cons, List.not_mem_nil, or_false, hbyte] <;> omega

theorem encode_injective : Function.Injective encode := by
  intro cs ds h
  have hbytes : (String.ofList cs).toByteArray = (String.ofList ds).toByteArray := by
    simp only [String.toByteArray_ofList, List.utf8Encode]
    exact congrArg List.toByteArray h
  exact String.ofList_inj.mp (String.toByteArray_inj.mp hbytes)

theorem ofString_append (s t : String) : ofString (s ++ t) = ofString s ++ ofString t := by
  simp only [ofString, encode, String.toList_append, List.flatMap_append]

/-- Cut at line feeds, the bytes of characters are those of their lines. -/
theorem splitOn_encode (cs : List Char) :
    (encode cs).splitOn Ascii.lineFeed = (cs.splitOn '\n').map encode := by
  induction cs with
  | nil => rfl
  | cons c cs ih =>
    have hcons : encode (c :: cs) = String.utf8EncodeChar c ++ encode cs := List.flatMap_cons
    rw [hcons, List.splitOn_cons_eq_if_modifyHead]
    by_cases hc : c = '\n'
    · rw [if_pos (beq_iff_eq.mpr hc), List.map_cons, ← ih, hc]
      exact List.splitOn_append_cons_self [] (encode cs)
    · have hfree := mt lineFeed_mem_utf8EncodeChar.mp hc
      rw [if_neg (mt beq_iff_eq.mp hc), splitOn_append_of_not_mem hfree, ih]
      cases cs.splitOn '\n' <;> rfl

end Utf8

namespace Block

/-- The lines of the text, which may be more than those that the block is made of. -/
def textLines (b : Block) : List String := (b.text.toList.splitOn '\n').map String.ofList

def writtenLines (b : Block) : List Bytes := (Utf8.ofString b.text).splitOn Ascii.lineFeed

theorem mem_writtenLines {b : Block} {line : String} :
    Utf8.ofString line ∈ b.writtenLines ↔ line ∈ b.textLines := by
  have hofList : Function.Injective String.ofList := fun _ _ => String.ofList_inj.mp
  rw [writtenLines, textLines, Utf8.ofString, Utf8.ofString, Utf8.splitOn_encode,
    List.mem_map_of_injective Utf8.encode_injective, ← List.mem_map_of_injective hofList,
    String.ofList_toList]

theorem written_eq (b : Block) :
    b.written = (Utf8.ofString b.text ++ Ascii.lineFeed :: Utf8.ofString separator)
      ++ [Ascii.lineFeed] := by
  have hfeed : Utf8.ofString "\n" = [Ascii.lineFeed] := rfl
  simp only [written, Utf8.ofString_append, hfeed, List.append_assoc, List.singleton_append]

theorem splitOn_lineFeed_separator (b : Block) :
    (Utf8.ofString b.text ++ Ascii.lineFeed :: Utf8.ofString separator).splitOn Ascii.lineFeed
      = b.writtenLines ++ [Utf8.ofString separator] := by
  have hsingle : Ascii.lineFeed ∉ Utf8.ofString separator := by decide
  rw [List.splitOn_append_cons_self, List.splitOn_eq_singleton hsingle, writtenLines]

end Block

namespace Export

/-- The pieces of an export, and what is left over behind the last separator line. -/
def pieces (bytes : Bytes) : List Bytes × Bytes :=
  let (lines, rest) := cutAt Ascii.lineFeed bytes
  let (parts, left) := cutAt (Utf8.ofString separator) lines
  (parts.map [Ascii.lineFeed].intercalate, left.flatMap (· ++ [Ascii.lineFeed]) ++ rest)

theorem pieces_written (blocks : List Block) :
    pieces (blocks.flatMap Block.written)
      = ((blocks.flatMap fun b => b.writtenLines.splitOn (Utf8.ofString separator)).map
          [Ascii.lineFeed].intercalate, []) := by
  have hlines : cutAt Ascii.lineFeed (blocks.flatMap Block.written)
      = (blocks.flatMap fun b => b.writtenLines ++ [Utf8.ofString separator], []) := by
    rw [funext Block.written_eq, cutAt_flatMap, funext Block.splitOn_lineFeed_separator]
  rw [pieces, hlines]
  simp only
  rw [cutAt_flatMap]
  rfl

theorem pieces_written_iff (blocks : List Block) :
    pieces (blocks.flatMap Block.written) = (blocks.map fun b => Utf8.ofString b.text, [])
      ↔ ∀ b ∈ blocks, separator ∉ b.textLines := by
  rw [pieces_written, Prod.mk.injEq, and_iff_left rfl]
  refine ⟨fun hpieces b hb hmem => ?_, fun hfree => ?_⟩
  · have hlength := congrArg List.length hpieces
    rw [List.length_map, List.length_map, length_flatMap_splitOn, Nat.add_eq_left,
      List.count_eq_zero] at hlength
    exact hlength (List.mem_flatMap_of_mem hb (Block.mem_writtenLines.mpr hmem))
  · have hsingle : ∀ b ∈ blocks, b.writtenLines.splitOn (Utf8.ofString separator)
        = [b.writtenLines] := fun b hb =>
      List.splitOn_eq_singleton (mt Block.mem_writtenLines.mp (hfree b hb))
    rw [List.flatMap_congr hsingle, ← List.map_eq_flatMap, List.map_map]
    exact List.map_congr_left fun b _ => List.intercalate_splitOn Ascii.lineFeed

/-- A card whose name ends with a separator line is cut in two. -/
example : pieces (Block.written ⟨["Name: A\n---"]⟩) = ([Utf8.ofString "Name: A", []], []) := by
  decide +kernel

theorem run_of_ok {source : Source} {sink : Sink} (hwilling : sink.Willing) {stats : Stats}
    (hresult : (run source sink).result = .ok stats) :
    source.fault = none
      ∧ (run source sink).sink.written.toList = sink.written.toList ++ output source.cards := by
  rcases Nat.lt_or_eq_of_le (sink.room_le (output source.cards).length) with hroom | hroom
  · cases hresult.symm.trans (run_of_no_room source hwilling hroom).1
  · obtain ⟨hrun, hwritten, -, -⟩ := run_of_room source hwilling hroom
    rw [hrun] at hresult
    cases hfault : source.fault with
    | some fault =>
      rw [hfault] at hresult
      cases hresult
    | none => exact ⟨rfl, hwritten⟩

theorem taken_nextBlock (source : Source) (n : Nat) :
    ((Stream.ofSource source).taken Stream.nextBlock n).map Prod.fst
      = Yield.sequence (source.cards.filterMap Card.block?) source.fault n := by
  rw [show Stream.nextBlock = Stream.nextSome Card.target Card.block? from rfl,
    Stream.taken_nextSome, Account.map_fst_answers, Account.fst_items_pick]
  rfl

/-- **The pieces of an export are its blocks**, with nothing left over, just where no block has a
line that is the separator. -/
theorem pieces_of_run (source : Source) {sink : Sink} (hwilling : sink.Willing) {stats : Stats}
    (hresult : (run source sink).result = .ok stats) :
    ∃ blocks bytes,
      (∀ n, ((Stream.ofSource source).taken Stream.nextBlock n).map Prod.fst
        = Yield.sequence blocks none n)
      ∧ (run source sink).sink.written.toList = sink.written.toList ++ bytes
      ∧ (pieces bytes = (blocks.map fun b => Utf8.ofString b.text, [])
        ↔ ∀ b ∈ blocks, separator ∉ b.textLines) := by
  obtain ⟨hfault, hwritten⟩ := run_of_ok hwilling hresult
  refine ⟨source.cards.filterMap Card.block?, output source.cards, fun n => ?_, hwritten,
    pieces_written_iff _⟩
  rw [taken_nextBlock, hfault]

/-- The document `[{"name":"A\n----"}]`, written by twos. The second line of its block is longer
than the separator. -/
theorem pieces_of_dashes : ∃ e stats bytes,
    e = run (.ofBytes [0x5B, 0x7B, 0x22, 0x6E, 0x61, 0x6D, 0x65, 0x22, 0x3A, 0x22, 0x41, 0x5C, 0x6E,
        0x2D, 0x2D, 0x2D, 0x2D, 0x22, 0x7D, 0x5D] [.deliver 9, .interrupt])
      { Sink.unlimited with most := some 2 }
      ∧ e.result = .ok stats ∧ e.sink.written.toList = bytes
      ∧ pieces bytes = ([Utf8.ofString "Name: A\n----"], []) := by
  have hdoc : Target.json.readDocument [0x5B, 0x7B, 0x22, 0x6E, 0x61, 0x6D, 0x65, 0x22, 0x3A, 0x22,
      0x41, 0x5C, 0x6E, 0x2D, 0x2D, 0x2D, 0x2D, 0x22, 0x7D, 0x5D]
      = .ok (.array [.object [("name", .string "A\n----")]]) := by rfl
  have hscript : [ReadEvent.deliver 9, .interrupt].all ReadEvent.brings := rfl
  have hsink : ({ Sink.unlimited with most := some 2 } : Sink).Takes
      (output [Card.ofJson (.object [("name", .string "A\n----")])]).length :=
    ⟨by simp, by simp [Sink.unlimited], by simp [Sink.unlimited]⟩
  obtain ⟨stats, hresult, -⟩ := run_of_document hdoc hscript hsink rfl
  obtain ⟨blocks, bytes, hblocks, hwritten, hpieces⟩ := pieces_of_run _ hsink.willing hresult
  have hblock : [Card.ofJson (.object [("name", .string "A\n----")])].filterMap Card.block?
      = [⟨["Name: A\n----"]⟩] := by decide +kernel
  -- the first two calls tell the only block
  have hfirst := hblocks 2
  rw [taken_nextBlock, (run_of_ok hsink.willing hresult).1, Source.cards_of_document hdoc hscript,
    List.map_cons, List.map_nil, hblock] at hfirst
  have hsingle : blocks = [⟨["Name: A\n----"]⟩] := by
    rcases blocks with _ | ⟨b, _ | ⟨c, blocks⟩⟩ <;> simp_all [Yield.sequence]
  subst hsingle
  exact ⟨_, stats, bytes, rfl, hresult, hwritten, hpieces.mpr (by decide +kernel)⟩

end Export
end PlayableCards
