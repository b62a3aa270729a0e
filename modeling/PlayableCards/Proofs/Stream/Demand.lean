import Mathlib.Order.Monotone.Basic
import PlayableCards.Proofs.Portion
import PlayableCards.Proofs.Stream.Drawing
import PlayableCards.Proofs.Stream.Place

/-!
# Reading on demand

A stream over a document reads no more than it takes to tell what it yields: the bytes of an
element, and behind a number the byte that ends it, or those up to the closing bracket.
-/

namespace PlayableCards

/-- How many bytes tell an element, or else the end of the list. -/
def needed (close : Nat) : Option Element → Nat
  | none => close + 1
  | some e => e.stop + e.value.lookahead

def told (f : Json → α) : Option Element → Yield α
  | none => .ended
  | some e => .item (f e.value)

def leftAt (input : Bytes) (close : Nat) : Option Element → Cursor
  | none => .place .done input (close + 1)
  | some e => .place .items input e.stop

def standsAt (close : Nat) : Option Element → Nat
  | none => close
  | some e => e.start

theorem Element.In.decode {e : Element} {input : Bytes} (h : e.In input) (f : Json → α) :
    (Target.map f).decode (input.drop e.start) true
      = .complete (f e.value) (e.stop - e.start) := by
  refine Target.decode_part_final f h.reads h.separates (List.prefix_refl _) ?_
  rw [List.length_drop]
  exact Nat.sub_le_sub_right (Nat.le_of_lt h.stop_lt) e.start

namespace Listed

variable {input : Bytes} {offset close : Nat} {elements : List Element}

theorem separated (h : Listed input offset elements close) :
    Stream.Separated input offset (standsAt close elements.head?) := by
  cases h with
  | nil gap closes => exact gap
  | cons gap held more => exact gap

theorem needed_bounds (h : Listed input offset elements close) :
    standsAt close elements.head? < needed close elements.head?
      ∧ needed close elements.head? ≤ input.length := by
  cases h with
  | nil gap closes => exact ⟨Nat.lt_succ_self _, (List.getElem?_eq_some_iff.mp closes).1⟩
  | @cons offset close e elements gap held more =>
    have hlookahead : e.value.lookahead ≤ 1 := by cases e.value <;> simp [Json.lookahead]
    have hlt := held.lt
    have hstop := held.stop_lt
    constructor
    · simp only [List.head?_cons, standsAt, needed]
      omega
    · simp only [List.head?_cons, needed]
      omega

theorem needed_tail (h : Listed input offset elements close) :
    needed close elements.head? ≤ needed close elements.tail.head? := by
  cases h with
  | nil gap closes => exact Nat.le_refl _
  | @cons offset close e elements gap held more =>
    have hlookahead : e.value.lookahead ≤ 1 := by cases e.value <;> simp [Json.lookahead]
    have hgap := more.separated.1
    have hnext := more.needed_bounds.1
    simp only [List.head?_cons, List.tail_cons, needed] at hnext ⊢
    omega

theorem needed_mono (h : Listed input offset elements close) :
    Monotone fun k : Nat => needed close elements[k]? := by
  refine monotone_nat_of_le_succ fun k => ?_
  induction h generalizing k with
  | nil gap closes => exact Nat.le_refl _
  | cons gap held more ih =>
    cases k with
    | zero =>
      have htail := (Listed.cons gap held more).needed_tail
      rwa [List.head?_eq_getElem?, List.head?_eq_getElem?] at htail
    | succ k => exact ih k

theorem needed_le_of_mem (h : Listed input offset elements close) {e : Element}
    (he : e ∈ elements) : needed close elements.head? ≤ e.stop + e.value.lookahead := by
  obtain ⟨k, hk, rfl⟩ := List.getElem_of_mem he
  have hmono := h.needed_mono (Nat.zero_le k)
  simpa only [List.head?_eq_getElem?, List.getElem?_eq_getElem hk, needed] using hmono

theorem needed_le_close (h : Listed input offset elements close) :
    needed close elements.head? ≤ close + 1 := by
  have hmono := h.needed_mono (Nat.zero_le elements.length)
  simpa only [List.head?_eq_getElem?, List.getElem?_eq_none (Nat.le_refl _), needed] using hmono

theorem skipWhile (h : Listed input offset elements close) (phase : Phase) :
    (Cursor.place phase input offset).skipWhile Stream.isBetween
      = Cursor.place phase input (standsAt close elements.head?) := by
  cases h with
  | nil gap closes => exact Cursor.skipWhile_of_closes gap closes
  | cons gap held more => exact Cursor.skipWhile_of_separated gap held.begins

/-- What comes next shows in a part of the text as soon as the bytes that tell it are there. -/
theorem sight?_eq_none_iff (f : Json → α) (h : Listed input offset elements close) {part : Bytes}
    (hpart : part <+: input.drop (standsAt close elements.head?)) :
    Stream.sight? (.map f) false part = none
      ↔ standsAt close elements.head? + part.length < needed close elements.head? := by
  have hnil := h.needed_bounds.1
  cases part with
  | nil => exact iff_of_true rfl hnil
  | cons b part =>
    cases h with
    | nil gap closes =>
      simp only [List.head?_nil, standsAt, Stream.drop_of_closes closes,
        List.cons_prefix_cons] at hpart
      obtain ⟨rfl, -⟩ := hpart
      simp only [Stream.sight?, if_true, reduceCtorEq, false_iff, List.head?_nil, standsAt, needed,
        List.length_cons]
      omega
    | @cons offset close e elements gap held more =>
      obtain ⟨b', tail, hdrop, -, hclose⟩ := held.begins.drop_eq
      have hfirst := hpart
      simp only [List.head?_cons, standsAt, hdrop, List.cons_prefix_cons] at hfirst
      obtain ⟨rfl, -⟩ := hfirst
      have hlt := held.lt
      rw [Target.sight?_cons hclose,
        Target.decode_part f held.reads held.separates hpart]
      simp only [List.head?_cons, standsAt, needed]
      by_cases hlength : e.stop - e.start + e.value.lookahead ≤ (b :: part).length
      · rw [if_pos hlength]
        refine iff_of_false (by simp) ?_
        omega
      · rw [if_neg hlength]
        refine iff_of_true rfl ?_
        omega

theorem nextItem (f : Json → α) (h : Listed input offset elements close) (phase : Phase) :
    (Cursor.place phase input offset).nextItem (.map f)
      = (told f elements.head?, leftAt input close elements.head?) := by
  cases h with
  | nil gap closes => exact Cursor.nextItem_of_closes gap closes
  | cons gap held more =>
    rw [Cursor.nextItem_of_begins gap held.begins, held.decode f]
    simp only [Nat.add_sub_cancel' (Nat.le_of_lt held.lt), List.head?_cons, told, leftAt]

theorem foresees (f : Json → α) (h : Listed input offset elements close) :
    (Target.map f).Foresees (input.drop (standsAt close elements.head?)) := by
  cases h with
  | nil gap closes =>
    simp only [List.head?_nil, standsAt, Stream.drop_of_closes closes]
    rintro part hpart seen hseen
    cases part with
    | nil => cases hseen
    | cons b part =>
      obtain ⟨rfl, -⟩ := List.cons_prefix_cons.mp hpart
      cases hseen
      rfl
  | @cons offset close e elements gap held more =>
    obtain ⟨b, tail, hdrop, -, hclose⟩ := held.begins.drop_eq
    have hsight := Target.sight?_cons (t := .map f) hclose tail true
    rw [← hdrop, held.decode f] at hsight
    exact Target.foresees_of_item (Target.firm_map f) hsight

end Listed

namespace Stream

variable {phase : Phase} {input : Bytes} {offset close : Nat} {elements : List Element}
  {s : Stream}

/-- A steady stream at a place of its input. -/
structure Standing (phase : Phase) (input : Bytes) (offset : Nat) (s : Stream) : Prop where
  steady : s.Steady
  cursor : s.cursor = .place phase input offset
  le : offset ≤ input.length
  whole : s.source.delivered + s.source.unread.length = input.length

theorem Standing.aligned (h : Standing phase input offset s) : s.Aligned := by
  have hoffset : s.offset = offset := congrArg Cursor.offset h.cursor
  have hle := h.le
  rw [Aligned, h.whole, h.cursor, hoffset, Cursor.place, List.length_drop]
  omega

theorem Standing.of_drawn (h : Standing phase input offset s) {goal : Nat} {s' : Stream}
    (hdrawn : Drawn goal s s') (hsteady : s'.Steady) {phase' : Phase} {offset' : Nat}
    (hcursor : s'.cursor = .place phase' input offset') (hle : offset' ≤ input.length) :
    Standing phase' input offset' s' :=
  ⟨hsteady, hcursor, hle, hdrawn.delivered.trans h.whole⟩

theorem Standing.withChunk (h : Standing phase input offset s) (n : Nat) :
    Standing phase input offset (s.withChunk n) :=
  ⟨h.steady.withChunk n, h.cursor, h.le, h.whole⟩

/-- A stream that has the elements, and then the end, still to yield. -/
inductive Awaits (input : Bytes) (close : Nat) : List Element → Stream → Prop where
  | opening {offset : Nat} {elements : List Element} {s : Stream}
      (stands : Standing .opening input 0 s) (enters : Enters input offset)
      (listed : Listed input offset elements close) : Awaits input close elements s
  | items {offset : Nat} {elements : List Element} {s : Stream}
      (stands : Standing .items input offset s) (listed : Listed input offset elements close) :
      Awaits input close elements s
  | done {s : Stream} (phase : s.phase = .done) (enough : close + 1 ≤ s.source.delivered) :
      Awaits input close [] s

theorem Awaits.withChunk (h : Awaits input close elements s) (n : Nat) :
    Awaits input close elements (s.withChunk n) := by
  cases h with
  | opening stands enters listed => exact .opening (stands.withChunk n) enters listed
  | items stands listed => exact .items (stands.withChunk n) listed
  | done phase enough => exact .done phase enough

theorem source_nextItem (t : Target α) (s : Stream) :
    (s.nextItem t).2.source = (s.gather isBetween (sight? t false)
        (fun bytes => (sight? t true bytes).getD .nothing)).2.source
      ∧ (s.nextItem t).2.chunk = (s.gather isBetween (sight? t false)
        (fun bytes => (sight? t true bytes).getD .nothing)).2.chunk := by
  rw [nextItem]
  split <;> rename_i hgather <;> rw [hgather] <;> exact ⟨rfl, rfl⟩

theorem source_skipMark (s : Stream) :
    s.skipMark.2.source = (s.gather (fun _ => false) marked?
        (fun bytes => marked? bytes == some true)).2.source
      ∧ s.skipMark.2.chunk = (s.gather (fun _ => false) marked?
        (fun bytes => marked? bytes == some true)).2.chunk := by
  rw [skipMark]
  split <;> rename_i hgather <;> rw [hgather]
  · exact ⟨rfl, rfl⟩
  · split <;> exact ⟨rfl, rfl⟩

theorem source_enter {s g : Stream} {given : Unit} (h : s.skipMark = (.ok given, g)) :
    s.enter.2.source = (g.gather Ascii.isSpace opens?
        (fun bytes => opens? bytes == some true)).2.source
      ∧ s.enter.2.chunk = (g.gather Ascii.isSpace opens?
        (fun bytes => opens? bytes == some true)).2.chunk := by
  rw [enter, h]
  simp only
  split
  · rename_i hopens
    rw [hopens]
    exact ⟨rfl, rfl⟩
  · exact ⟨rfl, rfl⟩

theorem nextItem_of_standing (f : Json → α) (hs : Standing phase input offset s)
    (hlisted : Listed input offset elements close) :
    ∃ s', s.nextItem (.map f) = (told f elements.head?, s') ∧ Awaits input close elements.tail s'
      ∧ Drawn (needed close elements.head?) s s' := by
  have hahead : s.cursor.skipWhile isBetween
      = .place phase input (standsAt close elements.head?) := by
    rw [hs.cursor, hlisted.skipWhile]
  have hforesees : (Target.map f).Foresees (s.cursor.skipWhile isBetween).rest := by
    rw [hahead]
    exact hlisted.foresees f
  obtain ⟨s', hnext, hsteady, hcursor, -⟩ := nextItem_of_steady hs.steady (.inr hforesees)
  rw [hs.cursor, hlisted.nextItem] at hnext hcursor
  obtain ⟨hless, hneeded⟩ := hlisted.needed_bounds
  have hgoal : needed close elements.head?
      ≤ standsAt close elements.head? + (input.drop (standsAt close elements.head?)).length := by
    rw [List.length_drop]
    omega
  have hdrawn := drawn_gather isBetween (sight? (.map f) false)
    (fun bytes => (sight? (.map f) true bytes).getD .nothing) hs.steady hs.aligned hahead hgoal
    (fun part => hlisted.sight?_eq_none_iff f) rfl
  obtain ⟨hsource, hchunk⟩ := source_nextItem (.map f) s
  rw [hnext] at hsource hchunk
  have hdrawn' := hdrawn.congr hsource hchunk
  refine ⟨s', hnext, ?_, hdrawn'⟩
  cases hlisted with
  | nil gap closes => exact .done (congrArg Cursor.phase hcursor) hdrawn'.enough
  | cons gap held more =>
    exact .items (hs.of_drawn hdrawn' hsteady hcursor (Nat.le_of_lt held.stop_lt)) more

theorem marked?_eq_none_iff {mark blanks within part : Bytes}
    (hmark : mark = [] ∨ mark = byteOrderMark) (hblanks : ∀ b ∈ blanks, Ascii.isSpace b)
    (hpart : part <+: mark ++ (blanks ++ Ascii.openBracket :: within)) :
    marked? part = none ↔ part.length < max mark.length 1 := by
  rcases hmark with rfl | rfl
  · cases part with
    | nil => exact iff_of_true rfl Nat.zero_lt_one
    | cons b part =>
      have hb : b ≠ 0xEF := by
        rintro rfl
        cases blanks with
        | nil => simp [Ascii.openBracket] at hpart
        | cons b' blanks =>
          obtain ⟨rfl, -⟩ := List.cons_prefix_cons.mp hpart
          cases hblanks _ List.mem_cons_self
      refine iff_of_false ?_ (by simp)
      simp [marked?, byteOrderMark, hb, hb.symm]
  · have hwhole := List.prefix_append byteOrderMark (blanks ++ Ascii.openBracket :: within)
    rw [show max byteOrderMark.length 1 = byteOrderMark.length from rfl, marked?]
    by_cases hlength : part.length < byteOrderMark.length
    · have hprefix := List.prefix_of_prefix_length_le hpart hwhole (Nat.le_of_lt hlength)
      have hnot : ¬ byteOrderMark <+: part := fun h => Nat.not_lt.mpr h.length_le hlength
      rw [if_neg (mt List.isPrefixOf_iff_prefix.mp hnot),
        if_pos (List.isPrefixOf_iff_prefix.mpr hprefix)]
      exact iff_of_true rfl hlength
    · have hprefix := List.prefix_of_prefix_length_le hwhole hpart (Nat.not_lt.mp hlength)
      rw [if_pos (List.isPrefixOf_iff_prefix.mpr hprefix)]
      exact iff_of_false (by simp) hlength

theorem skipMark_of_standing (hs : Standing .opening input 0 s) {mark blanks within : Bytes}
    (hmark : mark = [] ∨ mark = byteOrderMark) (hblanks : ∀ b ∈ blanks, Ascii.isSpace b)
    (hinput : input = mark ++ (blanks ++ Ascii.openBracket :: within)) :
    ∃ s', s.skipMark = (.ok (), s') ∧ Standing .opening input mark.length s'
      ∧ Drawn (max mark.length 1) s s' := by
  have hstart : s.cursor = Cursor.start input := hs.cursor
  have hlength := congrArg List.length hinput
  simp only [List.length_append, List.length_cons] at hlength
  have hlook : ∀ part, part <+: (Cursor.start input).rest →
      (marked? part = none ↔ (Cursor.start input).offset + part.length < max mark.length 1) := by
    intro part hpart
    rw [show (Cursor.start input).rest = input from rfl, hinput] at hpart
    rw [show (Cursor.start input).offset = 0 from rfl, Nat.zero_add]
    exact marked?_eq_none_iff hmark hblanks hpart
  have hgoal : max mark.length 1
      ≤ (Cursor.start input).offset + (Cursor.start input).rest.length := by
    simp only [Cursor.start]
    omega
  have hgather := drawn_gather (fun _ => false) marked? (fun bytes => marked? bytes == some true)
    hs.steady hs.aligned ((Cursor.skipWhile_false _).trans hstart) hgoal hlook rfl
  obtain ⟨s', hskip, hsteady, hcursor, -⟩ := skipMark_of_steady hs.steady
  rw [hstart, Cursor.skipMark_start hmark hblanks hinput] at hcursor
  obtain ⟨hsource, hchunk⟩ := source_skipMark s
  rw [hskip] at hsource hchunk
  have hdrawn := hgather.congr hsource hchunk
  exact ⟨s', hskip, hs.of_drawn hdrawn hsteady hcursor (by omega), hdrawn⟩

theorem enter_of_standing (hs : Standing .opening input 0 s) (henters : Enters input offset) :
    ∃ s', s.enter = (.ok true, s') ∧ Standing .opening input offset s' ∧ Drawn offset s s' := by
  obtain ⟨mark, blanks, hmark, hblanks, hinput, hoffset⟩ := henters.split
  obtain ⟨g, hskip, hg, hdrawn⟩ := skipMark_of_standing hs hmark hblanks hinput
  obtain ⟨hblank, -⟩ := Cursor.skipWhile_blanks hblanks hinput
  have hstart : s.cursor = Cursor.start input := hs.cursor
  have hle := henters.le
  have hlook : ∀ part, part <+: (Cursor.place .opening input (mark.length + blanks.length)).rest →
      (opens? part = none
        ↔ (Cursor.place .opening input (mark.length + blanks.length)).offset + part.length
          < offset) := by
    intro part _
    simp only [Cursor.place]
    cases part with
    | nil =>
      refine iff_of_true rfl ?_
      rw [List.length_nil]
      omega
    | cons b part =>
      refine iff_of_false (by simp [opens?]) ?_
      rw [List.length_cons]
      omega
  have hgoal : offset ≤ (Cursor.place .opening input (mark.length + blanks.length)).offset
      + (Cursor.place .opening input (mark.length + blanks.length)).rest.length := by
    simp only [Cursor.place, List.length_drop]
    omega
  have hgather := drawn_gather Ascii.isSpace opens? (fun bytes => opens? bytes == some true)
    hg.steady hg.aligned (hg.cursor ▸ hblank) hgoal hlook rfl
  obtain ⟨s', henter, hsteady, hcursor, -⟩ := enter_of_steady hs.steady
  rw [hstart, Cursor.enter_of_enters henters] at henter hcursor
  have hbracket : Drawn offset g s' := by
    obtain ⟨hsource, hchunk⟩ := source_enter hskip
    rw [henter] at hsource hchunk
    exact hgather.congr hsource hchunk
  have hall := hdrawn.trans hbracket (by omega)
  exact ⟨s', henter, hs.of_drawn hall hsteady hcursor hle, hall⟩

/-- **A call yields what comes next**, and reads no more than that takes. -/
theorem Awaits.next (f : Json → α) (h : Awaits input close elements s) :
    ∃ s', s.next (.map f) = (told f elements.head?, s') ∧ Awaits input close elements.tail s'
      ∧ Drawn (needed close elements.head?) s s' := by
  cases h with
  | @opening offset _ _ stands enters listed =>
    have hphase : s.phase = .opening := congrArg Cursor.phase stands.cursor
    obtain ⟨g, henter, hg, hentered⟩ := enter_of_standing stands enters
    obtain ⟨s', hnext, hawaits, hdrawn⟩ := nextItem_of_standing f hg listed
    have hle : offset ≤ needed close elements.head? :=
      Nat.le_trans listed.separated.1 (Nat.le_of_lt listed.needed_bounds.1)
    exact ⟨s', by simp only [Stream.next, hphase, henter, hnext], hawaits,
      hentered.trans hdrawn hle⟩
  | items stands listed =>
    have hphase : s.phase = .items := congrArg Cursor.phase stands.cursor
    obtain ⟨s', hnext, hawaits, hdrawn⟩ := nextItem_of_standing f stands listed
    exact ⟨s', by simp only [Stream.next, hphase, hnext], hawaits, hdrawn⟩
  | done phase enough =>
    exact ⟨s, by simp only [Stream.next, phase]; rfl, .done phase enough, .refl enough⟩

/-- The stream that `n` calls for an item leave, with the chunk set before each. -/
def paced (t : Target α) (chunks : Nat → Nat) (s : Stream) : Nat → Stream
  | 0 => s
  | n + 1 => (((paced t chunks s n).withChunk (chunks n)).next t).2

theorem awaits_paced (f : Json → α) (h : Awaits input close elements s) (chunks : Nat → Nat)
    (k : Nat) : Awaits input close (elements.drop k) (paced (.map f) chunks s k) := by
  induction k with
  | zero => exact h
  | succ k ih =>
    obtain ⟨s', hnext, hawaits, -⟩ := (ih.withChunk (chunks k)).next f
    rw [List.tail_drop] at hawaits
    rwa [paced, hnext]

/-- **A document is read on demand**, whatever the schedule and whatever the chunk is set to: every
read is made while too few bytes have been delivered to tell what the call at hand yields, as many
reads as it takes are made, and none after the end. -/
theorem document_on_demand (f : Json → α) {doc : Bytes} {items : List Json}
    (h : Target.json.readDocument doc = .ok (.array items)) (marked : Bool) (tail : Bytes)
    {script : List ReadEvent} (hscript : script.all ReadEvent.brings) (chunks : Nat → Nat) :
    let input := Cursor.mark marked ++ (doc ++ tail)
    let s := paced (.map f) chunks (ofSource (.ofBytes input script))
    ∃ offset elements close, Enters input offset ∧ Listed input offset elements close
      ∧ elements.map Element.value = items
      ∧ ∃ reads : Nat → Nat, ∀ k,
        (((s k).withChunk (chunks k)).next (.map f)).1 = told f elements[k]?
        ∧ (s (k + 1)).source = (s k).source.reads (max (chunks k) 1) (reads k)
        ∧ needed close elements[k]? ≤ (s (k + 1)).source.delivered
        ∧ (∀ i ≤ k, ∀ m < reads i,
          ((s i).source.reads (max (chunks i) 1) m).delivered < needed close elements[k]?)
        ∧ (elements.length < k → reads k = 0) := by
  intro input s
  obtain ⟨offset, elements, close, henters, hlisted, hvalues⟩ := listed_of_document h marked tail
  have hstands : Standing .opening input 0 (ofSource (.ofBytes input script)) :=
    ⟨steady_ofSource hscript, rfl, Nat.zero_le _, by simp [ofSource, Source.ofBytes]⟩
  have hawaits := awaits_paced f (.opening hstands henters hlisted) chunks
  have hcall : ∀ k, (((s k).withChunk (chunks k)).next (.map f)).1 = told f elements[k]?
      ∧ Drawn (needed close elements[k]?) ((s k).withChunk (chunks k)) (s (k + 1)) := by
    intro k
    obtain ⟨s', hnext, -, hdrawn⟩ := ((hawaits k).withChunk (chunks k)).next f
    rw [List.head?_drop] at hnext hdrawn
    have hs' : s (k + 1) = s' := congrArg Prod.snd hnext
    exact ⟨congrArg Prod.fst hnext, hs' ▸ hdrawn⟩
  choose reads hreads hbefore using fun k => (hcall k).2.reads
  refine ⟨offset, elements, close, henters, hlisted, hvalues, reads, fun k =>
    ⟨(hcall k).1, hreads k, (hcall k).2.enough, fun i hi m hm => ?_, fun hk => ?_⟩⟩
  · exact Nat.lt_of_lt_of_le (hbefore i m hm) (hlisted.needed_mono hi)
  · obtain ⟨k, rfl⟩ := Nat.exists_eq_add_one_of_ne_zero (Nat.ne_zero_of_lt hk)
    have hend : ∀ n, elements.length ≤ n → needed close elements[n]? = close + 1 := by
      intro n hn
      rw [List.getElem?_eq_none hn]
      rfl
    refine Nat.eq_zero_of_not_pos fun hpos => ?_
    have hless := hbefore (k + 1) 0 hpos
    have henough := (hcall k).2.enough
    rw [hend _ (by omega)] at hless henough
    exact Nat.not_lt.mpr henough hless

/-- The document `[1]` behind a mark and before more text: nothing is read behind the bracket. -/
theorem document_on_demand_up_to_bracket :
    let s := paced (.map id) (fun _ => 1) (ofSource (.ofBytes
      (Cursor.mark true ++ ([0x5B, 0x31, 0x5D] ++ [0x78, 0x79])) [.interrupt, .deliver 2]))
    (((s 0).withChunk 1).next (.map id)).1 = .item (.number (.integer 1))
      ∧ (s 3).source = (s 2).source := by
  have hdoc : Target.json.readDocument [0x5B, 0x31, 0x5D] = .ok (.array [.number (.integer 1)]) :=
    rfl
  have hscript : [ReadEvent.interrupt, .deliver 2].all ReadEvent.brings := rfl
  obtain ⟨offset, elements, close, -, -, hvalues, reads, hreads⟩ :=
    document_on_demand id hdoc true [0x78, 0x79] hscript (fun _ => 1)
  have hlength : elements.length = 1 := by simpa using congrArg List.length hvalues
  obtain ⟨e, rfl⟩ := List.length_eq_one_iff.mp hlength
  have hvalue : e.value = .number (.integer 1) := by simpa using hvalues
  refine ⟨?_, ?_⟩
  · rw [(hreads 0).1]
    simp [told, hvalue]
  · obtain ⟨-, hsource, -, -, hnone⟩ := hreads 2
    rw [hsource, hnone (by simp)]
    rfl

end Stream
end PlayableCards
