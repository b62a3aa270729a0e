import PlayableCards.Proofs.Stream.Ending

/-!
# Buffers

How much of a document is in memory. Before it reads, a stream drops what it has consumed, and it
reads only where what is left is nothing, a part of the byte-order mark, or a part of one element
from its first byte on. So no buffer is longer than an element and a chunk, however long the
document is.
-/

namespace PlayableCards

theorem Source.length_read_le {s s' : Source} {room : Nat} {bytes : Bytes}
    (h : s.read room = (.ok bytes, s')) : bytes.length ≤ room := by
  suffices hread : ∀ script (s : Source), s.readBy room script = (.ok bytes, s') →
      bytes.length ≤ room from hread s.script s h
  intro script
  induction script with
  | nil =>
    intro s h
    cases h
    exact List.length_take_le _ _
  | cons event script ih =>
    intro s h
    cases event with
    | deliver most =>
      cases h
      exact Nat.le_trans (List.length_take_le _ _) (Nat.min_le_right _ _)
    | interrupt => exact ih _ h
    | fail fault => cases h

namespace Stream

variable {s s' : Stream}

@[simp] theorem buffer_skip (s : Stream) (n : Nat) :
    (s.skip n).window.buffer = s.window.buffer := Window.buffer_skip _ _

@[simp] theorem buffer_skipWhile (s : Stream) (p : UInt8 → Bool) :
    (s.skipWhile p).window.buffer = s.window.buffer := Window.buffer_skip _ _

def roomy (s : Stream) : Bytes := s.window.compact.buffer ++ List.replicate s.chunk 0

/-- The buffers that a read goes through: without what has been consumed, then with room for a
chunk, then with what has been delivered. -/
def fillBuffers (s : Stream) : List Bytes :=
  [s.window.compact.buffer, s.roomy, s.fill.2.window.buffer]

def gatherBuffers (p : UInt8 → Bool) (look : Bytes → Option β) (s : Stream) : List Bytes :=
  let ahead := s.skipWhile p
  if _hs : ahead.exhausted then [ahead.window.buffer]
  else
    match look ahead.window.pending with
    | some _ => [ahead.window.buffer]
    | none =>
      match _h : ahead.fill with
      | (some _, _) => ahead.window.buffer :: ahead.fillBuffers
      | (none, s') => ahead.window.buffer :: ahead.fillBuffers ++ gatherBuffers p look s'
termination_by s.demand
decreasing_by
  have : s'.demand < ahead.demand := demand_fill _h (by simpa using _hs)
  exact this

def openBuffers (s : Stream) : List Bytes :=
  s.gatherBuffers (fun _ => false) marked? ++ match s.skipMark with
    | (.error _, _) => []
    | (.ok _, s') => s'.gatherBuffers Ascii.isSpace opens?

def itemBuffers (t : Target α) (s : Stream) : List Bytes :=
  s.gatherBuffers isBetween (sight? t false)

/-- The buffers that a call for an item goes through, from the one that it finds to the one that it
leaves. -/
def buffers (t : Target α) (s : Stream) : List Bytes :=
  s.window.buffer :: match s.phase with
    | .done => []
    | .items => s.itemBuffers t
    | .opening => s.openBuffers ++ match s.enter with
      | (.ok true, s') => s'.itemBuffers t
      | _ => []

/-- A read cuts its room back to what has been delivered. -/
theorem buffer_fill {fault : Option IoFault} (h : s.fill = (fault, s')) :
    ∃ bytes, bytes.length ≤ s.chunk
      ∧ s'.window.buffer = s.roomy.take s.window.pending.length ++ bytes := by
  have htake : s.roomy.take s.window.pending.length = s.window.pending := by
    rw [roomy, Window.buffer_compact, List.take_left]
  rw [htake]
  rw [fill] at h
  split at h <;> rename_i hread <;> cases h
  · exact ⟨[], Nat.zero_le _, by simp⟩
  · exact ⟨_, Source.length_read_le hread, by simp [Window.buffer, Window.append, Window.compact]⟩

theorem mem_gatherBuffers (p : UInt8 → Bool) (look : Bytes → Option β) (last : Bytes → β)
    (s : Stream) : (s.gather p look last).2.window.buffer ∈ s.gatherBuffers p look := by
  fun_induction gatherBuffers p look s with
  | case1 s ahead hexhausted =>
    rw [gather_of_exhausted (s := s) hexhausted]
    exact List.mem_singleton.mpr rfl
  | case2 s ahead hexhausted b hlook =>
    rw [gather_of_look (by simpa [ahead] using hexhausted) hlook]
    exact List.mem_singleton.mpr rfl
  | case3 s ahead hexhausted hlook fault s' hfill =>
    rw [gather_of_fault (by simpa [ahead] using hexhausted) hlook hfill]
    simp [fillBuffers, hfill]
  | case4 s ahead hexhausted hlook s' hfill ih =>
    rw [gather_of_fill (by simpa [ahead] using hexhausted) hlook hfill]
    exact List.mem_append_right _ ih

theorem mem_markBuffers (s : Stream) :
    s.skipMark.2.window.buffer ∈ s.gatherBuffers (fun _ => false) marked? := by
  have hgather := mem_gatherBuffers (fun _ => false) marked?
    (fun bytes => marked? bytes == some true) s
  rw [skipMark]
  split <;> rename_i heq <;> rw [heq] at hgather
  · exact hgather
  · split
    · rwa [buffer_skip]
    · exact hgather

theorem mem_openBuffers (s : Stream) : s.enter.2.window.buffer ∈ s.openBuffers := by
  have hmark := mem_markBuffers s
  rw [openBuffers, enter]
  rcases hskip : s.skipMark with ⟨fault | given, g⟩ <;> rw [hskip] at hmark
  · exact List.mem_append_left _ hmark
  · refine List.mem_append_right _ ?_
    have hgather := mem_gatherBuffers Ascii.isSpace opens?
      (fun bytes => opens? bytes == some true) g
    simp only
    split
    · rename_i hopens
      rw [hopens] at hgather
      rwa [buffer_skip]
    · exact hgather

theorem mem_itemBuffers (t : Target α) (s : Stream) :
    (s.nextItem t).2.window.buffer ∈ s.itemBuffers t := by
  have hgather := mem_gatherBuffers isBetween (sight? t false)
    (fun bytes => (sight? t true bytes).getD .nothing) s
  rw [nextItem, itemBuffers]
  split <;> rename_i heq <;> rw [heq] at hgather
  · exact hgather
  · exact (buffer_skip _ _).symm ▸ hgather
  · exact hgather
  · exact (buffer_skip _ _).symm ▸ hgather
  · exact hgather

theorem mem_buffers (t : Target α) (s : Stream) : (s.next t).2.window.buffer ∈ s.buffers t := by
  have hopen := mem_openBuffers s
  rw [buffers, next]
  cases s.phase with
  | done => exact List.mem_cons_self
  | items => exact List.mem_cons_of_mem _ (mem_itemBuffers t s)
  | opening =>
    refine List.mem_cons_of_mem _ ?_
    rcases hentry : s.enter with ⟨fault | _ | _, g⟩ <;> rw [hentry] at hopen
    · exact List.mem_append_left _ hopen
    · exact List.mem_append_left _ hopen
    · exact List.mem_append_right _ (mem_itemBuffers t g)

structure Slim (most chunk : Nat) (s : Stream) : Prop where
  chunk_le : s.chunk ≤ chunk
  buffer_le : s.window.buffer.length ≤ most + chunk

/-- What does not tell what comes next is short: no more than `most` bytes, or all that there will
be. -/
def Short (most : Nat) (p : UInt8 → Bool) (look : Bytes → Option β) (s : Stream) : Prop :=
  s.exhausted = true ∨ ∀ part, part <+: (s.cursor.skipWhile p).rest → look part = none →
    part.length ≤ most

section Slim

variable {most chunk : Nat} {p : UInt8 → Bool} {look : Bytes → Option β}

theorem fillBuffers_le (hchunk : s.chunk ≤ chunk) (hpending : s.window.pending.length ≤ most) :
    ∀ b ∈ s.fillBuffers, b.length ≤ most + chunk := by
  have hroomy : s.roomy.length = s.window.pending.length + s.chunk := by
    rw [roomy, List.length_append, Window.buffer_compact, List.length_replicate]
  rcases hfill : s.fill with ⟨fault, s'⟩
  obtain ⟨bytes, hbytes, hfilled⟩ := buffer_fill hfill
  intro b hb
  simp only [fillBuffers, hfill, List.mem_cons, List.not_mem_nil, or_false] at hb
  rcases hb with rfl | rfl | rfl
  · rw [Window.buffer_compact]
    omega
  · omega
  · rw [hfilled, List.length_append, List.length_take]
    omega

/-- The bytes at hand are a part of the text behind those that are skipped, unless there are
none. -/
theorem pending_le_of_short (hopen : s.exhausted = false) (hshort : Short most p look s)
    (hlook : look (s.skipWhile p).window.pending = none) :
    (s.skipWhile p).window.pending.length ≤ most := by
  by_cases hempty : (s.skipWhile p).window.pending = []
  · rw [hempty]
    exact Nat.zero_le _
  · rcases hshort with hexhausted | hshort
    · exact absurd (hopen.symm.trans hexhausted) Bool.false_ne_true
    · refine hshort _ ?_ hlook
      rw [← cursor_skipWhile (.inr hempty)]
      exact List.prefix_append _ _

/-- **No buffer is long while a stream gathers**, if what does not suffice is short. -/
theorem gatherBuffers_le (h : Slim most chunk s) (hshort : Short most p look s) :
    ∀ b ∈ s.gatherBuffers p look, b.length ≤ most + chunk := by
  fun_induction gatherBuffers p look s with
  | case1 s ahead hexhausted | case2 s ahead hexhausted b hlook =>
    intro b hb
    rw [List.mem_singleton.mp hb, buffer_skipWhile]
    exact h.buffer_le
  | case3 s ahead hexhausted hlook fault s' hfill =>
    have hpending := pending_le_of_short (by simpa [ahead] using hexhausted) hshort hlook
    intro b hb
    rcases List.mem_cons.mp hb with rfl | hb
    · rw [buffer_skipWhile]
      exact h.buffer_le
    · exact fillBuffers_le (s := ahead) h.chunk_le hpending b hb
  | case4 s ahead hexhausted hlook s' hfill ih =>
    have hpending := pending_le_of_short (by simpa [ahead] using hexhausted) hshort hlook
    have hfilled := fillBuffers_le (s := ahead) h.chunk_le hpending
    have hslim' : Slim most chunk s' := by
      refine ⟨(fill_source hfill).2 ▸ h.chunk_le, hfilled _ ?_⟩
      simp [fillBuffers, hfill]
    have hshort' : Short most p look s' := by
      refine hshort.elim (fun hspent => ?_) fun hshort => .inr ?_
      · exact absurd hspent (by simpa [ahead] using hexhausted)
      · rwa [cursor_fill hfill, skipWhile_cursor_skipWhile]
    intro b hb
    rcases List.mem_append.mp hb with hb | hb
    · rcases List.mem_cons.mp hb with rfl | hb
      · rw [buffer_skipWhile]
        exact h.buffer_le
      · exact hfilled b hb
    · exact ih hslim' hshort' b hb

theorem short_marked? (h : 2 ≤ most) (s : Stream) : Short most p marked? s := by
  refine .inr fun part _ hnone => ?_
  rw [marked?] at hnone
  split at hnone
  · cases hnone
  · rename_i hmark
    split at hnone
    · rename_i hpart
      have hbegin := List.isPrefixOf_iff_prefix.mp hpart
      have hlength : part.length ≤ 3 := hbegin.length_le
      have hne : part.length ≠ 3 := fun heq =>
        hmark (List.isPrefixOf_iff_prefix.mpr (hbegin.eq_of_length heq ▸ List.prefix_refl _))
      omega
    · cases hnone

theorem short_opens? (s : Stream) : Short most p opens? s := by
  refine .inr fun part _ hnone => ?_
  cases part with
  | nil => exact Nat.zero_le _
  | cons b part => cases hnone

theorem Slim.skipMark (h : Slim most chunk s) (hmost : 2 ≤ most) : Slim most chunk s.skipMark.2 :=
  ⟨(draws_skipMark s).1 ▸ h.chunk_le,
    gatherBuffers_le h (short_marked? hmost s) _ (mem_markBuffers s)⟩

theorem openBuffers_le (h : Slim most chunk s) (hmost : 2 ≤ most) :
    ∀ b ∈ s.openBuffers, b.length ≤ most + chunk := by
  have hmark := h.skipMark hmost
  intro b hb
  rcases List.mem_append.mp hb with hb | hb
  · exact gatherBuffers_le h (short_marked? hmost s) b hb
  · rcases hskip : s.skipMark with ⟨fault | given, g⟩ <;> rw [hskip] at hmark hb
    · cases hb
    · exact gatherBuffers_le hmark (short_opens? g) b hb

theorem Slim.enter (h : Slim most chunk s) (hmost : 2 ≤ most) : Slim most chunk s.enter.2 :=
  ⟨((draws_skipMark s).trans (draws_enter s)).1 ▸ h.chunk_le,
    openBuffers_le h hmost _ (mem_openBuffers s)⟩

theorem buffers_le {t : Target α} (h : Slim most chunk s) (hmost : 2 ≤ most)
    (hitems : s.phase = .items → Short most isBetween (sight? t false) s)
    (hopening : ∀ s', s.phase = .opening → s.enter = (.ok true, s') →
      Short most isBetween (sight? t false) s') :
    ∀ b ∈ s.buffers t, b.length ≤ most + chunk := by
  intro b hb
  rw [buffers] at hb
  rcases List.mem_cons.mp hb with rfl | hb
  · exact h.buffer_le
  · cases hphase : s.phase with
    | done => simp [hphase] at hb
    | items =>
      simp only [hphase] at hb
      exact gatherBuffers_le h (hitems hphase) b hb
    | opening =>
      simp only [hphase] at hb
      have henter := h.enter hmost
      rcases List.mem_append.mp hb with hb | hb
      · exact openBuffers_le h hmost b hb
      · rcases hentry : s.enter with ⟨fault | _ | _, g⟩ <;> rw [hentry] at henter hb
        · cases hb
        · cases hb
        · exact gatherBuffers_le henter (hopening g hphase hentry) b hb

end Slim

/-- What gathering tells is told by the bytes at hand, where they lie in the text, unless no more
are to come. -/
theorem gather_seen {p : UInt8 → Bool} {look : Bytes → Option β} {last : Bytes → β} {b : β}
    (hnil : look [] = none) (h : s.gather p look last = (.ok b, s')) :
    s'.exhausted = true
      ∨ look s'.window.pending = some b ∧ s'.cursor = s.cursor.skipWhile p := by
  fun_induction gather p look last s with
  | case1 s ahead hexhausted =>
    simp only [Prod.mk.injEq] at h
    exact .inl (h.2 ▸ hexhausted)
  | case2 s ahead hexhausted c hlook =>
    simp only [Prod.mk.injEq, Except.ok.injEq] at h
    obtain ⟨rfl, rfl⟩ := h
    have hne : ahead.window.pending ≠ [] := by
      intro hempty
      rw [hempty, hnil] at hlook
      cases hlook
    exact .inr ⟨hlook, cursor_skipWhile (.inr hne)⟩
  | case3 => cases h
  | case4 s ahead hexhausted hlook s'' hfill ih =>
    have hseen := ih h
    rwa [cursor_fill hfill, skipWhile_cursor_skipWhile] at hseen

theorem cursor_nextItem {t : Target α}
    (hforesees : t.Foresees (s.cursor.skipWhile isBetween).rest) :
    (s.nextItem t).2.exhausted = true ∨ (s.nextItem t).2.phase = .done
      ∨ (s.nextItem t).2.cursor = (s.cursor.nextItem t).2 := by
  rw [nextItem]
  split
  · exact .inr (.inl rfl)
  · rename_i value used g hgather
    rcases gather_seen rfl hgather with hexhausted | ⟨hsight, hcursor⟩
    · exact .inl hexhausted
    · have hpart : g.window.pending <+: (s.cursor.skipWhile isBetween).rest := by
        rw [← hcursor]
        exact List.prefix_append _ _
      have hwhole := hforesees _ hpart _ hsight
      have hskip := cursor_skip (used_le_of_sight? hsight)
      refine .inr (.inr ?_)
      simp only [Cursor.nextItem, hwhole, Option.getD_some]
      rw [← hcursor]
      simp only [cursor, Cursor.skip, Cursor.mk.injEq] at hskip ⊢
      exact ⟨trivial, hskip.2.1, hskip.2.2⟩
  all_goals exact .inr (.inl rfl)

section Document

variable {input : Bytes} {most offset close : Nat} {elements : List Element} {phase : Phase}

theorem short_of_listed (f : Json → α) (hlisted : Listed input offset elements close)
    (hshort : ∀ e ∈ elements, e.stop - e.start ≤ most)
    (hcursor : s.cursor = .place phase input offset) :
    Short most isBetween (sight? (.map f) false) s := by
  refine .inr fun part hpart hnone => ?_
  rw [hcursor, hlisted.skipWhile] at hpart
  have hless := (hlisted.sight?_eq_none_iff f hpart).mp hnone
  cases hlisted with
  | nil gap closes =>
    simp only [List.head?_nil, standsAt, needed] at hless
    omega
  | @cons offset close e elements gap held more =>
    have hmost := hshort e List.mem_cons_self
    have hlookahead : e.value.lookahead ≤ 1 := by cases e.value <;> simp [Json.lookahead]
    simp only [List.head?_cons, standsAt, needed] at hless
    omega

theorem cursor_enter (hcursor : s.cursor = .start input) (henters : Enters input offset)
    (h : s.enter = (.ok true, s')) : s'.cursor = .place s'.phase input offset := by
  obtain ⟨⟨-, hrest⟩, henters'⟩ := enters_of_over hcursor h
  have hplace := (Cursor.enter_of_enters henters').symm.trans (Cursor.enter_of_enters henters)
  have hoffset : s'.offset = offset := congrArg (fun entry => entry.2.offset) hplace
  rw [← hoffset]
  simp only [cursor, Cursor.place] at hrest ⊢
  rw [hrest]

/-- A stream over a document whose elements have no more than `most` bytes, before an element or
the bracket, or one that reads no more. -/
inductive Underway (input : Bytes) (most : Nat) : Stream → Prop where
  | opening {offset close : Nat} {elements : List Element} {s : Stream}
      (cursor : s.cursor = .start input) (enters : Enters input offset)
      (listed : Listed input offset elements close)
      (short : ∀ e ∈ elements, e.stop - e.start ≤ most) : Underway input most s
  | items {offset close : Nat} {elements : List Element} {s : Stream}
      (cursor : s.cursor = .place .items input offset)
      (listed : Listed input offset elements close)
      (short : ∀ e ∈ elements, e.stop - e.start ≤ most) : Underway input most s
  | exhausted {s : Stream} (spent : s.exhausted = true) : Underway input most s
  | done {s : Stream} (ended : s.phase = .done) : Underway input most s

theorem Underway.withChunk (h : Underway input most s) (n : Nat) :
    Underway input most (s.withChunk n) := by
  cases h with
  | opening cursor enters listed short => exact .opening cursor enters listed short
  | items cursor listed short => exact .items cursor listed short
  | exhausted spent => exact .exhausted spent
  | done ended => exact .done ended

theorem underway_nextItem (f : Json → α) (hlisted : Listed input offset elements close)
    (hshort : ∀ e ∈ elements, e.stop - e.start ≤ most)
    (hcursor : s.cursor = .place phase input offset) :
    Underway input most (s.nextItem (.map f)).2 := by
  have hforesees : (Target.map f).Foresees (s.cursor.skipWhile isBetween).rest := by
    rw [hcursor, hlisted.skipWhile]
    exact hlisted.foresees f
  rcases cursor_nextItem hforesees with hexhausted | hdone | hnext
  · exact .exhausted hexhausted
  · exact .done hdone
  · rw [hcursor, hlisted.nextItem] at hnext
    cases hlisted with
    | nil gap closes => exact .done (congrArg Cursor.phase hnext)
    | cons gap held more =>
      exact .items hnext more fun e he => hshort e (List.mem_cons_of_mem _ he)

/-- Whatever its source does, a call leaves a stream before an element or the bracket, or one that
reads no more. -/
theorem Underway.next (f : Json → α) (h : Underway input most s) :
    Underway input most (s.next (.map f)).2 := by
  cases h with
  | opening cursor enters listed short =>
    have hphase : s.phase = .opening := congrArg Cursor.phase cursor
    simp only [Stream.next, hphase]
    rcases hentry : s.enter with ⟨fault | _ | _, g⟩
    · exact .done rfl
    · exact .done rfl
    · exact underway_nextItem f listed short (cursor_enter cursor enters hentry)
  | items cursor listed short =>
    have hphase : s.phase = .items := congrArg Cursor.phase cursor
    simp only [Stream.next, hphase]
    exact underway_nextItem f listed short cursor
  | exhausted spent =>
    obtain ⟨_, -, -, hrest⟩ := ceases_next (.map f) s
    exact .exhausted (hrest spent).2
  | done ended =>
    rw [next_done ended]
    exact .done ended

theorem Underway.buffers_le (f : Json → α) (h : Underway input most s) {chunk : Nat}
    (hslim : Slim most chunk s) (hmost : 2 ≤ most) :
    ∀ b ∈ s.buffers (.map f), b.length ≤ most + chunk := by
  refine Stream.buffers_le hslim hmost (fun hphase => ?_) fun s' hphase hentry => ?_
  · cases h with
    | opening cursor enters listed short => cases hphase.symm.trans (congrArg Cursor.phase cursor)
    | items cursor listed short => exact short_of_listed f listed short cursor
    | exhausted spent => exact .inl spent
    | done ended => cases hphase.symm.trans ended
  · cases h with
    | opening cursor enters listed short =>
      exact short_of_listed f listed short (cursor_enter cursor enters hentry)
    | items cursor listed short => cases hphase.symm.trans (congrArg Cursor.phase cursor)
    | exhausted spent =>
      obtain ⟨_, -, -, hrest⟩ := ceases_enter s
      rw [hentry] at hrest
      exact .inl (hrest spent).2
    | done ended => cases hphase.symm.trans ended

theorem underway_paced (f : Json → α) (h : Underway input most s) {chunk : Nat}
    (hslim : s.window.buffer.length ≤ most + chunk) (hchunk : 1 ≤ chunk) (hmost : 2 ≤ most)
    {chunks : Nat → Nat} (hchunks : ∀ k, chunks k ≤ chunk) (k : Nat) :
    Underway input most (paced (.map f) chunks s k)
      ∧ (paced (.map f) chunks s k).window.buffer.length ≤ most + chunk := by
  induction k with
  | zero => exact ⟨h, hslim⟩
  | succ k ih =>
    obtain ⟨hunderway, hbuffer⟩ := ih
    have hset := hunderway.withChunk (chunks k)
    have hslim' : Slim most chunk ((paced (.map f) chunks s k).withChunk (chunks k)) :=
      ⟨Nat.max_le.mpr ⟨hchunks k, hchunk⟩, hbuffer⟩
    exact ⟨hset.next f, hset.buffers_le f hslim' hmost _ (mem_buffers _ _)⟩

/-- **The buffer does not grow with the document**, whatever its source does. If no element has more
than `longest` bytes and no more than `chunk` bytes are asked for at a time, then every buffer that
a call goes through, also while it reads, has at most `chunk` bytes more than an element, or than a
part of the byte-order mark. -/
theorem document_buffers (f : Json → α) {doc : Bytes} {items : List Json}
    (h : Target.json.readDocument doc = .ok (.array items)) (marked : Bool) (tail : Bytes)
    (script : List ReadEvent) :
    let input := Cursor.mark marked ++ (doc ++ tail)
    ∃ offset elements close, Enters input offset ∧ Listed input offset elements close
      ∧ elements.map Element.value = items
      ∧ ∀ longest chunk chunks, (∀ e ∈ elements, e.stop - e.start ≤ longest) → 1 ≤ chunk →
        (∀ k, chunks k ≤ chunk) → ∀ k, ∀ b ∈ buffers (.map f)
          ((paced (.map f) chunks (ofSource (.ofBytes input script)) k).withChunk (chunks k)),
          b.length ≤ max longest 2 + chunk := by
  intro input
  obtain ⟨offset, elements, close, henters, hlisted, hvalues⟩ := listed_of_document h marked tail
  refine ⟨offset, elements, close, henters, hlisted, hvalues, ?_⟩
  intro longest chunk chunks hlongest hchunk hchunks k
  have hmost : 2 ≤ max longest 2 := Nat.le_max_right _ _
  have hstart : Underway input (max longest 2) (ofSource (.ofBytes input script)) :=
    .opening rfl henters hlisted fun e he => Nat.le_trans (hlongest e he) (Nat.le_max_left _ _)
  obtain ⟨hunderway, hbuffer⟩ :=
    underway_paced f hstart (Nat.zero_le _) hchunk hmost hchunks k
  have hslim : Slim (max longest 2) chunk
      ((paced (.map f) chunks (ofSource (.ofBytes input script)) k).withChunk (chunks k)) :=
    ⟨Nat.max_le.mpr ⟨hchunks k, hchunk⟩, hbuffer⟩
  exact (hunderway.withChunk (chunks k)).buffers_le f hslim hmost

/-- The document `[ 12]` behind a mark, read byte by byte: when the bracket is read, there is room
for one byte behind the number. -/
theorem document_buffers_around_number :
    let s := (paced (.map id) (fun _ => 1) (ofSource (.ofBytes
      (Cursor.mark true ++ ([0x5B, 0x20, 0x31, 0x32, 0x5D] ++ [])) [.interrupt])) 0).withChunk 1
    (∀ b ∈ s.buffers (.map id), b.length ≤ 3) ∧ ∃ b ∈ s.buffers (.map id), b.length = 3 := by
  intro s
  have hdoc : Target.json.readDocument [0x5B, 0x20, 0x31, 0x32, 0x5D]
      = .ok (.array [.number (.integer 12)]) := rfl
  obtain ⟨offset, elements, close, henters, hlisted, hvalues, hall⟩ :=
    document_buffers id hdoc true [] [.interrupt]
  have hlength : elements.length = 1 := by simpa using congrArg List.length hvalues
  obtain ⟨e, rfl⟩ := List.length_eq_one_iff.mp hlength
  have hoffset : offset = 4 :=
    (congrArg (fun entry => entry.2.offset) (Cursor.enter_of_enters henters)).symm
  subst hoffset
  have hstart : e.start = 5 := (congrArg Cursor.offset (hlisted.skipWhile .items)).symm
  have hstop : e.stop = 7 :=
    (congrArg (fun given => given.2.offset) (hlisted.nextItem id .items)).symm
  refine ⟨hall 2 1 (fun _ => 1) (fun e' he' => ?_) (Nat.le_refl 1) (fun _ => Nat.le_refl 1) 0, ?_⟩
  · rw [List.mem_singleton.mp he', hstart, hstop]
  · have hany : (s.buffers (.map id)).any (·.length == 3) = true := by decide +kernel
    simpa using hany

end Document

end Stream
end PlayableCards
