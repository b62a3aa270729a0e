import PlayableCards.Proofs.Stream.Account
import PlayableCards.Proofs.Stream.Demand

/-!
# Sources that fail

A source that fails once so many bytes have been delivered, beside the same source without the
fault. Every call gives the same on both until the one comes to its fault, and it does so only if
the other reads on with that many bytes delivered. So the elements of a document that those bytes
tell are yielded, and then the fault, unless they tell the end as well.
-/

namespace PlayableCards

variable {fault : IoFault} {later : List ReadEvent} {limit : Nat}

namespace Source

/-- The source without its first fault, and without what its script has behind that. -/
def mend (s : Source) : Source := { s with script := s.script.takeWhile ReadEvent.brings }

/-- The bytes that the calls of a script bring up to a fault, when each asks for `room`. -/
def supply (room : Nat) : List ReadEvent → Nat
  | [] => 0
  | .deliver most :: script => min most room + supply room script
  | .interrupt :: script => supply room script
  | .fail _ :: _ => 0

/-- The source fails with `fault` when `limit` bytes have been delivered. -/
def FailsAt (fault : IoFault) (later : List ReadEvent) (limit room : Nat) (s : Source) : Prop :=
  ∃ front, front.all ReadEvent.brings ∧ s.script = front ++ .fail fault :: later
    ∧ s.delivered + min (supply room front) s.unread.length = limit

theorem FailsAt.delivered_le {room : Nat} {s : Source} (h : s.FailsAt fault later limit room) :
    s.delivered ≤ limit := by
  obtain ⟨front, -, -, hlimit⟩ := h
  omega

theorem FailsAt.suffix {room : Nat} {s : Source} (h : s.FailsAt fault later limit room) :
    .fail fault :: later <:+ s.script := by
  obtain ⟨front, -, hscript, -⟩ := h
  exact ⟨front, hscript.symm⟩

theorem mend_of_front {front : List ReadEvent} (hfront : front.all ReadEvent.brings) {s : Source}
    (hscript : s.script = front ++ .fail fault :: later) : s.mend = { s with script := front } := by
  rw [mend, hscript, List.takeWhile_append_of_pos (List.all_eq_true.mp hfront),
    List.takeWhile_cons_of_neg (by simp [ReadEvent.brings]), List.append_nil]

theorem readBy_of_front {front : List ReadEvent} (hfront : front.all ReadEvent.brings) {room : Nat}
    {s : Source} (hlimit : s.delivered + min (supply room front) s.unread.length = limit)
    (script : List ReadEvent) :
    (∃ bytes s', s.readBy room (front ++ .fail fault :: later) = (.ok bytes, s')
        ∧ { s with script }.readBy room front = (.ok bytes, s'.mend)
        ∧ s'.FailsAt fault later limit room)
      ∨ ∃ s', s.readBy room (front ++ .fail fault :: later) = (.error fault, s')
        ∧ s.delivered = limit ∧ s'.delivered = limit := by
  induction front generalizing s with
  | nil =>
    have hdelivered : s.delivered = limit := by simpa [supply] using hlimit
    exact .inr ⟨_, rfl, hdelivered, hdelivered⟩
  | cons event front ih =>
    simp only [List.all_cons, Bool.and_eq_true] at hfront
    obtain ⟨hevent, hfront⟩ := hfront
    cases event with
    | deliver most =>
      refine .inl ⟨s.unread.take (min most room), _, rfl, ?_, front, hfront, rfl, ?_⟩
      · rw [mend_of_front hfront rfl]
        rfl
      · simp only [supply] at hlimit
        simp only [List.length_take, List.length_drop]
        omega
    | interrupt => exact ih hfront (s := { s with calls := s.calls + 1 }) hlimit
    | fail other => cases hevent

theorem read_of_failsAt {room : Nat} {s : Source} (h : s.FailsAt fault later limit room) :
    (∃ bytes s', s.read room = (.ok bytes, s') ∧ s.mend.read room = (.ok bytes, s'.mend)
        ∧ s'.FailsAt fault later limit room)
      ∨ ∃ s', s.read room = (.error fault, s') ∧ s.delivered = limit ∧ s'.delivered = limit := by
  obtain ⟨front, hfront, hscript, hlimit⟩ := h
  rw [mend_of_front hfront hscript, read, read, hscript]
  exact readBy_of_front hfront hlimit front

end Source

namespace Stream

def mend (s : Stream) : Stream := { s with source := s.source.mend }

def FailsAt (fault : IoFault) (later : List ReadEvent) (limit : Nat) (s : Stream) : Prop :=
  s.source.FailsAt fault later limit s.chunk

/-- A call gives what it gives without the fault, or comes to it. Without the fault it then makes
a read with as many bytes delivered. -/
def Matched (fault : IoFault) (later : List ReadEvent) (limit : Nat) (failure : γ)
    (call : Stream → γ × Stream) (s : Stream) : Prop :=
  (∃ given s', call s = (given, s') ∧ call s.mend = (given, s'.mend)
      ∧ s'.FailsAt fault later limit)
    ∨ ∃ s', call s = (failure, s') ∧ s'.source.delivered = limit
      ∧ Meets limit s.mend (call s.mend).2

theorem fill_of_failsAt {s : Stream} (h : s.FailsAt fault later limit) :
    (∃ s', s.fill = (none, s') ∧ s.mend.fill = (none, s'.mend) ∧ s'.FailsAt fault later limit)
      ∨ ∃ s', s.fill = (some fault, s') ∧ s.source.delivered = limit
        ∧ s'.source.delivered = limit := by
  rcases Source.read_of_failsAt h with ⟨bytes, source, hread, hmend, hfails⟩
    | ⟨source, hread, hlimit, hlimit'⟩
  · have hread' : s.mend.source.read s.mend.chunk = (.ok bytes, source.mend) := hmend
    refine .inl ⟨{ s with
      source, window := s.window.compact.append bytes, exhausted := bytes.isEmpty }, ?_, ?_, hfails⟩
    · simp only [fill, hread]
    · simp only [fill, hread']
      rfl
  · refine .inr ⟨{ s with source, window := s.window.compact }, ?_, hlimit, hlimit'⟩
    simp only [fill, hread]

theorem gather_matched (p : UInt8 → Bool) (look : Bytes → Option β) (last : Bytes → β) {s : Stream}
    (h : s.FailsAt fault later limit) :
    Matched fault later limit (.error fault) (gather p look last) s := by
  unfold Matched
  fun_induction gather p look last s with
  | case1 s ahead hexhausted =>
    exact .inl ⟨_, ahead, rfl, gather_of_exhausted (s := s.mend) hexhausted, h⟩
  | case2 s ahead hexhausted b hlook =>
    have hopen : s.exhausted = false := by simpa [ahead] using hexhausted
    exact .inl ⟨_, ahead, rfl, gather_of_look (s := s.mend) hopen hlook, h⟩
  | case3 s ahead hexhausted hlook fault' s' hfill =>
    have hopen : s.exhausted = false := by simpa [ahead] using hexhausted
    have hahead : ahead.FailsAt fault later limit := h
    rcases fill_of_failsAt hahead with ⟨s'', hfill', -⟩ | ⟨s'', hfill', hlimit, hlimit'⟩
      <;> cases hfill.symm.trans hfill'
    -- without the fault, the window that tells nothing is read on from
    exact .inr ⟨s', rfl, hlimit', meets_gather (s := s.mend) last hopen hlook hlimit⟩
  | case4 s ahead hexhausted hlook s' hfill ih =>
    have hopen : s.exhausted = false := by simpa [ahead] using hexhausted
    have hahead : ahead.FailsAt fault later limit := h
    rcases fill_of_failsAt hahead with ⟨s'', hfill', hmend, hs'⟩ | ⟨s'', hfill', -⟩
      <;> cases hfill.symm.trans hfill'
    rw [gather_of_fill (s := s.mend) hopen hlook hmend]
    have hread : Draws s.mend s'.mend := by
      have hdraws := draws_fill ahead.mend
      rw [hmend] at hdraws
      exact hdraws
    rcases ih hs' with hsame | ⟨g, hgather, hlimit, hmeets⟩
    · exact .inl hsame
    · exact .inr ⟨g, hgather, hlimit, hread.meets hmeets⟩

theorem skipMark_matched {s : Stream} (h : s.FailsAt fault later limit) :
    Matched fault later limit (.error fault) skipMark s := by
  obtain ⟨hsource, hchunk⟩ := source_skipMark s.mend
  rcases gather_matched (fun _ => false) marked? (fun bytes => marked? bytes == some true) h with
    ⟨given, g, hgather, hmend, hg⟩ | ⟨g, hgather, hlimit, hmeets⟩
  · refine .inl ?_
    rcases given with other | _ | _
    · exact ⟨.error other, g, by rw [skipMark, hgather], by rw [skipMark, hmend], hg⟩
    · exact ⟨.ok (), g, by rw [skipMark, hgather]; rfl, by rw [skipMark, hmend]; rfl, hg⟩
    · exact ⟨.ok (), g.skip byteOrderMark.length, by rw [skipMark, hgather]; rfl,
        by rw [skipMark, hmend]; rfl, hg⟩
  · exact .inr ⟨g, by rw [skipMark, hgather], hlimit, hmeets.congr hsource hchunk⟩

theorem draws_skipMark (s : Stream) : Draws s s.skipMark.2 := by
  obtain ⟨hsource, hchunk⟩ := source_skipMark s
  exact (draws_gather _ _ _ s).congr hsource hchunk

theorem draws_enter (s : Stream) : Draws s.skipMark.2 s.enter.2 := by
  rcases hskip : s.skipMark with ⟨given | given, g⟩
  · rw [enter, hskip]
    exact .refl g
  · obtain ⟨hsource, hchunk⟩ := source_enter hskip
    exact (draws_gather _ _ _ g).congr hsource hchunk

theorem enter_matched {s : Stream} (h : s.FailsAt fault later limit) :
    Matched fault later limit (.error fault) enter s := by
  have hmark := draws_skipMark s.mend
  rcases skipMark_matched h with ⟨given, g, hskip, hmend, hg⟩ | ⟨g, hskip, hlimit, hmeets⟩
  · rcases given with other | given
    · exact .inl ⟨.error other, g, by rw [enter, hskip], by rw [enter, hmend], hg⟩
    · obtain ⟨hsource, hchunk⟩ := source_enter hmend
      rw [hmend] at hmark
      rcases gather_matched Ascii.isSpace opens? (fun bytes => opens? bytes == some true) hg with
        ⟨given, g', hgather, hmend', hg'⟩ | ⟨g', hgather, hlimit, hmeets⟩
      · refine .inl ?_
        rcases given with other | _ | _
        · exact ⟨.error other, g', by simp only [enter, hskip, hgather],
            by simp only [enter, hmend, hmend'], hg'⟩
        · exact ⟨.ok false, g', by simp only [enter, hskip, hgather],
            by simp only [enter, hmend, hmend'], hg'⟩
        · exact ⟨.ok true, g'.skip 1, by simp only [enter, hskip, hgather],
            by simp only [enter, hmend, hmend']; rfl, hg'⟩
      · exact .inr ⟨g', by simp only [enter, hskip, hgather], hlimit,
          hmark.meets (hmeets.congr hsource hchunk)⟩
  · exact .inr ⟨g, by rw [enter, hskip], hlimit, hmeets.trans (draws_enter s.mend)⟩

theorem nextItem_matched (t : Target α) {s : Stream} (h : s.FailsAt fault later limit) :
    Matched fault later limit (.failed (.io fault)) (nextItem t) s := by
  obtain ⟨hsource, hchunk⟩ := source_nextItem t s.mend
  rcases gather_matched isBetween (sight? t false)
    (fun bytes => (sight? t true bytes).getD .nothing) h with
    ⟨given, g, hgather, hmend, hg⟩ | ⟨g, hgather, hlimit, hmeets⟩
  · refine .inl ?_
    rcases given with other | ⟨value, used⟩ | cause | _ | _
    · exact ⟨.failed (.io other), g.finish, by rw [nextItem, hgather],
        by rw [nextItem, hmend]; rfl, hg⟩
    · exact ⟨.item value, { g.skip used with phase := .items }, by rw [nextItem, hgather],
        by rw [nextItem, hmend]; rfl, hg⟩
    · exact ⟨.failed (.parse g.offset cause), g.finish, by rw [nextItem, hgather],
        by rw [nextItem, hmend]; rfl, hg⟩
    · exact ⟨.ended, (g.skip 1).finish, by rw [nextItem, hgather], by rw [nextItem, hmend]; rfl, hg⟩
    · exact ⟨.ended, g.finish, by rw [nextItem, hgather], by rw [nextItem, hmend]; rfl, hg⟩
  · exact .inr ⟨g.finish, by rw [nextItem, hgather], hlimit, hmeets.congr hsource hchunk⟩

theorem draws_nextItem (t : Target α) (s : Stream) : Draws s (s.nextItem t).2 := by
  obtain ⟨hsource, hchunk⟩ := source_nextItem t s
  exact (draws_gather _ _ _ s).congr hsource hchunk

theorem draws_next (t : Target α) {s : Stream} (h : s.phase = .opening) :
    Draws s.enter.2 (s.next t).2 := by
  simp only [next, h]
  rcases s.enter with ⟨other | _ | _, g⟩
  · exact .congr (.refl g) rfl rfl
  · exact .congr (.refl g) rfl rfl
  · exact draws_nextItem t g

/-- **A call on a source that fails** gives what it gives without the fault, or comes to it. -/
theorem next_matched (t : Target α) {s : Stream} (h : s.FailsAt fault later limit) :
    Matched fault later limit (.failed (.io fault)) (next t) s := by
  have hsame : s.mend.phase = s.phase := rfl
  cases hphase : s.phase with
  | done =>
    exact .inl ⟨.ended, s, by simp only [next, hphase], by simp only [next, hsame, hphase], h⟩
  | items =>
    unfold Matched
    simp only [next, hsame, hphase]
    exact nextItem_matched t h
  | opening =>
    have hmark := (draws_skipMark s.mend).trans (draws_enter s.mend)
    have hrest := draws_next t (s := s.mend) hphase
    rcases enter_matched h with ⟨given, g, henter, hmend, hg⟩ | ⟨g, henter, hlimit, hmeets⟩
    · rw [hmend] at hmark
      rcases given with other | _ | _
      · exact .inl ⟨.failed (.io other), g.finish, by simp only [next, hphase, henter],
          by simp only [next, hsame, hphase, hmend]; rfl, hg⟩
      · exact .inl ⟨.ended, g.finish, by simp only [next, hphase, henter],
          by simp only [next, hsame, hphase, hmend]; rfl, hg⟩
      · unfold Matched
        simp only [next, hsame, hphase, henter, hmend]
        rcases nextItem_matched t hg with hitem | ⟨g', hnext, hlimit, hmeets⟩
        · exact .inl hitem
        · exact .inr ⟨g', hnext, hlimit, hmark.meets hmeets⟩
    · exact .inr ⟨g.finish, by simp only [next, hphase, henter], hlimit, hmeets.trans hrest⟩

section Document

variable {input : Bytes} {close : Nat} {elements : List Element} {s : Stream}

theorem awaits_mend {front : List ReadEvent} (hfront : front.all ReadEvent.brings) {offset : Nat}
    (henters : Enters input offset) (hlisted : Listed input offset elements close) :
    Awaits input close elements
      (ofSource (.ofBytes input (front ++ .fail fault :: later))).mend := by
  have hmend : (ofSource (.ofBytes input (front ++ .fail fault :: later))).mend
      = ofSource (.ofBytes input front) := by
    rw [mend, show (ofSource (.ofBytes input (front ++ .fail fault :: later))).source
      = .ofBytes input (front ++ .fail fault :: later) from rfl, Source.mend_of_front hfront rfl]
    rfl
  rw [hmend]
  exact .opening ⟨steady_ofSource hfront, rfl, Nat.zero_le _, by simp [ofSource, Source.ofBytes]⟩
    henters hlisted

/-- A call on a document yields what comes next if the bytes before the fault tell it, and the fault
if they do not. -/
theorem Awaits.next_of_failsAt (f : Json → α) (h : Awaits input close elements s.mend)
    (hfails : s.FailsAt fault later limit) :
    (needed close elements.head? ≤ limit ∧ ∃ s', s.next (.map f) = (told f elements.head?, s')
        ∧ Awaits input close elements.tail s'.mend ∧ s'.FailsAt fault later limit)
      ∨ (limit < needed close elements.head? ∧ ∃ s', s.next (.map f) = (.failed (.io fault), s')
        ∧ s'.source.delivered = limit) := by
  obtain ⟨s₁, htold, hawaits, hdrawn⟩ := h.next f
  rcases next_matched (.map f) hfails with ⟨given, s', hnext, hmend, hs'⟩
    | ⟨s', hnext, hlimit, hmeets⟩
  · cases htold.symm.trans hmend
    exact .inl ⟨Nat.le_trans hdrawn.enough hs'.delivered_le, s', hnext, hawaits, hs'⟩
  · rw [htold] at hmeets
    exact .inr ⟨hdrawn.lt_of_meets hmeets, s', hnext, hlimit⟩

theorem Awaits.listed {e : Element} (h : Awaits input close (e :: elements) s) :
    ∃ offset, Listed input offset (e :: elements) close := by
  cases h with
  | opening stands enters listed => exact ⟨_, listed⟩
  | items stands listed => exact ⟨_, listed⟩

/-- **What is yielded before a fault** are the elements that the bytes before it tell. If these tell
the end as well, the fault is not come to. -/
theorem account_of_failsAt (f : Json → α) (h : Awaits input close elements s.mend)
    (hfails : s.FailsAt fault later limit) :
    let shown := elements.filter fun e => e.stop + e.value.lookahead ≤ limit
    (s.account (.map f)).items.map Prod.fst = shown.map (fun e => f e.value)
      ∧ (limit ≤ close → (s.account (.map f)).fault = some (.io fault)
        ∧ (s.after (.map f) (shown.length + 1)).source.delivered = limit)
      ∧ (close < limit → (s.account (.map f)).fault = none ∧ shown = elements
        ∧ (s.after (.map f) (shown.length + 1)).FailsAt fault later limit) := by
  intro shown
  induction elements generalizing s with
  | nil =>
    rcases h.next_of_failsAt f hfails with ⟨hneeded, s', hnext, -, hs'⟩
      | ⟨hneeded, s', hnext, hlimit⟩
    · rw [account_of_ended hnext]
      refine ⟨rfl, fun hle => ?_, fun _ => ⟨rfl, rfl, ?_⟩⟩
      · exact absurd hneeded (Nat.not_le.mpr (Nat.lt_succ_of_le hle))
      · simp only [shown, List.filter_nil, List.length_nil, after, hnext, hs']
    · rw [account_of_failed hnext]
      refine ⟨rfl, fun _ => ⟨rfl, ?_⟩, fun hlt => ?_⟩
      · simp only [shown, List.filter_nil, List.length_nil, after, hnext, hlimit]
      · exact absurd hneeded (Nat.not_lt.mpr hlt)
  | cons e elements ih =>
    obtain ⟨offset, hlisted⟩ := h.listed
    rcases h.next_of_failsAt f hfails with ⟨hneeded, s', hnext, hawaits, hs'⟩
      | ⟨hneeded, s', hnext, hlimit⟩
    · obtain ⟨hitems, hfault, hend⟩ := ih hawaits hs'
      have hshown : shown
          = e :: elements.filter fun e => e.stop + e.value.lookahead ≤ limit :=
        List.filter_cons_of_pos (decide_eq_true hneeded)
      rw [account_of_item hnext, hshown]
      refine ⟨?_, fun hle => ?_, fun hlt => ?_⟩
      · simp only [Account.cons, List.map_cons, hitems]
      · simpa only [Account.cons, List.length_cons, after, hnext] using hfault hle
      · obtain ⟨hnone, hall, hafter⟩ := hend hlt
        refine ⟨hnone, by rw [hall], ?_⟩
        simpa only [List.length_cons, after, hnext] using hafter
    · -- what the bytes before the fault do not tell, they do not tell later on either
      have hshown : shown = [] := by
        refine List.filter_eq_nil_iff.mpr fun e' he' => ?_
        have hle := hlisted.needed_le_of_mem he'
        simp only [decide_eq_true_eq]
        omega
      have hclose := hlisted.needed_le_close
      rw [account_of_failed hnext, hshown]
      refine ⟨rfl, fun _ => ⟨rfl, ?_⟩, fun hlt => ?_⟩
      · simp only [List.length_nil, after, hnext, hlimit]
      · omega

end Document

end Stream
end PlayableCards
