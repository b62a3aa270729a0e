import PlayableCards.Proofs.Stream.Course
import PlayableCards.Proofs.Verdict

/-!
# Inputs cut in two

A stream whose first read ends before a given back of the input decides by what stands before the
cut, as long as that suffices. So a part of a text that tells more than the whole is told by the
stream that is cut behind the part.
-/

namespace PlayableCards
namespace Stream

/-- Everything but `back` has been read, or will be in one go. -/
def Cut (back : Bytes) (s : Stream) : Prop :=
  s.exhausted = false ∧ (s.source.unread = back
    ∨ ∃ front, front ≠ [] ∧ s.window.pending = [] ∧ s.source.unread = front ++ back
      ∧ s.source.script = [.deliver front.length] ∧ front.length ≤ s.chunk)

theorem Cut.skip {s : Stream} {back : Bytes} (h : s.Cut back) (n : Nat) : (s.skip n).Cut back :=
  ⟨h.1, h.2.imp id fun ⟨front, hne, hpending, hsource⟩ =>
    ⟨front, hne, by simp [Stream.skip, hpending], hsource⟩⟩

theorem cut_ofSource {front : Bytes} (hne : front ≠ []) (back : Bytes) :
    ((ofSource (.ofBytes (front ++ back) [.deliver front.length])).withChunk front.length).Cut
      back :=
  ⟨rfl, .inr ⟨front, hne, rfl, rfl, rfl, Nat.le_max_left _ _⟩⟩

theorem fill_of_cut {s : Stream} {front back : Bytes} (hne : front ≠ [])
    (hpending : s.window.pending = []) (hunread : s.source.unread = front ++ back)
    (hscript : s.source.script = [.deliver front.length]) (hchunk : front.length ≤ s.chunk) :
    ∃ s', s.fill = (none, s') ∧ s'.exhausted = false ∧ s'.source.unread = back
      ∧ s'.cursor = s.cursor := by
  have hread : s.source.read s.chunk
      = (.ok front, { s.source with
          unread := back, script := [], calls := s.source.calls + 1,
          delivered := s.source.delivered + front.length }) := by
    simp only [Source.read, hscript, Source.readBy, Source.deliver, Nat.min_eq_left hchunk, hunread,
      List.take_left, List.drop_left]
  rcases hfill : s.fill with ⟨fault, s'⟩
  simp only [fill, hread, Prod.mk.injEq] at hfill
  obtain ⟨rfl, rfl⟩ := hfill
  refine ⟨_, rfl, ?_, rfl, ?_⟩
  · simpa using hne
  · simp [cursor, offset, hpending, hunread]

theorem gather_of_window {p : UInt8 → Bool} {look : Bytes → Option β} (last : Bytes → β)
    {s : Stream} {back buf : Bytes} (hexhausted : s.exhausted = false)
    (hunread : s.source.unread = back) (hne : buf ≠ [])
    (hrest : s.cursor.rest.dropWhile p = buf ++ back) {b : β} (hlook : look buf = some b) :
    s.gather p look last = (.ok b, s.skipWhile p) ∧ (s.skipWhile p).window.pending = buf
      ∧ (s.skipWhile p).cursor = s.cursor.skipWhile p := by
  have hpending : (s.skipWhile p).window.pending = s.window.pending.dropWhile p :=
    Cursor.rest_skipWhile ⟨s.phase, s.offset, s.window.pending⟩ p
  have hbuf : s.window.pending.dropWhile p = buf := by
    rw [cursor, hunread, List.dropWhile_append] at hrest
    split at hrest
    · -- a cut within what is skipped would leave less than the back
      have hlength := congrArg List.length hrest
      have hback := (List.dropWhile_suffix p (l := back)).length_le
      have hpos := List.length_pos_iff.mpr hne
      rw [List.length_append] at hlength
      omega
    · exact List.append_cancel_right hrest
  rw [hbuf] at hpending
  rw [← hpending] at hlook
  exact ⟨gather_of_look hexhausted hlook, hpending, cursor_skipWhile (.inr (hpending ▸ hne))⟩

theorem gather_of_cut {p : UInt8 → Bool} {look : Bytes → Option β} (last : Bytes → β)
    (hnil : look [] = none) {s : Stream} {back buf : Bytes} (hcut : s.Cut back)
    (hrest : s.cursor.rest.dropWhile p = buf ++ back) {b : β} (hlook : look buf = some b) :
    ∃ s', s.gather p look last = (.ok b, s') ∧ s'.Cut back ∧ s'.window.pending = buf
      ∧ s'.cursor = s.cursor.skipWhile p := by
  have hbuf : buf ≠ [] := by
    rintro rfl
    cases hnil.symm.trans hlook
  obtain ⟨hexhausted, hunread | ⟨front, hne, hpending, hunread, hscript, hchunk⟩⟩ := hcut
  · obtain ⟨hgather, hpending, hcursor⟩ :=
      gather_of_window last hexhausted hunread hbuf hrest hlook
    exact ⟨_, hgather, ⟨hexhausted, .inl hunread⟩, hpending, hcursor⟩
  · have hskip : s.skipWhile p = s.skip 0 := by
      simp [skipWhile, Window.skipWhile, Stream.skip, hpending]
    obtain ⟨s', hfill, hexhausted', hunread', hcursor'⟩ := fill_of_cut (s := s.skipWhile p)
      hne (by simp [hskip, Stream.skip, hpending]) hunread hscript hchunk
    have hsame : s'.cursor = s.cursor := by
      rw [hcursor', hskip, cursor_skip (Nat.zero_le _)]
      simp [Cursor.skip]
    obtain ⟨hgather, hpending', hcursor''⟩ :=
      gather_of_window last hexhausted' hunread' hbuf (by rwa [hsame]) hlook
    rw [hsame] at hcursor''
    have hnone : look (s.skipWhile p).window.pending = none := by
      simp [hskip, Stream.skip, hpending, hnil]
    rw [gather_of_fill hexhausted hnone hfill]
    exact ⟨s'.skipWhile p, hgather, ⟨hexhausted', .inl hunread'⟩, hpending', hcursor''⟩

theorem marked?_of_opens {bytes : Bytes} (h : opens? (bytes.dropWhile Ascii.isSpace) = some true) :
    marked? bytes = some false := by
  cases bytes with
  | nil => cases h
  | cons b rest =>
    have hb : b ≠ 0xEF := by
      rintro rfl
      cases h
    simp [marked?, byteOrderMark, hb, hb.symm]

theorem skipMark_of_cut {s : Stream} {back front : Bytes} (hcut : s.Cut back)
    (hrest : s.cursor.skipMark.rest = front ++ back)
    (hopens : opens? (front.dropWhile Ascii.isSpace) = some true) :
    ∃ s', s.skipMark = (.ok (), s') ∧ s'.Cut back ∧ s'.cursor = s.cursor.skipMark := by
  have hdrop : s.cursor.rest.dropWhile (fun _ => false) = s.cursor.rest := by
    rw [← Cursor.rest_skipWhile, Cursor.skipWhile_false]
  rw [Cursor.skipMark] at hrest ⊢
  by_cases hmarked : marked? s.cursor.rest = some true
  · rw [if_pos (beq_iff_eq.mpr hmarked)] at hrest ⊢
    -- the front begins with the mark then
    have hsplit : s.cursor.rest = (s.cursor.rest.take byteOrderMark.length ++ front) ++ back := by
      rw [List.append_assoc, ← hrest, Cursor.rest_skip, List.take_append_drop]
    have hmark := marked?_eq_true.mp hmarked
    have htold : marked? (s.cursor.rest.take byteOrderMark.length ++ front) = some true := by
      rw [← List.prefix_iff_eq_take.mp hmark]
      exact marked?_eq_true.mpr (List.prefix_append _ _)
    have hlength := hmark.length_le
    obtain ⟨s', hgather, hcut', hpending, hcursor⟩ := gather_of_cut
      (fun bytes => marked? bytes == some true) rfl hcut (hdrop.trans hsplit) htold
    rw [Cursor.skipWhile_false] at hcursor
    refine ⟨s'.skip byteOrderMark.length, by simp [skipMark, hgather], hcut'.skip _, ?_⟩
    rw [cursor_skip, hcursor]
    rw [hpending, List.length_append, List.length_take]
    omega
  · rw [if_neg (by simpa using hmarked)] at hrest ⊢
    obtain ⟨s', hgather, hcut', hpending, hcursor⟩ := gather_of_cut
      (fun bytes => marked? bytes == some true) rfl hcut (hdrop.trans hrest)
      (marked?_of_opens hopens)
    rw [Cursor.skipWhile_false] at hcursor
    exact ⟨s', by simp [skipMark, hgather], hcut', hcursor⟩

theorem enter_of_cut {s : Stream} {back front : Bytes} (hcut : s.Cut back) {within : Cursor}
    (henter : s.cursor.enter = (true, within)) (hwithin : within.rest = front ++ back) :
    ∃ s', s.enter = (.ok true, s') ∧ s'.Cut back ∧ s'.cursor = within := by
  unfold Cursor.enter at henter
  simp only at henter
  split at henter
  case isFalse => cases henter
  rename_i hopens
  cases henter
  rw [Cursor.rest_skip, Cursor.rest_skipWhile] at hwithin
  rw [beq_iff_eq, Cursor.rest_skipWhile] at hopens
  -- before the cut stand blanks, the bracket and the front
  obtain ⟨blanks, hrest, hblanks⟩ : ∃ blanks : Bytes,
      s.cursor.skipMark.rest = (blanks ++ Ascii.openBracket :: front) ++ back
        ∧ ∀ b ∈ blanks, Ascii.isSpace b := by
    refine ⟨s.cursor.skipMark.rest.takeWhile Ascii.isSpace, ?_,
      fun b hb => List.mem_takeWhile_imp hb⟩
    have hsplit :=
      List.takeWhile_append_dropWhile (p := Ascii.isSpace) (l := s.cursor.skipMark.rest)
    cases hdrop : s.cursor.skipMark.rest.dropWhile Ascii.isSpace with
    | nil => simp [hdrop, opens?] at hopens
    | cons b rest =>
      simp only [hdrop, opens?, Option.some.injEq, beq_iff_eq] at hopens
      rw [hdrop, List.drop_one, List.tail_cons] at hwithin
      rw [List.append_assoc, List.cons_append, ← hwithin, ← hopens, ← hdrop, hsplit]
  have hfront : (blanks ++ Ascii.openBracket :: front).dropWhile Ascii.isSpace
      = Ascii.openBracket :: front := by
    rw [List.dropWhile_append_of_pos hblanks]
    rfl
  obtain ⟨marked, hmark, hcutm, hcursorm⟩ := skipMark_of_cut hcut hrest (by rw [hfront]; rfl)
  have hahead : marked.cursor.rest.dropWhile Ascii.isSpace
      = Ascii.openBracket :: front ++ back := by
    rw [hcursorm, hrest, List.append_assoc, List.dropWhile_append_of_pos hblanks]
    rfl
  have htold : opens? (Ascii.openBracket :: front) = some true := rfl
  obtain ⟨s', hgather, hcut', hpending, hcursor⟩ := gather_of_cut
    (fun bytes => opens? bytes == some true) rfl hcutm hahead htold
  refine ⟨s'.skip 1, by simp [enter, hmark, hgather], hcut'.skip 1, ?_⟩
  rw [cursor_skip (by simp [hpending]), hcursor, hcursorm]

def upon (s : Stream) : Sight α → Yield α × Stream
  | .item value used => (.item value, { s.skip used with phase := .items })
  | .fault fault => (.failed (.parse s.offset fault), s.finish)
  | .close => (.ended, (s.skip 1).finish)
  | .nothing => (.ended, s.finish)

theorem nextItem_of_cut {t : Target α} {s : Stream} {back front : Bytes} (hcut : s.Cut back)
    (hrest : (s.cursor.skipWhile isBetween).rest = front ++ back) {seen : Sight α}
    (hseen : sight? t false front = some seen) :
    ∃ s' : Stream, s.nextItem t = s'.upon seen ∧ s'.Cut back := by
  rw [Cursor.rest_skipWhile] at hrest
  obtain ⟨s', hgather, hcut', -, -⟩ := gather_of_cut
    (fun bytes => (sight? t true bytes).getD .nothing) rfl hcut hrest hseen
  refine ⟨s', ?_, hcut'⟩
  simp only [nextItem, hgather]
  cases seen <;> rfl

/-- A call on a stream that is cut behind a part of the text ahead does what the part shows. -/
theorem next_of_cut {t : Target α} {s : Stream} {back front : Bytes} (hcut : s.Cut back)
    (hrest : s.cursor.upcoming = front ++ back) {seen : Sight α}
    (hseen : sight? t false front = some seen) :
    ∃ s' : Stream, s.next t = s'.upon seen ∧ s'.Cut back := by
  have hne : front ++ back ≠ [] := by
    cases front with
    | nil => cases hseen
    | cons b front => simp
  have hphase : s.cursor.phase = s.phase := rfl
  rw [Cursor.upcoming] at hrest
  rw [hphase] at hrest
  rw [next]
  cases hp : s.phase with
  | done =>
    rw [hp] at hrest
    exact absurd hrest.symm hne
  | items =>
    rw [hp] at hrest
    exact nextItem_of_cut hcut hrest hseen
  | opening =>
    rw [hp] at hrest
    rcases hentry : s.cursor.enter with ⟨found, within⟩
    simp only [hentry] at hrest
    cases found with
    | false => exact absurd hrest.symm hne
    | true =>
      simp only at hrest
      have hwithin : within.rest
          = (within.rest.takeWhile isBetween ++ front) ++ back := by
        rw [List.append_assoc, ← hrest, Cursor.rest_skipWhile, List.takeWhile_append_dropWhile]
      obtain ⟨g, henter, hcutg, hcursor⟩ := enter_of_cut hcut hentry hwithin
      obtain ⟨s', hnext, hcut'⟩ := nextItem_of_cut hcutg (by rwa [hcursor]) hseen
      exact ⟨s', by simp only [henter, hnext], hcut'⟩

theorem sight?_close {t : Target α} {front : Bytes} (h : sight? t false front = some .close)
    (back : Bytes) : sight? t true (front ++ back) = some .close := by
  cases front with
  | nil => cases h
  | cons b front =>
    simp only [sight?, List.cons_append] at h ⊢
    by_cases hb : b = Ascii.closeBracket
    · rw [if_pos hb]
    · rw [if_neg hb] at h
      split at h <;> cases h

theorem sight?_item_of_append {t : Target α} {final : Bool} {front back : Bytes} {value : α}
    {used : Nat} (h : sight? t final (front ++ back) = some (.item value used))
    (hused : used < front.length) : sight? t false front = some (.item value used) := by
  have hdecode := Target.decode_complete_of_append (sight?_item h) hused
  cases front with
  | nil => cases hused
  | cons b front =>
    simp only [sight?, List.cons_append] at h ⊢
    by_cases hb : b = Ascii.closeBracket
    · rw [if_pos hb] at h
      cases h
    · rw [if_neg hb, hdecode]

/-- A stream that is cut within the last text yields what its cursor tells only if the part before
the cut shows what the whole does. -/
theorem seen_of_yields {t : Target α}
    (hitems : ∀ text value used, sight? t true text = some (.item value used) → t.Foresees text)
    {cur : Cursor} {front back : Bytes} (hlast : (cur.last t).upcoming = front ++ back)
    {seen : Sight α} (hseen : sight? t false front = some seen) {s : Stream} (hs : s.Steady)
    (hcut : s.Cut back) (hcursor : s.cursor = cur) (hyields : s.Yields t (cur.account t)) :
    sight? t true (front ++ back) = some seen := by
  induction cur using Cursor.course_induction t generalizing s with
  | last cur h =>
    subst hcursor
    rw [Cursor.last_of_ne_item h] at hlast
    obtain ⟨g, hnext, -⟩ := next_of_cut hcut hlast hseen
    have honward := s.cursor.onward_next t
    rcases hcur : s.cursor.next t with ⟨yielded, cur'⟩
    rw [hcur] at honward
    cases honward with
    | item hsight => exact absurd (congrArg Prod.fst hcur) (h _)
    | failed hsight =>
      rw [Cursor.account_of_failed hcur] at hyields
      have hfirst := hyields.failed
      rw [hnext] at hfirst
      cases seen with
      | fault fault =>
        cases hfirst
        rwa [hlast] at hsight
      | item | close | nothing => cases hfirst
    | closed hsight hdone | ended hsight hdone =>
      rw [Cursor.account_of_ended hcur] at hyields
      have hfirst := hyields.ended
      rw [hnext] at hfirst
      cases seen with
      | close => exact sight?_close hseen back
      | item | fault => cases hfirst
      | nothing => exact absurd hseen (Cursor.sight?_ne_nothing t false front)
  | item cur value cur' hcur ih =>
    subst hcursor
    have honward := s.cursor.onward_next t
    rw [hcur] at honward
    cases honward with
    | @item value used offset hsight =>
      -- what shows the item ends before the cut, as the last text begins before it
      rw [Cursor.last_of_item hcur] at hlast
      obtain ⟨between, hbetween⟩ := (Cursor.upcoming_suffix _).trans
        (Cursor.last_suffix t ⟨.items, offset, s.cursor.upcoming.drop used⟩)
      rw [hlast] at hbetween
      have hused := used_le_of_sight? hsight
      have hupcoming : s.cursor.upcoming
          = (s.cursor.upcoming.take used ++ between ++ front) ++ back := by
        rw [List.append_assoc, List.append_assoc, hbetween, List.take_append_drop]
      have hshort : used < (s.cursor.upcoming.take used ++ between ++ front).length := by
        have hfront : 0 < front.length := List.length_pos_iff.mpr (by rintro rfl; cases hseen)
        simp only [List.length_append, List.length_take]
        omega
      obtain ⟨g, hnext, hcut'⟩ := next_of_cut hcut hupcoming
        (sight?_item_of_append (hupcoming ▸ hsight) hshort)
      obtain ⟨s', hnext', hs', hcursor', -⟩ := next_of_steady hs (.inr (hitems _ _ _ hsight))
      rw [hcur] at hnext' hcursor'
      cases hnext.symm.trans hnext'
      rw [Cursor.account_of_item hcur] at hyields
      exact ih hlast hs' (hcut'.skip used) hcursor' (hyields.of_item hnext)

/-- **All schedules yield what one read yields if and only if the last text is foreseen**, for a
target whose items are. -/
theorem yields_iff_foresees {t : Target α}
    (hitems : ∀ text value used, sight? t true text = some (.item value used) → t.Foresees text)
    (input : Bytes) :
    (∀ script, script.all ReadEvent.brings →
        (ofSource (.ofBytes input script)).Yields t ((Cursor.start input).account t))
      ↔ t.Foresees ((Cursor.start input).last t).upcoming := by
  constructor
  · intro h front hfront seen hseen
    obtain ⟨back, hback⟩ := hfront
    obtain ⟨before, hbefore⟩ :=
      (Cursor.upcoming_suffix _).trans (Cursor.last_suffix t (.start input))
    have hinput : input = (before ++ front) ++ back := by
      rw [List.append_assoc, hback]
      exact hbefore.symm
    have hne : before ++ front ≠ [] := by
      rintro hnil
      rw [(List.append_eq_nil_iff.mp hnil).2] at hseen
      cases hseen
    have hbrings : [ReadEvent.deliver (before ++ front).length].all ReadEvent.brings := by
      simp only [List.all_cons, List.all_nil, Bool.and_true, ReadEvent.brings, decide_eq_true_eq]
      exact List.length_pos_iff.mpr hne
    have hcut := cut_ofSource hne back
    rw [← hinput] at hcut
    have hsteady : (ofSource (.ofBytes input _)).Steady := steady_ofSource hbrings
    rw [← hback]
    exact seen_of_yields hitems hback.symm hseen (hsteady.withChunk _) hcut rfl
      fun calls => h _ hbrings (.chunk _ :: calls)
  · intro h script hscript
    exact yields_of_foreseen (Cursor.foreseen_of_last hitems h) (steady_ofSource hscript) rfl

end Stream
end PlayableCards
