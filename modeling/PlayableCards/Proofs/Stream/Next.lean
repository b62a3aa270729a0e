import PlayableCards.Proofs.Stream.Steady

/-!
# One call on a steady stream

From its cursor in the input alone follows what a call yields and where it comes to, as long as no
part of the text ahead tells more than all of it.
-/

namespace PlayableCards

namespace Target

/-- What a part of the text shows, the whole text shows. -/
def Foresees (t : Target α) (text : Bytes) : Prop :=
  ∀ part, part <+: text → ∀ seen, Stream.sight? t false part = some seen →
    Stream.sight? t true text = some seen

theorem decode_final {t : Target α} {text : Bytes} (h : t.decode text false ≠ .incomplete) :
    t.decode text true = t.decode text false := by
  unfold decode at h ⊢
  repeat' split at h
  all_goals simp_all

end Target

namespace Stream

theorem sight?_final {t : Target α} {text : Bytes} {seen : Sight α}
    (h : sight? t false text = some seen) : sight? t true text = some seen := by
  cases text with
  | nil => cases h
  | cons b rest =>
    simp only [sight?] at h ⊢
    by_cases hb : b = Ascii.closeBracket
    · rwa [if_pos hb] at h ⊢
    · rw [if_neg hb] at h ⊢
      rw [Target.decode_final (by rintro heq; simp [heq] at h)]
      exact h

theorem marked?_of_prefix {part text : Bytes} (h : part <+: text) {b : Bool}
    (hb : marked? part = some b) : b = (marked? text == some true) := by
  rw [marked?] at hb ⊢
  by_cases hmark : byteOrderMark <+: part
  · rw [if_pos (List.isPrefixOf_iff_prefix.mpr hmark)] at hb
    rw [if_pos (List.isPrefixOf_iff_prefix.mpr (hmark.trans h))]
    cases hb
    rfl
  · rw [if_neg (mt List.isPrefixOf_iff_prefix.mp hmark)] at hb
    split at hb
    · cases hb
    · rename_i hpart
      cases hb
      have hnone : ¬ byteOrderMark <+: text := by
        intro htext
        rcases List.prefix_or_prefix_of_prefix htext h with h' | h'
        · exact hmark h'
        · exact hpart (List.isPrefixOf_iff_prefix.mpr h')
      rw [if_neg (mt List.isPrefixOf_iff_prefix.mp hnone)]
      split <;> rfl

theorem marked?_eq_true {bytes : Bytes} :
    marked? bytes = some true ↔ byteOrderMark <+: bytes := by
  rw [← List.isPrefixOf_iff_prefix, marked?]
  by_cases h : byteOrderMark.isPrefixOf bytes
  · simp [h]
  · rw [if_neg h]
    split <;> simp [h]

theorem skipMark_of_steady {s : Stream} (hs : s.Steady) :
    ∃ s', s.skipMark = (.ok (), s') ∧ s'.Steady ∧ s'.cursor = s.cursor.skipMark
      ∧ (s.AtHand → s'.AtHand) := by
  have hskip := s.cursor.skipWhile_false
  have hdrop : s.cursor.rest.dropWhile (fun _ => false) = s.cursor.rest := by
    rw [← Cursor.rest_skipWhile, hskip]
  obtain ⟨s', hgather, hs', hcursor, hhand⟩ := gather_of_steady (fun _ => false) marked?
    (fun bytes => marked? bytes == some true) rfl hs (by
      rw [hdrop]
      exact fun part hpart _ b hb => marked?_of_prefix hpart hb)
  rw [hdrop] at hgather
  rw [hskip] at hcursor
  rw [skipMark]
  simp only [hgather, Cursor.skipMark]
  cases hmarked : marked? s.cursor.rest == some true with
  | false => exact ⟨s', rfl, hs', hcursor, hhand⟩
  | true =>
    -- the mark is told by the bytes in the window
    have hlength : byteOrderMark.length ≤ s'.window.pending.length := by
      rw [hmarked] at hgather
      rcases gather_ok hgather with hlook | ⟨-, hlast⟩
      · exact (marked?_eq_true.mp hlook).length_le
      · exact (marked?_eq_true.mp (by simpa using hlast)).length_le
    refine ⟨_, rfl, hs'.skip _, ?_, fun hat => (hhand hat).skip _⟩
    rw [if_pos rfl, if_pos rfl, cursor_skip hlength, hcursor]

theorem length_of_opens? {bytes : Bytes} {b : Bool} (h : opens? bytes = some b) :
    1 ≤ bytes.length := by
  cases bytes with
  | nil => cases h
  | cons _ _ => simp

theorem opens?_of_prefix {part text : Bytes} (h : part <+: text) {b : Bool}
    (hb : opens? part = some b) : b = (opens? text == some true) := by
  obtain ⟨more, rfl⟩ := h
  cases part with
  | nil => cases hb
  | cons first part =>
    cases hb
    simp [opens?]

theorem enter_of_steady {s : Stream} (hs : s.Steady) :
    ∃ s', s.enter = (.ok s.cursor.enter.1, s') ∧ s'.Steady ∧ s'.cursor = s.cursor.enter.2
      ∧ (s.AtHand → s'.AtHand) := by
  obtain ⟨marked, hmark, hsm, hcursorm, hhandm⟩ := skipMark_of_steady hs
  obtain ⟨s', hgather, hs', hcursor, hhand⟩ := gather_of_steady Ascii.isSpace opens?
    (fun bytes => opens? bytes == some true) rfl hsm fun part hpart _ b hb =>
      opens?_of_prefix hpart hb
  rw [hcursorm] at hgather hcursor
  rw [← Cursor.rest_skipWhile] at hgather
  simp only [enter, hmark, Cursor.enter]
  cases hopens : opens? (s.cursor.skipMark.skipWhile Ascii.isSpace).rest == some true with
  | false =>
    rw [hopens] at hgather
    exact ⟨s', by rw [hgather]; rfl, hs', hcursor, fun hat => hhand (hhandm hat)⟩
  | true =>
    rw [hopens] at hgather
    have hlength : 1 ≤ s'.window.pending.length := by
      rcases gather_ok hgather with hlook | ⟨-, hlast⟩
      · exact length_of_opens? hlook
      · exact length_of_opens? (b := true) (by simpa using hlast)
    refine ⟨s'.skip 1, by rw [hgather]; rfl, hs'.skip 1, ?_, fun hat => (hhand (hhandm hat)).skip 1⟩
    rw [if_pos rfl, cursor_skip hlength, hcursor]

theorem used_le_of_sight? {t : Target α} {final : Bool} {bytes : Bytes} {value : α} {used : Nat}
    (h : sight? t final bytes = some (.item value used)) : used ≤ bytes.length :=
  Target.decode_complete_le (sight?_item h)

theorem length_of_close {t : Target α} {final : Bool} {bytes : Bytes}
    (h : sight? t final bytes = some .close) : 1 ≤ bytes.length := by
  cases bytes with
  | nil => cases h
  | cons _ _ => simp

theorem exists_sight? {t : Target α} {s : Stream} {seen : Sight α} {s' : Stream}
    (h : s.gather isBetween (sight? t false) (fun bytes => (sight? t true bytes).getD .nothing)
      = (.ok seen, s')) (hseen : seen ≠ .nothing) :
    ∃ final, sight? t final s'.window.pending = some seen := by
  rcases gather_ok h with hlook | ⟨-, hlast⟩
  · exact ⟨false, hlook⟩
  · cases hsight : sight? t true s'.window.pending with
    | none =>
      rw [hsight] at hlast
      exact absurd hlast.symm hseen
    | some other =>
      rw [hsight] at hlast
      exact ⟨true, hlast ▸ hsight⟩

theorem nextItem_of_steady {t : Target α} {s : Stream} (hs : s.Steady)
    (h : s.AtHand ∨ t.Foresees (s.cursor.skipWhile isBetween).rest) :
    ∃ s', s.nextItem t = ((s.cursor.nextItem t).1, s') ∧ s'.Steady
      ∧ s'.cursor = (s.cursor.nextItem t).2 ∧ (s.AtHand → s'.AtHand) := by
  obtain ⟨g, hgather, hg, hcursor, hhand⟩ := gather_of_steady isBetween (sight? t false)
    (fun bytes => (sight? t true bytes).getD .nothing) rfl hs (by
      intro part hpart hall seen hseen
      rw [Cursor.rest_skipWhile] at h
      rcases h with hat | hforesees
      · rw [← hall hat, sight?_final hseen]
        rfl
      · rw [hforesees part hpart seen hseen]
        rfl)
  rw [← Cursor.rest_skipWhile] at hgather
  simp only [nextItem, hgather, Cursor.nextItem]
  cases hseen : (sight? t true (s.cursor.skipWhile isBetween).rest).getD .nothing with
  | item value used =>
    rw [hseen] at hgather
    obtain ⟨final, hsight⟩ := exists_sight? hgather (by simp)
    have hskip := cursor_skip (used_le_of_sight? hsight)
    refine ⟨{ g.skip used with phase := .items }, rfl, (hg.skip used).inPhase _, ?_,
      fun hat => (hhand hat).skip used⟩
    rw [← hcursor]
    simp only [cursor, Cursor.skip, Cursor.mk.injEq] at hskip ⊢
    exact ⟨trivial, hskip.2.1, hskip.2.2⟩
  | fault fault =>
    exact ⟨g.finish, by rw [← hcursor]; rfl, hg.inPhase _, by rw [cursor_finish, hcursor], hhand⟩
  | close =>
    rw [hseen] at hgather
    obtain ⟨final, hsight⟩ := exists_sight? hgather (by simp)
    refine ⟨(g.skip 1).finish, rfl, (hg.skip 1).inPhase _, ?_, fun hat => (hhand hat).skip 1⟩
    rw [cursor_finish, cursor_skip (length_of_close hsight), hcursor]
  | nothing => exact ⟨g.finish, rfl, hg.inPhase _, by rw [cursor_finish, hcursor], hhand⟩

/-- **A call on a steady stream does what its cursor tells**, if all bytes are at hand or the text
ahead shows no more in parts than as a whole. -/
theorem next_of_steady {t : Target α} {s : Stream} (hs : s.Steady)
    (h : s.AtHand ∨ t.Foresees s.cursor.upcoming) :
    ∃ s', s.next t = ((s.cursor.next t).1, s') ∧ s'.Steady ∧ s'.cursor = (s.cursor.next t).2
      ∧ (s.AtHand → s'.AtHand) := by
  have hphase : s.cursor.phase = s.phase := rfl
  rw [next, Cursor.next]
  rw [hphase]
  cases hp : s.phase with
  | done => exact ⟨s, rfl, hs, rfl, id⟩
  | items =>
    refine nextItem_of_steady hs (h.imp id fun hforesees => ?_)
    simpa only [Cursor.upcoming, hphase, hp] using hforesees
  | opening =>
    obtain ⟨g, henter, hg, hcursor, hhand⟩ := enter_of_steady hs
    simp only [henter]
    rcases hentry : s.cursor.enter with ⟨found, within⟩
    rw [hentry] at hcursor
    cases found with
    | false => exact ⟨g.finish, rfl, hg.inPhase _, by rw [cursor_finish, hcursor], hhand⟩
    | true =>
      have h' : g.AtHand ∨ t.Foresees (g.cursor.skipWhile isBetween).rest := by
        refine h.imp hhand fun hforesees => ?_
        simp only [Cursor.upcoming, hphase, hp, hentry] at hforesees
        rwa [hcursor]
      obtain ⟨s', hnext, hs', hcursor', hhand'⟩ := nextItem_of_steady hg h'
      rw [hcursor] at hnext hcursor'
      exact ⟨s', hnext, hs', hcursor', fun hat => hhand' (hhand hat)⟩

end Stream
end PlayableCards
