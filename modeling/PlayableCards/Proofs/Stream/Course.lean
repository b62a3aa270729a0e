import PlayableCards.Proofs.Stream.Account

/-!
# The course of a cursor

What a cursor yields to its end follows from the texts that its items are looked for in. A steady
stream takes the course of its cursor under any calls, as long as no part of these texts shows more
than the whole.
-/

namespace PlayableCards
namespace Cursor

/-- How the text that an item is looked for in leads on. -/
inductive Onward (t : Target α) (text : Bytes) : Yield α × Cursor → Prop where
  | item {value : α} {used offset : Nat}
      (seen : Stream.sight? t true text = some (.item value used)) :
      Onward t text (.item value, ⟨.items, offset, text.drop used⟩)
  | failed {fault : Fault} {offset : Nat} (seen : Stream.sight? t true text = some (.fault fault)) :
      Onward t text (.failed (.parse offset fault), ⟨.done, offset, text⟩)
  | closed {cur : Cursor} (seen : Stream.sight? t true text = some .close)
      (done : cur.phase = .done) : Onward t text (.ended, cur)
  | ended {cur : Cursor} (seen : Stream.sight? t true text = none) (done : cur.phase = .done) :
      Onward t text (.ended, cur)

theorem sight?_ne_nothing (t : Target α) (final : Bool) (text : Bytes) :
    Stream.sight? t final text ≠ some .nothing := by
  unfold Stream.sight?
  repeat' split
  all_goals simp

theorem onward_nextItem (t : Target α) (cur : Cursor) :
    Onward t (cur.skipWhile Stream.isBetween).rest (cur.nextItem t) := by
  simp only [nextItem]
  cases hseen : Stream.sight? t true (cur.skipWhile Stream.isBetween).rest with
  | none => exact .ended hseen rfl
  | some seen =>
    cases seen with
    | item value used => exact .item hseen
    | fault fault => exact .failed hseen
    | close => exact .closed hseen rfl
    | nothing => exact absurd hseen (sight?_ne_nothing t true _)

theorem onward_next (t : Target α) (cur : Cursor) : Onward t cur.upcoming (cur.next t) := by
  rw [next, upcoming]
  cases hphase : cur.phase with
  | done => exact .ended rfl hphase
  | items => exact onward_nextItem t cur
  | opening =>
    rcases hentry : cur.enter with ⟨found, within⟩
    cases found with
    | false => exact .ended rfl rfl
    | true => exact onward_nextItem t within

theorem skip_suffix (cur : Cursor) (n : Nat) : (cur.skip n).rest <:+ cur.rest :=
  List.drop_suffix n _

theorem enter_suffix (cur : Cursor) : cur.enter.2.rest <:+ cur.rest := by
  have hmark : cur.skipMark.rest <:+ cur.rest := by
    rw [skipMark]
    split
    · exact cur.skip_suffix _
    · exact List.suffix_refl _
  have hblanks : (cur.skipMark.skipWhile Ascii.isSpace).rest <:+ cur.rest :=
    (cur.skipMark.skip_suffix _).trans hmark
  unfold enter
  simp only
  split
  · exact (skip_suffix _ 1).trans hblanks
  · exact hblanks

theorem upcoming_suffix (cur : Cursor) : cur.upcoming <:+ cur.rest := by
  rw [upcoming]
  cases cur.phase with
  | done => exact List.nil_suffix
  | items => exact cur.skip_suffix _
  | opening =>
    have henter := cur.enter_suffix
    rcases hentry : cur.enter with ⟨found, within⟩
    rw [hentry] at henter
    cases found with
    | false => exact List.nil_suffix
    | true => exact (within.skip_suffix _).trans henter

theorem length_next_lt {t : Target α} {cur cur' : Cursor} {value : α}
    (h : cur.next t = (.item value, cur')) : cur'.rest.length < cur.rest.length := by
  have honward := cur.onward_next t
  have hle := cur.upcoming_suffix.length_le
  rw [h] at honward
  cases honward with
  | item seen =>
    have hdecode := Stream.sight?_item seen
    have hpos := Target.decode_complete_pos hdecode
    have hused := Target.decode_complete_le hdecode
    simp only [List.length_drop]
    omega

/-- What holds where no item follows, and before an item if it holds behind it, holds anywhere. -/
theorem course_induction (t : Target α) {motive : Cursor → Prop}
    (last : ∀ cur, (∀ value, (cur.next t).1 ≠ .item value) → motive cur)
    (item : ∀ cur value cur', cur.next t = (.item value, cur') → motive cur' → motive cur)
    (cur : Cursor) : motive cur := by
  induction hn : cur.rest.length using Nat.strong_induction_on generalizing cur with
  | _ n ih =>
    subst hn
    rcases hnext : cur.next t with ⟨yielded, cur'⟩
    cases yielded with
    | item value => exact item cur value cur' hnext (ih _ (length_next_lt hnext) cur' rfl)
    | failed fault => exact last cur (by simp [hnext])
    | ended => exact last cur (by simp [hnext])

def account (t : Target α) (cur : Cursor) : Account α :=
  match _h : cur.next t with
  | (.ended, cur') => ⟨[], none, cur'.offset⟩
  | (.failed fault, cur') => ⟨[], some fault, cur'.offset⟩
  | (.item value, cur') => (account t cur').cons (value, cur'.offset)
termination_by cur.rest.length
decreasing_by exact length_next_lt _h

def last (t : Target α) (cur : Cursor) : Cursor :=
  match _h : cur.next t with
  | (.ended, _) | (.failed _, _) => cur
  | (.item _, cur') => last t cur'
termination_by cur.rest.length
decreasing_by exact length_next_lt _h

theorem account_of_item {t : Target α} {cur cur' : Cursor} {value : α}
    (h : cur.next t = (.item value, cur')) :
    cur.account t = (cur'.account t).cons (value, cur'.offset) := by
  rw [account]
  split <;> rename_i heq <;> cases h.symm.trans heq
  rfl

theorem account_of_failed {t : Target α} {cur cur' : Cursor} {fault : StreamFault}
    (h : cur.next t = (.failed fault, cur')) : cur.account t = ⟨[], some fault, cur'.offset⟩ := by
  rw [account]
  split <;> rename_i heq <;> cases h.symm.trans heq
  rfl

theorem account_of_ended {t : Target α} {cur cur' : Cursor}
    (h : cur.next t = (.ended, cur')) : cur.account t = ⟨[], none, cur'.offset⟩ := by
  rw [account]
  split <;> rename_i heq <;> cases h.symm.trans heq
  rfl

theorem last_of_item {t : Target α} {cur cur' : Cursor} {value : α}
    (h : cur.next t = (.item value, cur')) : cur.last t = cur'.last t := by
  rw [last]
  split <;> rename_i heq <;> cases h.symm.trans heq
  rfl

theorem last_of_ne_item {t : Target α} {cur : Cursor} (h : ∀ value, (cur.next t).1 ≠ .item value) :
    cur.last t = cur := by
  rw [last]
  split <;> rename_i heq
  · rfl
  · rfl
  · exact absurd (congrArg Prod.fst heq) (h _)

theorem next_last (t : Target α) (cur : Cursor) (value : α) :
    ((cur.last t).next t).1 ≠ .item value := by
  induction cur using course_induction t with
  | last cur h =>
    rw [last_of_ne_item h]
    exact h value
  | item cur value' cur' hnext ih => rwa [last_of_item hnext]

theorem fault_account (t : Target α) (cur : Cursor) :
    (cur.account t).fault = ((cur.last t).account t).fault := by
  induction cur using course_induction t with
  | last cur h => rw [last_of_ne_item h]
  | item cur value cur' hnext ih =>
    rw [last_of_item hnext, account_of_item hnext]
    exact ih

theorem last_suffix (t : Target α) (cur : Cursor) : (cur.last t).rest <:+ cur.rest := by
  induction cur using course_induction t with
  | last cur h =>
    simp only [last_of_ne_item h, List.suffix_refl]
  | item cur value cur' hnext ih =>
    have honward := cur.onward_next t
    rw [hnext] at honward
    cases honward with
    | item seen =>
      rw [last_of_item hnext]
      exact (ih.trans (List.drop_suffix _ _)).trans cur.upcoming_suffix

theorem Within.nextItem (t : Target α) {cur : Cursor} {input : Bytes} (h : cur.Within input) :
    (cur.nextItem t).2.Within input := by
  have hahead := h.skipWhile Stream.isBetween
  simp only [Cursor.nextItem]
  split
  · exact hahead.skip _
  · exact hahead
  · exact hahead.skip 1
  · exact hahead

theorem Within.next (t : Target α) {cur : Cursor} {input : Bytes} (h : cur.Within input) :
    (cur.next t).2.Within input := by
  unfold Cursor.next
  cases cur.phase with
  | done => exact h
  | items => exact h.nextItem t
  | opening =>
    have henter := h.enter
    rcases hentry : cur.enter with ⟨found, within⟩
    rw [hentry] at henter
    cases found with
    | false => exact henter
    | true => exact henter.nextItem t

theorem Within.last (t : Target α) {cur : Cursor} {input : Bytes} (h : cur.Within input) :
    (cur.last t).Within input := by
  induction cur using course_induction t with
  | last cur hlast => rwa [last_of_ne_item hlast]
  | item cur value cur' hnext ih =>
    rw [last_of_item hnext]
    exact ih (by simpa [hnext] using h.next t)

theorem seen_of_failed {t : Target α} {cur : Cursor} {items : List (α × Nat)} {at' offset : Nat}
    {fault : Fault} (h : cur.account t = ⟨items, some (.parse at' fault), offset⟩) {input : Bytes}
    (hwithin : cur.Within input) :
    Stream.sight? t true (cur.last t).upcoming = some (.fault fault)
      ∧ (cur.last t).upcoming = input.drop at' := by
  have hfault := fault_account t cur
  have honward := (cur.last t).onward_next t
  have hwithin' := (hwithin.last t).next t
  rw [h] at hfault
  rcases hnext : (cur.last t).next t with ⟨yielded, cur'⟩
  rw [hnext] at honward hwithin'
  cases honward with
  | item seen => exact absurd (congrArg Prod.fst hnext) (next_last t cur _)
  | failed seen =>
    rw [account_of_failed hnext] at hfault
    cases hfault
    exact ⟨seen, hwithin'.2⟩
  | closed seen | ended seen =>
    rw [account_of_ended hnext] at hfault
    cases hfault

theorem seen_of_ended {t : Target α} {cur : Cursor} {items : List (α × Nat)} {offset : Nat}
    (h : cur.account t = ⟨items, none, offset⟩) :
    Stream.sight? t true (cur.last t).upcoming = none
      ∨ Stream.sight? t true (cur.last t).upcoming = some .close := by
  have hfault := fault_account t cur
  have honward := (cur.last t).onward_next t
  rw [h] at hfault
  rcases hnext : (cur.last t).next t with ⟨yielded, cur'⟩
  rw [hnext] at honward
  cases honward with
  | item seen => exact absurd (congrArg Prod.fst hnext) (next_last t cur _)
  | failed seen =>
    rw [account_of_failed hnext] at hfault
    cases hfault
  | closed seen => exact .inr seen
  | ended seen => exact .inl seen

/-- No part of a text that an item is looked for in shows more than all of it. -/
inductive Foreseen (t : Target α) : Cursor → Prop where
  | intro {cur : Cursor} (here : t.Foresees cur.upcoming)
      (onward : ∀ value cur', cur.next t = (.item value, cur') → Foreseen t cur') : Foreseen t cur

/-- Where items are foreseen, all that matters is the last text. -/
theorem foreseen_of_last {t : Target α}
    (hitems : ∀ text value used, Stream.sight? t true text = some (.item value used) →
      t.Foresees text)
    {cur : Cursor} (hlast : t.Foresees (cur.last t).upcoming) : cur.Foreseen t := by
  induction cur using course_induction t with
  | last cur h =>
    rw [last_of_ne_item h] at hlast
    exact .intro hlast fun value cur' hnext => absurd (congrArg Prod.fst hnext) (h value)
  | item cur value cur' hnext ih =>
    have honward := cur.onward_next t
    rw [hnext] at honward
    rw [last_of_item hnext] at hlast
    refine .intro ?_ fun value' cur'' hnext' => ?_
    · cases honward with
      | item seen => exact hitems _ _ _ seen
    · cases hnext.symm.trans hnext'
      exact ih hlast

end Cursor

namespace Stream

theorem account_of_atHand {t : Target α} {cur : Cursor} {s : Stream} (hs : s.Steady)
    (hat : s.AtHand) (hcursor : s.cursor = cur) : s.account t = cur.account t := by
  induction cur using Cursor.course_induction t generalizing s with
  | last cur h =>
    subst hcursor
    obtain ⟨s', hnext, -, hcursor', -⟩ := next_of_steady (t := t) hs (.inl hat)
    have hoffset : s'.offset = (s.cursor.next t).2.offset := congrArg Cursor.offset hcursor'
    rcases hcur : s.cursor.next t with ⟨yielded, cur'⟩
    rw [hcur] at hnext hoffset
    cases yielded with
    | item value => exact absurd (congrArg Prod.fst hcur) (h value)
    | failed fault => rw [account_of_failed hnext, Cursor.account_of_failed hcur, hoffset]
    | ended => rw [account_of_ended hnext, Cursor.account_of_ended hcur, hoffset]
  | item cur value cur' hcur ih =>
    subst hcursor
    obtain ⟨s', hnext, hs', hcursor', hhand⟩ := next_of_steady (t := t) hs (.inl hat)
    rw [hcur] at hnext hcursor'
    have hoffset : s'.offset = cur'.offset := congrArg Cursor.offset hcursor'
    rw [account_of_item hnext, Cursor.account_of_item hcur, ih hs' (hhand hat) hcursor', hoffset]

/-- **A steady stream yields what its cursor tells**, whatever is called, if each text ahead shows
no more in parts than as a whole. -/
theorem yields_of_foreseen {t : Target α} {cur : Cursor} (h : cur.Foreseen t) {s : Stream}
    (hs : s.Steady) (hcursor : s.cursor = cur) : s.Yields t (cur.account t) := by
  induction h generalizing s with
  | @intro cur here onward ih =>
    intro calls
    induction calls generalizing s with
    | nil => rfl
    | cons call calls ihcalls =>
      cases call with
      | chunk size => exact ihcalls (hs.withChunk size) hcursor
      | next =>
        subst hcursor
        obtain ⟨s', hnext, hs', hcursor', -⟩ := next_of_steady hs (.inr here)
        rcases hcur : s.cursor.next t with ⟨yielded, cur'⟩
        rw [hcur] at hnext hcursor'
        have hoffset : s'.offset = cur'.offset := congrArg Cursor.offset hcursor'
        have hnexts : Call.nexts (.next :: calls) = Call.nexts calls + 1 := List.count_cons_self
        simp only [answers, hnext, hnexts]
        cases yielded with
        | item value =>
          rw [Cursor.account_of_item hcur, Account.answers_cons, hoffset,
            ih value cur' hcur hs' hcursor' calls]
        | failed fault =>
          rw [Cursor.account_of_failed hcur, Account.answers_failed,
            answers_done (phase_next hnext (by simp)), hoffset]
        | ended =>
          rw [Cursor.account_of_ended hcur, Account.answers_ended,
            answers_done (phase_next hnext (by simp)), hoffset]
          rfl

end Stream
end PlayableCards
