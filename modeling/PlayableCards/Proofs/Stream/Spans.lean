import PlayableCards.Proofs.Portion
import PlayableCards.Proofs.Stream.Account
import PlayableCards.Proofs.Stream.Passing

/-!
# Spans of the input

What a run yields is accounted for by the input, whatever the source does: each item is what its
own bytes are decoded to, and only separators stand between one item and the next. A run that is
refused stands at the start of what it refuses.
-/

namespace PlayableCards

namespace Yield

def silent : Yield α → Bool
  | ended | failed (.io _) => true
  | item _ | failed (.parse _ _) => false

end Yield

namespace Stream

variable {t : Target α} {input : Bytes}

/-- The array is entered at `offset`: before it stand a byte-order mark or none, blanks and the
opening bracket. -/
def Enters (input : Bytes) (offset : Nat) : Prop :=
  ∃ mark blanks, (mark = [] ∨ mark = byteOrderMark) ∧ (∀ b ∈ blanks, Ascii.isSpace b)
    ∧ input.take offset = mark ++ (blanks ++ [Ascii.openBracket]) ∧ offset ≤ input.length

def Separated (input : Bytes) (start stop : Nat) : Prop :=
  start ≤ stop ∧ ∀ b ∈ input.extract start stop, isBetween b

/-- A value has to start here: the byte neither separates values nor closes the array. -/
def Begins (input : Bytes) (start : Nat) : Prop :=
  ∃ b, input[start]? = some b ∧ isBetween b = false ∧ b ≠ Ascii.closeBracket

theorem over_skipMark {s s' : Stream} {outcome : Except IoFault Unit}
    (h : s.skipMark = (outcome, s')) :
    ∃ mark, (mark = [] ∨ mark = byteOrderMark) ∧ Cursor.Over mark s.cursor s'.cursor := by
  rw [skipMark] at h
  rcases hgather : s.gather (fun _ => false) marked? (fun bytes => marked? bytes == some true)
    with ⟨told, g⟩
  obtain ⟨passed, hover, hpassed, -⟩ := over_gather hgather
  have hnil : passed = [] := List.eq_nil_iff_forall_not_mem.mpr fun b hb =>
    Bool.false_ne_true (hpassed b hb)
  rw [hnil] at hover
  rw [hgather] at h
  cases told with
  | error fault =>
    cases h
    exact ⟨[], .inl rfl, hover⟩
  | ok marked =>
    cases marked with
    | false =>
      cases h
      exact ⟨[], .inl rfl, hover⟩
    | true =>
      cases h
      have hmark : byteOrderMark <+: g.window.pending := by
        rcases gather_ok hgather with hlook | ⟨-, hlast⟩
        · exact marked?_eq_true.mp hlook
        · exact marked?_eq_true.mp (by simpa using hlast)
      have hskip := hover.trans (over_skip hmark.length_le)
      rw [← List.prefix_iff_eq_take.mp hmark] at hskip
      exact ⟨byteOrderMark, .inr rfl, hskip⟩

theorem over_enter {s s' : Stream} (h : s.enter = (.ok true, s')) :
    ∃ mark blanks, (mark = [] ∨ mark = byteOrderMark) ∧ (∀ b ∈ blanks, Ascii.isSpace b)
      ∧ Cursor.Over (mark ++ (blanks ++ [Ascii.openBracket])) s.cursor s'.cursor := by
  rw [enter] at h
  rcases hmark : s.skipMark with ⟨outcome, g⟩
  obtain ⟨mark, hmarked, hover⟩ := over_skipMark hmark
  rw [hmark] at h
  cases outcome with
  | error fault => cases h
  | ok _ =>
    simp only at h
    rcases hgather : g.gather Ascii.isSpace opens? (fun bytes => opens? bytes == some true)
      with ⟨told, g'⟩
    obtain ⟨blanks, hover', hblanks, -⟩ := over_gather hgather
    rw [hgather] at h
    have hopens : told = .ok true → opens? g'.window.pending = some true := by
      rintro rfl
      rcases gather_ok hgather with hlook | ⟨-, hlast⟩
      · exact hlook
      · simpa using hlast
    split at h
    · rename_i g'' heq
      cases heq
      cases h
      have hfirst := hopens rfl
      cases hpending : g'.window.pending with
      | nil => simp [hpending, opens?] at hfirst
      | cons b rest =>
        simp only [hpending, opens?, Option.some.injEq, beq_iff_eq] at hfirst
        have hskip := over_skip (s := g') (n := 1) (by simp [hpending])
        rw [hpending, List.take_succ_cons, List.take_zero, hfirst] at hskip
        exact ⟨mark, blanks, hmarked, hblanks, hover.trans (hover'.trans hskip)⟩
    · rename_i hnot
      exact (hnot _ h).elim

theorem enters_of_over {s s' : Stream} (hs : s.cursor = Cursor.start input)
    (h : s.enter = (.ok true, s')) : s'.cursor.Within input ∧ Enters input s'.offset := by
  obtain ⟨mark, blanks, hmark, hblanks, hover⟩ := over_enter h
  rw [hs] at hover
  have hwithin := hover.within (Cursor.within_start input)
  have hfront : input.extract 0 s'.offset = mark ++ (blanks ++ [Ascii.openBracket]) :=
    hover.extract (Cursor.within_start input)
  rw [List.extract_eq_take_drop, List.drop_zero, Nat.sub_zero] at hfront
  exact ⟨hwithin, mark, blanks, hmark, hblanks, hfront, hwithin.1⟩

end Stream
end PlayableCards
