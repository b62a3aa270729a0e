import PlayableCards.Proofs.Stream.Course

/-!
# Coming to the array

Where a stream looks for its array is a matter of the input alone: behind one byte-order mark, if
the input starts with all of it, and behind the blanks there.
-/

namespace PlayableCards

/-- The input behind the byte-order mark that it may start with. -/
def unmarked (input : Bytes) : Bytes :=
  if Stream.byteOrderMark.isPrefixOf input then input.drop Stream.byteOrderMark.length else input

namespace Cursor

variable {input : Bytes}

theorem rest_skipMark (cur : Cursor) : cur.skipMark.rest = unmarked cur.rest := by
  rw [skipMark, unmarked]
  by_cases hmark : Stream.byteOrderMark <+: cur.rest
  · rw [if_pos (List.isPrefixOf_iff_prefix.mpr hmark),
      if_pos (beq_iff_eq.mpr (Stream.marked?_eq_true.mpr hmark)), rest_skip]
  · rw [if_neg (mt List.isPrefixOf_iff_prefix.mp hmark),
      if_neg (mt beq_iff_eq.mp (mt Stream.marked?_eq_true.mp hmark))]

theorem Within.offset_eq {cur : Cursor} (h : cur.Within input) :
    cur.offset = input.length - cur.rest.length := by
  have hlength := congrArg List.length h.2
  rw [List.length_drop] at hlength
  have := h.1
  omega

theorem opens?_eq_head? (bytes : Bytes) :
    (Stream.opens? bytes == some true) = (bytes.head? == some Ascii.openBracket) := by
  cases bytes <;> simp [Stream.opens?]

theorem ahead_start (input first : Bytes)
    (h : first = (unmarked input).dropWhile Ascii.isSpace) :
    (start input).skipMark.skipWhile Ascii.isSpace
      = ⟨.opening, input.length - first.length, first⟩ := by
  have hrest : ((start input).skipMark.skipWhile Ascii.isSpace).rest = first := by
    rw [rest_skipWhile, rest_skipMark, h]
    rfl
  have hoffset := ((within_start input).skipMark.skipWhile Ascii.isSpace).offset_eq
  have hphase : ((start input).skipMark.skipWhile Ascii.isSpace).phase = .opening := by
    rw [skipWhile, skipMark]
    split <;> rfl
  rw [hrest] at hoffset
  rw [← hoffset, ← hphase, ← hrest]

theorem enter_start (input first : Bytes)
    (h : first = (unmarked input).dropWhile Ascii.isSpace) :
    (start input).enter =
      if first.head? = some Ascii.openBracket
        then (true, ⟨.opening, input.length - first.length + 1, first.tail⟩)
        else (false, ⟨.opening, input.length - first.length, first⟩) := by
  simp only [enter, ahead_start input first h, opens?_eq_head?]
  cases first with
  | nil => rfl
  | cons b rest => by_cases hb : b = Ascii.openBracket <;> simp [hb, skip]

end Cursor

namespace Stream

theorem yields_of_not_entered (t : Target α) {s : Stream} (hs : s.Steady) {before : Cursor}
    (hphase : s.phase = .opening) (h : s.cursor.enter = (false, before)) :
    s.Yields t ⟨[], none, before.offset⟩ := by
  have hnext : s.cursor.next t = (.ended, before.finish) := by
    simp only [Cursor.next, show s.cursor.phase = .opening from hphase, h]
  have hupcoming : s.cursor.upcoming = [] := by
    simp only [Cursor.upcoming, show s.cursor.phase = .opening from hphase, h]
  have hforeseen : s.cursor.Foreseen t := by
    refine .intro (fun part hpart seen hseen => ?_) fun value cur' heq => ?_
    · rw [hupcoming, List.prefix_nil] at hpart
      subst hpart
      cases hseen
    · cases hnext.symm.trans heq
  rw [show before.offset = before.finish.offset from rfl, ← Cursor.account_of_ended hnext]
  exact yields_of_foreseen hforeseen hs rfl

/-- **The array is entered if and only if a bracket is the first byte that is not blank**, behind
the byte-order mark that the input may start with, however the input is read. Items are looked for
behind the bracket. If anything else comes first, or nothing, no call gives an item or a fault, and
the offset is where that byte stands, or the end of the input. -/
theorem array_entered (t : Target α) (input : Bytes) {script : List ReadEvent}
    (h : script.all ReadEvent.brings) (size : Nat) :
    let s := (ofSource (.ofBytes input script)).withChunk size
    let first := (unmarked input).dropWhile Ascii.isSpace
    let lead := input.length - first.length
    input.drop lead = first
      ∧ s.enter.1 = .ok (first.head? == some Ascii.openBracket)
      ∧ (first.head? = some Ascii.openBracket →
        s.next t = s.enter.2.nextItem t ∧ s.enter.2.offset = lead + 1
          ∧ s.enter.2.window.pending ++ s.enter.2.source.unread = first.tail)
      ∧ (first.head? ≠ some Ascii.openBracket → s.Yields t ⟨[], none, lead⟩) := by
  intro s first lead
  have hs : s.Steady := (steady_ofSource h).withChunk size
  have hcursor : s.cursor = .start input := rfl
  have hentry := Cursor.enter_start input first rfl
  obtain ⟨s', henter, -, hafter, -⟩ := enter_of_steady hs
  rw [hcursor, hentry] at henter hafter
  have hwithin := (Cursor.within_start input).skipMark.skipWhile Ascii.isSpace
  rw [Cursor.ahead_start input first rfl] at hwithin
  refine ⟨hwithin.2.symm, ?_, fun hopens => ?_, fun hother => ?_⟩
  · rw [henter]
    split <;> simp [*]
  · rw [if_pos hopens] at henter hafter
    refine ⟨?_, ?_, ?_⟩
    · simp only [next, show s.phase = .opening from rfl, henter]
    · rw [henter]
      exact congrArg Cursor.offset hafter
    · rw [henter]
      exact congrArg Cursor.rest hafter
  · rw [if_neg hother] at hentry
    exact yields_of_not_entered t hs rfl hentry

/-- A mark whose bytes come one by one before ` [1]`, and two marks before it. -/
theorem array_entered_behind_mark :
    let input : Bytes := [0xEF, 0xBB, 0xBF, 0x20, 0x5B, 0x31, 0x5D]
    let script := [.deliver 1, .interrupt, .deliver 1, .deliver 1]
    let s := (ofSource (.ofBytes input script)).withChunk 4
    (s.enter.1 = .ok true ∧ s.enter.2.offset = 5)
      ∧ ((ofSource (.ofBytes (byteOrderMark ++ input) script)).withChunk 4).Yields .json
        ⟨[], none, 3⟩ := by
  intro input script s
  have hbrings : script.all ReadEvent.brings := rfl
  obtain ⟨-, henter, hbehind, -⟩ := array_entered .json input hbrings 4
  obtain ⟨-, -, -, hnone⟩ := array_entered .json (byteOrderMark ++ input) hbrings 4
  exact ⟨⟨henter, (hbehind rfl).2.1⟩, hnone (by decide)⟩

end Stream
end PlayableCards
