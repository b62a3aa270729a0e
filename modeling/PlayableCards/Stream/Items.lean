import PlayableCards.Json.Decode
import PlayableCards.Stream.Basic

/-!
# Items of an array

Yields the items of a JSON array one at a time. Blanks and a byte-order mark may precede the
array; commas and blanks between items are skipped alike. An input that is not an array, or ends
within a value, ends the stream silently; text that cannot become a value ends it with a fault.
-/

namespace PlayableCards

inductive StreamFault where
  | io (fault : IoFault)
  | parse (offset : Nat) (fault : Fault)

namespace StreamFault

def reason : StreamFault → String
  | io fault => fault.text
  | parse _ fault => fault.message

def message : StreamFault → String
  | io fault => "I/O error: " ++ fault.text
  | parse offset fault =>
    "JSON parse error in value at byte " ++ toString offset ++ ": " ++ fault.message

end StreamFault

inductive Yield (α : Type) where
  | item (value : α)
  | failed (fault : StreamFault)
  | ended

/-- What stands between two items, or after the last. -/
inductive Sight (α : Type) where
  | item (value : α) (used : Nat)
  | fault (fault : Fault)
  | close
  | nothing

namespace Stream

def byteOrderMark : Bytes := [0xEF, 0xBB, 0xBF]

/-- Whether the input starts with a byte-order mark, if the bytes at hand show it. -/
def marked? (bytes : Bytes) : Option Bool :=
  if byteOrderMark.isPrefixOf bytes then some true
  else if bytes.isPrefixOf byteOrderMark then none
  else some false

def opens? : Bytes → Option Bool
  | [] => none
  | b :: _ => some (b == Ascii.openBracket)

def skipMark (s : Stream) : Except IoFault Unit × Stream :=
  match s.gather (fun _ => false) marked? (fun bytes => marked? bytes == some true) with
  | (.error fault, s') => (.error fault, s')
  | (.ok marked, s') => (.ok (), if marked then s'.skip byteOrderMark.length else s')

/-- Whether there is an array; if so, comes to the first byte within it. -/
def enter (s : Stream) : Except IoFault Bool × Stream :=
  match s.skipMark with
  | (.error fault, s') => (.error fault, s')
  | (.ok _, s') =>
    match s'.gather Ascii.isSpace opens? (fun bytes => opens? bytes == some true) with
    | (.ok true, s'') => (.ok true, s''.skip 1)
    | other => other

def isBetween (b : UInt8) : Bool := Ascii.isSpace b || b == Ascii.comma

/-- What the bytes after a separator show, if they suffice; `final` tells that no more follow. -/
def sight? (t : Target α) (final : Bool) : Bytes → Option (Sight α)
  | [] => none
  | b :: rest =>
    if b = Ascii.closeBracket then some .close
    else
      match t.decode (b :: rest) final with
      | .complete value used => some (.item value used)
      | .invalid fault => some (.fault fault)
      | .incomplete => none

/-- The next item from between items. Bytes that hold none yet are decoded anew after each read,
and once more when the input has ended. -/
def nextItem (t : Target α) (s : Stream) : Yield α × Stream :=
  match s.gather isBetween (sight? t false) (fun bytes => (sight? t true bytes).getD .nothing) with
  | (.error fault, s') => (.failed (.io fault), s'.finish)
  | (.ok (.item value used), s') => (.item value, { s'.skip used with phase := .items })
  | (.ok (.fault fault), s') => (.failed (.parse s'.offset fault), s'.finish)
  | (.ok .close, s') => (.ended, (s'.skip 1).finish)
  | (.ok .nothing, s') => (.ended, s'.finish)

theorem sight?_item {t : Target α} {final : Bool} {bytes : Bytes} {value : α} {used : Nat}
    (h : sight? t final bytes = some (.item value used)) :
    t.decode bytes final = .complete value used := by
  unfold sight? at h
  split at h
  · simp at h
  · split at h
    · simp at h
    · split at h <;> simp_all

theorem remaining_nextItem_lt {t : Target α} {s s' : Stream} {value : α}
    (h : s.nextItem t = (.item value, s')) : s'.remaining < s.remaining := by
  unfold nextItem at h
  split at h
  · simp at h
  · rename_i v used g hgather
    simp only [Prod.mk.injEq, Yield.item.injEq] at h
    have hle := remaining_gather_le isBetween (sight? t false)
      (fun bytes => (sight? t true bytes).getD .nothing) s
    have hdecode : ∃ final, t.decode g.window.pending final = .complete v used := by
      rcases gather_ok hgather with hlook | ⟨-, hlast⟩
      · exact ⟨false, sight?_item hlook⟩
      · cases hsight : sight? t true g.window.pending with
        | none => simp [hsight] at hlast
        | some sight =>
          simp only [hsight, Option.getD_some] at hlast
          exact ⟨true, sight?_item (hlast ▸ hsight)⟩
    obtain ⟨final, hdecode⟩ := hdecode
    have hpos := Target.decode_complete_pos hdecode
    have hskip := remaining_skip g used (Target.decode_complete_le hdecode)
    rw [hgather] at hle
    rw [← h.2]
    change (g.skip used).remaining < s.remaining
    simp only at hle
    omega
  all_goals simp at h

/-- The next item. Once a stream has ended or failed it yields no more and reads no more. -/
def next (t : Target α) (s : Stream) : Yield α × Stream :=
  match s.phase with
  | .done => (.ended, s)
  | .items => s.nextItem t
  | .opening =>
    match s.enter with
    | (.error fault, s') => (.failed (.io fault), s'.finish)
    | (.ok false, s') => (.ended, s'.finish)
    | (.ok true, s') => s'.nextItem t

theorem remaining_skipMark_le (s : Stream) : s.skipMark.2.remaining ≤ s.remaining := by
  unfold skipMark
  have hle := remaining_gather_le (fun _ => false) marked? (fun bytes => marked? bytes == some true) s
  split
  · rename_i h
    simpa [h] using hle
  · rename_i marked g h
    simp only [h] at hle
    cases marked with
    | false => simpa using hle
    | true =>
      simp only [if_true, remaining, skip, Window.pending_skip, List.length_drop]
      simp only [remaining] at hle
      omega

theorem remaining_enter_le (s : Stream) : s.enter.2.remaining ≤ s.remaining := by
  unfold enter
  have hmark := remaining_skipMark_le s
  split
  · rename_i h
    simpa [h] using hmark
  · rename_i g h
    simp only [h] at hmark
    have hle := remaining_gather_le Ascii.isSpace opens? (fun bytes => opens? bytes == some true) g
    split
    · rename_i g' h'
      simp only [h'] at hle
      simp only [remaining, skip, Window.pending_skip, List.length_drop] at *
      omega
    · omega

theorem remaining_next_lt {t : Target α} {s s' : Stream} {value : α}
    (h : s.next t = (.item value, s')) : s'.remaining < s.remaining := by
  unfold next at h
  split at h
  · simp at h
  · exact remaining_nextItem_lt h
  · have hle := remaining_enter_le s
    split at h
    · simp at h
    · simp at h
    · rename_i g henter
      have := remaining_nextItem_lt h
      simp only [henter] at hle
      omega

end Stream

end PlayableCards
