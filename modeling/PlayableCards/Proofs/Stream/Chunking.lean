import PlayableCards.Card.OfJson
import PlayableCards.Proofs.Foresight
import PlayableCards.Proofs.Stream.Cut

/-!
# Chunking

Whether what a stream yields depends on how its input is cut into reads. A stream that receives all
of it in one read sets the standard; all schedules agree with it but for two kinds of text, at
which the items end: a word that text runs into, which is taken where a read ends behind the word,
and a number with a refused number at its start, which is refused where a read ends behind that.
-/

namespace PlayableCards

inductive Wanted where
  | value
  | card
  | face
  | byte
  | text
  deriving DecidableEq, Repr

namespace Wanted

def type : Wanted → Type
  | value => Json
  | card => Card
  | face => Display
  | byte => UInt8
  | text => String

def target : (w : Wanted) → Target w.type
  | value => .json
  | card => Card.target
  | face => Display.target
  | byte => .byte
  | text => .string

theorem firm (w : Wanted) : w.target.Firm := by
  cases w with
  | value => exact Target.firm_map id
  | card => exact Target.firm_map Card.ofJson
  | face => exact Target.firm_map Display.ofJson
  | byte => exact Target.firm_byte
  | text => exact Target.firm_string

end Wanted

namespace Cursor

theorem dropWhile_upcoming (cur : Cursor) :
    cur.upcoming.dropWhile Ascii.isSpace = cur.upcoming := by
  have hbetween : ∀ within : Cursor,
      (within.skipWhile Stream.isBetween).rest.dropWhile Ascii.isSpace
        = (within.skipWhile Stream.isBetween).rest := by
    intro within
    rw [rest_skipWhile]
    cases h : within.rest.dropWhile Stream.isBetween with
    | nil => rfl
    | cons b rest =>
      have hbetween := neg_of_dropWhile h
      rw [Stream.isBetween, Bool.or_eq_false_iff] at hbetween
      exact List.dropWhile_cons_of_neg (by simp [hbetween.1])
  rw [upcoming]
  cases cur.phase with
  | done => rfl
  | items => exact hbetween cur
  | opening =>
    rcases hentry : cur.enter with ⟨found, within⟩
    cases found with
    | false => rfl
    | true => exact hbetween within

end Cursor

namespace Stream

/-- A stream that all of the input comes to in one read. -/
def atOnce (input : Bytes) : Stream := (ofSource (.ofBytes input [])).withChunk input.length

theorem account_atOnce (t : Target α) (input : Bytes) :
    (atOnce input).account t = (Cursor.start input).account t :=
  account_of_atHand ((steady_ofSource rfl).withChunk _)
    (.inr ⟨rfl, rfl, Nat.le_max_left _ _⟩) rfl

/-- **Rejection does not depend on the schedule** if and only if what is rejected is not a word
with more text on it. -/
theorem rejection_iff (f : Json → α) {input : Bytes} {items : List (α × Nat)} {at' offset : Nat}
    {fault : Fault}
    (h : (atOnce input).account (.map f) = ⟨items, some (.parse at' fault), offset⟩) :
    (∀ script, script.all ReadEvent.brings → (ofSource (.ofBytes input script)).Yields (.map f)
        ⟨items, some (.parse at' fault), offset⟩)
      ↔ Target.runsOn (input.drop at') = false := by
  rw [account_atOnce] at h
  obtain ⟨hseen, hdrop⟩ := Cursor.seen_of_failed h (Cursor.within_start input)
  rw [← h, yields_iff_foresees fun _ _ _ => Target.foresees_of_item (Target.firm_map f),
    Target.foresees_iff_of_fault f (Cursor.dropWhile_upcoming _) hseen, hdrop]

/-- The input `[1 x]`, which is at fault behind a number. -/
theorem rejection_behind_number : ∃ v fault,
    (atOnce [0x5B, 0x31, 0x20, 0x78, 0x5D]).account (.map id)
        = ⟨[(v, 2)], some (.parse 3 fault), 3⟩
      ∧ ∀ script, script.all ReadEvent.brings →
        (ofSource (.ofBytes [0x5B, 0x31, 0x20, 0x78, 0x5D] script)).Yields (.map id)
          ⟨[(v, 2)], some (.parse 3 fault), 3⟩ := by
  refine ⟨.number (.integer 1), .inText [0x78, 0x5D] .expectedValue 1, ?_⟩
  have haccount : (atOnce [0x5B, 0x31, 0x20, 0x78, 0x5D]).account (.map id)
      = ⟨[(.number (.integer 1), 2)],
        some (.parse 3 (.inText [0x78, 0x5D] .expectedValue 1)), 3⟩ := by
    rw [account_atOnce, Cursor.account_of_item (by rfl), Cursor.account_of_failed (by rfl)]
    rfl
  exact ⟨haccount, (rejection_iff id haccount).mpr rfl⟩

/-- The input `[truex]`, whose word is taken where a read ends behind it. -/
theorem word_run_on_by_cut : ∃ fault,
    (atOnce [0x5B, 0x74, 0x72, 0x75, 0x65, 0x78, 0x5D]).account .json
        = ⟨[], some (.parse 1 fault), 1⟩
      ∧ [ReadEvent.deliver 5].all ReadEvent.brings
      ∧ ¬ (ofSource (.ofBytes [0x5B, 0x74, 0x72, 0x75, 0x65, 0x78, 0x5D] [.deliver 5])).Yields .json
        ⟨[], some (.parse 1 fault), 1⟩ := by
  refine ⟨.inText [0x74, 0x72, 0x75, 0x65, 0x78, 0x5D] .trailingCharacters 5, ?_, rfl, ?_⟩
  · rw [account_atOnce, Cursor.account_of_failed (by rfl)]
    rfl
  · intro hyields
    have hfirst : (((ofSource (.ofBytes [0x5B, 0x74, 0x72, 0x75, 0x65, 0x78, 0x5D]
        [.deliver 5])).next Target.json).1 matches .item _) = true := by decide +kernel
    rw [hyields.failed] at hfirst
    cases hfirst

/-- **Acceptance does not depend on the schedule** if and only if the text that the items end at
does not start with a number that is refused. -/
theorem acceptance_iff (w : Wanted) {input : Bytes} {items : List (w.type × Nat)} {offset : Nat}
    (h : (atOnce input).account w.target = ⟨items, none, offset⟩) :
    (∀ script, script.all ReadEvent.brings → (ofSource (.ofBytes input script)).Yields w.target
        ⟨items, none, offset⟩)
      ↔ ¬ w.target.RefusesStart ((Cursor.start input).last w.target).upcoming := by
  rw [account_atOnce] at h
  rw [← h, yields_iff_foresees fun _ _ _ => Target.foresees_of_item w.firm,
    Target.foresees_iff_of_ended w.firm (Cursor.seen_of_ended h)]

/-- The input `[7 "`, which ends within a string. -/
theorem acceptance_within_string :
    (atOnce [0x5B, 0x37, 0x20, 0x22]).account Wanted.byte.target = ⟨[((7 : UInt8), 2)], none, 3⟩
      ∧ ∀ script, script.all ReadEvent.brings →
        (ofSource (.ofBytes [0x5B, 0x37, 0x20, 0x22] script)).Yields Wanted.byte.target
          ⟨[((7 : UInt8), 2)], none, 3⟩ := by
  have haccount : (atOnce [0x5B, 0x37, 0x20, 0x22]).account Wanted.byte.target
      = ⟨[((7 : UInt8), 2)], none, 3⟩ := by
    rw [account_atOnce, Cursor.account_of_item (by rfl), Cursor.account_of_ended (by rfl)]
    rfl
  refine ⟨haccount, (acceptance_iff .byte haccount).mpr ?_⟩
  have hlast : ((Cursor.start [0x5B, 0x37, 0x20, 0x22]).last Wanted.byte.target).upcoming
      = [0x22] := by
    rw [Cursor.last_of_item (by rfl), Cursor.last_of_ne_item (by intro value h; cases h)]
    rfl
  rw [hlast]
  rintro ⟨part, hpart, number, cause, hread, -⟩
  rcases List.prefix_cons_iff.mp hpart with rfl | ⟨rest, rfl, hrest⟩
  · cases hread
  · rw [List.prefix_nil.mp hrest] at hread
    cases hread

/-- The input `[300e`, in which three hundred is refused where a read ends behind it. -/
theorem number_refused_by_cut :
    (atOnce [0x5B, 0x33, 0x30, 0x30, 0x65]).account Wanted.byte.target = ⟨[], none, 1⟩
      ∧ [ReadEvent.deliver 4].all ReadEvent.brings
      ∧ ¬ (ofSource (.ofBytes [0x5B, 0x33, 0x30, 0x30, 0x65] [.deliver 4])).Yields
        Wanted.byte.target ⟨[], none, 1⟩ := by
  refine ⟨?_, rfl, ?_⟩
  · rw [account_atOnce, Cursor.account_of_ended (by rfl)]
    rfl
  · intro hyields
    have hfirst : (((ofSource (.ofBytes [0x5B, 0x33, 0x30, 0x30, 0x65] [.deliver 4])).next
        Wanted.byte.target).1 matches .failed _) = true := by decide +kernel
    rw [hyields.ended] at hfirst
    cases hfirst

theorem yields_of_ended (f : Json → α) {input : Bytes} {items : List (α × Nat)} {offset : Nat}
    (h : (Cursor.start input).account (.map f) = ⟨items, none, offset⟩) {script : List ReadEvent}
    (hscript : script.all ReadEvent.brings) :
    (ofSource (.ofBytes input script)).Yields (.map f) ⟨items, none, offset⟩ := by
  have hlast : (Target.map f).Foresees ((Cursor.start input).last (.map f)).upcoming := by
    rw [Target.foresees_iff_of_ended (Target.firm_map f) (Cursor.seen_of_ended h)]
    rintro ⟨part, -, hnumber⟩
    exact Target.not_refusesNumber_map f part hnumber
  rw [← h]
  exact (yields_iff_foresees (fun _ _ _ => Target.foresees_of_item (Target.firm_map f)) input).mpr
    hlast script hscript

end Stream
end PlayableCards
