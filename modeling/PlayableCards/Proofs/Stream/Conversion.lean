import PlayableCards.Card.OfJson
import PlayableCards.Proofs.Stream.Ending

/-!
# Converted items

A stream that converts every value it reads goes through the same states as one that does not. It
yields the converted items at the same places, and ends or fails where the other does.
-/

namespace PlayableCards

namespace Decoded

def map (f : α → β) : Decoded α → Decoded β
  | complete value used => complete (f value) used
  | incomplete => incomplete
  | invalid fault => invalid fault

end Decoded

namespace Sight

def map (f : α → β) : Sight α → Sight β
  | item value used => item (f value) used
  | fault cause => fault cause
  | close => close
  | nothing => nothing

end Sight

namespace Yield

def map (f : α → β) : Yield α → Yield β
  | item value => item (f value)
  | failed fault => failed fault
  | ended => ended

end Yield

namespace Target

variable (f : Json → α)

theorem readFirst_map (text : Bytes) :
    (map f).readFirst text
      = (json.readFirst text).map fun item => ⟨f item.value, item.used, item.rest⟩ := by
  have hrefusal : ∀ b, (map f).refusal? b = none ∧ json.refusal? b = none := fun b => ⟨rfl, rfl⟩
  cases hfirst : text.dropWhile Ascii.isSpace with
  | nil =>
    have hnone : (text.drop (blanks text)).head? = none := by
      rw [drop_blanks, hfirst]
      rfl
    simp only [readFirst, hnone, Option.bind_none]
    cases Reader.read text <;> rfl
  | cons first tail =>
    rw [readFirst_eq hfirst, readFirst_eq hfirst, (hrefusal first).1, (hrefusal first).2]
    cases Reader.read text <;> rfl

theorem readNext_map (first : UInt8) (buffer : Bytes) :
    (map f).readNext first buffer
      = (json.readNext first buffer).map fun item => ⟨f item.value, item.used, item.rest⟩ := by
  rw [readNext, readNext, readFirst_map]
  cases json.readFirst buffer with
  | error fault => rfl
  | ok item =>
    simp only [Except.map]
    split <;> rfl

theorem decode_map (buffer : Bytes) (final : Bool) :
    (map f).decode buffer final = (json.decode buffer final).map f := by
  rw [decode, decode]
  split
  · rfl
  · rename_i first _ _
    rw [readNext_map]
    cases json.readNext first buffer with
    | ok item =>
      simp only [Except.map]
      split <;> rfl
    | error fault =>
      simp only [Except.map]
      split
      · rfl
      · split <;> rfl
      · rfl

end Target

namespace Stream

variable (f : Json → α)

theorem sight?_map (final : Bool) (bytes : Bytes) :
    sight? (.map f) final bytes = (sight? .json final bytes).map (Sight.map f) := by
  cases bytes with
  | nil => rfl
  | cons b rest =>
    simp only [sight?, Target.decode_map]
    split
    · rfl
    · cases Target.json.decode (b :: rest) final <;> rfl

theorem gather_map (g : β → γ) (p : UInt8 → Bool) (look : Bytes → Option β) (last : Bytes → β)
    (s : Stream) :
    s.gather p (fun bytes => (look bytes).map g) (fun bytes => g (last bytes))
      = ((s.gather p look last).1.map g, (s.gather p look last).2) := by
  fun_induction gather p look last s with
  | case1 s ahead hexhausted =>
    rw [gather_of_exhausted (s := s) hexhausted]
    rfl
  | case2 s ahead hexhausted b hlook =>
    have hlook' : (look ahead.window.pending).map g = some (g b) := by rw [hlook, Option.map_some]
    rw [gather_of_look (by simpa [ahead] using hexhausted) hlook']
    rfl
  | case3 s ahead hexhausted hlook fault s' hfill =>
    have hlook' : (look ahead.window.pending).map g = none := by rw [hlook, Option.map_none]
    rw [gather_of_fault (by simpa [ahead] using hexhausted) hlook' hfill]
    rfl
  | case4 s ahead hexhausted hlook s' hfill ih =>
    have hlook' : (look ahead.window.pending).map g = none := by rw [hlook, Option.map_none]
    rw [gather_of_fill (by simpa [ahead] using hexhausted) hlook' hfill, ih]

theorem nextItem_map (s : Stream) :
    s.nextItem (.map f) = ((s.nextItem .json).1.map f, (s.nextItem .json).2) := by
  have hlook : sight? (.map f) false = fun bytes => (sight? .json false bytes).map (Sight.map f) :=
    funext (sight?_map f false)
  have hlast : (fun bytes => (sight? (.map f) true bytes).getD .nothing)
      = fun bytes => Sight.map f ((sight? .json true bytes).getD .nothing) := by
    funext bytes
    rw [sight?_map]
    cases sight? .json true bytes <;> rfl
  rw [nextItem, nextItem, hlook, hlast, gather_map]
  rcases s.gather isBetween (sight? .json false)
    (fun bytes => (sight? .json true bytes).getD .nothing) with ⟨fault | seen, g⟩
  · rfl
  · cases seen <;> rfl

/-- **A call on a stream that converts** gives the converted item and leaves the same stream. -/
theorem next_map (s : Stream) : s.next (.map f) = ((s.next .json).1.map f, (s.next .json).2) := by
  rw [next, next]
  split
  · rfl
  · exact nextItem_map f s
  · split
    · rfl
    · rfl
    · exact nextItem_map f _

theorem call_map (s : Stream) (c : Call) : s.call (.map f) c = s.call .json c := by
  cases c with
  | next => exact congrArg Prod.snd (next_map f s)
  | chunk size => rfl

theorem afterCalls_map (s : Stream) (calls : List Call) (k : Nat) :
    s.afterCalls (.map f) calls k = s.afterCalls .json calls k := by
  have hcall : call (.map f) = call .json := funext fun s => funext (call_map f s)
  rw [afterCalls, afterCalls, hcall]

theorem answers_map (s : Stream) (calls : List Call) :
    s.answers (.map f) calls
      = (s.answers .json calls).map fun answer => (answer.1.map f, answer.2) := by
  induction calls generalizing s with
  | nil => rfl
  | cons c calls ih =>
    cases c with
    | chunk size => exact ih (s.withChunk size)
    | next => simp only [answers, next_map, ih, List.map_cons]

/-- **Reading cards is reading values and converting them**, whatever the input, its source and the
calls: call by call, the cards are the converted values, with the same offset after each, the same
fault or end, and the same state of the source, so that no value is refused as a card. -/
theorem cards_as_values (input : Bytes) (script : List ReadEvent) (calls : List Call) :
    let start := ofSource (.ofBytes input script)
    start.answers Card.target calls
        = (start.answers .json calls).map (fun answer => (answer.1.map Card.ofJson, answer.2))
      ∧ ∀ k, start.afterCalls Card.target calls k = start.afterCalls .json calls k :=
  ⟨answers_map Card.ofJson _ calls, fun k => afterCalls_map Card.ofJson _ calls k⟩

end Stream
end PlayableCards
