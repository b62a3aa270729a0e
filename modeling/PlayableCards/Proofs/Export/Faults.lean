import PlayableCards.Proofs.Document
import PlayableCards.Proofs.Export.Cards

/-!
# Exports that fail

Reading, writing and flushing may each fail. A sink comes to hold what one without a limit would, up
to its own limit, and is flushed once whatever happens. Running out of room comes before a fault of
the stream, which comes before one of flushing.
-/

namespace PlayableCards

namespace Source

/-- The cards that a source holds, up to its end or its fault. -/
def cards (source : Source) : List Card :=
  ((Stream.ofSource source).account Card.target).items.map Prod.fst

def fault (source : Source) : Option StreamFault :=
  ((Stream.ofSource source).account Card.target).fault

theorem cards_of_document {doc : Bytes} {items : List Json}
    (h : Target.json.readDocument doc = .ok (.array items)) {script : List ReadEvent}
    (hscript : script.all ReadEvent.brings) :
    (ofBytes doc script).cards = items.map Card.ofJson := by
  obtain ⟨hitems, hfault⟩ := Cursor.account_of_document Card.ofJson h false []
  have hdoc : Cursor.mark false ++ (doc ++ []) = doc := List.append_nil doc
  rw [hdoc] at hitems hfault
  cases haccount : (Cursor.start doc).account (.map Card.ofJson) with
  | mk yielded fault offset =>
    rw [haccount] at hitems hfault
    cases hfault
    have hyields := Stream.yields_of_ended Card.ofJson haccount hscript
    rw [cards, Card.target, Stream.account_of_yields hyields]
    exact hitems

theorem cards_of_empty (script : List ReadEvent) : (ofBytes [] script).cards = [] := by
  rw [cards]
  rcases hnext : (Stream.ofSource (ofBytes [] script)).next Card.target with ⟨yielded, s⟩
  cases yielded with
  | item card => exact absurd (Stream.remaining_next_lt hnext) (Nat.not_lt_zero _)
  | failed fault =>
    rw [Stream.account_of_failed hnext]
    rfl
  | ended =>
    rw [Stream.account_of_ended hnext]
    rfl

end Source

namespace Export

/-- The export to a sink that takes everything. -/
def whole (source : Source) : Export := run source .unlimited

theorem run_of_room (source : Source) {sink : Sink} (h : sink.Willing)
    (hroom : sink.room (output source.cards).length = (output source.cards).length) :
    (run source sink).result = (source.fault.or (sink.flushFault.map .io)).elim
        (.ok (counted Stats.zero source.cards)) .error
      ∧ (run source sink).sink.written.toList = sink.written.toList ++ output source.cards
      ∧ (run source sink).sink.flushes = sink.flushes + 1
      ∧ (run source sink).stream
        = (Stream.ofSource source).after Card.target (source.cards.length + 1) := by
  obtain ⟨sink', hfeed, hcalls, hwritten, hlike⟩ :=
    feedItems_of_room source.cards source.fault Stats.zero h hroom
  have hrun : run source sink = ⟨(source.fault.or (sink.flushFault.map .io)).elim
        (.ok (counted Stats.zero source.cards)) .error,
      { sink' with flushes := sink'.flushes + 1 },
      (Stream.ofSource source).after Card.target (source.cards.length + 1)⟩ := by
    rw [run, Stream.feed_eq, ← Source.cards, ← Source.fault, hfeed, hcalls]
    cases source.fault <;> cases hflush : sink.flushFault <;>
      simp [Sink.flush, hlike.flushFault, hflush]
  rw [hrun]
  exact ⟨rfl, hwritten, congrArg (· + 1) hlike.flushes, rfl⟩

theorem run_of_no_room (source : Source) {sink : Sink} (h : sink.Willing)
    (hroom : sink.room (output source.cards).length < (output source.cards).length) :
    (run source sink).result = .error (.io sink.limitFault)
      ∧ (run source sink).sink.written.toList = sink.written.toList
        ++ (output source.cards).take (sink.room (output source.cards).length)
      ∧ (run source sink).sink.flushes = sink.flushes + 1
      ∧ ∃ k, IsLeast {k | sink.room (output source.cards).length
          < (output (source.cards.take k)).length} k
        ∧ (run source sink).stream = (Stream.ofSource source).after Card.target k := by
  obtain ⟨stats, sink', hfeed, hleast, hwritten, hlike⟩ :=
    feedItems_of_no_room source.cards source.fault Stats.zero h hroom
  have hrun : run source sink = ⟨.error (.io sink.limitFault),
      { sink' with flushes := sink'.flushes + 1 },
      (Stream.ofSource source).after Card.target
        (Stream.feedCalls Sink.writeCard (Stats.zero, sink) source.cards)⟩ := by
    rw [run, Stream.feed_eq, ← Source.cards, ← Source.fault, hfeed]
    rfl
  rw [hrun]
  exact ⟨rfl, hwritten, congrArg (· + 1) hlike.flushes, _, hleast, rfl⟩

theorem whole_written (source : Source) :
    (whole source).sink.written.toList = output source.cards :=
  (run_of_room source Sink.willing_unlimited rfl).2.1

theorem whole_result (source : Source) :
    (whole source).result = source.fault.elim (.ok (counted Stats.zero source.cards)) .error := by
  refine (run_of_room source Sink.willing_unlimited rfl).1.trans ?_
  cases source.fault <;> rfl

theorem whole_stream (source : Source) :
    (whole source).stream
      = (Stream.ofSource source).after Card.target (source.cards.length + 1) :=
  (run_of_room source Sink.willing_unlimited rfl).2.2.2

/-- **An export that may fail** writes what one without a limit would as far as there is room, and
flushes once. If that is not all, it fails as writing does, at the call that yields the first card
whose block goes beyond. Otherwise it reads as much, and fails as reading does, or as flushing does
if reading does not. -/
theorem run_of_willing (source : Source) {sink : Sink} (h : sink.Willing) :
    let all := (whole source).sink.written.toList
    let room := sink.room all.length
    (run source sink).sink.written.toList = sink.written.toList ++ all.take room
      ∧ (run source sink).sink.flushes = sink.flushes + 1
      ∧ (room < all.length →
        (run source sink).result = .error (.io sink.limitFault)
        ∧ ∃ k, IsLeast {k | room < (output (source.cards.take k)).length} k
          ∧ (run source sink).stream = (Stream.ofSource source).after Card.target k)
      ∧ (room = all.length →
        (run source sink).stream = (whole source).stream
        ∧ (run source sink).result = match (whole source).result, sink.flushFault with
          | .error fault, _ => .error fault
          | .ok _, some fault => .error (.io fault)
          | .ok stats, none => .ok stats) := by
  rw [whole_written, whole_stream, whole_result]
  intro all room
  rcases Nat.lt_or_eq_of_le (sink.room_le all.length) with hroom | hroom
  · obtain ⟨hresult, hwritten, hflushes, hstream⟩ := run_of_no_room source h hroom
    exact ⟨hwritten, hflushes, fun _ => ⟨hresult, hstream⟩,
      fun heq => absurd heq (Nat.ne_of_lt hroom)⟩
  · obtain ⟨hresult, hwritten, hflushes, hstream⟩ := run_of_room source h hroom
    have hall : all.take room = all := by
      rw [show room = all.length from hroom, List.take_length]
    refine ⟨hall.symm ▸ hwritten, hflushes,
      fun hlt => absurd hroom (Nat.ne_of_lt hlt), fun _ => ⟨hstream, ?_⟩⟩
    rw [hresult]
    cases source.fault <;> cases sink.flushFault <;> rfl

/-- The document `[{"name":"A"}]`, written by twos to a sink that takes nothing beyond five bytes,
with an interruption before each call. -/
theorem run_of_no_room_for_card : ∃ e,
    e = run (.ofBytes [0x5B, 0x7B, 0x22, 0x6E, 0x61, 0x6D, 0x65, 0x22, 0x3A, 0x22, 0x41, 0x22, 0x7D,
        0x5D] [.deliver 9, .interrupt])
      { Sink.unlimited with limit := some 5, most := some 2, interruptions := fun _ => 1 }
      ∧ e.result = .error (.io .shortWrite)
      ∧ e.sink.written.toList = Utf8.ofString "Name:" ∧ e.sink.flushes = 1 := by
  have hdoc : Target.json.readDocument [0x5B, 0x7B, 0x22, 0x6E, 0x61, 0x6D, 0x65, 0x22, 0x3A, 0x22,
      0x41, 0x22, 0x7D, 0x5D] = .ok (.array [.object [("name", .string "A")]]) := by rfl
  have hscript : [ReadEvent.deliver 9, .interrupt].all ReadEvent.brings := rfl
  have hcards := Source.cards_of_document hdoc hscript
  have houtput : output ([Json.object [("name", .string "A")]].map Card.ofJson)
      = Utf8.ofString "Name: A\n---\n" := by decide +kernel
  have hwilling : ({ Sink.unlimited with
      limit := some 5, most := some 2, interruptions := fun _ => 1 } : Sink).Willing :=
    ⟨by simp, by simp [Sink.unlimited]⟩
  obtain ⟨hwritten, hflushes, hfull, -⟩ := run_of_willing _ hwilling
  rw [whole_written, hcards, houtput] at hwritten hfull
  exact ⟨_, rfl, (hfull (by decide +kernel)).1, hwritten.trans (by decide +kernel), hflushes⟩

end Export
end PlayableCards
