import PlayableCards.Proofs.Document
import PlayableCards.Proofs.Export.Cards

/-!
# Exports of documents

A document is exported card by card: what is written are the blocks in order, and what is counted
is what became of each card, whatever the schedules of reading and writing.
-/

namespace PlayableCards
namespace Export

theorem feedItems_writeCard (cards : List Card) {stats : Stats} {outcomes : List Outcome}
    (hstats : stats.Counts outcomes) {sink : Sink} (hsink : sink.Takes (output cards).length) :
    ∃ stats' sink', Stream.feedItems Sink.writeCard none (stats, sink) cards
        = (none, stats', sink')
      ∧ stats'.Counts (outcomes ++ cards.map Card.outcome)
      ∧ sink'.written.toList = sink.written.toList ++ output cards ∧ sink'.Like sink := by
  obtain ⟨sink', hfeed, -, hwritten, hlike⟩ :=
    feedItems_of_room cards none stats hsink.willing (Sink.room_of_takes hsink)
  exact ⟨counted stats cards, sink', hfeed, counts_counted cards hstats, hwritten, hlike⟩

/-- **The export of a document** writes the blocks of its cards in order and counts what became of
each card, whatever the schedules. -/
theorem run_of_document {doc : Bytes} {items : List Json}
    (h : Target.json.readDocument doc = .ok (.array items)) {script : List ReadEvent}
    (hscript : script.all ReadEvent.brings) {sink : Sink}
    (hsink : sink.Takes (output (items.map Card.ofJson)).length) (hflush : sink.flushFault = none) :
    ∃ stats, (run (.ofBytes doc script) sink).result = .ok stats
      ∧ stats.Counts (items.map fun v => (Card.ofJson v).outcome)
      ∧ (run (.ofBytes doc script) sink).sink.written.toList
        = sink.written.toList ++ output (items.map Card.ofJson)
      ∧ (run (.ofBytes doc script) sink).sink.flushes = sink.flushes + 1 := by
  obtain ⟨hitems, hfault⟩ := Cursor.account_of_document Card.ofJson h false []
  have hdoc : Cursor.mark false ++ (doc ++ []) = doc := List.append_nil doc
  rw [hdoc] at hitems hfault
  cases haccount : (Cursor.start doc).account (.map Card.ofJson) with
  | mk cards fault offset =>
    rw [haccount] at hitems hfault
    cases hfault
    have hyields := Stream.yields_of_ended Card.ofJson haccount hscript
    obtain ⟨stream, hfeed⟩ := Stream.feed_of_yields Sink.writeCard hyields (Stats.zero, sink)
    obtain ⟨stats, sink', hcards, hcounts, hwritten, hlike⟩ :=
      feedItems_writeCard (items.map Card.ofJson) Stats.counts_zero hsink
    simp only at hitems
    rw [hitems, hcards] at hfeed
    have hrun : run (.ofBytes doc script) sink
        = ⟨.ok stats, { sink' with flushes := sink'.flushes + 1 }, stream⟩ := by
      simp only [run, Card.target, hfeed, Sink.flush, hlike.flushFault, hflush]
    rw [hrun]
    rw [List.nil_append, List.map_map] at hcounts
    exact ⟨stats, rfl, hcounts, hwritten, congrArg (· + 1) hlike.flushes⟩

/-- The document `[{"name":"A"}]`, read in parts and written by twos, with an interruption before
each call. -/
theorem run_of_named_card : ∃ e stats,
    e = run (.ofBytes [0x5B, 0x7B, 0x22, 0x6E, 0x61, 0x6D, 0x65, 0x22, 0x3A, 0x22, 0x41, 0x22, 0x7D,
        0x5D] [.deliver 9, .interrupt, .deliver 1])
      { Sink.unlimited with most := some 2, interruptions := fun _ => 1 }
      ∧ e.result = .ok stats ∧ stats.records = 1 ∧ stats.blocks = 1
      ∧ e.sink.written.toList = Utf8.ofString "Name: A\n---\n" := by
  have hdoc : Target.json.readDocument [0x5B, 0x7B, 0x22, 0x6E, 0x61, 0x6D, 0x65, 0x22, 0x3A, 0x22,
      0x41, 0x22, 0x7D, 0x5D] = .ok (.array [.object [("name", .string "A")]]) := by rfl
  have hscript : [ReadEvent.deliver 9, .interrupt, .deliver 1].all ReadEvent.brings := rfl
  have hsink : ({ Sink.unlimited with most := some 2, interruptions := fun _ => 1 } : Sink).Takes
      (output [Card.ofJson (.object [("name", .string "A")])]).length :=
    ⟨by simp, by simp [Sink.unlimited], by simp [Sink.unlimited]⟩
  obtain ⟨stats, hresult, hcounts, hwritten, -⟩ := run_of_document hdoc hscript hsink rfl
  have houtcome : (Card.ofJson (.object [("name", .string "A")])).outcome
      = .block ⟨["Name: A"]⟩ := by decide +kernel
  have houtput : output [Card.ofJson (.object [("name", .string "A")])]
      = Utf8.ofString "Name: A\n---\n" := by decide +kernel
  rw [List.map_cons, List.map_nil, houtcome] at hcounts
  rw [List.map_cons, List.map_nil, houtput] at hwritten
  exact ⟨_, stats, rfl, hresult, hcounts.records, hcounts.blocks, hwritten⟩

end Export
end PlayableCards
