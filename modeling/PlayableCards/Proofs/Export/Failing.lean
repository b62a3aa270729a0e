import PlayableCards.Proofs.Export.Faults
import PlayableCards.Proofs.Stream.Failing

/-!
# Exports of sources that fail

A document whose source fails is exported as far as the bytes before the fault tell its elements. A
fault behind the closing bracket is not come to.
-/

namespace PlayableCards
namespace Export

/-- **A source that fails loses nothing and invents nothing.** Of a document of which `m` bytes are
delivered before the fault, the blocks of those elements are written that lie within them, a number
with the byte behind it. The export ends with the fault, unless the closing bracket lies within
them as well: then it is that of the whole document, and the fault is left in the source. -/
theorem run_of_failing {doc : Bytes} {items : List Json}
    (h : Target.json.readDocument doc = .ok (.array items)) {front : List ReadEvent}
    (hfront : front.all ReadEvent.brings) (fault : IoFault) (later : List ReadEvent) {sink : Sink}
    (hwilling : sink.Willing) (hlimit : sink.limit = none) (hflush : sink.flushFault = none) :
    let m := min (Source.supply Stream.defaultChunk front) doc.length
    let e := run (.ofBytes doc (front ++ .fail fault :: later)) sink
    ∃ offset elements close, Stream.Enters doc offset ∧ Listed doc offset elements close
      ∧ elements.map Element.value = items
      ∧ e.sink.written.toList = sink.written.toList
        ++ output ((elements.filter fun element => element.stop + element.value.lookahead ≤ m).map
          fun element => Card.ofJson element.value)
      ∧ e.sink.flushes = sink.flushes + 1
      ∧ (m ≤ close → e.result = .error (.io fault) ∧ e.stream.source.delivered = m)
      ∧ (close < m →
        (∃ stats, e.result = .ok stats
          ∧ stats.Counts (items.map fun v => (Card.ofJson v).outcome))
        ∧ e.sink.written.toList = sink.written.toList ++ output (items.map Card.ofJson)
        ∧ .fail fault :: later <:+ e.stream.source.script) := by
  intro m e
  obtain ⟨offset, elements, close, henters, hlisted, hvalues⟩ := listed_of_document h false []
  have hdoc : Cursor.mark false ++ (doc ++ []) = doc := List.append_nil doc
  rw [hdoc] at henters hlisted
  refine ⟨offset, elements, close, henters, hlisted, hvalues, ?_⟩
  have hawaits : Stream.Awaits doc close elements
      (Stream.ofSource (.ofBytes doc (front ++ .fail fault :: later))).mend :=
    Stream.awaits_mend hfront henters hlisted
  have hfails : (Stream.ofSource (.ofBytes doc (front ++ .fail fault :: later))).FailsAt fault later
      m := ⟨front, hfront, rfl, Nat.zero_add m⟩
  obtain ⟨hitems, hopen, hclosed⟩ := Stream.account_of_failsAt Card.ofJson hawaits hfails
  obtain ⟨hresult, hwritten, hflushes, hstream⟩ :=
    run_of_room (.ofBytes doc (front ++ .fail fault :: later)) hwilling
      (Sink.room_of_no_limit hlimit _)
  have hcards : Source.cards (.ofBytes doc (front ++ .fail fault :: later))
      = (elements.filter fun element => element.stop + element.value.lookahead ≤ m).map
        fun element => Card.ofJson element.value := hitems
  rw [hcards, List.length_map] at hstream
  rw [hcards] at hresult hwritten
  rw [hflush, Option.map_none, Option.or_none] at hresult
  refine ⟨hwritten, hflushes, fun hle => ?_, fun hlt => ?_⟩
  · obtain ⟨hfault, hdelivered⟩ := hopen hle
    rw [Source.fault, Card.target, hfault] at hresult
    exact ⟨hresult, by rw [hstream]; exact hdelivered⟩
  · obtain ⟨hfault, hall, hafter⟩ := hclosed hlt
    have hitems' : elements.map (fun element => Card.ofJson element.value)
        = items.map Card.ofJson := by
      rw [← hvalues, List.map_map]
      rfl
    rw [hall, hitems'] at hresult hwritten
    rw [Source.fault, Card.target, hfault] at hresult
    have hcounts := counts_counted (items.map Card.ofJson) Stats.counts_zero
    rw [List.nil_append, List.map_map] at hcounts
    exact ⟨⟨_, hresult, hcounts⟩, hwritten, by rw [hstream]; exact hafter.suffix⟩

/-- The document `[{"name":"A"},{"name":"B"}]`, whose source fails within the second card, all but
the last byte of which it has delivered. -/
theorem run_of_failing_within_card : ∃ e,
    e = run (.ofBytes [0x5B, 0x7B, 0x22, 0x6E, 0x61, 0x6D, 0x65, 0x22, 0x3A, 0x22, 0x41, 0x22, 0x7D,
        0x2C, 0x7B, 0x22, 0x6E, 0x61, 0x6D, 0x65, 0x22, 0x3A, 0x22, 0x42, 0x22, 0x7D, 0x5D]
        [.deliver 9, .interrupt, .deliver 16, .fail .denied])
      { Sink.unlimited with most := some 2 }
      ∧ e.result = .error (.io .denied) ∧ e.stream.source.delivered = 25
      ∧ e.sink.written.toList = Utf8.ofString "Name: A\n---\n" ∧ e.sink.flushes = 1 := by
  have hdoc : Target.json.readDocument [0x5B, 0x7B, 0x22, 0x6E, 0x61, 0x6D, 0x65, 0x22, 0x3A, 0x22,
      0x41, 0x22, 0x7D, 0x2C, 0x7B, 0x22, 0x6E, 0x61, 0x6D, 0x65, 0x22, 0x3A, 0x22, 0x42, 0x22, 0x7D,
      0x5D] = .ok (.array [.object [("name", .string "A")], .object [("name", .string "B")]]) := by
    rfl
  have hfront : [ReadEvent.deliver 9, .interrupt, .deliver 16].all ReadEvent.brings := rfl
  have hwilling : ({ Sink.unlimited with most := some 2 } : Sink).Willing :=
    ⟨by simp, by simp [Sink.unlimited]⟩
  obtain ⟨offset, elements, close, -, hlisted, -, -, hflushes, hopen, -⟩ :=
    run_of_failing hdoc hfront .denied [] hwilling rfl rfl
  have hbracket : ∀ n < 26, ([0x5B, 0x7B, 0x22, 0x6E, 0x61, 0x6D, 0x65, 0x22, 0x3A, 0x22, 0x41, 0x22,
      0x7D, 0x2C, 0x7B, 0x22, 0x6E, 0x61, 0x6D, 0x65, 0x22, 0x3A, 0x22, 0x42, 0x22, 0x7D, 0x5D] :
      Bytes)[n]? ≠ some Ascii.closeBracket := by decide
  have hclose : 26 ≤ close := Nat.not_lt.mp fun hlt => hbracket close hlt hlisted.closes
  obtain ⟨hresult, hdelivered⟩ := hopen (Nat.le_trans (by decide) hclose)
  exact ⟨_, rfl, hresult, hdelivered, by decide +kernel, hflushes⟩

end Export
end PlayableCards
