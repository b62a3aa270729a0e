import Mathlib.Order.Bounds.Basic
import PlayableCards.Export.Write
import PlayableCards.Proofs.Export.Sink
import PlayableCards.Proofs.Export.Stats
import PlayableCards.Proofs.Stream.Feed

/-!
# Writing cards

Cards are written and counted one after another. A sink comes to hold their blocks in order, up to
its limit; the card whose block does not fit is the last one handed over.
-/

namespace PlayableCards
namespace Export

/-- What is written for cards: their blocks, in order. -/
def output (cards : List Card) : Bytes := (cards.filterMap Card.block?).flatMap Block.written

def counted (stats : Stats) (cards : List Card) : Stats :=
  cards.foldl (fun stats card => stats.record card.outcome) stats

@[simp] theorem output_nil : output [] = [] := rfl

@[simp] theorem counted_nil (stats : Stats) : counted stats [] = stats := rfl

theorem output_cons (card : Card) (cards : List Card) :
    output (card :: cards) = output [card] ++ output cards := by
  simp only [output, ← List.flatMap_append, ← List.filterMap_append, List.singleton_append]

theorem counts_counted (cards : List Card) {stats : Stats} {outcomes : List Outcome}
    (h : stats.Counts outcomes) :
    (counted stats cards).Counts (outcomes ++ cards.map Card.outcome) := by
  induction cards generalizing stats outcomes with
  | nil => simpa using h
  | cons card cards ih =>
    have hcards := ih (Stats.counts_record h card.outcome)
    rwa [List.append_assoc, List.singleton_append] at hcards

theorem positive_counted (cards : List Card) {stats : Stats} (h : stats.excluded.Positive) :
    (counted stats cards).excluded.Positive := by
  induction cards generalizing stats with
  | nil => exact h
  | cons card cards ih => exact ih (Stats.positive_record h card.outcome)

theorem balanced_counted (cards : List Card) {stats : Stats}
    (h : stats.records = stats.blocks + stats.unnamed + stats.excludedTotal) :
    (counted stats cards).records = (counted stats cards).blocks + (counted stats cards).unnamed
      + (counted stats cards).excludedTotal := by
  induction cards generalizing stats with
  | nil => exact h
  | cons card cards ih => exact ih (Stats.record_balanced card.outcome h)

/-- A card's block is written as far as there is room. The card is counted if that is all of it. -/
theorem writeCard_of_willing {sink : Sink} (h : sink.Willing) (card : Card) (stats : Stats) :
    ∃ sink', Sink.writeCard (stats, sink) card
        = (if sink.room (output [card]).length < (output [card]).length
          then (some sink.limitFault, stats, sink')
          else (none, stats.record card.outcome, sink'))
      ∧ sink'.written.toList
        = sink.written.toList ++ (output [card]).take (sink.room (output [card]).length)
      ∧ sink'.Like sink := by
  cases houtcome : card.outcome with
  | block b =>
    have houtput : output [card] = b.written := by
      simp [output, Card.block?, houtcome]
    rw [houtput]
    obtain ⟨sink', hwrite, hwritten, hlike⟩ := Sink.write_of_willing h b.written
    refine ⟨sink', ?_, hwritten, hlike⟩
    simp only [Sink.writeCard, houtcome, hwrite]
    by_cases hroom : sink.room b.written.length < b.written.length
    · rw [if_pos hroom, if_pos hroom]
    · rw [if_neg hroom, if_neg hroom]
  | unnamed | excluded =>
    have houtput : output [card] = [] := by
      simp [output, Card.block?, houtcome]
    rw [houtput]
    exact ⟨sink, by simp [Sink.writeCard, houtcome], by simp, .refl sink⟩

theorem feedItems_of_room (cards : List Card) (fault : Option StreamFault) (stats : Stats)
    {sink : Sink} (h : sink.Willing)
    (hroom : sink.room (output cards).length = (output cards).length) :
    ∃ sink', Stream.feedItems Sink.writeCard fault (stats, sink) cards
        = (fault, counted stats cards, sink')
      ∧ Stream.feedCalls Sink.writeCard (stats, sink) cards = cards.length + 1
      ∧ sink'.written.toList = sink.written.toList ++ output cards ∧ sink'.Like sink := by
  induction cards generalizing stats sink with
  | nil => exact ⟨sink, rfl, rfl, by simp, .refl sink⟩
  | cons card cards ih =>
    rw [output_cons, List.length_append] at hroom
    obtain ⟨sink₁, hcard, hwritten, hlike⟩ := writeCard_of_willing h card stats
    have hfirst : sink.room (output [card]).length = (output [card]).length := by
      rw [sink.room_of_le (Nat.le_add_right _ (output cards).length), hroom]
      omega
    rw [hfirst, if_neg (Nat.lt_irrefl _)] at hcard
    rw [hfirst, List.take_length] at hwritten
    have hrest := Sink.room_sub hlike hwritten (n := (output [card]).length + (output cards).length)
      (by omega)
    rw [hroom, Nat.add_sub_cancel_left] at hrest
    obtain ⟨sink', hcards, hcalls, hwritten', hlike'⟩ :=
      ih (stats.record card.outcome) (hlike.willing h) hrest
    refine ⟨sink', ?_, ?_, ?_, hlike'.trans hlike⟩
    · simp only [Stream.feedItems, hcard]
      exact hcards
    · simp only [Stream.feedCalls, hcard, hcalls, List.length_cons]
    · rw [hwritten', hwritten, output_cons card cards, List.append_assoc]

theorem feedItems_of_no_room (cards : List Card) (fault : Option StreamFault) (stats : Stats)
    {sink : Sink} (h : sink.Willing)
    (hroom : sink.room (output cards).length < (output cards).length) :
    ∃ stats' sink', Stream.feedItems Sink.writeCard fault (stats, sink) cards
        = (some (.io sink.limitFault), stats', sink')
      ∧ IsLeast {k | sink.room (output cards).length < (output (cards.take k)).length}
        (Stream.feedCalls Sink.writeCard (stats, sink) cards)
      ∧ sink'.written.toList
        = sink.written.toList ++ (output cards).take (sink.room (output cards).length)
      ∧ sink'.Like sink := by
  induction cards generalizing stats sink with
  | nil => simp at hroom
  | cons card cards ih =>
    have hlength : ∀ k, (output ((card :: cards).take (k + 1))).length
        = (output [card]).length + (output (cards.take k)).length := by
      intro k
      rw [List.take_succ_cons, output_cons, List.length_append]
    rw [output_cons card cards, List.length_append] at hroom ⊢
    generalize hR : sink.room ((output [card]).length + (output cards).length) = room at hroom ⊢
    obtain ⟨sink₁, hcard, hwritten, hlike⟩ := writeCard_of_willing h card stats
    have hfirst := sink.room_of_le (Nat.le_add_right (output [card]).length (output cards).length)
    rw [hR] at hfirst
    by_cases hfit : (output [card]).length ≤ room
    · rw [Nat.min_eq_left hfit] at hfirst
      rw [hfirst, if_neg (Nat.lt_irrefl _)] at hcard
      rw [hfirst, List.take_length] at hwritten
      have hrest := Sink.room_sub hlike hwritten
        (n := (output [card]).length + (output cards).length) (by omega)
      rw [hR, Nat.add_sub_cancel_left] at hrest
      obtain ⟨stats', sink', hcards, hleast, hwritten', hlike'⟩ :=
        ih (stats.record card.outcome) (hlike.willing h) (by omega)
      rw [hrest] at hleast hwritten'
      refine ⟨stats', sink', ?_, ?_, ?_, hlike'.trans hlike⟩
      · simp only [Stream.feedItems, hcard, hcards, hlike.limitFault]
      · simp only [Stream.feedCalls, hcard]
        refine ⟨?_, fun k hk => ?_⟩
        · have hmem := hleast.1
          simp only [Set.mem_ofPred_eq] at hmem ⊢
          rw [hlength]
          omega
        · cases k with
          | zero => simp at hk
          | succ k =>
            simp only [Set.mem_ofPred_eq] at hk
            rw [hlength] at hk
            have hle := hleast.2 (show k ∈ {k | _ < _} by simp only [Set.mem_ofPred_eq]; omega)
            omega
      · rw [hwritten', hwritten, List.append_assoc, List.take_append,
          List.take_of_length_le hfit]
    · have hroom₁ : sink.room (output [card]).length = room := by omega
      rw [hroom₁, if_pos (by omega)] at hcard
      rw [hroom₁] at hwritten
      refine ⟨stats, sink₁, ?_, ?_, ?_, hlike⟩
      · simp only [Stream.feedItems, hcard]
      · simp only [Stream.feedCalls, hcard]
        refine ⟨?_, fun k hk => ?_⟩
        · simp only [Set.mem_ofPred_eq]
          rw [hlength]
          omega
        · cases k with
          | zero => simp at hk
          | succ k => omega
      · rw [hwritten, List.take_append_of_le_length (by omega)]

end Export
end PlayableCards
