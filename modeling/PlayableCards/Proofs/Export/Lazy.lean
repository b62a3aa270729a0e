import PlayableCards.Proofs.Export.Faults

/-!
# Blocks taken one by one

A consumer that takes the blocks of a source one by one is given what an export writes, up to the
same fault, and the statistics of the export count what both have passed over.
-/

namespace PlayableCards

namespace Card

theorem outcome_eq_excluded {c : Card} {e : Exclusion} :
    c.outcome = .excluded e ↔ c.resolve.name.isSome ∧ Exclusion.first? c.exhibit = some e := by
  rw [outcome]
  cases c.resolve.name with
  | none => simp
  | some name => cases Exclusion.first? c.exhibit <;> simp

end Card

namespace Stats

variable {stats : Stats} {cards : List Card}

theorem Counts.blocks_eq (h : stats.Counts (cards.map Card.outcome)) :
    stats.blocks = (cards.filterMap Card.block?).length := by
  rw [h.blocks, List.countP_map, List.length_filterMap_eq_countP]
  refine List.countP_congr fun c _ => ?_
  rw [Function.comp_apply, Card.block?]
  cases c.outcome <;> exact Iff.rfl

theorem Counts.excluded_eq (h : stats.Counts (cards.map Card.outcome)) (e : Exclusion) :
    stats.excluded.count e
      = cards.countP fun c => c.resolve.name.isSome && Exclusion.first? c.exhibit == some e := by
  rw [h.excluded, List.count, List.countP_map]
  refine List.countP_congr fun c _ => ?_
  rw [Function.comp_apply, beq_iff_eq, Card.outcome_eq_excluded, Bool.and_eq_true, beq_iff_eq]

end Stats

namespace Account

theorem fst_items_pick (f : α → Option β) (a : Account α) :
    (a.pick f).items.map Prod.fst = (a.items.map Prod.fst).filterMap f := by
  rw [pick, List.map_filterMap, List.filterMap_map]
  refine congrArg (fun g => a.items.filterMap g) (funext fun item => ?_)
  rw [Function.comp_apply, Option.map_map]
  exact Option.map_id_apply

end Account

namespace Export

/-- **The blocks taken one by one are those written**, and the fault that ends them is the fault
of the export. Without one, its statistics count the cards of the source: those with a block,
those without a name, and the others by the first rule that applies to them. -/
theorem run_as_taken (source : Source) {sink : Sink} (hwilling : sink.Willing)
    (hlimit : sink.limit = none) (hflush : sink.flushFault = none) :
    ∃ blocks cards fault stats,
      (∀ n, ((Stream.ofSource source).taken Stream.nextBlock n).map Prod.fst
        = Yield.sequence blocks fault n)
      ∧ (∀ n, ((Stream.ofSource source).taken (Stream.next Card.target) n).map Prod.fst
        = Yield.sequence cards fault n)
      ∧ (run source sink).sink.written.toList
        = sink.written.toList ++ blocks.flatMap Block.written
      ∧ (run source sink).result = fault.elim (.ok stats) .error
      ∧ stats.blocks = blocks.length ∧ stats.records = cards.length
      ∧ stats.records = stats.blocks + stats.unnamed + stats.excludedTotal
      ∧ stats.excluded.Sorted
      ∧ ∀ e n, (e, n) ∈ stats.excluded ↔ 0 < n
        ∧ (cards.countP fun c => c.resolve.name.isSome && Exclusion.first? c.exhibit == some e)
          = n := by
  obtain ⟨hresult, hwritten, -, -⟩ :=
    run_of_room source hwilling (Sink.room_of_no_limit hlimit _)
  rw [hflush, Option.map_none, Option.or_none] at hresult
  have hcounts := counts_counted source.cards Stats.counts_zero
  rw [List.nil_append] at hcounts
  have hpositive := positive_counted source.cards Stats.positive_zero
  refine ⟨source.cards.filterMap Card.block?, source.cards, source.fault,
    counted Stats.zero source.cards, fun n => ?_, fun n => ?_, hwritten, hresult,
    hcounts.blocks_eq, ?_, balanced_counted source.cards rfl, hcounts.sorted, fun e n => ?_⟩
  · have htaken := Stream.taken_nextSome Card.target Card.block? (Stream.ofSource source) n
    rw [show Stream.nextBlock = Stream.nextSome Card.target Card.block? from rfl, htaken,
      Account.map_fst_answers, Account.fst_items_pick]
    rfl
  · rw [Stream.taken_next, Account.map_fst_answers]
    rfl
  · rw [hcounts.records, List.length_map]
  · rw [Tally.mem_iff_count hcounts.sorted hpositive, hcounts.excluded_eq]

/-- The document `[{"name":"A"},0]`, read in parts and written by twos: the second card has no
name. -/
theorem run_as_taken_with_unnamed : ∃ source blocks,
    source = .ofBytes [0x5B, 0x7B, 0x22, 0x6E, 0x61, 0x6D, 0x65, 0x22, 0x3A, 0x22, 0x41, 0x22, 0x7D,
        0x2C, 0x30, 0x5D] [.deliver 9, .interrupt, .deliver 1]
      ∧ blocks.length = 1
      ∧ (∀ n, ((Stream.ofSource source).taken Stream.nextBlock n).map Prod.fst
        = Yield.sequence blocks none n)
      ∧ (run source { Sink.unlimited with most := some 2 }).result = .ok ⟨2, 1, 1, []⟩
      ∧ (run source { Sink.unlimited with most := some 2 }).sink.written.toList
        = blocks.flatMap Block.written := by
  have hwilling : ({ Sink.unlimited with most := some 2 } : Sink).Willing :=
    ⟨by simp, by simp [Sink.unlimited]⟩
  obtain ⟨blocks, cards, fault, stats, hblocks, -, hwritten, hresult, hlength, -⟩ :=
    run_as_taken (.ofBytes [0x5B, 0x7B, 0x22, 0x6E, 0x61, 0x6D, 0x65, 0x22, 0x3A, 0x22, 0x41, 0x22,
      0x7D, 0x2C, 0x30, 0x5D] [.deliver 9, .interrupt, .deliver 1]) hwilling rfl rfl
  have hstats : (run (.ofBytes [0x5B, 0x7B, 0x22, 0x6E, 0x61, 0x6D, 0x65, 0x22, 0x3A, 0x22, 0x41,
      0x22, 0x7D, 0x2C, 0x30, 0x5D] [.deliver 9, .interrupt, .deliver 1])
      { Sink.unlimited with most := some 2 }).result.toOption = some ⟨2, 1, 1, []⟩ := by
    decide +kernel
  rw [hresult] at hstats
  cases fault with
  | some fault => cases hstats
  | none =>
    cases hstats
    exact ⟨_, blocks, rfl, hlength.symm, hblocks, hresult, hwritten⟩

end Export
end PlayableCards
