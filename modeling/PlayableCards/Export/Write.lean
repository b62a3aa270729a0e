import PlayableCards.Card.OfJson
import PlayableCards.Export.Sink
import PlayableCards.Export.Stats
import PlayableCards.Stream.Feed

/-!
# Exporting playable cards

The cards of an array become blocks, one after another, either taken one by one or written to a
sink, each with a separator line after it.
-/

namespace PlayableCards

def separator : String := "---"

namespace Block

def written (b : Block) : Bytes := Utf8.ofString (b.text ++ "\n" ++ separator ++ "\n")

end Block

namespace Stream

/-- The next block; cards without one are passed over. -/
def nextBlock (s : Stream) : Yield Block × Stream := s.nextSome Card.target Card.block?

end Stream

namespace Sink

/-- Writes the block of a card, if it has one, and counts the card once that has succeeded. -/
def writeCard (acc : Stats × Sink) (card : Card) : Option IoFault × Stats × Sink :=
  let outcome := card.outcome
  let (fault, sink) :=
    match outcome with
    | .block b => acc.2.write b.written
    | .unnamed | .excluded _ => (none, acc.2)
  match fault with
  | some fault => (some fault, acc.1, sink)
  | none => (none, acc.1.record outcome, sink)

end Sink

structure Export where
  result : Except StreamFault Stats
  sink : Sink
  stream : Stream

namespace Export

/-- Writes the blocks of all cards, then flushes, whatever happened. A fault of the stream or of
writing comes before one of flushing. -/
def run (source : Source) (sink : Sink) : Export :=
  let (fault, (stats, sink), stream) :=
    (Stream.ofSource source).feed Card.target Sink.writeCard (Stats.zero, sink)
  let (flushFault, sink) := sink.flush
  let result :=
    match fault, flushFault with
    | some fault, _ => .error fault
    | none, some fault => .error (.io fault)
    | none, none => .ok stats
  ⟨result, sink, stream⟩

end Export

end PlayableCards
