import PlayableCards.Card.Block
import PlayableCards.Card.OfJson
import PlayableCards.Command.Session
import PlayableCards.Export.Write
import PlayableCards.Json.Decode
import PlayableCards.Main
import PlayableCards.Proofs.Card.Agreement
import PlayableCards.Proofs.Card.DigitalOnly
import PlayableCards.Proofs.Card.Ignored
import PlayableCards.Proofs.Command.Effects
import PlayableCards.Proofs.Export.Failing
import PlayableCards.Proofs.Export.Pieces
import PlayableCards.Proofs.Finality
import PlayableCards.Proofs.Stream.Buffering
import PlayableCards.Proofs.Stream.Conversion
import PlayableCards.Proofs.Stream.Opening
import PlayableCards.Proofs.Stream.Passes
import PlayableCards.Proofs.Unfinished
import PlayableCards.Stream.Feed
