import PathPattern.Expression.Spans
import PathPattern.Main
import PathPattern.Proofs.Search
import PathPattern.Proofs.Reading
import PathPattern.Proofs.Anchored
import PathPattern.Proofs.Language
import PathPattern.Proofs.Acceptance
import PathPattern.Proofs.Weight
import PathPattern.Proofs.Slots
import PathPattern.Proofs.Scrubbing
import PathPattern.Proofs.Filling
import PathPattern.Proofs.LiteralText
import PathPattern.Proofs.RoundTrip
import PathPattern.Proofs.Separators
import PathPattern.Proofs.Unfilled
import PathPattern.Proofs.Lines
import PathPattern.Proofs.Respelling
import PathPattern.Proofs.Discovery
import PathPattern.Proofs.Merging
import PathPattern.Proofs.Isolation
import PathPattern.Proofs.NamedCommands
import PathPattern.Proofs.Places
import PathPattern.Proofs.Decoding
