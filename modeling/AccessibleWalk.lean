import AccessibleWalk.Document.JsonWriter
import AccessibleWalk.Itinerary.Step
import AccessibleWalk.Main
import AccessibleWalk.Proofs.Reluctance.CacheKey
import AccessibleWalk.Proofs.Scoring.ColumnOrder
import AccessibleWalk.Proofs.Way.Export
import AccessibleWalk.Proofs.Number.Rounding
import AccessibleWalk.Proofs.Number.Scaling
import AccessibleWalk.Proofs.Number.Multiples
import AccessibleWalk.Proofs.Walk.Normalizing
import AccessibleWalk.Proofs.Walk.History
import AccessibleWalk.Proofs.Walk.KeyLaws
import AccessibleWalk.Proofs.Walk.Mentions
import AccessibleWalk.Proofs.Walk.Rebuild
import AccessibleWalk.Proofs.Reluctance.Interference
import AccessibleWalk.Proofs.Way.FirstFailure
import AccessibleWalk.Proofs.Way.Lenient
import AccessibleWalk.Proofs.Scoring.Outcome
import AccessibleWalk.Proofs.Number.Sign
import AccessibleWalk.Proofs.Scoring.NonNegative
import AccessibleWalk.Proofs.Table.ReadBack
import AccessibleWalk.Proofs.Scoring.InOrder
import AccessibleWalk.Proofs.Property.Reading
import AccessibleWalk.Proofs.Reluctance.Factors
import AccessibleWalk.Proofs.Scoring.Relevance
import AccessibleWalk.Proofs.Routing.RoundTrip
import AccessibleWalk.Proofs.Number.Order
import AccessibleWalk.Proofs.Number.Doubling
import AccessibleWalk.Proofs.Reluctance.Breaches
import AccessibleWalk.Proofs.Impact.Order
import AccessibleWalk.Proofs.Reluctance.Worse
import AccessibleWalk.Proofs.Walk.Monotone
import AccessibleWalk.Proofs.Reluctance.Stricter
import AccessibleWalk.Proofs.Reluctance.Defaults
import AccessibleWalk.Proofs.Property.Store
import AccessibleWalk.Proofs.Number.Whole
import AccessibleWalk.Proofs.Impact.Severity
import AccessibleWalk.Proofs.Number.Sum
import AccessibleWalk.Proofs.Reluctance.Slope
import AccessibleWalk.Proofs.Walk.Ranges
import AccessibleWalk.Proofs.Walk.Domain
import AccessibleWalk.Proofs.Category.Listing
import AccessibleWalk.Proofs.Way.Insertions
import AccessibleWalk.Proofs.Text.Parts
import AccessibleWalk.Proofs.Itinerary.Faithful
