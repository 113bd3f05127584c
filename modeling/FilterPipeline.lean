import FilterPipeline.Pipeline
import FilterPipeline.Host.Published
import FilterPipeline.Proofs.KeyFate
import FilterPipeline.Proofs.Commuting
import FilterPipeline.Proofs.TwoRuns
import FilterPipeline.Proofs.ZoneOffsets
import FilterPipeline.Proofs.StoredMoment
import FilterPipeline.Proofs.CalendarFailure
import FilterPipeline.Proofs.Isolation
import FilterPipeline.Proofs.CallbackForms
import FilterPipeline.Proofs.StageShape
import FilterPipeline.Proofs.BuilderZone
import FilterPipeline.Proofs.CivilOrder
import FilterPipeline.Proofs.PublishedZones
import FilterPipeline.Proofs.DayBounds
import FilterPipeline.Proofs.CalendarEdge
import FilterPipeline.Proofs.DaySelection
import FilterPipeline.Proofs.NearestBinary
import FilterPipeline.Proofs.NumberLiteral
import FilterPipeline.Proofs.NumberReading
import FilterPipeline.Proofs.IntegerTexts
import FilterPipeline.Proofs.DayPaths
import FilterPipeline.Proofs.NamedKeys
import FilterPipeline.Proofs.ExplicitOffset
import FilterPipeline.Proofs.LiteralSearch
import FilterPipeline.Proofs.BuildSweep
import FilterPipeline.Proofs.EntryOrder
import FilterPipeline.Proofs.TimeBounds
import FilterPipeline.Proofs.IdentifierLists
import FilterPipeline.Proofs.JoinAgreement
import FilterPipeline.Proofs.Failures
import FilterPipeline.Proofs.NamedFields
