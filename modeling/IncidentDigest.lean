import IncidentDigest.Main
import IncidentDigest.Proofs.Counter.Occurrences
import IncidentDigest.Proofs.Counter.Order
import IncidentDigest.Proofs.Counter.Index
import IncidentDigest.Proofs.Counter.Heads
import IncidentDigest.Proofs.Summary.Reference
import IncidentDigest.Proofs.Http.Redirects
import IncidentDigest.Proofs.Service.Footprint
import IncidentDigest.Proofs.Service.Isolation
import IncidentDigest.Proofs.Service.Failures
import IncidentDigest.Proofs.Files.Walk
import IncidentDigest.Proofs.Files.Confinement
import IncidentDigest.Proofs.Program.Effects
import IncidentDigest.Proofs.Program.ExitCode
import IncidentDigest.Proofs.Calendar.Days
import IncidentDigest.Proofs.Files.Overwriting
import IncidentDigest.Proofs.Instant.Stamp
import IncidentDigest.Proofs.Report.Agreement
import IncidentDigest.Proofs.Instant.Reading
import IncidentDigest.Proofs.Instant.Offset
import IncidentDigest.Proofs.Instant.Canonical
import IncidentDigest.Proofs.Instant.Inverse
import IncidentDigest.Proofs.Window.Bounds
import IncidentDigest.Proofs.Calendar.Succession
import IncidentDigest.Proofs.Instant.Forms
import IncidentDigest.Proofs.Files.Persistence
import IncidentDigest.Proofs.Instant.Layouts
import IncidentDigest.Proofs.Json.Members
import IncidentDigest.Proofs.Json.RoundTrip
import IncidentDigest.Proofs.Program.Download
import IncidentDigest.Proofs.Service.Requests
import IncidentDigest.Proofs.Service.Tries
import IncidentDigest.Proofs.Record.Fields
import IncidentDigest.Proofs.Json.Objects
import IncidentDigest.Proofs.Binary64.Rounding
import IncidentDigest.Proofs.Binary64.Shortest
import IncidentDigest.Proofs.Json.Decimals
import IncidentDigest.Proofs.Json.WrittenForm
import IncidentDigest.Proofs.Ranking.Percentage
import IncidentDigest.Proofs.Record.RoundTrip
import IncidentDigest.Proofs.Service.Order
import IncidentDigest.Proofs.Service.Selection
import IncidentDigest.Proofs.Service.StandIn
import IncidentDigest.Proofs.Summary.Shares
import IncidentDigest.Proofs.Summary.RankedShares
import IncidentDigest.Proofs.Facet.Relevance
import IncidentDigest.Proofs.Program.Configured
import IncidentDigest.Proofs.Summary.Reordering
import IncidentDigest.Proofs.CommandLine.Variables
import IncidentDigest.Proofs.Program.Precedence
import IncidentDigest.Proofs.Report.Lines
import IncidentDigest.Proofs.Report.Digest
import IncidentDigest.Proofs.Files.Resolution
import IncidentDigest.Proofs.Files.Output
import IncidentDigest.Proofs.Files.Export
import IncidentDigest.Proofs.Service.Posting
import IncidentDigest.Proofs.Program.Posting
