import CeServer.Library.Transition
import CeServer.Library.Program
import CeServer.Library.Paths
import CeServer.Library.Implementation
import CeServer.Library.Footprints
import CeServer.Library.LittleEndian
import CeServer.Commands
import CeServer.Snapshots
import CeServer.ClientState
import CeServer.Client
import CeServer.Connection
import CeServer.Footprint
import CeServer.Requests
import CeServer.Framing
import CeServer.Truncation
import CeServer.TargetWrites
import CeServer.Release
import CeServer.HandleMap
import CeServer.HandleRefinement
import CeServer.HandleChecks
import CeServer.HandleTargets
import CeServer.Library.Decimal
import CeServer.Library.Promise
import CeServer.Memory
import CeServer.MemorySteps
import CeServer.Batch
import CeServer.Answers
import CeServer.Readers
import CeServer.BufferLifetime
import CeServer.Library.Timeline
import CeServer.Sampling
import CeServer.Linearizability
import CeServer.Progress
import CeServer.Completion
import CeServer.Descriptors
import CeServer.DescriptorLedger
import CeServer.Allocations
import CeServer.Numbering
import CeServer.Replies
import CeServer.Regions
import CeServer.CommandRuns
import CeServer.Enumeration
import CeServer.Queries
import CeServer.LibraryRuns
import CeServer.ModuleListing
import CeServer.Architecture
import CeServer.Segments
import CeServer.IdleClients
import CeServer.LiveSnapshots
import CeServer.FirstEntries
import CeServer.WriteReplies
import CeServer.PartialSends
import CeServer.BufferAccesses
import CeServer.Library.Records
import CeServer.ListReaders
import CeServer.BatchFormation
import CeServer.WakeUps
import CeServer.Library.TextReader
import CeServer.Library.TextStream
import CeServer.MemoryMap
import CeServer.Assembly
import CeServer.EndToEnd
import CeServer.WriteOrigins
import CeServer.Lifecycle
import CeServer.Library.Schedules
import CeServer.Quiescence
import CeServer.Exclusion
import CeServer.Liveness
import CeServer.Library.Formats
import CeServer.ReplyFormats
import CeServer.RequestStreams
import CeServer.ReplyStreams
import CeServer.Responsiveness
