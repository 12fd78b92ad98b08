import OpenCodexRelay.Durable
import OpenCodexRelay.Routing.Records
import OpenCodexRelay.Routing.Files
import OpenCodexRelay.Routing.Store
import OpenCodexRelay.Routing.Watcher
import OpenCodexRelay.Routing.Controller
import OpenCodexRelay.Routing.Gateway
import OpenCodexRelay.Routing.Recovery
import OpenCodexRelay.Routing.Requests
import OpenCodexRelay.Routing.Footprint
import OpenCodexRelay.Routing.Finalization
import OpenCodexRelay.Routing.RuntimeRouting
import OpenCodexRelay.Routing.Witnessed
import OpenCodexRelay.Routing.Progress
import OpenCodexRelay.Routing.Resolvable
import OpenCodexRelay.Routing.Generations
import OpenCodexRelay.Routing.Evidence
import OpenCodexRelay.Routing.Recoverable
import OpenCodexRelay.Interleaved
import OpenCodexRelay.Proxy.RuntimeManager
import OpenCodexRelay.Proxy.Exclusive
import OpenCodexRelay.Proxy.Readiness
import OpenCodexRelay.Proxy.Shutdown
import OpenCodexRelay.Routing.MaintenanceProtocol
import OpenCodexRelay.Composition
import OpenCodexRelay.Resident.Maintenance
import OpenCodexRelay.Hosted
import OpenCodexRelay.Routing.Backed
import OpenCodexRelay.Routing.BackedCalls
import OpenCodexRelay.Proxy.Installed
import OpenCodexRelay.Resident.Relay
import OpenCodexRelay.Resident.Serving
import OpenCodexRelay.Queueing
import OpenCodexRelay.Scheduler.Accounts
import OpenCodexRelay.Scheduler.Conservation
import OpenCodexRelay.Scheduler.WorkConservation
import OpenCodexRelay.Json
import OpenCodexRelay.Responses.Acceptance
import OpenCodexRelay.Responses.Classification
import OpenCodexRelay.Catalog.Activation
import OpenCodexRelay.LoopbackAuth.CredentialConn
import OpenCodexRelay.FileTree
import OpenCodexRelay.Release.Archive
import OpenCodexRelay.Release.Extraction
import OpenCodexRelay.LegacyMigration.Migration
import OpenCodexRelay.LegacyMigration.Reversal
import OpenCodexRelay.HelperInstaller.Commands
import OpenCodexRelay.HelperInstaller.Recovery
import OpenCodexRelay.JsonReader
import OpenCodexRelay.StrictJson.Decoding
import OpenCodexRelay.StrictJson.Meaning
import OpenCodexRelay.Proxy.Preflight
import OpenCodexRelay.Proxy.ExactLength
import OpenCodexRelay.Routing.NativeRepair
import OpenCodexRelay.Handoff.Discovery
import OpenCodexRelay.Responses.Preparing
import OpenCodexRelay.Responses.Rewriting
import OpenCodexRelay.Scheduler.Fifo
import OpenCodexRelay.Responses.TimedReader
import OpenCodexRelay.Release.Versions
import OpenCodexRelay.LoopbackAuth.Transport
