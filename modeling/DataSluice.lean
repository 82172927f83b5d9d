import DataSluice.Application.OpenedOwnership
import DataSluice.Application.OpenedResource
import DataSluice.Application.OpenedStreams
import DataSluice.Catalog.Ckan
import DataSluice.Catalog.HarvestHistories
import DataSluice.Catalog.HarvestSources
import DataSluice.Catalog.MutationPolicy
import DataSluice.Catalog.MutationReceipts
import DataSluice.Catalog.OauthCallback
import DataSluice.Catalog.ReceiptsTruthful
import DataSluice.Catalog.SiteGate
import DataSluice.Catalog.StreamSettlement
import DataSluice.Catalog.UdataCall
import DataSluice.Catalog.UdataHarvest
import DataSluice.Catalog.UdataMutation
import DataSluice.Catalog.UdataPaths
import DataSluice.Catalog.UdataRequests
import DataSluice.Catalog.UdataRules
import DataSluice.Catalog.UdataSends
import DataSluice.Catalog.UdataStream
import DataSluice.Catalog.UdataTargets
import DataSluice.Catalog.UdataWaits
import DataSluice.Contracts.Report
import DataSluice.Contracts.ReportReload
import DataSluice.Contracts.ReportRoundTrip
import DataSluice.Data.Access
import DataSluice.Data.BatchStream
import DataSluice.Data.ByteReaders
import DataSluice.Data.Csv
import DataSluice.Data.JsonRows
import DataSluice.Data.ParquetCursor
import DataSluice.Data.RecordTable
import DataSluice.Data.Xlsx
import DataSluice.Domain.Artifact
import DataSluice.Domain.ArtifactRoundTrip
import DataSluice.Domain.Auth
import DataSluice.Domain.EntryOrder
import DataSluice.Domain.Equality
import DataSluice.Domain.Evidence
import DataSluice.Domain.HttpTarget
import DataSluice.Domain.Json
import DataSluice.Domain.JsonDocument
import DataSluice.Domain.JsonValue
import DataSluice.Domain.Metadata
import DataSluice.Domain.Patches
import DataSluice.Domain.Profiles
import DataSluice.Domain.Projection
import DataSluice.Domain.Receipts
import DataSluice.Domain.Records
import DataSluice.Domain.Uri
import DataSluice.Domain.UriFixpoint
import DataSluice.Io.ByteCaps
import DataSluice.Io.ContentCache
import DataSluice.Io.ContentSafety
import DataSluice.Io.Downloads
import DataSluice.Io.DownloadsApart
import DataSluice.Io.DownloadsVerified
import DataSluice.Io.FollowRedirects
import DataSluice.Lib.Agreement
import DataSluice.Lib.ByteCap
import DataSluice.Lib.Chunked
import DataSluice.Lib.CivilDates
import DataSluice.Lib.ContentFiles
import DataSluice.Lib.DateTime
import DataSluice.Lib.Dict
import DataSluice.Lib.Durable
import DataSluice.Lib.Effect
import DataSluice.Lib.Generator
import DataSluice.Lib.Joined
import DataSluice.Lib.JsonParse
import DataSluice.Lib.JsonText
import DataSluice.Lib.Regex
import DataSluice.Lib.TimedCache
import DataSluice.Lib.Transition
import DataSluice.Lib.Url
import DataSluice.Lib.UrlHosts
import DataSluice.Lib.UrlQueries
import DataSluice.Lib.UrlRoundTrip
import DataSluice.Lib.Utf8
import DataSluice.Lib.Utf8Decoder
import DataSluice.Runtime.Bulk
import DataSluice.Runtime.BulkResume
import DataSluice.Runtime.BulkSafety
import DataSluice.Runtime.BulkSteps
import DataSluice.Runtime.BulkSummary
import DataSluice.Runtime.BulkYields
import DataSluice.Runtime.Capability
import DataSluice.Runtime.CapabilityBarrier
import DataSluice.Runtime.CapabilityFlights
import DataSluice.Runtime.CapabilityInterval
import DataSluice.Runtime.Dispatch
import DataSluice.Runtime.Errors
import DataSluice.Runtime.Events
import DataSluice.Runtime.HalfOpen
import DataSluice.Runtime.MutationEnforcer
import DataSluice.Runtime.Oauth
import DataSluice.Runtime.Redirects
import DataSluice.Runtime.Resilience
import DataSluice.Runtime.RetryLoop
import DataSluice.Runtime.RetrySafety
import DataSluice.Runtime.SingleFlight
import DataSluice.Runtime.Transport
import DataSluice.Sync.AtomicOnError
import DataSluice.Sync.Calls
import DataSluice.Sync.Crash
import DataSluice.Sync.Hashing
import DataSluice.Sync.Health
import DataSluice.Sync.Identity
import DataSluice.Sync.KeyLocks
import DataSluice.Sync.Materialize
import DataSluice.Sync.Outcome
import DataSluice.Sync.PlainTables
import DataSluice.Sync.Replaced
import DataSluice.Sync.RunEnds
import DataSluice.Sync.StagedRuns
import DataSluice.Sync.Staging
import DataSluice.Sync.State
import DataSluice.Sync.StateEnvelope
import DataSluice.Sync.StateStore
import DataSluice.Sync.Transaction
import DataSluice.Sync.Watermark
import DataSluice.Transforms.Pipeline
import DataSluice.Transforms.Steps
