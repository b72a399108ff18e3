import WebHarvest.Access.Address
import WebHarvest.Access.Challenge
import WebHarvest.Access.Credential
import WebHarvest.Access.Promotion
import WebHarvest.Access.Server
import WebHarvest.Archive.Dedup
import WebHarvest.Archive.Identifier
import WebHarvest.Archive.Pipeline
import WebHarvest.Archive.Record
import WebHarvest.Archive.Revisit
import WebHarvest.Archive.Uuid
import WebHarvest.Calendar.Date
import WebHarvest.Calendar.Rfc3339
import WebHarvest.Calendar.Timestamp
import WebHarvest.Capture.Entry
import WebHarvest.Capture.History
import WebHarvest.Capture.Storage
import WebHarvest.Clock.Elapsed
import WebHarvest.Clock.Guard
import WebHarvest.Clock.Timer
import WebHarvest.Clock.Wake
import WebHarvest.Command
import WebHarvest.Crawl.Flight
import WebHarvest.Crawl.Report
import WebHarvest.Crawl.Run
import WebHarvest.Crawl.Setup
import WebHarvest.Digest.Algorithm
import WebHarvest.Digest.BlockHash
import WebHarvest.Digest.Content
import WebHarvest.Digest.Md5
import WebHarvest.Digest.Sha1
import WebHarvest.Digest.Sha256
import WebHarvest.Digest.Word
import WebHarvest.Exchange.Access
import WebHarvest.Exchange.Archive
import WebHarvest.Exchange.Capture
import WebHarvest.Exchange.Config
import WebHarvest.Exchange.Item
import WebHarvest.Exchange.Record
import WebHarvest.Exchange.Report
import WebHarvest.Fetch.Conditional
import WebHarvest.Fetch.Config
import WebHarvest.Fetch.Error
import WebHarvest.Fetch.Execution
import WebHarvest.Fetch.Fetcher
import WebHarvest.Fetch.Landing
import WebHarvest.Fetch.Midfetch
import WebHarvest.Fetch.Transfer
import WebHarvest.Http.Header
import WebHarvest.Http.Message
import WebHarvest.Http.Status
import WebHarvest.Item.Basic
import WebHarvest.Item.Snapshot
import WebHarvest.Item.Status
import WebHarvest.Json.Basic
import WebHarvest.Json.Convention
import WebHarvest.Json.Fields
import WebHarvest.Json.Range
import WebHarvest.Json.Reader
import WebHarvest.Json.Writer
import WebHarvest.Main
import WebHarvest.Place
import WebHarvest.Proofs.Access.Confinement
import WebHarvest.Proofs.Archive.Crew
import WebHarvest.Proofs.Archive.CrewConsistency
import WebHarvest.Proofs.Archive.Decision
import WebHarvest.Proofs.Archive.Deduplication
import WebHarvest.Proofs.Archive.Interleaving
import WebHarvest.Proofs.Archive.RecordLookup
import WebHarvest.Proofs.Archive.Session
import WebHarvest.Proofs.Capture.Lookup
import WebHarvest.Proofs.Digest.Streaming
import WebHarvest.Proofs.Fetch.Attempted
import WebHarvest.Proofs.Fetch.Authorization
import WebHarvest.Proofs.Fetch.Confinement
import WebHarvest.Proofs.Fetch.Traffic
import WebHarvest.Proofs.Http.Fields
import WebHarvest.Proofs.KeyedList
import WebHarvest.Proofs.ReadList
import WebHarvest.Proofs.Recording.BodyPrefix
import WebHarvest.Proofs.Recording.Chunking
import WebHarvest.Proofs.Recording.Closing
import WebHarvest.Proofs.Recording.Contents
import WebHarvest.Proofs.Recording.OperationRuns
import WebHarvest.Proofs.Recording.Payments
import WebHarvest.Proofs.Recording.ReadEnds
import WebHarvest.Recording.Reading
import WebHarvest.Recording.Recorder
import WebHarvest.Recording.Spool
import WebHarvest.Recording.Stream
import WebHarvest.Recording.TokenBucket
import WebHarvest.Settings.Basic
import WebHarvest.Settings.Flags
import WebHarvest.Text.Ascii
import WebHarvest.Text.Blank
import WebHarvest.Text.CodeTable
import WebHarvest.Text.Combining
import WebHarvest.Text.Decimal
import WebHarvest.Text.Direction
import WebHarvest.Text.Hex
import WebHarvest.Text.Joining
import WebHarvest.Text.Mark
import WebHarvest.Text.Normal
import WebHarvest.Text.Normal.Composite
import WebHarvest.Text.Normal.Replaced
import WebHarvest.Text.Radix
import WebHarvest.Text.Utf8
import WebHarvest.Toml.Basic
import WebHarvest.Toml.Numbers
import WebHarvest.Toml.Reader
import WebHarvest.Toml.Strings
import WebHarvest.Toml.Table
import WebHarvest.Url.Basic
import WebHarvest.Url.Domain
import WebHarvest.Url.Domain.Label
import WebHarvest.Url.Domain.Mapping
import WebHarvest.Url.Host
import WebHarvest.Url.Parser
import WebHarvest.Url.Percent
import WebHarvest.Url.Punycode
import WebHarvest.Proofs.Fetch.TransferEnd
import WebHarvest.Proofs.Fetch.Outcome
import WebHarvest.Proofs.Archive.Completeness
import WebHarvest.Proofs.Access.Promotion
import WebHarvest.Proofs.Fetch.Promotion
import WebHarvest.Proofs.Fetch.Series
import WebHarvest.Proofs.Fetch.VirtualSize
import WebHarvest.Proofs.Fetch.Validators
import WebHarvest.Proofs.Recording.Waking
import WebHarvest.Proofs.Fetch.Waking
import WebHarvest.Proofs.Access.Challenges
import WebHarvest.Proofs.Fetch.Challenged
import WebHarvest.Proofs.Crawl.Alone
import WebHarvest.Proofs.Crawl.Retry
import WebHarvest.Proofs.Clock.Delay
import WebHarvest.Proofs.Recording.Delay
import WebHarvest.Proofs.Fetch.Delay
import WebHarvest.Proofs.Text.Utf8
import WebHarvest.Proofs.Text.Radix
import WebHarvest.Proofs.Fetch.Snapshots
import WebHarvest.Proofs.Access.Places
import WebHarvest.Proofs.Access.Clients
import WebHarvest.Proofs.Fetch.Layout
import WebHarvest.Proofs.Archive.RecordLengths
import WebHarvest.Proofs.Text.Decimal
import WebHarvest.Proofs.Calendar.Date
import WebHarvest.Proofs.Calendar.Rfc3339
import WebHarvest.Proofs.Json.Fields
import WebHarvest.Proofs.Json.RoundTrip
import WebHarvest.Proofs.Capture.Storage
import WebHarvest.Proofs.Capture.Operations
import WebHarvest.Proofs.Digest.Text
import WebHarvest.Proofs.Json.Forms
import WebHarvest.Proofs.Exchange.Forms
import WebHarvest.Proofs.Exchange.RoundTrip
import WebHarvest.Proofs.Crawl.Attending
import WebHarvest.Proofs.Crawl.Shift
import WebHarvest.Proofs.Crawl.Ending
import WebHarvest.Proofs.Fetch.Cancellation
import WebHarvest.Proofs.Crawl.Completion
import WebHarvest.Proofs.Fetch.Ranges
import WebHarvest.Proofs.Archive.Ranges
import WebHarvest.Proofs.Clock.Waits
import WebHarvest.Proofs.Recording.Steps
import WebHarvest.Proofs.Recording.Unbounded
import WebHarvest.Proofs.Recording.Timing
import WebHarvest.Proofs.Recording.ExactTokens
import WebHarvest.Proofs.Recording.Declared
import WebHarvest.Proofs.Fetch.Declared
import WebHarvest.Proofs.Fetch.Rejection
import WebHarvest.Proofs.Fetch.Persistence
import WebHarvest.Proofs.Item.Notes
import WebHarvest.Proofs.Access.Conservation
import WebHarvest.Proofs.Archive.Selection
import WebHarvest.Proofs.Url.OneLine
import WebHarvest.Proofs.Http.Lines
import WebHarvest.Proofs.Http.Envelope
import WebHarvest.Proofs.Access.Realms
import WebHarvest.Proofs.Text.Spelling
import WebHarvest.Proofs.Capture.Keys
import WebHarvest.Proofs.Archive.Sharing
import WebHarvest.Proofs.Recording.Balance
import WebHarvest.Proofs.Recording.BucketRuns
import WebHarvest.Proofs.Recording.Pacing
import WebHarvest.Proofs.Calendar.Days
import WebHarvest.Proofs.Text.FixedWidth
import WebHarvest.Proofs.Calendar.WarcDate
import WebHarvest.Proofs.Archive.RecordOrder
