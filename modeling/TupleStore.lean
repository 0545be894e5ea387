import TupleStore.Bytes
import TupleStore.Cache.Basic
import TupleStore.Cache.Configuration
import TupleStore.Cache.Entries
import TupleStore.Cache.Json
import TupleStore.Cache.Manager
import TupleStore.Cache.Statistics
import TupleStore.Client
import TupleStore.Cluster.Fault
import TupleStore.Cluster.Functions
import TupleStore.Cluster.Routing
import TupleStore.Cluster.Schema
import TupleStore.Codec.Basic
import TupleStore.Codec.Record
import TupleStore.Codec.Time
import TupleStore.CommandLine.Command
import TupleStore.CommandLine.Execution
import TupleStore.CommandLine.Json
import TupleStore.CommandLine.Usage
import TupleStore.Conditions
import TupleStore.Database.Basic
import TupleStore.Database.Table
import TupleStore.Digest.Sha1
import TupleStore.Entity.Basic
import TupleStore.Entity.Conversion
import TupleStore.Entity.Declaration
import TupleStore.Event
import TupleStore.Failure
import TupleStore.Floating.Format
import TupleStore.Floating.Reading
import TupleStore.Floating.Shortest
import TupleStore.Json.Basic
import TupleStore.Json.Class
import TupleStore.Json.Exact
import TupleStore.Json.Number
import TupleStore.Json.Reader
import TupleStore.Json.Request
import TupleStore.Json.Writer
import TupleStore.Main
import TupleStore.MapId
import TupleStore.MessagePack.Reader
import TupleStore.MessagePack.Writer
import TupleStore.MethodQuery.Basic
import TupleStore.MethodQuery.Parser
import TupleStore.Named
import TupleStore.Network.Connection
import TupleStore.Network.Fault
import TupleStore.Network.Greeting
import TupleStore.Network.Operation
import TupleStore.Network.Packet
import TupleStore.Network.Pool
import TupleStore.Network.SystemSpace
import TupleStore.Network.Tcp
import TupleStore.Network.Transport
import TupleStore.Options
import TupleStore.PrimaryOrder
import TupleStore.Program
import TupleStore.Proofs.Accesses
import TupleStore.Proofs.AllOrNothing
import TupleStore.Proofs.CacheCalls
import TupleStore.Proofs.CacheContents
import TupleStore.Proofs.CacheIsolation
import TupleStore.Proofs.ClusterSelection
import TupleStore.Proofs.Contents
import TupleStore.Proofs.Cut
import TupleStore.Proofs.DeclaredNames
import TupleStore.Proofs.DeclaredOptions
import TupleStore.Proofs.DurationOverflow
import TupleStore.Proofs.DurationSums
import TupleStore.Proofs.DurationText
import TupleStore.Proofs.EmbeddedEntries
import TupleStore.Proofs.EntityActions
import TupleStore.Proofs.EntityKeys
import TupleStore.Proofs.EntityTuples
import TupleStore.Proofs.EntryRuns
import TupleStore.Proofs.EventOrder
import TupleStore.Proofs.EventPlaces
import TupleStore.Proofs.Executions
import TupleStore.Proofs.FirstStore
import TupleStore.Proofs.FirstUses
import TupleStore.Proofs.FloatingOrder
import TupleStore.Proofs.GuardedSearch
import TupleStore.Proofs.Heap
import TupleStore.Proofs.Histories
import TupleStore.Proofs.InsertedFields
import TupleStore.Proofs.Interleaving
import TupleStore.Proofs.Interrupted
import TupleStore.Proofs.Keeping
import TupleStore.Proofs.KeywordPieces
import TupleStore.Proofs.LeapSeconds
import TupleStore.Proofs.LinkUse
import TupleStore.Proofs.LoadedSchema
import TupleStore.Proofs.LongestProperty
import TupleStore.Proofs.LostEntries
import TupleStore.Proofs.MethodNames
import TupleStore.Proofs.NameStyles
import TupleStore.Proofs.NamedFields
import TupleStore.Proofs.NumberOrder
import TupleStore.Proofs.OrderlyActions
import TupleStore.Proofs.Outcomes
import TupleStore.Proofs.Overwriting
import TupleStore.Proofs.OwnAnswers
import TupleStore.Proofs.OwnSpaces
import TupleStore.Proofs.PackedValues
import TupleStore.Proofs.PlainNames
import TupleStore.Proofs.PoolSelection
import TupleStore.Proofs.Preorder
import TupleStore.Proofs.PrimaryKeys
import TupleStore.Proofs.PrimaryName
import TupleStore.Proofs.Programs
import TupleStore.Proofs.PutIfAbsent
import TupleStore.Proofs.QueryParameters
import TupleStore.Proofs.Reachable
import TupleStore.Proofs.RequestPackets
import TupleStore.Proofs.Requests
import TupleStore.Proofs.ResponseStreams
import TupleStore.Proofs.RoundTrips
import TupleStore.Proofs.Rounding
import TupleStore.Proofs.SampleRows
import TupleStore.Proofs.Saving
import TupleStore.Proofs.Search
import TupleStore.Proofs.SharedSearch
import TupleStore.Proofs.SpaceCreation
import TupleStore.Proofs.SpaceNames
import TupleStore.Proofs.SubjectLimits
import TupleStore.Proofs.Sweeps
import TupleStore.Proofs.SystemRows
import TupleStore.Proofs.Tables
import TupleStore.Proofs.TimesToLive
import TupleStore.Proofs.Traffic
import TupleStore.Proofs.Transcripts
import TupleStore.Proofs.UnknownNames
import TupleStore.Proofs.Updating
import TupleStore.Proofs.UsageCounts
import TupleStore.Proofs.ValueOrder
import TupleStore.Remote
import TupleStore.Repository
import TupleStore.Sample.Callbacks
import TupleStore.Sample.Kind
import TupleStore.Sample.Types
import TupleStore.Schema
import TupleStore.Template
import TupleStore.Text.Base64
import TupleStore.Text.Case
import TupleStore.Text.CaseTable
import TupleStore.Text.Cluster
import TupleStore.Text.Combining
import TupleStore.Text.Cut
import TupleStore.Text.Printable
import TupleStore.Text.Quoted
import TupleStore.Text.Ranges
import TupleStore.Text.Utf8
import TupleStore.Text.Words
import TupleStore.Time
import TupleStore.Value
import TupleStore.Value.Display
import TupleStore.Value.Order
