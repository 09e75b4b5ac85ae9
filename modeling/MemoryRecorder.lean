import MemoryRecorder.Word
import MemoryRecorder.Panic
import MemoryRecorder.Text.Utf8
import MemoryRecorder.Text.Blank
import MemoryRecorder.Text.Numeral
import MemoryRecorder.Text.Decimal
import MemoryRecorder.Text.Layout
import MemoryRecorder.Text.Printable
import MemoryRecorder.Text.Quoted
import MemoryRecorder.Health
import MemoryRecorder.Hash
import MemoryRecorder.FileTree
import MemoryRecorder.Clock
import MemoryRecorder.Process.Error
import MemoryRecorder.Process.Identity
import MemoryRecorder.Process.Mapping
import MemoryRecorder.Process.Smaps
import MemoryRecorder.Process.Counters
import MemoryRecorder.Process.Groups
import MemoryRecorder.Process.Scan
import MemoryRecorder.Process.Watcher
import MemoryRecorder.System.MemInfo
import MemoryRecorder.Store.Basic
import MemoryRecorder.Store.Open
import MemoryRecorder.Store.Write
import MemoryRecorder.Store.Numeric
import MemoryRecorder.Store.Read
import MemoryRecorder.Store.Digits
import MemoryRecorder.Store.Value
import MemoryRecorder.Store.Sql.Token
import MemoryRecorder.Store.Sql.Ast
import MemoryRecorder.Store.Sql.Parser.Basic
import MemoryRecorder.Store.Sql.Parser.Query
import MemoryRecorder.Store.Sql.Parser.Statement
import MemoryRecorder.Store.Sql.Schema
import MemoryRecorder.Store.Sql.Printf
import MemoryRecorder.Store.Sql.Func
import MemoryRecorder.Store.Sql.Expand
import MemoryRecorder.Store.Sql.Resolve
import MemoryRecorder.Store.Sql.Lower
import MemoryRecorder.Store.Sql.Eval
import MemoryRecorder.Store.Sql.Compile
import MemoryRecorder.Store.Sql.Change
import MemoryRecorder.Store.Sql.Define
import MemoryRecorder.Store.Sql.Connection
import MemoryRecorder.Pipeline.Message
import MemoryRecorder.Pipeline.Worker
import MemoryRecorder.Pipeline.Feeder
import MemoryRecorder.Pipeline.Recorder
import MemoryRecorder.Pipeline.Scheduler
import MemoryRecorder.Config.Basic
import MemoryRecorder.Yaml.Chars
import MemoryRecorder.Yaml.Scalar
import MemoryRecorder.Config.Show
import MemoryRecorder.Cli.Suggest
import MemoryRecorder.Cli.Args
import MemoryRecorder.Cli.Help
import MemoryRecorder.Yaml.Token
import MemoryRecorder.Yaml.Event
import MemoryRecorder.Config.ReadYaml
import MemoryRecorder.Json.Reader
import MemoryRecorder.Config.ReadJson
import MemoryRecorder.Toml.Token
import MemoryRecorder.Toml.Document
import MemoryRecorder.Config.ReadToml
import MemoryRecorder.Log
import MemoryRecorder.Store.Overview
import MemoryRecorder.Cli.World
import MemoryRecorder.Cli.Run
import MemoryRecorder.Main
import MemoryRecorder.Proofs.Store.Tables
import MemoryRecorder.Proofs.Store.Documented
import MemoryRecorder.Proofs.Store.Exec
import MemoryRecorder.Proofs.Store.Statements
import MemoryRecorder.Proofs.Store.Snapshot
import MemoryRecorder.Proofs.Store.Reads
import MemoryRecorder.Proofs.Store.Sound
import MemoryRecorder.Proofs.Store.Open
import MemoryRecorder.Proofs.Store.Reachable
import MemoryRecorder.Proofs.Store.Progress
import MemoryRecorder.Proofs.Store.Ordered
import MemoryRecorder.Proofs.Store.Reference
import MemoryRecorder.Proofs.Store.Invariants
import MemoryRecorder.Proofs.Store.Atomicity
import MemoryRecorder.Proofs.Store.Lookup
import MemoryRecorder.Proofs.Store.ReadBack
import MemoryRecorder.Proofs.Store.Rows
import MemoryRecorder.Proofs.Store.Ranking
import MemoryRecorder.Proofs.Text.Written
import MemoryRecorder.Proofs.Process.SmapsRoundTrip
import MemoryRecorder.Proofs.Process.SmapsBlocks
import MemoryRecorder.Proofs.Process.Grouping
import MemoryRecorder.Proofs.Process.StartTime
import MemoryRecorder.Proofs.Process.Sampling
import MemoryRecorder.Proofs.Process.Discovery
import MemoryRecorder.Proofs.Process.PageCounters
import MemoryRecorder.Proofs.Process.Terminator
import MemoryRecorder.Proofs.System.MemInfoLines
import MemoryRecorder.Proofs.Store.Listing
import MemoryRecorder.Proofs.Store.ListingReference
import MemoryRecorder.Proofs.Store.Listings
import MemoryRecorder.Proofs.Pipeline.Commands
import MemoryRecorder.Proofs.Pipeline.Run
import MemoryRecorder.Proofs.Pipeline.Delivery
import MemoryRecorder.Proofs.Pipeline.Incarnations
import MemoryRecorder.Proofs.Pipeline.Shutdown
import MemoryRecorder.Proofs.Pipeline.HandOff
import MemoryRecorder.Proofs.Pipeline.Announcements
import MemoryRecorder.Proofs.Store.SystemLog
import MemoryRecorder.Proofs.Store.SystemAt
import MemoryRecorder.Proofs.Text.ByteOrder
import MemoryRecorder.Proofs.Store.RowKeys
import MemoryRecorder.Proofs.Store.Queries
import MemoryRecorder.Proofs.Store.ReaderReference
import MemoryRecorder.Proofs.Store.SystemPeak
import MemoryRecorder.Proofs.Store.Interface
import MemoryRecorder.Proofs.Store.RangeCache
import MemoryRecorder.Proofs.Pipeline.ProcessRows
import MemoryRecorder.Proofs.Process.SortedGroups
