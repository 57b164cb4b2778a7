import Subtitling.App.Arguments
import Subtitling.App.Program
import Subtitling.App.Run
import Subtitling.Batch.Item
import Subtitling.Batch.Run
import Subtitling.Catalog.Column
import Subtitling.Catalog.Connection
import Subtitling.Catalog.Content
import Subtitling.Catalog.Database
import Subtitling.Catalog.Fault
import Subtitling.Catalog.Field
import Subtitling.Catalog.FileFormat
import Subtitling.Catalog.History
import Subtitling.Catalog.Literal
import Subtitling.Catalog.Location
import Subtitling.Catalog.Page
import Subtitling.Catalog.Record
import Subtitling.Catalog.Schema
import Subtitling.Catalog.Store
import Subtitling.Catalog.Stored
import Subtitling.Config.Basic
import Subtitling.Config.Reading
import Subtitling.Encoding.Sniff
import Subtitling.Files.AtomicWrite
import Subtitling.Files.Mapping
import Subtitling.Files.Path
import Subtitling.Files.Tree
import Subtitling.Json.Printer
import Subtitling.Json.Record
import Subtitling.Json.Syntax
import Subtitling.Json.Value
import Subtitling.Language.Code
import Subtitling.Language.Detection
import Subtitling.Language.Table
import Subtitling.Main
import Subtitling.Media.Kind
import Subtitling.Number.Binary
import Subtitling.Number.Shortest
import Subtitling.Number.Text
import Subtitling.Request
import Subtitling.Service.Client
import Subtitling.Service.Job
import Subtitling.Service.Lines
import Subtitling.Service.Payload
import Subtitling.Service.Poll
import Subtitling.Service.Rehearsal
import Subtitling.Service.Retry
import Subtitling.Service.Session
import Subtitling.Source.Candidate
import Subtitling.Source.Resolution
import Subtitling.Source.Scan
import Subtitling.Subtitle.Cue
import Subtitling.Subtitle.Srt
import Subtitling.Subtitle.Track
import Subtitling.Text.CharacterClass
import Subtitling.Text.CombiningClass
import Subtitling.Text.Composition
import Subtitling.Text.LowerCase
import Subtitling.Text.Normalization
import Subtitling.Text.Pieces
import Subtitling.Text.Printable
import Subtitling.Text.Quoted
import Subtitling.Text.StepTable
import Subtitling.Text.Utf16
import Subtitling.Text.Utf8
import Subtitling.Web.Address
import Subtitling.Web.Direction
import Subtitling.Web.Domain
import Subtitling.Web.Host
import Subtitling.Web.Joining
import Subtitling.Web.Mapping
import Subtitling.Web.Mapping.Table
import Subtitling.Web.Punycode
import Subtitling.Work.Queue
import Subtitling.Work.WorkUnit
import Subtitling.Work.World
import Subtitling.Proofs.Service.Lines
import Subtitling.Proofs.Service.Job
import Subtitling.Proofs.Service.Session
import Subtitling.Proofs.Service.Waiting
import Subtitling.Proofs.Text.Split
import Subtitling.Proofs.Web.Base
import Subtitling.Proofs.Service.Addresses
import Subtitling.Proofs.Service.Translating
import Subtitling.Proofs.Files.Listing
import Subtitling.Proofs.Files.AtomicWrite
import Subtitling.Proofs.Subtitle.Splice
import Subtitling.Proofs.Subtitle.Times
import Subtitling.Proofs.Work.WorkUnit
import Subtitling.Proofs.Source.Ranking
import Subtitling.Proofs.Source.Scan
import Subtitling.Proofs.Source.Resolution
import Subtitling.Proofs.Source.Around
import Subtitling.Proofs.Work.Failure
import Subtitling.Proofs.Subtitle.Timing
import Subtitling.Proofs.Subtitle.Blocks
import Subtitling.Proofs.Number.Text
import Subtitling.Proofs.Text.Lines
import Subtitling.Proofs.Subtitle.Writing
import Subtitling.Proofs.Subtitle.Rereading
import Subtitling.Proofs.Subtitle.RoundTrip
import Subtitling.Proofs.Subtitle.Strays
import Subtitling.Proofs.Work.Queue
import Subtitling.Proofs.Catalog.LiteralForms
import Subtitling.Proofs.Catalog.BracketScan
import Subtitling.Proofs.Catalog.LiteralCounter
import Subtitling.Proofs.Json.Reading
import Subtitling.Proofs.Json.Fields
import Subtitling.Proofs.Catalog.LiteralNesting
import Subtitling.Proofs.Catalog.LiteralReading
import Subtitling.Proofs.Catalog.LiteralsAsJson
import Subtitling.Proofs.Catalog.Encodings
import Subtitling.Proofs.Files.Denoting
import Subtitling.Proofs.Files.Making
import Subtitling.Proofs.Files.Change
import Subtitling.Proofs.Files.Apart
import Subtitling.Proofs.Catalog.Rows
import Subtitling.Proofs.Work.Independence
import Subtitling.Proofs.Work.Draining
import Subtitling.Proofs.Batch.Agreement
import Subtitling.Proofs.Batch.Queued
import Subtitling.Proofs.Batch.Accounts
import Subtitling.Proofs.Batch.Ledger
import Subtitling.Proofs.Batch.Sources
import Subtitling.Proofs.Encoding.RoundTrip
import Subtitling.Proofs.Language.Tag
import Subtitling.Proofs.Batch.Codes
import Subtitling.Proofs.Encoding.CutOff
import Subtitling.Proofs.Language.Verdict
import Subtitling.Proofs.Language.Speech
import Subtitling.Proofs.Number.Whole
import Subtitling.Proofs.Batch.Destination
import Subtitling.Proofs.Batch.Fields
import Subtitling.Proofs.Subtitle.LateTimes
import Subtitling.Proofs.Work.Marker
import Subtitling.Proofs.Subtitle.PlainText
import Subtitling.Proofs.Files.Mapping
import Subtitling.Proofs.Subtitle.LateHours
import Subtitling.Proofs.Subtitle.WrittenTimes
import Subtitling.Proofs.Subtitle.Stamps
import Subtitling.Proofs.Service.Progression
import Subtitling.Proofs.Catalog.Calls
import Subtitling.Proofs.Files.Growth
import Subtitling.Proofs.Files.AllOrNothing
