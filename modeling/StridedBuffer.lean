import StridedBuffer.Binary.Convert
import StridedBuffer.Binary.Dyadic
import StridedBuffer.Binary.Format
import StridedBuffer.Buffer.Descriptor
import StridedBuffer.Buffer.Flags
import StridedBuffer.Clock.Duration
import StridedBuffer.Clock.Time
import StridedBuffer.Command.Export
import StridedBuffer.Command.Fetch
import StridedBuffer.Command.Flags
import StridedBuffer.Command.Inspect
import StridedBuffer.Command.Log
import StridedBuffer.Command.Machine
import StridedBuffer.Command.Run
import StridedBuffer.Command.Setup
import StridedBuffer.Command.World
import StridedBuffer.Compression.Crc32
import StridedBuffer.Compression.Gzip
import StridedBuffer.Compression.Inflate
import StridedBuffer.Compression.Lz4
import StridedBuffer.Config.Load
import StridedBuffer.Config.Settings
import StridedBuffer.Dataset.Fetch
import StridedBuffer.Dataset.Idx
import StridedBuffer.Dataset.Mnist
import StridedBuffer.Decimal.Notation
import StridedBuffer.Decimal.Read
import StridedBuffer.Decimal.Shortest
import StridedBuffer.Digest.Blake3
import StridedBuffer.Doc
import StridedBuffer.Element.DataType
import StridedBuffer.Element.Tag
import StridedBuffer.Element.Value
import StridedBuffer.Fault
import StridedBuffer.Files.Entry
import StridedBuffer.Files.Path
import StridedBuffer.Files.Tree
import StridedBuffer.Host.Buffer
import StridedBuffer.Host.Extract
import StridedBuffer.Host.Module
import StridedBuffer.Layout.Check
import StridedBuffer.Layout.Shape
import StridedBuffer.Main
import StridedBuffer.Parallel.Ranges
import StridedBuffer.Proofs.LayoutFit
import StridedBuffer.Report.Descriptor
import StridedBuffer.Report.Element
import StridedBuffer.Report.Host
import StridedBuffer.Report.Settings
import StridedBuffer.Report.Snapshot
import StridedBuffer.Report.View
import StridedBuffer.Report.Workspace
import StridedBuffer.Session
import StridedBuffer.Snapshot.Cbor
import StridedBuffer.Snapshot.File
import StridedBuffer.Snapshot.Header
import StridedBuffer.Storage
import StridedBuffer.Text.Base64
import StridedBuffer.Text.Blank
import StridedBuffer.Text.Hex
import StridedBuffer.Text.Listing
import StridedBuffer.Text.Printable
import StridedBuffer.Text.Quoted
import StridedBuffer.Text.Utf8
import StridedBuffer.View
import StridedBuffer.Web.Address
import StridedBuffer.Web.Escape
import StridedBuffer.Web.Url
import StridedBuffer.Yaml.Parser
import StridedBuffer.Yaml.Resolve
import StridedBuffer.Yaml.Scanner
import StridedBuffer.Yaml.Timestamp
import StridedBuffer.Yaml.Token
import StridedBuffer.Proofs.Constructors
import StridedBuffer.Proofs.SessionStep
import StridedBuffer.Proofs.Offsets
import StridedBuffer.Proofs.LayoutInvariant
import StridedBuffer.Proofs.Holders
import StridedBuffer.Proofs.CborRead
import StridedBuffer.Proofs.TimeText
import StridedBuffer.Proofs.HeaderRead
import StridedBuffer.Proofs.SnapshotRoundTrip
import StridedBuffer.Proofs.Contiguous
import StridedBuffer.Proofs.IdxParse
import StridedBuffer.Proofs.HostConstruct
import StridedBuffer.Proofs.FailedRequests
import StridedBuffer.Proofs.SnapshotRead
import StridedBuffer.Proofs.RowMajorLayouts
import StridedBuffer.Proofs.RowMajorReads
import StridedBuffer.Proofs.WorkSplit
import StridedBuffer.Proofs.ModuleLaws
import StridedBuffer.Proofs.FlagNames
import StridedBuffer.Proofs.FetchLimit
import StridedBuffer.Proofs.MnistDownload
