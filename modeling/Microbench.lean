import Microbench.Main
import Microbench.Record.Reader
import Microbench.Scripted.Stream.Document
import Microbench.Scripted.Suite
import Microbench.Proofs.Code
import Microbench.Proofs.Engine.Watched
import Microbench.Proofs.Engine.Walk
import Microbench.Proofs.Engine.Protocol
import Microbench.Proofs.Engine.Calls
import Microbench.Proofs.Record.Writer
import Microbench.Proofs.Text.Parts
import Microbench.Proofs.Record.RoundTrip
import Microbench.Proofs.Disk.Path
import Microbench.Proofs.Disk.Places
import Microbench.Proofs.Disk.Folder
import Microbench.Proofs.Decimal.Characters
import Microbench.Proofs.Recording.Hooks
import Microbench.Proofs.Recording.Measuring
import Microbench.Proofs.Recording.Accounts
import Microbench.Proofs.Recording.Records
import Microbench.Proofs.Binary64.Bits
import Microbench.Proofs.Binary64.Nearest
import Microbench.Proofs.Decimal.Digits
import Microbench.Proofs.Decimal.Shortest
import Microbench.Proofs.Decimal.RoundTrip
import Microbench.Proofs.Binary64.Operations
import Microbench.Proofs.CommandLine.Checked
import Microbench.Proofs.CommandLine.Steps
import Microbench.Proofs.Properties
import Microbench.Proofs.Worker.Assignment
import Microbench.Proofs.Worker.Command
import Microbench.Proofs.Launch
import Microbench.Proofs.Disk.Writing
import Microbench.Proofs.Batch.InProcess
import Microbench.Proofs.Batch.Isolated
import Microbench.Proofs.CommandLine.Endings
import Microbench.Proofs.Engine.Shadows
import Microbench.Proofs.Engine.Covers
import Microbench.Proofs.Engine.Isolation
import Microbench.Proofs.Engine.Sight
import Microbench.Proofs.Relay.Stopping
import Microbench.Proofs.Relay.Shifts
import Microbench.Proofs.Batch.Relays
import Microbench.Proofs.Batch.Bar
import Microbench.Proofs.Binary64.Signs
import Microbench.Proofs.Engine.Terminated
import Microbench.Proofs.Engine.Measurements
import Microbench.Proofs.Progress.Windows
import Microbench.Proofs.Progress.Course
import Microbench.Proofs.Progress.Batch
import Microbench.Proofs.Engine.Links
import Microbench.Proofs.Record.Keeping
import Microbench.Proofs.Recording.Ownership
import Microbench.Proofs.Relay.Copying
import Microbench.Proofs.Record.Limits
import Microbench.Proofs.Settings.File
import Microbench.Proofs.Binary64.Rounding
import Microbench.Proofs.Binary64.Products
import Microbench.Proofs.Duration.Reading
import Microbench.Proofs.Settings.Knobs
import Microbench.Proofs.Statistics
import Microbench.Proofs.Record.Reading
import Microbench.Proofs.Registry
import Microbench.Proofs.CommandLine.Checks
import Microbench.Proofs.Engine.Reported
import Microbench.Proofs.Recording.Aloof
import Microbench.Proofs.Recording.Overlay
import Microbench.Proofs.Recording.Rerun
import Microbench.Proofs.Recording.Memory
import Microbench.Proofs.Recording.Listening
import Microbench.Proofs.Recording.Transparent
import Microbench.Proofs.Text.Order
import Microbench.Proofs.Registry.Canonical
import Microbench.Proofs.Worker.Arguments
import Microbench.Proofs.Json.Text
import Microbench.Proofs.Json.Numeral
import Microbench.Proofs.Json.RoundTrip
import Microbench.Proofs.Batch.Document
