import VideoAccel.Bits.Reader
import VideoAccel.Bits.Writer
import VideoAccel.CommandLine.Run
import VideoAccel.Device.Injection
import VideoAccel.Main
import VideoAccel.Picture.Reader
import VideoAccel.Proofs.Bytes
import VideoAccel.Proofs.Register.Bits
import VideoAccel.Proofs.Register.Lens
import VideoAccel.Proofs.Register.Patches
import VideoAccel.Proofs.Action
import VideoAccel.Proofs.Memory.Scratch
import VideoAccel.Proofs.Memory.Areas
import VideoAccel.Proofs.Program.Image
import VideoAccel.Proofs.Program.Build
import VideoAccel.Proofs.Program.Handles
import VideoAccel.Proofs.Pipeline.Slots
import VideoAccel.Proofs.Pipeline.Prepare
import VideoAccel.Proofs.Pipeline.Calls
import VideoAccel.Proofs.Device.Simulated
import VideoAccel.Proofs.Pipeline.Run
import VideoAccel.Proofs.Pipeline.Isolation
import VideoAccel.Proofs.Pipeline.Files
import VideoAccel.Proofs.Pipeline.Formed
import VideoAccel.Proofs.Pipeline.Release
import VideoAccel.Proofs.Memory.Books
import VideoAccel.Proofs.Memory.Holdings
import VideoAccel.Proofs.Memory.Ledger
import VideoAccel.Proofs.Memory.Numbering
import VideoAccel.Proofs.Pipeline.Balance
import VideoAccel.Proofs.Pipeline.Ownership
import VideoAccel.Proofs.Pipeline.Progress
import VideoAccel.Proofs.Pipeline.Backing
import VideoAccel.Proofs.Pipeline.Schedule
import VideoAccel.Proofs.Pipeline.Transparency
import VideoAccel.Proofs.Device.Ending
import VideoAccel.Proofs.Device.Requests
import VideoAccel.Proofs.Pipeline.History
import VideoAccel.Proofs.Pipeline.Flights
import VideoAccel.Proofs.Pipeline.Attribution
import VideoAccel.Proofs.Pipeline.Conservation
import VideoAccel.Proofs.Pipeline.Freshness
import VideoAccel.Proofs.Pipeline.Fleet
import VideoAccel.Proofs.Bits.Edits
import VideoAccel.Proofs.Bits.Alignment
import VideoAccel.Proofs.Bits.RoundTrip
import VideoAccel.Proofs.Bits.Records
import VideoAccel.Proofs.Memory.Words
import VideoAccel.Proofs.Picture.ParameterSets
import VideoAccel.Proofs.Picture.ParameterCache
import VideoAccel.Proofs.Picture.ReferenceLists
import VideoAccel.Proofs.Picture.EntropyTable
import VideoAccel.Proofs.Program.Blobs
import VideoAccel.Proofs.Pipeline.Caches
import VideoAccel.Proofs.Pipeline.Readback
import VideoAccel.Proofs.Pipeline.Updates
import VideoAccel.Proofs.Memory.LineBuffers
import VideoAccel.Proofs.Memory.LineBufferTable
import VideoAccel.Proofs.Memory.GrantLog
import VideoAccel.Proofs.Memory.Tally
import VideoAccel.Proofs.Memory.Grants
import VideoAccel.Proofs.Program.Patches
import VideoAccel.Proofs.Pipeline.LineBuffers
import VideoAccel.Proofs.Pipeline.Refusals
import VideoAccel.Proofs.Pipeline.Requests
import VideoAccel.Proofs.Pipeline.Records
import VideoAccel.Proofs.Pipeline.Skipping
import VideoAccel.Proofs.Json.Objects
import VideoAccel.Proofs.CommandLine.Lines
import VideoAccel.Proofs.CommandLine.Frames
import VideoAccel.Proofs.CommandLine.Trial
import VideoAccel.Proofs.Memory.MotionPool
import VideoAccel.Proofs.Picture.References
import VideoAccel.Proofs.Program.References
import VideoAccel.Proofs.Pipeline.References
import VideoAccel.Proofs.Pipeline.Misdirected
import VideoAccel.Proofs.Pipeline.Reallocation
import VideoAccel.Proofs.Pipeline.Occupancy
import VideoAccel.Proofs.Device.Completions
import VideoAccel.Proofs.Sorting
import VideoAccel.Proofs.Registry
import VideoAccel.Proofs.Sequence
import VideoAccel.Proofs.Frame.Stride
import VideoAccel.Proofs.Program.Geometry
import VideoAccel.Proofs.Pipeline.Geometry
