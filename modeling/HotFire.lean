import HotFire.Board.Converters
import HotFire.Board.Lines
import HotFire.Config.Document
import HotFire.Main
import HotFire.Rehearsal
import HotFire.Proofs.Config.Validation
import HotFire.Proofs.Commands
import HotFire.Proofs.Lines
import HotFire.Proofs.Engine.Step
import HotFire.Proofs.Engine.Schedule
import HotFire.Proofs.Engine.Window
import HotFire.Proofs.Engine.Pulses
import HotFire.Proofs.Engine.Reuse
import HotFire.Proofs.Telemetry.Ring
import HotFire.Proofs.Telemetry.Frame
import HotFire.Proofs.Telemetry.Codec
import HotFire.Proofs.Sampling.Guard
import HotFire.Proofs.Sampling.Alarm
import HotFire.Proofs.Rig.Calls
import HotFire.Proofs.Rig.Ignition
import HotFire.Proofs.Rig.Stop
import HotFire.Proofs.Rig.Levels
import HotFire.Proofs.Rig.Pulses
import HotFire.Proofs.Rig.SafeState
import HotFire.Proofs.Rig.Interlock
import HotFire.Proofs.Rig.Starts
import HotFire.Proofs.Sampling.Stream
import HotFire.Proofs.Clock.Pacing
import HotFire.Proofs.Sampling.Pace
import HotFire.Proofs.Session
import HotFire.Proofs.Config.Readers
import HotFire.Proofs.Config.Keys
import HotFire.Proofs.Config.Reading
import HotFire.Proofs.Config.Refusal
import HotFire.Proofs.Engine.Edges
import HotFire.Proofs.Rig.Drivers
import HotFire.Proofs.Rig.Log
import HotFire.Proofs.Json.Number
import HotFire.Proofs.Json.Text
import HotFire.Proofs.Config.Document
import HotFire.Proofs.Telemetry.Queue
import HotFire.Proofs.Telemetry.Drain
import HotFire.Proofs.Sampling.Channels
import HotFire.Proofs.Double.Order
import HotFire.Proofs.Sampling.Average
import HotFire.Proofs.Board.Converters
import HotFire.Proofs.Sampling.Spike
import HotFire.Proofs.Board.Simulated
import HotFire.Proofs.Engine.Writes
