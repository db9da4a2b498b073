import VzletUr3e.Library.ChecksumFrame
import VzletUr3e.Library.StateError
import VzletUr3e.Feetech.Common
import VzletUr3e.Feetech.SerialPort
import VzletUr3e.Feetech.Protocol
import VzletUr3e.Feetech.Requests
import VzletUr3e.Feetech.Replies
import VzletUr3e.Feetech.Bus
import VzletUr3e.Feetech.Driver
import VzletUr3e.Feetech.Goals
import VzletUr3e.Feetech.Refusals
import VzletUr3e.Feetech.States
import VzletUr3e.Feetech.ModelSeries
import VzletUr3e.Library.Script
import VzletUr3e.Feetech.Configure
import VzletUr3e.Feetech.Registers
import VzletUr3e.Feetech.Bracket
import VzletUr3e.Feetech.JointConfig
import VzletUr3e.Feetech.Overlay
import VzletUr3e.Feetech.Codecs
import VzletUr3e.Feetech.Noise
import VzletUr3e.Library.Runs
import VzletUr3e.Library.LineReader
import VzletUr3e.Suction.System
import VzletUr3e.Suction.Firmware
import VzletUr3e.Suction.Composition
import VzletUr3e.Suction.Receive
import VzletUr3e.Suction.Link
import VzletUr3e.Suction.Chunks
import VzletUr3e.Suction.Resend
import VzletUr3e.Suction.Port
import VzletUr3e.Suction.Reopen
import VzletUr3e.Suction.SendLoop
import VzletUr3e.Library.GreedyMatch
import VzletUr3e.Control.Python
import VzletUr3e.Vision.Detect
import VzletUr3e.Vision.Vote
import VzletUr3e.Vision.Stable
import VzletUr3e.Vision.Kinds
import VzletUr3e.Vision.BackProjection
import VzletUr3e.Vision.Choice
import VzletUr3e.Vision.Match
import VzletUr3e.Vision.Reorder
import VzletUr3e.Poses.Save
import VzletUr3e.Poses.Record
import VzletUr3e.Poses.Menu
import VzletUr3e.Poses.Table
import VzletUr3e.Library.CsvWriter
import VzletUr3e.Library.Decimal
import VzletUr3e.Poses.Grid
import VzletUr3e.Poses.Storages
import VzletUr3e.Library.Monitor
import VzletUr3e.Pipeline.Node
import VzletUr3e.Pipeline.Run
import VzletUr3e.Pipeline.View
import VzletUr3e.Pipeline.Safety
import VzletUr3e.Vision.Select
import VzletUr3e.Pipeline.Gripper
import VzletUr3e.Pipeline.Calls
import VzletUr3e.Library.QuaternionMatrix
import VzletUr3e.Pipeline.Rotation
import VzletUr3e.Pipeline.Screw
import VzletUr3e.Library.Loops
import VzletUr3e.Teleop.Node
import VzletUr3e.Teleop.Commander
import VzletUr3e.Teleop.Frames
import VzletUr3e.Teleop.Interlock
import VzletUr3e.Teleop.Timer
import VzletUr3e.Teleop.GripperToggle
import VzletUr3e.Teleop.Dataset
import VzletUr3e.Ur.Passthrough
import VzletUr3e.Ur.Handover
import VzletUr3e.Ur.Cycles
import VzletUr3e.Ur.ModeSwitch
import VzletUr3e.Ur.Exclusion
import VzletUr3e.Ur.Moves
import VzletUr3e.Library.ByteCodec
import VzletUr3e.Rtde.Package
import VzletUr3e.Rtde.Parser
import VzletUr3e.Rtde.Stream
import VzletUr3e.Rtde.BackgroundRead
import VzletUr3e.Library.DoubleBuffer
import VzletUr3e.Rtde.Writer
import VzletUr3e.Rtde.Outputs
import VzletUr3e.Library.Rewriting
import VzletUr3e.ScriptReader.Conditionals
import VzletUr3e.ScriptReader.Variables
import VzletUr3e.ScriptReader.Expressions
import VzletUr3e.ScriptReader.Includes
