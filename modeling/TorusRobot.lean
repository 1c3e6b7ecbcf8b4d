import TorusRobot.Command.Line
import TorusRobot.Command.Verb
import TorusRobot.Command.Verdict
import TorusRobot.Console.Basic
import TorusRobot.Console.Control
import TorusRobot.Console.Display
import TorusRobot.Console.FileStore
import TorusRobot.Console.Invocation
import TorusRobot.Console.Program
import TorusRobot.Dispatch.Dispatcher
import TorusRobot.Dispatch.Worker
import TorusRobot.Grid.Axis
import TorusRobot.Grid.Facing
import TorusRobot.Grid.Position
import TorusRobot.Grid.Robot
import TorusRobot.Grid.Word64
import TorusRobot.Main
import TorusRobot.Outcome.Basic
import TorusRobot.Outcome.Status
import TorusRobot.Recording.Digest
import TorusRobot.Recording.Fault
import TorusRobot.Recording.Format
import TorusRobot.Recording.Frame
import TorusRobot.Recording.LittleEndian
import TorusRobot.Recording.Reader
import TorusRobot.Recording.Sink
import TorusRobot.Recording.Source
import TorusRobot.Recording.Transfer
import TorusRobot.Recording.Writer
import TorusRobot.Replay.Capture
import TorusRobot.Replay.Comparison
import TorusRobot.Replay.Verification
import TorusRobot.Scenario.Layout
import TorusRobot.Scenario.Script
import TorusRobot.Session.Basic
import TorusRobot.Session.Journal
import TorusRobot.Session.Queue
import TorusRobot.Session.Run
import TorusRobot.Session.Settings
import TorusRobot.Session.Tally
import TorusRobot.Session.Tray
import TorusRobot.Text.Blank
import TorusRobot.Text.Decimal
import TorusRobot.Text.Hex
import TorusRobot.Text.Uppercase
import TorusRobot.Text.Uppercase.Table
import TorusRobot.Text.Utf8
import TorusRobot.World.Basic
import TorusRobot.World.Judgment
import TorusRobot.Proofs.Recording.Writing
import TorusRobot.Proofs.Recording.Description
import TorusRobot.Proofs.Recording.Mixing
import TorusRobot.Proofs.Recording.Reading
import TorusRobot.Proofs.Recording.RoundTrip
import TorusRobot.Proofs.Session.Operations
import TorusRobot.Proofs.Session.Worlds
import TorusRobot.Proofs.Replay.Comparing
import TorusRobot.Proofs.Session.Alike
import TorusRobot.Proofs.Replay.Recorded
import TorusRobot.Proofs.Session.Noninterference
import TorusRobot.Proofs.Text.Blank
import TorusRobot.Proofs.Grid.Torus
import TorusRobot.Proofs.Grid.Exactness
import TorusRobot.Proofs.Grid.Walking
import TorusRobot.Proofs.World.Effects
import TorusRobot.Proofs.World.Driving
import TorusRobot.Proofs.Dispatch.Rounds
import TorusRobot.Proofs.Dispatch.Interleaving
import TorusRobot.Proofs.Recording.Entries
import TorusRobot.Proofs.Recording.Truncation
import TorusRobot.Proofs.Recording.Cut
import TorusRobot.Proofs.Recording.Delivery
import TorusRobot.Proofs.Recording.Refusals
import TorusRobot.Proofs.Recording.Streams
import TorusRobot.Proofs.Session.Gains
import TorusRobot.Proofs.Session.Notices
import TorusRobot.Proofs.Session.Renewal
import TorusRobot.Proofs.Session.Deadlines
import TorusRobot.Proofs.Dispatch.Expiry
import TorusRobot.Proofs.Console.Events
import TorusRobot.Proofs.Console.Steady
import TorusRobot.Proofs.Console.Backpressure
import TorusRobot.Proofs.Console.Grammar
import TorusRobot.Proofs.Console.Faithful
import TorusRobot.Proofs.Replay.Tampering
import TorusRobot.Proofs.Replay.FirstDivergence
import TorusRobot.Proofs.Console.Agreement
import TorusRobot.Proofs.World.Appearance
import TorusRobot.Proofs.Session.Window
import TorusRobot.Proofs.Text.Cutting
import TorusRobot.Proofs.Text.Numeral
import TorusRobot.Proofs.Text.Uppercase
import TorusRobot.Proofs.World.Placement
import TorusRobot.Proofs.Scenario.Rebuilding
import TorusRobot.Proofs.Session.Account
import TorusRobot.Proofs.Session.Echo
import TorusRobot.Proofs.Command.Reading
import TorusRobot.Proofs.World.Tracking
import TorusRobot.Proofs.Recording.Faults
import TorusRobot.Proofs.Replay.Mismatch
