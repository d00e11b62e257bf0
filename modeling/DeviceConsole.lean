import DeviceConsole.Main
import DeviceConsole.Script.Engine
import DeviceConsole.Script.Startup
import DeviceConsole.Proofs.Command.EngineCalls
import DeviceConsole.Proofs.Command.Handling
import DeviceConsole.Proofs.Command.Mistakes
import DeviceConsole.Proofs.Command.Offline
import DeviceConsole.Proofs.Command.Replies
import DeviceConsole.Proofs.Command.Creation
import DeviceConsole.Proofs.Command.Cursor
import DeviceConsole.Proofs.Reactor.Screens
import DeviceConsole.Proofs.Reactor.OperatorLines
import DeviceConsole.Proofs.Reactor.Handles
import DeviceConsole.Proofs.Reactor.Rounds
import DeviceConsole.Proofs.Reactor.Datagrams
import DeviceConsole.Proofs.Reactor.Stopping
import DeviceConsole.Proofs.Line.Reads
import DeviceConsole.Proofs.Line.Bounds
import DeviceConsole.Proofs.Reactor.Prompts
import DeviceConsole.Proofs.Reactor.Course
import DeviceConsole.Proofs.Reactor.Discipline
import DeviceConsole.Proofs.Reactor.Shutdown
import DeviceConsole.Proofs.Reactor.Outcomes
import DeviceConsole.Proofs.Reactor.Halting
import DeviceConsole.Proofs.Reactor.Offline
import DeviceConsole.Proofs.Reactor.LastText
import DeviceConsole.Proofs.Settings.Layers
import DeviceConsole.Proofs.Path.RoundTrip
import DeviceConsole.Proofs.Path.Order
import DeviceConsole.Proofs.Line.Terminators
import DeviceConsole.Proofs.Directory.History
import DeviceConsole.Proofs.Command.Writing
import DeviceConsole.Proofs.Command.Attributes
import DeviceConsole.Proofs.Display.HexDump
import DeviceConsole.Proofs.Display.Listing
import DeviceConsole.Proofs.Address.Literals
import DeviceConsole.Proofs.Document.Assignment
import DeviceConsole.Proofs.Settings.ListenHost
import DeviceConsole.Proofs.Settings.NamedOptions
import DeviceConsole.Proofs.Startup.Launch
