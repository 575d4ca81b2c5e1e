import SmartWindow.Lib.Trans
import SmartWindow.Lib.Pipe
import SmartWindow.Lib.Latch
import SmartWindow.Controller.FailedReads
import SmartWindow.Controller.Receive
import SmartWindow.Node.Contract
import SmartWindow.System.Startup
import SmartWindow.Controller.Latches
import SmartWindow.Controller.Symmetry
import SmartWindow.Controller.InPlace
import SmartWindow.Store.WriteRead
import SmartWindow.Controller.Published
import SmartWindow.Controller.Radio
import SmartWindow.Web.Atomic
import SmartWindow.Web.Modes
import SmartWindow.Node.Calm
import SmartWindow.Lib.Truncation
import SmartWindow.Controller.Airing
import SmartWindow.Controller.Exact
import SmartWindow.Node.Format
import SmartWindow.System.Measurement
import SmartWindow.Controller.Memory
import SmartWindow.System.Buffers
import SmartWindow.Store.Client
import SmartWindow.Node.EndStop
import SmartWindow.Node.Driving
import SmartWindow.Store.Sessions
import SmartWindow.Node.Sensors
import SmartWindow.Web.Settings
import SmartWindow.Controller.Manual
import SmartWindow.System.Rounds
import SmartWindow.System.Network
import SmartWindow.System.Telemetry
import SmartWindow.System.Loopback
import SmartWindow.Web.Traffic
import SmartWindow.Controller.Reach
import SmartWindow.System.Floats
import SmartWindow.System.CatchUp
import SmartWindow.Controller.Writable
import SmartWindow.Web.Buttons
import SmartWindow.System.Whole
import SmartWindow.System.ReadOrder
import SmartWindow.System.CommandPath
