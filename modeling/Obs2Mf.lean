import Obs2Mf.Foundation.Run
import Obs2Mf.Hresult
import Obs2Mf.Vcam.FrameGenerator
import Obs2Mf.Pipe.System
import Obs2Mf.Pipe.Wakeup
import Obs2Mf.Pipe.Instances
import Obs2Mf.Pipe.Threads
import Obs2Mf.Pipe.Slot
import Obs2Mf.Pipe.Delivery
import Obs2Mf.Pipe.Framing
import Obs2Mf.Foundation.Method
import Obs2Mf.Vcam.State
import Obs2Mf.Vcam.Stream
import Obs2Mf.Vcam.Source
import Obs2Mf.Vcam.StreamState
import Obs2Mf.Vcam.Overlap
import Obs2Mf.Vcam.Calls
import Obs2Mf.Vcam.Lifetime
import Obs2Mf.Vcam.Unfinished
import Obs2Mf.Broker.TestPattern
import Obs2Mf.Foundation.Nv12
import Obs2Mf.Broker.ObsCapture
import Obs2Mf.Broker.Scaling
import Obs2Mf.Broker.Producer
import Obs2Mf.Broker.Animation
import Obs2Mf.Vcam.Tools
import Obs2Mf.Vcam.ConverterBounds
import Obs2Mf.Vcam.ConverterPicture
import Obs2Mf.Foundation.Rounds
import Obs2Mf.Vcam.Selection
import Obs2Mf.Pipe.Alignment
import Obs2Mf.Foundation.Decimal
import Obs2Mf.Foundation.Disk
import Obs2Mf.Log.Logger
import Obs2Mf.Log.Sessions
import Obs2Mf.Log.Retention
import Obs2Mf.Log.Backups
import Obs2Mf.Foundation.Attempts
import Obs2Mf.Pipe.Exact
import Obs2Mf.Pipe.Peers
import Obs2Mf.Pipe.Replies
import Obs2Mf.Foundation.Rotation
import Obs2Mf.Log.Lines
import Obs2Mf.Pipe.Handles
import Obs2Mf.Foundation.Progress
import Obs2Mf.Pipe.Progress
import Obs2Mf.Foundation.Projection
import Obs2Mf.Broker.Process
import Obs2Mf.Broker.ProcessSteps
import Obs2Mf.Broker.Coupling
import Obs2Mf.Broker.EndToEnd
import Obs2Mf.Broker.Shutdown
import Obs2Mf.Foundation.Entries
import Obs2Mf.Foundation.References
import Obs2Mf.Broker.Graph
import Obs2Mf.Broker.GraphSearch
import Obs2Mf.Broker.GraphStart
import Obs2Mf.Broker.GraphRuns
import Obs2Mf.Broker.GraphCrash
import Obs2Mf.Broker.GraphThread
import Obs2Mf.Broker.Journal
import Obs2Mf.Broker.SourceLines
import Obs2Mf.Broker.TelemetryLines
import Obs2Mf.Broker.Service
import Obs2Mf.Foundation.Counted
import Obs2Mf.Vcam.Objects
import Obs2Mf.Vcam.Ownership
import Obs2Mf.Vcam.Rendering
import Obs2Mf.Vcam.RenderingRuns
import Obs2Mf.Vcam.Waiting
