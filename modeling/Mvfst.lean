import Mvfst.Priority.NodeList
import Mvfst.Priority.RoundRobin
import Mvfst.Priority.Scheduler
import Mvfst.Priority.Invariant
import Mvfst.Priority.Operations
import Mvfst.Priority.Refinement
import Mvfst.Priority.Advance
import Mvfst.Priority.Queue
import Mvfst.Priority.Index
import Mvfst.Core
import Mvfst.Stream.State
import Mvfst.Stream.SendHandlers
import Mvfst.Stream.Transitions
import Mvfst.Stream.ReliableReset
import Mvfst.Stream.Reports
import Mvfst.Client.TransportParameters
import Mvfst.Client.State
import Mvfst.Client.ServerParams
import Mvfst.Client.Acceptance
import Mvfst.Client.Resumption
import Mvfst.Client.Retry
