import Autoscaling.Lib.Binary64
import Autoscaling.Lib.Go
import Autoscaling.Lib.Transition
import Autoscaling.Api.Revision
import Autoscaling.Agent.RevSource
import Autoscaling.Api.Resources
import Autoscaling.Agent.Core.State
import Autoscaling.Agent.Core.NextActions
import Autoscaling.Agent.Core.Handles
import Autoscaling.Agent.Executor
import Autoscaling.Agent.Sleeper
import Autoscaling.Lib.Range
import Autoscaling.Lib.Listing
import Autoscaling.Lib.Heap
import Autoscaling.Plugin.State.XactMap
import Autoscaling.Plugin.State.Node
import Autoscaling.Plugin.State.Accounting
import Autoscaling.Util.Queue.PriorityQueue
import Autoscaling.Plugin.Reconcile.Queue
import Autoscaling.Plugin.Reconcile.KeyState
import Autoscaling.Plugin.Reconcile.Middleware
import Autoscaling.Plugin.Reconcile.Schedule
import Autoscaling.Plugin.Reconcile.Refinement
import Autoscaling.Neonvm.Failurelag.Tracker
import Autoscaling.Neonvm.Failurelag.Refinement
import Autoscaling.Reporting.Batcher
import Autoscaling.Agent.Billing.Metrics
import Autoscaling.Agent.Billing.Conservation
import Autoscaling.Agent.Core.Actions
import Autoscaling.Agent.Core.Desired
import Autoscaling.Agent.Core.WorkingSet
import Autoscaling.Plugin.State.Reserve
import Autoscaling.Plugin.Filter
import Autoscaling.Plugin.Migration
import Autoscaling.Plugin.State.Speculation
import Autoscaling.Reporting.JsonArray
import Autoscaling.Agent.Core.Metrics
import Autoscaling.Plugin.State.Pod
import Autoscaling.Plugin.GlobalState
import Autoscaling.Plugin.HandlePod
import Autoscaling.Plugin.AgentRequest
import Autoscaling.Plugin.Calls
import Autoscaling.Plugin.Consistency
import Autoscaling.Lib.JsonPointer
import Autoscaling.Plugin.VMPatch
import Autoscaling.Plugin.Startup
import Autoscaling.Api.Version
import Autoscaling.Plugin.Run
