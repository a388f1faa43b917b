import Autoscaling.Plugin.AgentRequest

/-!
# The plugin's calls

A run of the plugin is the sequence of its calls, each taking the lock for all it does: the
scheduler framework's `Reserve` and `Unreserve`, the handlers of the reconcile queue for pod and
node events, and the end of startup. The permit handler of the agents' requests runs beside them
without the lock; it changes nothing of the state, so each of its requests is a call of its own
that leaves the state as it found it, at any point of a run.
-/

namespace Autoscaling.Plugin

open Go State

/-- A call into the plugin: a method of the scheduler framework that changes the state, a
reconcile of a pod or a node at the instant `now`, the end of startup, or a request of an agent
to the permit handler, with the method and the decoded body of the HTTP request, the pod watch
store it reads, and the JSON encoding of its response. -/
inductive PluginCall
  | reserve (pod : PodObject) (nodeName : String)
  | unreserve (pod : PodObject) (nodeName : String)
  | podEvent (kind : Reconcile.EventKind) (pod : PodObject) (now : Int)
  | nodeEvent (kind : Reconcile.EventKind) (node : K8sNode)
  | finishStartup
  | permit (watch : PodWatch) (marshalResponse : Api.PluginResponse → String) (method : String)
      (body : Except String AgentRequest)

/-- What a call returns: the status of `Reserve`, nothing for `Unreserve`, for a reconcile the
requests made and how the handler ended, which the queue's middleware sees, the requeues at the
end of startup, and for the permit handler the requests made and the HTTP response written. -/
inductive PluginReply
  | status (status : Option Status)
  | unreserved
  | reconciled (requests : List Request) (outcome : Reconcile.Outcome)
  | started (requests : List Request)
  | permitted (requests : List Request) (response : Option (Nat × String))

/-- One call, in the environment it meets. The reconcile queue's `CatchPanicMiddleware` recovers
a handler's panic, and the state keeps what the handler changed before it; a panic of `Reserve`
or `Unreserve` ends the run. The permit handler leaves the state as it is. -/
def PluginState.step (s : PluginState) : Env × PluginCall → Except String (PluginReply × PluginState)
  | (env, .reserve pod nodeName) => (fun r => (.status r.2, r.1)) <$> reserve env s pod nodeName
  | (_, .unreserve pod nodeName) => (fun s => (.unreserved, s)) <$> unreserve s pod nodeName
  | (env, .podEvent kind pod now) =>
    let h := podHandler env s kind pod now
    pure (.reconciled h.requests h.result, h.state)
  | (env, .nodeEvent kind node) =>
    let h := nodeHandler env s kind node
    pure (.reconciled h.requests h.result, h.state)
  | (_, .finishStartup) => pure (.started (finishStartup s).2, (finishStartup s).1)
  -- the permit handler reads the watch store, not the state, and recovers its own panics
  | (env, .permit watch marshalResponse method body) =>
    let r := permitHandler env watch marshalResponse method body
    pure (.permitted r.1 r.2, s)

end Autoscaling.Plugin
