import BackendRegistrar.Cloud.Service

/-! Reading and replacing the backends of a set, and waiting for the work to end. Its status is asked for a
limited number of times, with a pause after each answer but the last. -/

namespace BackendRegistrar.Cloud

/-- How long to wait between questions for a status, and how often to ask. -/
structure CompletionTracker where
  pollInterval : Nat
  maxAttempts : Nat
deriving DecidableEq, Repr

namespace CompletionTracker

def standard : CompletionTracker := ⟨5000, 60⟩

/-- Asks for the status, at most `attempts` more times. -/
def poll (t : CompletionTracker) (id : String) : Nat → ExceptT CloudError (Program service) Unit
  | 0 => throw (.operationTimedOut id t.maxAttempts)
  | attempts + 1 => do
    let status : OperationStatus ← ask (.workRequest id)
    match status.outcome? id with
    | some outcome => ExceptT.mk (pure outcome)
    | none =>
      if attempts = 0 then throw (.operationTimedOut id t.maxAttempts)
      else
        if ← pause t.pollInterval then throw (.cancelled id) else poll t id attempts

/-- Waits until work has ended; without an identifier there is nothing to wait for. -/
def awaitCompletion (t : CompletionTracker) (id : Option String) :
    ExceptT CloudError (Program service) Unit :=
  match id with
  | none => pure ()
  | some id => t.poll id t.maxAttempts

end CompletionTracker

def currentBackends (loadBalancerId backendSet : String) :
    ExceptT CloudError (Program service) (List Target) := do
  let current : BackendSet ← ask (.getSet loadBalancerId backendSet)
  return current.targets

/-- Gives a set these backends and leaves everything else about it as it is. A network load
balancer is given no empty set, and its work is waited for. -/
def syncBackends (kind : Kind) (tracker : CompletionTracker) (loadBalancerId backendSet : String)
    (targets : List Target) : ExceptT CloudError (Program service) Unit := do
  let current : BackendSet ← ask (.getSet loadBalancerId backendSet)
  let update := current.replacing targets
  match kind with
  | .classic =>
    let _ ← ask (.updateSet loadBalancerId backendSet update)
    return ()
  | .network =>
    if targets.isEmpty then throw (.noBackends backendSet)
    else
      let work : Option String ← ask (.updateSet loadBalancerId backendSet update)
      tracker.awaitCompletion work

end BackendRegistrar.Cloud
