import BackendRegistrar.Health.Router
import BackendRegistrar.Simulation.Await
import BackendRegistrar.Simulation.Cluster
import BackendRegistrar.Simulation.Clouds
import BackendRegistrar.Simulation.Store

/-! Surroundings to run programs in: a cluster, load balancers and a store, with a journal of
what was asked. Time passes only in pauses. -/

namespace BackendRegistrar.Simulation

inductive Entry
  | read (r : Cluster.Read)
  | getSet (loadBalancerId backendSet : String)
  | updateSet (loadBalancerId backendSet : String) (body : Json)
  | status (id : String)
  | statusWrite (registrar : String) (patch : Json) (code : Nat)
  | event (registrar : String) (event : Event)

structure World where
  cluster : Json
  clouds : Json
  store : Store
  clock : Nat
  cancelled : Bool
  health : Option Health.State
  journal : List Entry

namespace World

/-- Writes an entry at the end of the journal, which is kept in reverse. -/
def note (w : World) (e : Entry) : World := { w with journal := e :: w.journal }

def entries (w : World) : List Entry := w.journal.reverse

def balancer (w : World) (id : String) : Json := (w.clouds.get? id).getD .null

/-- Keeps what an answer left of a load balancer; none comes up by being asked for. -/
def setBalancer (w : World) (id : String) (after : Json) : World :=
  if (w.clouds.get? id).isSome then { w with clouds := put w.clouds id after } else w

def answerRequest (w : World) (kind : Cloud.Kind) (owner : String) :
    (r : Cloud.Request) → Except CloudError r.Value × World
  | .getSet id backendSet =>
    (answerGet (w.balancer id) kind backendSet, w.note (.getSet id backendSet))
  | .updateSet id backendSet update =>
    let (answer, after) := answerUpdate (w.balancer id) kind backendSet update
    (answer, (w.setBalancer id after).note (.updateSet id backendSet update.encode))
  | .workRequest work =>
    let (answer, after) := answerStatus (w.balancer owner)
    (answer, (w.setBalancer owner after).note (.status work))

def codeOf : Except Cluster.Failure Unit → Nat
  | .ok () => 200
  | .error f => f.code?.getD 0

def writeStatus (w : World) (name : String) (update : PhaseUpdate) :
    Except Cluster.Failure Unit × World :=
  match Cluster.statusFault? name with
  | some f => (.error f, w)
  | none =>
    let name := Cluster.seenName name
    let (answer, store) := match failureOf? w.cluster "status" with
      | some f => (.error f, w.store)
      | none => w.store.write name update
    (answer, { w with store := store }.note (.statusWrite name update.toPatch (codeOf answer)))

def answerRead (w : World) (r : Cluster.Read) : Except Cluster.Failure r.Value × World :=
  match r.fault? with
  | some f => (.error f, w)
  | none => (Simulation.answerRead w.cluster r, w.note (.read r.seen))

/-- Answers whatever a program asks. The work of a load balancer is asked for at `owner`. -/
def answer (owner : String) : (op : Environment.Op) → World → op.Answer × World
  | .read r, w => w.answerRead r
  | .buildClient, w => (.ok (), w)
  | .cloud connection (.request r), w => w.answerRequest connection.kind owner r
  | .cloud _ (.pause milliseconds), w =>
    if w.cancelled then (true, w) else (false, { w with clock := w.clock + pauseLength milliseconds })
  | .writeStatus name update, w => w.writeStatus name update
  | .publish registrar event, w => ((), w.note (.event registrar event))
  | .observe o, w => ((), { w with health := w.health.map fun h => h.record o })
  | .clock, w => (w.clock, w)

def run (w : World) (owner : String) (p : Operation α) : α × World := Program.run (answer owner) p w

end World

end BackendRegistrar.Simulation
