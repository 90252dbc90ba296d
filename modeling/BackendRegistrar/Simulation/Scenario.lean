import BackendRegistrar.Pass.Reconcile
import BackendRegistrar.Simulation.World
import BackendRegistrar.Trigger.Reset

/-! Scenarios: steps that change the surroundings and steps that run a part of the registrar in
them. Registrars are taken from the store, or as they were when a snapshot was made. -/

namespace BackendRegistrar.Simulation

structure Pick where
  name : String
  snapshot : Option String

inductive Step
  | put (document : Json)
  | edit (name : String) (patch : Json)
  | remove (name : String)
  | snapshot (id : String)
  | set (path : List String) (value : Json)
  | cancel
  | reconcile (pick : Pick)
  | handle (phase : Phase) (pick : Pick)
  | register (pick : Pick)
  | probe (pick : Pick)
  | nodeChange (snapshot : Option String)
  | endpointsChange (snapshot : Option String) (ns name : String)

/-- What came of a step. The error of a pass comes with what to do about it. -/
inductive Result
  | done
  | count (n : Nat)
  | removed (found : Bool)
  | noSuchRegistrar
  | undecodable (error : DecodeError)
  | reconciled (result : Except (Error × Action) Action)
  | handled (outcome : Outcome)
  | registered (result : Except Error (List Registration.Report))
  | probed (result : Except Error (Cloud.Kind × Except CloudError (List Target)))

structure Scenario where
  config : Config
  world : World
  snapshots : List (String × Store)

/-- Sets the value at a path of members; what is missing on the way is made. -/
def setAt (value : Json) : List String → Json → Json
  | [], _ => value
  | name :: rest, j => put j name (setAt value rest ((j.get? name).getD .null))

def passAndPolicy (config : Config) (r : Registrar) : Operation (Except (Error × Action) Action) :=
  (Pass.reconcile config r).bind fun
    | .ok action => .done (.ok action)
    | .error e => (Pass.onError config r e).bind fun action => .done (.error (e, action))

namespace Scenario

def start (config : Config) (cluster clouds : Json) (store : Store) (withHealth : Bool) : Scenario :=
  ⟨config,
    ⟨cluster, clouds, store, 0, false, if withHealth then some .initial else none, []⟩, []⟩

def storeOf (s : Scenario) : Option String → Store
  | none => s.world.store
  | some id => ((s.snapshots.find? fun m => m.1 = id).map Prod.snd).getD []

def onPick (s : Scenario) (pick : Pick) (program : Registrar → Operation α) (result : α → Result) :
    Result × Scenario :=
  match (s.storeOf pick.snapshot).get? pick.name with
  | none => (.noSuchRegistrar, s)
  | some r =>
    let (value, world) := s.world.run r.spec.loadBalancerId (program r)
    (result value, { s with world := world })

def onAll (s : Scenario) (snapshot : Option String) (program : List Registrar → Operation Nat) :
    Result × Scenario :=
  let (count, world) := s.world.run "" (program (s.storeOf snapshot).registrars)
  (.count count, { s with world := world })

def withStore (s : Scenario) (store : Store) : Scenario :=
  { s with world := { s.world with store := store } }

/-- Connects and registers, without a look at the specification. -/
def connectAndRegister (config : Config) (r : Registrar) :
    Operation (Except Error (List Registration.Report)) :=
  (connect config r).run.bind fun
    | .error e => .done (.error e)
    | .ok connection => (registerAt config r connection).run

def connectAndProbe (config : Config) (r : Registrar) :
    Operation (Except Error (Cloud.Kind × Except CloudError (List Target))) :=
  (connect config r).run.bind fun
    | .error e => .done (.error e)
    | .ok connection => (BackendRegistrar.probe r connection).bind fun answer =>
      .done (.ok (connection.kind, answer))

def step (s : Scenario) : Step → Result × Scenario
  | .put document =>
    match Stored.decode document with
    | .error e => (.undecodable e, s)
    | .ok r => (.done, s.withStore (s.world.store.add r))
  | .edit name patch =>
    match s.world.store.find? name with
    | none => (.noSuchRegistrar, s)
    | some r => match r.edit patch with
      | .error e => (.undecodable e, s)
      | .ok r => (.done, s.withStore (s.world.store.put name r))
  | .remove name => (.removed (s.world.store.get? name).isSome, s.withStore (s.world.store.remove name))
  | .snapshot id =>
    (.count s.world.store.length,
      { s with snapshots := (id, s.world.store) :: s.snapshots })
  | .set ("cluster" :: path) value =>
    (.done, { s with world := { s.world with cluster := setAt value path s.world.cluster } })
  | .set ("clouds" :: path) value =>
    (.done, { s with world := { s.world with clouds := setAt value path s.world.clouds } })
  | .set _ _ => (.done, s)
  | .cancel => (.done, { s with world := { s.world with cancelled := true } })
  | .reconcile pick => s.onPick pick (passAndPolicy s.config) .reconciled
  | .handle phase pick => s.onPick pick (Pass.handle s.config phase) .handled
  | .register pick => s.onPick pick (connectAndRegister s.config) .registered
  | .probe pick => s.onPick pick (connectAndProbe s.config) .probed
  | .nodeChange snapshot => s.onAll snapshot Trigger.refreshToPending
  | .endpointsChange snapshot ns name =>
    s.onAll snapshot fun rs => Trigger.refreshForEndpoints rs ns name

structure Record where
  result : Result
  entries : List Entry
  elapsed : Nat
  store : Store

/-- Takes a step with an empty journal, and answers what it did. -/
def recorded (s : Scenario) (step : Step) : Record × Scenario :=
  let before := { s with world := { s.world with journal := [] } }
  let (result, after) := before.step step
  (⟨result, after.world.entries, after.world.clock - s.world.clock, after.world.store⟩, after)

end Scenario

end BackendRegistrar.Simulation
