import BackendRegistrar.Simulation.Scenario

/-! Passes over a registrar in time: one at the start, one at once after each change of its
status, and one when the last pass asked for it. -/

namespace BackendRegistrar.Simulation

def wroteStatus (name : String) (entries : List Entry) : Bool :=
  entries.any fun
    | .statusWrite registrar _ code => registrar == name && code == 200
    | _ => false

def nextTime? (now : Nat) (wrote : Bool) : Action → Option Nat
  | .requeue seconds => some (if wrote then now else now + seconds)
  | .awaitChange => if wrote then some now else none

/-- The passes over one registrar from `now` to before `stop`, at most `passes` of them. -/
def runPasses (config : Config) (name : String) (stop : Nat) : Nat → Nat → World → World
  | 0, _, w => w
  | passes + 1, now, w =>
    match w.store.get? name with
    | none => w
    | some r =>
      let (result, after) :=
        { w with journal := [] }.run r.spec.loadBalancerId (passAndPolicy config r)
      let action := match result with
        | .ok action => action
        | .error (_, action) => action
      let wrote := wroteStatus name after.entries
      let world := { after with journal := after.journal ++ w.journal }
      match nextTime? now wrote action with
      | some next =>
        if next < stop then runPasses config name stop passes next world else world
      | none => world

/-- Runs the controller for some seconds. Passes that ask for another one at once come to an end
with their number. -/
def runController (config : Config) (w : World) (seconds : Nat) : World :=
  let ready := { w with health := w.health.map fun h => { h with ready := true } }
  if seconds = 0 then ready
  else ready.store.foldl (fun w m => runPasses config m.1 seconds (4 * seconds + 16) 0 w) ready

end BackendRegistrar.Simulation
