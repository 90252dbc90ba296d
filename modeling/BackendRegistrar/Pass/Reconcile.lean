import BackendRegistrar.Pass.Handler

/-! A pass over a registrar: its phase is handled, the next phase is stored, and what came of it
is measured and told. -/

namespace BackendRegistrar

inductive Action
  | awaitChange
  | requeue (seconds : Nat)
deriving DecidableEq, Repr

namespace Pass

def nextPhase (current : Phase) : Option Occurrence → Phase
  | none => current
  | some o => Lifecycle.next current o

/-- Stores a phase; answers whether it was stored. -/
def persist (r : Registrar) (phase : Phase) : Operation Bool :=
  (Program.perform (I := environment) (.writeStatus r.name (.observed phase r))).bind
    fun (answer : Except Cluster.Failure Unit) => .done answer.isOk

def observations (r : Registrar) (current : Phase) (outcome : Outcome) : List Observation :=
  let provider := (Cloud.Kind.detect r.spec.loadBalancerId).label
  if current = .registering then
    match outcome.occurrence with
    | some .backendsSynced =>
      outcome.reports.flatMap fun report =>
        [.synced provider true, .registered r.name report.backendSet report.targets]
    | some .syncFailed => [.synced provider false]
    | _ => []
  else []

def observeAll : List Observation → Operation Unit
  | [] => .done ()
  | o :: rest => (Operation.observe o).bind fun _ => observeAll rest

def activity : Phase → String
  | .new | .pending => "Connecting"
  | .registering | .ready => "Registering"

def successNote (reports : List Registration.Report) : String :=
  "Registered " ++ toString (reports.foldl (fun n report => n + report.targets) 0) ++ " backends in "
    ++ toString reports.length ++ " backend sets"

/-- Tells users of an error. A failed registration is counted and tried again; an error of the
configuration is the error of the pass. -/
def afterError (config : Config) (r : Registrar) (current : Phase) (message : Option String)
    (e : Error) : Operation (Except Error Action) :=
  (Operation.publish r.ownName ⟨.warning, "Failed", activity current, message⟩).bind fun _ =>
    match e.errorClass with
    | .registration =>
      (Operation.observe (.failed r.name)).bind fun _ =>
        .done (.ok (.requeue config.registrationRetry))
    | .configuration => .done (.error e)

def afterSuccess (config : Config) (r : Registrar) (became : Bool)
    (reports : List Registration.Report) : Operation (Except Error Action) :=
  (if became then
      Operation.publish r.ownName ⟨.normal, "Registered", "Registering", some (successNote reports)⟩
    else .done ()).bind fun _ => .done (.ok (.requeue config.resyncInterval))

def secondsBetween (start stop : Nat) : Float := Float.ofNat (stop - start) / 1000

def conclude (config : Config) (r : Registrar) (start : Nat) (outcome : Outcome) :
    Operation (Except Error Action) :=
  let current := r.phase
  let next := nextPhase current outcome.occurrence
  (if next ≠ current then persist r next else .done false).bind fun persisted =>
    (observeAll (observations r current outcome)).bind fun _ =>
      Operation.clock.bind fun stop =>
        (Operation.observe (.reconciled r.name (secondsBetween start stop))).bind fun _ =>
          match outcome.error with
          | some e => afterError config r current outcome.message e
          | none =>
            afterSuccess config r
              (decide (next = .ready ∧ current ≠ .ready) && persisted) outcome.reports

/-- One pass over a registrar as it was read. -/
def reconcile (config : Config) (r : Registrar) : Operation (Except Error Action) :=
  Operation.clock.bind fun start =>
    (handle config r.phase r).bind fun outcome => conclude config r start outcome

/-- When to look again at a registrar after the error of a pass: not before it changes, if it is
gone. -/
def errorAction (config : Config) (e : Error) : Action :=
  if e.isNotFound then .awaitChange else .requeue (config.retryDelay e.errorClass)

def onError (config : Config) (r : Registrar) (e : Error) : Operation Action :=
  (Operation.observe (.failed r.name)).bind fun _ => .done (errorAction config e)

end Pass

end BackendRegistrar
