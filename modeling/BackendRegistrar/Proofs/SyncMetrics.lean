import BackendRegistrar.Proofs.Outcomes
import BackendRegistrar.Proofs.SharedSets

/-! What the measurements tell of the synchronizations of backend sets. A pass measures what came of its
registration as a whole. So the measurements tell of the synchronizations themselves unless a registration
fails after one that succeeded, or without one that fails. -/

namespace BackendRegistrar
open Program

/-- A synchronization of a backend set for a registrar, and whether it succeeded. -/
structure SyncCall where
  registrar : String
  kind : Cloud.Kind
  backendSet : String
  targets : Nat
  succeeded : Bool
deriving DecidableEq, Repr

/-- What a call is measured by. -/
def SyncCall.observations (c : SyncCall) : List Observation :=
  if c.succeeded then [.synced c.kind.label true, .registered c.registrar c.backendSet c.targets]
  else [.synced c.kind.label false]

namespace Registration

variable {s : Spec} {kind : Cloud.Kind} {r : ServiceReference} {trace : Trace interface} {name : String}

/-- Each push of a registration is a call. -/
def call? (name : String) (kind : Cloud.Kind) : Exchange interface → Option SyncCall
  | ⟨.push backendSet targets, .ok _⟩ => some ⟨name, kind, backendSet, targets.length, true⟩
  | ⟨.push backendSet targets, .error _⟩ => some ⟨name, kind, backendSet, targets.length, false⟩
  | ⟨.read _, _⟩ => none

def calls (name : String) (kind : Cloud.Kind) (trace : Trace interface) : List SyncCall :=
  trace.filterMap (call? name kind)

def Report.call (name : String) (kind : Cloud.Kind) (report : Report) : SyncCall :=
  ⟨name, kind, report.backendSet, report.targets, true⟩

theorem calls_append {first second : Trace interface} :
    calls name kind (first ++ second) = calls name kind first ++ calls name kind second := List.filterMap_append

theorem mem_calls {c : SyncCall} (member : c ∈ calls name kind trace) : c.registrar = name ∧ c.kind = kind := by
  obtain ⟨x, _, called⟩ := List.mem_filterMap.mp member
  unfold call? at called
  split at called
  · cases called
    exact ⟨rfl, rfl⟩
  · cases called
    exact ⟨rfl, rfl⟩
  · cases called

theorem calls_of_readings {p : Step α} {answer : Except Error α} (never : p.run.Times (I := interface) Op.pushes 0)
    (completes : p.run.Completes trace answer) : calls name kind trace = [] := by
  apply List.filterMap_eq_nil_iff.mpr
  intro ⟨op, answer⟩ member
  cases op with
  | read asked => rfl
  | push backendSet targets => cases never.none completes _ member

theorem registerReference_calls {report : Report}
    (completes : (registerReference s kind r).run.Completes trace (.ok report)) :
    calls name kind trace = [report.call name kind] := by
  obtain ⟨readings, targets, rfl, reading, _, rfl⟩ := registerReference_succeeds.mp completes
  rw [calls_append, calls_of_readings (targetsFor_times fun _ _ => rfl) reading]
  rfl

theorem registerAll_calls {rs : List ServiceReference} {reports : List Report}
    (completes : (registerAll s kind rs).run.Completes trace (.ok reports)) :
    calls name kind trace = reports.map (Report.call name kind) := by
  induction rs generalizing trace reports with
  | nil =>
    obtain ⟨rfl, same⟩ := completes_done.mp completes
    cases same
    rfl
  | cons first rest ih =>
    obtain ⟨one, others, report, rfl, registered, remaining⟩ := succeeds_bind.mp completes
    obtain ⟨middle, last, more, rfl, inside, ending⟩ := succeeds_bind.mp remaining
    obtain ⟨rfl, same⟩ := completes_done.mp ending
    cases same
    rw [List.append_nil, calls_append, registerReference_calls registered, ih inside]
    rfl

theorem registerSingle_calls {report : Report} (completes : (registerSingle s).run.Completes trace (.ok report)) :
    calls name kind trace = [report.call name kind] := by
  rw [registerSingle_eq] at completes
  obtain ⟨readings, pushing, targets, rfl, reading, pushed⟩ := succeeds_bind.mp completes
  obtain ⟨rfl, rfl⟩ := pushReported_succeeds.mp pushed
  rw [calls_append, calls_of_readings (singleTargets_times fun _ _ => rfl) reading]
  rfl

/-- A registration that succeeds reports its calls, which all succeeded. -/
theorem register_calls {reports : List Report} (completes : (register s kind).run.Completes trace (.ok reports)) :
    calls name kind trace = reports.map (Report.call name kind) := by
  unfold register at completes
  split at completes
  · exact registerAll_calls completes
  · obtain ⟨first, second, report, rfl, registered, ending⟩ := succeeds_bind.mp completes
    obtain ⟨rfl, same⟩ := completes_done.mp ending
    cases same
    rw [List.append_nil, registerSingle_calls registered]
    rfl

end Registration

namespace Pass

variable {config : Config} {r : Registrar} {outcome : Outcome} {trace : Trace environment} {calls : List SyncCall}

section Calls

/-- What comes of a registration. -/
def registrationOutcome : Except Error (List Registration.Report) → Outcome
  | .error e => .failed .syncFailed "unable to register backends" e
  | .ok reports => .advance .backendsSynced reports

/-- What handling the phase of a registrar asks, what comes of it, and the calls that it makes. Only a registrar that
registers makes any, once it has a connection. -/
inductive Handles (config : Config) (r : Registrar) : Trace environment → Outcome → List SyncCall → Prop
  | elsewhere {trace : Trace environment} {outcome : Outcome} (phase : r.phase ≠ .registering)
      (completes : (handle config r.phase r).Completes trace outcome) : Handles config r trace outcome []
  | faulty {fault : SpecFault} (phase : r.phase = .registering) (found : r.spec.fault? = some fault) :
      Handles config r [] (.failed .providerFailed "invalid registrar spec" (.validation fault.message)) []
  | unconnected {trace : Trace environment} {e : Error} (phase : r.phase = .registering) (sound : r.spec.fault? = none)
      (refused : (connect config r).run.Completes trace (.error e)) :
      Handles config r trace (.failed .providerFailed "unable to create configuration provider" e) []
  | registered {connecting registering : Trace environment} {connection : Connection}
      {short : Trace Registration.interface} {answer : Except Error (List Registration.Report)}
      (phase : r.phase = .registering) (sound : r.spec.fault? = none)
      (connected : (connect config r).run.Completes connecting (.ok connection))
      (ran : (Registration.register r.spec connection.kind).run.Completes short answer)
      (spelled : Spelled (Registration.inEnvironment config r.spec.loadBalancerId connection) short registering) :
      Handles config r (connecting ++ registering) (registrationOutcome answer)
        (Registration.calls r.name connection.kind short)

theorem handle_faulty {fault : SpecFault} (phase : r.phase = .registering) (found : r.spec.fault? = some fault) :
    handle config r.phase r =
      .done (.failed .providerFailed "invalid registrar spec" (.validation fault.message)) := by
  rw [phase, handle, handleRegistering, withConnection, found]

theorem handle_sound (phase : r.phase = .registering) (sound : r.spec.fault? = none) :
    handle config r.phase r =
      (connect config r).run.bind fun
        | .error e => .done (.failed .providerFailed "unable to create configuration provider" e)
        | .ok connection =>
          (registerAt config r connection).run.bind fun answer => .done (registrationOutcome answer) := by
  rw [phase, handle, handleRegistering, withConnection, sound]
  dsimp only
  congr 1
  funext answer
  cases answer with
  | error e => rfl
  | ok connection =>
    dsimp only
    congr 1
    funext answer
    cases answer <;> rfl

/-- Whatever is asked to handle a phase, it is told which calls were made. -/
theorem handles_iff :
    (handle config r.phase r).Completes trace outcome ↔ ∃ calls, Handles config r trace outcome calls := by
  constructor
  · intro completes
    by_cases phase : r.phase = .registering
    · cases found : r.spec.fault? with
      | some fault =>
        rw [handle_faulty phase found] at completes
        obtain ⟨rfl, rfl⟩ := completes_done.mp completes
        exact ⟨_, .faulty phase found⟩
      | none =>
        rw [handle_sound phase found] at completes
        obtain ⟨connecting, rest, answer, rfl, connected, later⟩ := completes_bind.mp completes
        cases answer with
        | error e =>
          obtain ⟨rfl, rfl⟩ := completes_done.mp later
          rw [List.append_nil]
          exact ⟨_, .unconnected phase found connected⟩
        | ok connection =>
          obtain ⟨registering, last, answer, rfl, registered, ending⟩ := completes_bind.mp later
          obtain ⟨rfl, rfl⟩ := completes_done.mp ending
          obtain ⟨short, inside, spelled⟩ := completes_translate.mp registered
          rw [List.append_nil]
          exact ⟨_, .registered phase found connected inside spelled⟩
    · exact ⟨_, .elsewhere phase completes⟩
  · intro ⟨calls, handles⟩
    cases handles with
    | elsewhere phase completes => exact completes
    | faulty phase found =>
      rw [handle_faulty phase found]
      exact .start _
    | unconnected phase sound refused =>
      rw [handle_sound phase sound]
      exact completes_bind.mpr ⟨_, [], _, (List.append_nil _).symm, refused, .start _⟩
    | @registered connecting registering connection short answer phase sound connected ran spelled =>
      rw [handle_sound phase sound]
      have registers : (registerAt config r connection).run.Completes registering answer :=
        completes_translate.mpr ⟨short, ran, spelled⟩
      exact completes_bind.mpr ⟨_, _, _, rfl, connected,
        completes_bind.mpr ⟨_, [], _, (List.append_nil _).symm, registers, .start _⟩⟩

theorem ne_syncFailed (phase : r.phase ≠ .registering)
    (completes : (handle config r.phase r).Completes trace outcome) :
    outcome.occurrence ≠ some .syncFailed := by
  intro failed
  cases current : r.phase with
  | registering => exact phase current
  | new =>
    rw [current] at completes
    obtain ⟨_, rfl⟩ := completes_done.mp completes
    cases failed
  | pending =>
    rw [current] at completes
    rcases handlePending_completes completes with ⟨_, _, rfl⟩ | ⟨rfl, _⟩
    · cases failed
    · cases failed
  | ready =>
    rw [current] at completes
    obtain ⟨_, rfl⟩ := completes_done.mp completes
    unfold handleReady at failed
    split at failed
    · cases failed
    · cases failed

end Calls

section Observations

/-- A failed registration is measured as one failure, whatever its calls were. -/
theorem Handles.failed (handles : Handles config r trace outcome calls)
    (failed : outcome.occurrence = some .syncFailed) :
    observations r r.phase outcome = [.synced r.balancerKind.label false] ∧
      ∀ c ∈ calls, c.kind = r.balancerKind := by
  cases handles with
  | elsewhere phase completes => exact absurd failed (ne_syncFailed phase completes)
  | faulty phase found => cases failed
  | unconnected phase sound refused => cases failed
  | @registered _ _ connection _ answer phase sound connected ran spelled =>
    cases answer with
    | ok reports => cases failed
    | error e =>
      constructor
      · rw [observations, if_pos phase]
        rfl
      · intro c member
        rw [(Registration.mem_calls member).2, connect_kind connected]

/-- Otherwise all calls succeeded, and each is measured. -/
theorem Handles.others (handles : Handles config r trace outcome calls)
    (sound : outcome.occurrence ≠ some .syncFailed) :
    observations r r.phase outcome = calls.flatMap SyncCall.observations := by
  cases handles with
  | elsewhere phase completes => rw [observations, if_neg phase, List.flatMap_nil]
  | faulty phase found =>
    rw [observations, if_pos phase, List.flatMap_nil]
    rfl
  | unconnected phase _ refused =>
    rw [observations, if_pos phase, List.flatMap_nil]
    rfl
  | @registered _ _ connection _ answer phase _ connected ran spelled =>
    cases answer with
    | error e => exact absurd rfl sound
    | ok reports =>
      rw [Registration.register_calls ran, connect_kind connected, List.flatMap_map, observations, if_pos phase]
      rfl

end Observations

section Measuring

variable {pick : Environment.Op → Option γ} {start : Nat}

/-- What is neither written, told, timed nor counted by every pass comes from the measurements of its outcome. -/
structure Apart (pick : Environment.Op → Option γ) : Prop where
  reads : ∀ r, pick (.read r) = none
  builds : pick .buildClient = none
  clouds : ∀ connection op, pick (.cloud connection op) = none
  writes : ∀ name update, pick (.writeStatus name update) = none
  publishes : ∀ registrar event, pick (.publish registrar event) = none
  timeless : pick .clock = none
  reconciled : ∀ name seconds, pick (.observe (.reconciled name seconds)) = none
  failed : ∀ name, pick (.observe (.failed name)) = none

theorem say_gathers (apart : Apart pick) {became : Bool} :
    Gathers (I := environment) pick [] (say config r outcome became) := by
  unfold say
  cases outcome.error with
  | some e =>
    refine gathers_passed (I := environment) (apart.publishes _ _) fun _ => ?_
    dsimp only
    cases e.errorClass with
    | registration => exact gathers_passed (I := environment) (apart.failed _) fun _ => gathers_done _
    | configuration => exact gathers_done _
  | none =>
    unfold afterSuccess
    cases became with
    | true => exact gathers_passed (I := environment) (apart.publishes _ _) fun _ => gathers_done _
    | false => exact gathers_done _

theorem conclude_gathers (apart : Apart pick) :
    Gathers (I := environment) pick ((observations r r.phase outcome).filterMap fun o => pick (.observe o))
      (conclude config r start outcome) := by
  rw [conclude_eq, ← List.nil_append (List.filterMap _ _)]
  refine Gathers.bind ?_ fun persisted => ?_
  · split
    · exact gathers_passed (I := environment) (apart.writes _ _) fun _ => gathers_done _
    · exact gathers_done _
  · rw [← List.append_nil (List.filterMap _ _)]
    refine (observeAll_gathers_picked _).bind fun _ => ?_
    refine gathers_passed (I := environment) apart.timeless fun stop => ?_
    exact gathers_passed (I := environment) (apart.reconciled _ _) fun _ => say_gathers apart

end Measuring

end Pass

/-- A pass over a registrar, as it went: what was asked to handle its phase, with the calls that were made, and what was
asked to conclude. -/
structure Passed where
  config : Config
  registrar : Registrar
  start : Nat
  handled : Trace environment
  outcome : Outcome
  calls : List SyncCall
  concluded : Trace environment
  result : Except Error Action
  handles : Pass.Handles config registrar handled outcome calls
  concludes : (Pass.conclude config registrar start outcome).Completes concluded result

namespace Passed

def trace (p : Passed) : Trace environment := ⟨.clock, p.start⟩ :: (p.handled ++ p.concluded)

/-- These are the passes that end, no more and no less. -/
theorem exists_passed {config : Config} {r : Registrar} {trace : Trace environment} {result : Except Error Action} :
    (Pass.reconcile config r).Completes trace result ↔
      ∃ p : Passed, p.config = config ∧ p.registrar = r ∧ p.trace = trace ∧ p.result = result := by
  constructor
  · intro completes
    obtain ⟨_, _, start, rfl, timed, later⟩ := completes_bind.mp completes
    obtain rfl := completes_perform.mp timed
    obtain ⟨handled, concluded, outcome, rfl, handling, ending⟩ := completes_bind.mp later
    obtain ⟨calls, handles⟩ := Pass.handles_iff.mp handling
    exact ⟨⟨config, r, start, handled, outcome, calls, concluded, result, handles, ending⟩, rfl, rfl, rfl, rfl⟩
  · rintro ⟨p, rfl, rfl, rfl, rfl⟩
    have handling := Pass.handles_iff.mpr ⟨_, p.handles⟩
    exact completes_bind.mpr ⟨[⟨.clock, p.start⟩], _, p.start, rfl, completes_perform.mpr rfl,
      completes_bind.mpr ⟨_, _, _, rfl, handling, p.concludes⟩⟩

def observed (p : Passed) : List Observation := Pass.observations p.registrar p.registrar.phase p.outcome

theorem gathered_trace {pick : Environment.Op → Option γ} (apart : Pass.Apart pick) (p : Passed) :
    gathered pick p.trace = p.observed.filterMap fun o => pick (.observe o) := by
  have handling := Pass.handles_iff.mpr ⟨_, p.handles⟩
  rw [trace, Pass.gathered_pass apart.reads apart.builds apart.clouds apart.timeless handling,
    Pass.conclude_gathers apart _ _ p.concludes]
  rfl

section Runs

variable {run : List Passed}

def traceOf (run : List Passed) : Trace environment := run.flatMap trace

def callsOf (run : List Passed) : List SyncCall := run.flatMap calls

def observedOf (run : List Passed) : List Observation := run.flatMap observed

def metricsAfter (run : List Passed) : Health.Metrics := Health.Metrics.empty.after (traceOf run)

theorem gathered_traceOf {pick : Environment.Op → Option γ} (apart : Pass.Apart pick) (run : List Passed) :
    gathered pick (traceOf run) = (observedOf run).filterMap fun o => pick (.observe o) := by
  induction run with
  | nil => rfl
  | cons p rest ih =>
    have split : traceOf (p :: rest) = p.trace ++ traceOf rest := rfl
    rw [split, gathered_append, gathered_trace apart, ih, ← List.filterMap_append]
    rfl

theorem syncsOf_metricsAfter (run : List Passed) (provider : String) (success : Bool) :
    (metricsAfter run).syncsOf provider success =
      UInt64.ofNat
        (((observedOf run).filterMap fun o => Environment.Op.synced? (.observe o)).count (provider, success)) := by
  have apart : Pass.Apart Environment.Op.synced? :=
    ⟨fun _ => rfl, rfl, fun _ _ => rfl, fun _ _ => rfl, fun _ _ => rfl, rfl, fun _ _ => rfl, fun _ => rfl⟩
  rw [metricsAfter, Health.Metrics.syncsOf_after, gathered_traceOf apart]
  exact UInt64.zero_add _

theorem gaugeOf_metricsAfter (run : List Passed) (name backendSet : String) :
    (metricsAfter run).gaugeOf name backendSet =
      Health.Metrics.lastShown name backendSet
        ((observedOf run).filterMap fun o => Environment.Op.registered? (.observe o)) := by
  have apart : Pass.Apart Environment.Op.registered? :=
    ⟨fun _ => rfl, rfl, fun _ _ => rfl, fun _ _ => rfl, fun _ _ => rfl, rfl, fun _ _ => rfl, fun _ => rfl⟩
  rw [metricsAfter, Health.Metrics.gaugeOf_after, gathered_traceOf apart]
  exact Option.or_none

/-- The measurements tell of the calls: each gauge shows the last call for its set that succeeded, and each counter the
number of calls with its result. -/
structure Tells (m : Health.Metrics) (calls : List SyncCall) : Prop where
  gauges : ∀ name backendSet, m.gaugeOf name backendSet =
    ((calls.filter fun c => c.registrar = name ∧ c.backendSet = backendSet ∧ c.succeeded).getLast?).map
      fun c => (c.targets : Int)
  counters : ∀ (kind : Cloud.Kind) success, (m.syncsOf kind.label success).toNat =
    calls.countP fun c => c.kind = kind ∧ c.succeeded = success

theorem label_inj {kind other : Cloud.Kind} : kind.label = other.label ↔ kind = other := by
  cases kind <;> cases other <;> decide

theorem synced_observations (calls : List SyncCall) :
    (calls.flatMap SyncCall.observations).filterMap (fun o => Environment.Op.synced? (.observe o)) =
      calls.map fun c => (c.kind.label, c.succeeded) := by
  induction calls with
  | nil => rfl
  | cons c rest ih =>
    rw [List.flatMap_cons, List.filterMap_append, ih, List.map_cons, SyncCall.observations]
    cases c.succeeded <;> rfl

theorem registered_observations (calls : List SyncCall) :
    (calls.flatMap SyncCall.observations).filterMap (fun o => Environment.Op.registered? (.observe o)) =
      (calls.filter SyncCall.succeeded).map fun c => ((c.registrar, c.backendSet), (c.targets : Int)) := by
  induction calls with
  | nil => rfl
  | cons c rest ih =>
    rw [List.flatMap_cons, List.filterMap_append, ih, SyncCall.observations, List.filter_cons]
    cases c.succeeded <;> rfl

theorem count_synced (calls : List SyncCall) (kind : Cloud.Kind) (success : Bool) :
    (calls.map fun c => (c.kind.label, c.succeeded)).count (kind.label, success) =
      calls.countP fun c => c.kind = kind ∧ c.succeeded = success := by
  rw [List.count, List.countP_map]
  apply List.countP_congr
  intro c _
  simp [label_inj]

theorem lastShown_registered (calls : List SyncCall) (name backendSet : String) :
    Health.Metrics.lastShown name backendSet
        ((calls.filter SyncCall.succeeded).map fun c => ((c.registrar, c.backendSet), (c.targets : Int))) =
      ((calls.filter fun c => c.registrar = name ∧ c.backendSet = backendSet ∧ c.succeeded).getLast?).map
        fun c => (c.targets : Int) := by
  have same : ((calls.filter SyncCall.succeeded).filter fun c =>
      decide ((c.registrar, c.backendSet) = (name, backendSet))) =
      calls.filter fun c => c.registrar = name ∧ c.backendSet = backendSet ∧ c.succeeded := by
    rw [List.filter_filter]
    apply List.filter_congr
    intro c _
    simp [Bool.and_assoc]
  rw [Health.Metrics.lastShown, List.filter_map, List.getLast?_map, Option.map_map, ← same]
  rfl

/-- Measured call by call, the measurements tell of the calls as long as no counter runs over. -/
theorem tells_of_observed (same : observedOf run = (callsOf run).flatMap SyncCall.observations)
    (bounded : ∀ (kind : Cloud.Kind) success,
      ((callsOf run).countP fun c => c.kind = kind ∧ c.succeeded = success) < UInt64.size) :
    Tells (metricsAfter run) (callsOf run) := by
  constructor
  · intro name backendSet
    rw [gaugeOf_metricsAfter, same, registered_observations, lastShown_registered]
  · intro kind success
    rw [syncsOf_metricsAfter, same, synced_observations, count_synced]
    exact UInt64.toNat_ofNat_of_lt' (bounded kind success)

/-- The calls of a pass whose registration fails are one, which failed. -/
def Fair (p : Passed) : Prop := p.outcome.occurrence = some .syncFailed → p.calls.map SyncCall.succeeded = [false]

theorem Fair.observed {p : Passed} (fair : p.Fair) : p.observed = p.calls.flatMap SyncCall.observations := by
  by_cases failed : p.outcome.occurrence = some .syncFailed
  · obtain ⟨told, kinds⟩ := p.handles.failed failed
    obtain ⟨c, only, unsuccessful⟩ := List.map_eq_singleton_iff.mp (fair failed)
    have kind : c.kind = p.registrar.balancerKind := kinds c (by simp [only])
    rw [only, List.flatMap_singleton, SyncCall.observations, unsuccessful, kind]
    exact told
  · exact p.handles.others failed

theorem observedOf_of_fair (fair : ∀ p ∈ run, p.Fair) :
    observedOf run = (callsOf run).flatMap SyncCall.observations := by
  induction run with
  | nil => rfl
  | cons p rest ih =>
    have first := (fair p List.mem_cons_self).observed
    have later := ih fun q member => fair q (List.mem_cons_of_mem p member)
    rw [observedOf, List.flatMap_cons, callsOf, List.flatMap_cons, List.flatMap_append, first]
    exact congrArg (_ ++ ·) later

theorem syncsOf_snoc {before : List Passed} {p : Passed} (provider : String) (success : Bool) :
    (metricsAfter (before ++ [p])).syncsOf provider success =
      (metricsAfter before).syncsOf provider success +
        UInt64.ofNat
          ((p.observed.filterMap fun o => Environment.Op.synced? (.observe o)).count (provider, success)) := by
  have split : observedOf (before ++ [p]) = observedOf before ++ p.observed := by simp [observedOf]
  rw [syncsOf_metricsAfter, syncsOf_metricsAfter, split, List.filterMap_append, List.count_append, UInt64.ofNat_add]

/-- If the measurements tell of the calls before a pass and after it, they tell of its own. -/
theorem fair_of_tells {before : List Passed} {p : Passed} (first : Tells (metricsAfter before) (callsOf before))
    (second : Tells (metricsAfter (before ++ [p])) (callsOf (before ++ [p]))) : p.Fair := by
  intro failed
  obtain ⟨told, kinds⟩ := p.handles.failed failed
  have split : callsOf (before ++ [p]) = callsOf before ++ p.calls := by simp [callsOf]
  have moved : ∀ success : Bool, ((metricsAfter before).syncsOf p.registrar.balancerKind.label success +
      UInt64.ofNat ([(p.registrar.balancerKind.label, false)].count (p.registrar.balancerKind.label, success))).toNat =
      ((metricsAfter before).syncsOf p.registrar.balancerKind.label success).toNat +
        p.calls.countP fun c => c.kind = p.registrar.balancerKind ∧ c.succeeded = success := by
    intro success
    have after := second.counters p.registrar.balancerKind success
    rw [syncsOf_snoc, observed, told, split, List.countP_append, ← first.counters] at after
    exact after
  have unsuccessful : ∀ c ∈ p.calls, c.succeeded = false := by
    have none := moved true
    have zero : UInt64.ofNat 0 = 0 := rfl
    rw [List.count_singleton, if_neg (by simp), zero, UInt64.add_zero, Nat.left_eq_add, List.countP_eq_zero] at none
    intro c member
    simpa [kinds c member] using none c member
  have one : p.calls.length = 1 := by
    have some := moved false
    have all : (p.calls.countP fun c => c.kind = p.registrar.balancerKind ∧ c.succeeded = false) =
        p.calls.length := by
      rw [List.countP_eq_length]
      intro c member
      simp [kinds c member, unsuccessful c member]
    rw [List.count_singleton_self, all, UInt64.toNat_add] at some
    have bound := ((metricsAfter before).syncsOf p.registrar.balancerKind.label false).toNat_lt
    change (_ + 1) % 2 ^ 64 = _ at some
    omega
  obtain ⟨c, only⟩ := List.length_eq_one_iff.mp one
  rw [only, List.map_singleton, unsuccessful c (by simp [only])]

/-- After each pass of a run the measurements tell of the calls so far, if and only if each registration that
fails has made one call, which failed, and no counter runs over. -/
theorem metrics_tell_iff (run : List Passed) :
    (∀ done, done <+: run → Tells (metricsAfter done) (callsOf done)) ↔
      (∀ p ∈ run, p.Fair) ∧ ∀ (kind : Cloud.Kind) success,
        ((callsOf run).countP fun c => c.kind = kind ∧ c.succeeded = success) < UInt64.size := by
  constructor
  · intro tells
    constructor
    · intro p member
      obtain ⟨before, after, whole⟩ := List.append_of_mem member
      have first : before <+: run := ⟨p :: after, whole.symm⟩
      have second : before ++ [p] <+: run := ⟨after, by rw [whole, List.append_assoc, List.singleton_append]⟩
      exact fair_of_tells (tells before first) (tells _ second)
    · intro kind success
      rw [← (tells run (List.prefix_refl run)).counters]
      exact UInt64.toNat_lt_size _
  · intro ⟨fair, bounded⟩ done prior
    apply tells_of_observed
    · exact observedOf_of_fair fun p member => fair p (prior.subset member)
    · intro kind success
      have fewer : callsOf done <+: callsOf run := by
        obtain ⟨rest, rfl⟩ := prior
        exact ⟨callsOf rest, by simp [callsOf]⟩
      exact Nat.lt_of_le_of_lt fewer.sublist.countP_le (bounded kind success)

end Runs

section Shop

/-! A pass over the two sets of a shop. The first is pushed to, the second is refused. -/

open Registration (shopCluster shopSets)

def tornShop : Registrar := Registration.shopRegistrar (some "tls")

def refusing : (op : Environment.Op) → Cloud.Balancer → op.Answer × Cloud.Balancer :=
  Environment.serve shopCluster tornShop.spec.loadBalancerId (· == "tls")

private theorem torn_connects : ((connect .standard tornShop).run.run refusing shopSets).1.toOption.isSome = true := by
  decide +kernel

def tornConnection : Connection := ((connect .standard tornShop).run.run refusing shopSets).1.toOption.get torn_connects

private theorem torn_connected : (connect .standard tornShop).run.Completes
    ((connect .standard tornShop).run.played refusing shopSets) (.ok tornConnection) := by
  have answer : ((connect .standard tornShop).run.run refusing shopSets).1 = .ok tornConnection :=
    ok_of_toOption (Option.some_get torn_connects).symm
  rw [← answer]
  exact completes_played _ _ _

def tornRegistration : Program Registration.interface (Except Error (List Registration.Report)) :=
  (Registration.register tornShop.spec tornConnection.kind).run

def tornPushes : (op : Registration.Op) → Operation op.Answer :=
  Registration.inEnvironment .standard tornShop.spec.loadBalancerId tornConnection

/-- What came of the shop, with the balancer that it left. -/
def tornAnswer : Except Error (List Registration.Report) × Cloud.Balancer :=
  tornRegistration.run (fun op => (tornPushes op).run refusing) shopSets

def tornConclusion : Operation (Except Error Action) :=
  Pass.conclude .standard tornShop 0 (Pass.registrationOutcome tornAnswer.1)

def tornPass : Passed where
  config := .standard
  registrar := tornShop
  start := 0
  handled := (connect .standard tornShop).run.played refusing shopSets ++
    (tornRegistration.translate tornPushes).played refusing shopSets
  outcome := Pass.registrationOutcome tornAnswer.1
  calls := Registration.calls tornShop.name tornConnection.kind
    (tornRegistration.played (fun op => (tornPushes op).run refusing) shopSets)
  concluded := tornConclusion.played refusing tornAnswer.2
  result := (tornConclusion.run refusing tornAnswer.2).1
  handles := .registered rfl (by decide) torn_connected (completes_played _ _ _) (spelled_played _ _ _ _)
  concludes := completes_played _ _ _

private theorem torn_calls :
    tornPass.calls = [⟨"lb", .classic, "bs", 1, true⟩, ⟨"lb", .classic, "tls", 1, false⟩] := by
  decide +kernel

private theorem torn_measures : (metricsAfter [tornPass]).gaugeOf "lb" "bs" = none := by
  decide +kernel

/-- A set that was pushed to is not measured if another is refused in the same pass. -/
theorem not_tells_of_refused : ¬ ∀ run : List Passed, Tells (metricsAfter run) (callsOf run) := by
  intro claim
  have shown := (claim [tornPass]).gauges "lb" "bs"
  rw [torn_measures, callsOf, List.flatMap_singleton, torn_calls] at shown
  exact absurd shown (by decide)

end Shop

end Passed

end BackendRegistrar
