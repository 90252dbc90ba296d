import BackendRegistrar.Pass.Reconcile
import BackendRegistrar.Proofs.Registration

/-! The course of a pass. A pass writes at most one status, right after its handler is done, for
the phase that the handler's occurrence leads to; and it tells of a registration exactly when it
has stored the ready phase. -/

namespace BackendRegistrar
open Program

namespace Environment.Op

def writes : Op → Bool
  | writeStatus _ _ => true
  | _ => false

def announces : Op → Bool
  | publish _ event => event.reason == "Registered"
  | _ => false

def listsNodes : Op → Bool
  | read .nodes => true
  | _ => false

end Environment.Op

namespace Exchange

def storesReady : Exchange environment → Bool
  | ⟨.writeStatus _ update, .ok ()⟩ => update.phase = .ready
  | _ => false

theorem of_storesReady {x : Exchange environment} (stored : x.storesReady = true) :
    ∃ name update, x = ⟨.writeStatus name update, .ok ()⟩ ∧ update.phase = .ready := by
  unfold storesReady at stored
  split at stored
  · exact ⟨_, _, rfl, by simpa using stored⟩
  · cases stored

theorem writes_of_storesReady {x : Exchange environment} (stored : x.storesReady = true) :
    x.op.writes = true := by
  obtain ⟨name, update, rfl, _⟩ := of_storesReady stored
  rfl

theorem phase_of_storesReady {x : Exchange environment} (stored : x.storesReady = true) {name : String}
    {update : PhaseUpdate} (same : x.op = .writeStatus name update) : update.phase = .ready := by
  obtain ⟨_, _, rfl, ready⟩ := of_storesReady stored
  cases same
  exact ready

end Exchange

section Inquiries

/-! Handlers only read from the cluster and ask load balancer services. -/

variable {chosen : Environment.Op → Bool}

theorem Operation.reading_times (reads : ∀ r, chosen (.read r) = false) (p : Program Cluster.reading α) :
    (Operation.reading p).Times (I := environment) chosen 0 := by
  apply Times.translate (J := environment)
  intro r
  exact .passed (reads r) fun answer => .done answer

theorem Operation.asking_times (clouds : ∀ connection op, chosen (.cloud connection op) = false)
    (connection : Connection) (p : Program Cloud.service α) :
    (Operation.asking connection p).Times (I := environment) chosen 0 := by
  apply Times.translate (J := environment)
  intro op
  exact .passed (clouds connection op) fun answer => .done answer

variable (config : Config) (r : Registrar)

theorem connect_times (reads : ∀ r, chosen (.read r) = false) (builds : chosen .buildClient = false) :
    (connect config r).run.Times (I := environment) chosen 0 := by
  unfold connect
  apply Times.attempt_never
  · apply Times.bind_never (Operation.reading_times reads _)
    exact fun answer => .done _
  · intro pem
    apply Times.attempt_never
    · exact .done _
    · intro signer
      apply Times.attempt_never
      · exact .passed builds fun built => .done _
      · exact fun _ => .done _

theorem probe_times (clouds : ∀ connection op, chosen (.cloud connection op) = false)
    (connection : Connection) : (probe r connection).Times (I := environment) chosen 0 :=
  Operation.asking_times clouds connection _

theorem registerAt_times (reads : ∀ r, chosen (.read r) = false)
    (clouds : ∀ connection op, chosen (.cloud connection op) = false) (connection : Connection) :
    (registerAt config r connection).run.Times (I := environment) chosen 0 := by
  apply Times.translate
  intro op
  cases op with
  | read r => exact .passed (reads r) fun answer => .done answer
  | push backendSet targets => exact Operation.asking_times clouds connection _

theorem Pass.withConnection_times (reads : ∀ r, chosen (.read r) = false) (builds : chosen .buildClient = false)
    {next : Connection → Operation Outcome} (later : ∀ connection, (next connection).Times chosen 0) :
    (Pass.withConnection config r next).Times (I := environment) chosen 0 := by
  unfold Pass.withConnection
  split
  · exact .done _
  · apply Times.bind_never (connect_times config r reads builds)
    intro answer
    cases answer with
    | error e => exact .done _
    | ok connection => exact later connection

theorem Pass.handle_times (reads : ∀ r, chosen (.read r) = false) (builds : chosen .buildClient = false)
    (clouds : ∀ connection op, chosen (.cloud connection op) = false) (phase : Phase) :
    (Pass.handle config phase r).Times (I := environment) chosen 0 := by
  cases phase with
  | new | ready => exact .done _
  | pending =>
    apply Pass.withConnection_times config r reads builds
    intro connection
    apply Times.bind_never (probe_times r clouds connection)
    intro answer
    cases answer <;> exact .done _
  | registering =>
    apply Pass.withConnection_times config r reads builds
    intro connection
    apply Times.bind_never (registerAt_times config r reads clouds connection)
    intro answer
    cases answer <;> exact .done _

end Inquiries

namespace Lifecycle

theorem move_of_next_ne {phase : Phase} {o : Occurrence} (moved : next phase o ≠ phase) :
    ∃ m ∈ moves, m.source = phase ∧ m.target = next phase o ∧ m.occurrence = o := by
  unfold next at moved ⊢
  cases found : move? phase o with
  | none => simp [found] at moved
  | some m =>
    obtain ⟨member, source, occurrence⟩ := move?_mem found
    exact ⟨m, member, source, rfl, occurrence⟩

theorem next_eq_registering {phase : Phase} {o : Occurrence} (moved : next phase o = .registering)
    (before : phase ≠ .registering) : phase = .pending ∧ o = .providerVerified := by
  cases phase <;> cases o <;> simp_all [next, move?, moves]

theorem next_eq_ready {phase : Phase} {o : Occurrence} (moved : next phase o = .ready)
    (before : phase ≠ .ready) : phase = .registering ∧ o = .backendsSynced := by
  cases phase <;> cases o <;> simp_all [next, move?, moves]

theorem next_of_ready {o : Occurrence} (moved : next .ready o ≠ .ready) : next .ready o = .pending := by
  cases o <;> simp_all [next, move?, moves]

theorem next_ne_new {phase : Phase} {o : Occurrence} (before : phase ≠ .new) : next phase o ≠ .new := by
  cases phase <;> cases o <;> simp_all [next, move?, moves]

end Lifecycle

namespace Pass

variable {config : Config} {r : Registrar} {trace : Trace environment} {outcome : Outcome}

section Earned

/-- The specification has no fault, the service could be reached, and it knew the backend set. -/
def Verified (config : Config) (r : Registrar) (trace : Trace environment) : Prop :=
  r.spec.fault? = none ∧ ∃ connecting probing connection backends, trace = connecting ++ probing ∧
    (connect config r).run.Completes connecting (.ok connection) ∧
    (probe r connection).Completes probing (.ok backends)

/-- All that the specification asks for was registered, and no push failed. -/
def Registered (config : Config) (r : Registrar) (reports : List Registration.Report)
    (trace : Trace environment) : Prop :=
  r.spec.fault? = none ∧ ∃ connecting registering connection short, trace = connecting ++ registering ∧
    (connect config r).run.Completes connecting (.ok connection) ∧
    (Registration.register r.spec connection.kind).run.Completes short (.ok reports) ∧
    Spelled (Registration.inEnvironment config r.spec.loadBalancerId connection) short registering ∧
    ∀ x ∈ short, ¬ Registration.FailedPush x

/-- There was no node to look for: all references follow endpoints without a ready address. -/
def AllIdle (r : Registrar) (trace : Trace environment) : Prop :=
  r.spec.usesServiceList = true ∧ ∀ ref ∈ r.spec.services, ref.filterByEndpoints = true ∧
    ∃ endpoints : Cluster.Endpoints, endpoints.readyIPs = [] ∧
      (⟨.read (.endpoints ref.ns ref.name), .ok endpoints⟩ : Exchange environment) ∈ trace

theorem spelled_reads {loadBalancerId : String} {connection : Connection} {read : Cluster.Read}
    {answer : Except Cluster.Failure read.Value} {short : Trace Registration.interface}
    (spelled : Spelled (Registration.inEnvironment config loadBalancerId connection) short trace)
    (member : (⟨.read read, answer⟩ : Exchange Registration.interface) ∈ short) :
    (⟨.read read, answer⟩ : Exchange environment) ∈ trace := by
  induction spelled with
  | nil => cases member
  | cons run later ih =>
    rcases List.mem_cons.mp member with same | late
    · cases same
      obtain rfl := completes_perform.mp run
      exact List.mem_cons_self
    · exact List.mem_append_right _ (ih late)

theorem Registered.listed {reports : List Registration.Report} (registered : Registered config r reports trace) :
    (∃ nodes, (⟨.read .nodes, .ok nodes⟩ : Exchange environment) ∈ trace) ∨ AllIdle r trace := by
  obtain ⟨_, connecting, registering, connection, short, rfl, _, completes, spelled, _⟩ := registered
  rcases Registration.register_listed completes with ⟨nodes, member⟩ | ⟨uses, idle⟩
  · exact .inl ⟨nodes, List.mem_append_right _ (spelled_reads spelled member)⟩
  · refine .inr ⟨uses, ?_⟩
    intro ref among
    obtain ⟨follows, endpoints, empty, member⟩ := idle ref among
    exact ⟨follows, endpoints, empty, List.mem_append_right _ (spelled_reads spelled member)⟩

theorem withConnection_completes {next : Connection → Operation Outcome}
    (completes : (withConnection config r next).Completes trace outcome) :
    (∃ context e, outcome = .failed .providerFailed context e) ∨
      r.spec.fault? = none ∧ ∃ connecting rest connection, trace = connecting ++ rest ∧
        (connect config r).run.Completes connecting (.ok connection) ∧
        (next connection).Completes rest outcome := by
  unfold withConnection at completes
  split at completes
  next fault found =>
    obtain ⟨_, rfl⟩ := completes_done.mp completes
    exact .inl ⟨_, _, rfl⟩
  next sound =>
    obtain ⟨connecting, rest, answer, rfl, connected, later⟩ := completes_bind.mp completes
    cases answer with
    | error e =>
      obtain ⟨_, rfl⟩ := completes_done.mp later
      exact .inl ⟨_, _, rfl⟩
    | ok connection => exact .inr ⟨sound, connecting, rest, connection, rfl, connected, later⟩

theorem handlePending_completes (completes : (handlePending config r).Completes trace outcome) :
    (∃ context e, outcome = .failed .providerFailed context e) ∨
      outcome = .advance .providerVerified [] ∧ Verified config r trace := by
  rcases withConnection_completes completes with
    failed | ⟨sound, connecting, rest, connection, rfl, connected, later⟩
  · exact .inl failed
  · obtain ⟨probing, last, answer, rfl, probed, ending⟩ := completes_bind.mp later
    cases answer with
    | error e =>
      obtain ⟨_, rfl⟩ := completes_done.mp ending
      exact .inl ⟨_, _, rfl⟩
    | ok backends =>
      obtain ⟨rfl, rfl⟩ := completes_done.mp ending
      exact .inr ⟨rfl, sound, connecting, probing, connection, backends, by simp, connected, probed⟩

theorem handleRegistering_completes (completes : (handleRegistering config r).Completes trace outcome) :
    (∃ o context e, (o = .providerFailed ∨ o = .syncFailed) ∧ outcome = .failed o context e) ∨
      ∃ reports, outcome = .advance .backendsSynced reports ∧ Registered config r reports trace := by
  rcases withConnection_completes completes with
    ⟨context, e, failed⟩ | ⟨sound, connecting, rest, connection, rfl, connected, later⟩
  · exact .inl ⟨_, context, e, .inl rfl, failed⟩
  · obtain ⟨registering, last, answer, rfl, registered, ending⟩ := completes_bind.mp later
    cases answer with
    | error e =>
      obtain ⟨_, rfl⟩ := completes_done.mp ending
      exact .inl ⟨_, _, e, .inr rfl, rfl⟩
    | ok reports =>
      obtain ⟨rfl, rfl⟩ := completes_done.mp ending
      obtain ⟨short, inside, spelled⟩ := completes_translate.mp registered
      exact .inr ⟨reports, rfl, sound, connecting, registering, connection, short, by simp, connected, inside,
        spelled, Registration.register_pushed inside⟩

end Earned

section Course

def say (config : Config) (r : Registrar) (outcome : Outcome) (became : Bool) :
    Operation (Except Error Action) :=
  match outcome.error with
  | some e => afterError config r r.phase outcome.message e
  | none => afterSuccess config r became outcome.reports

/-- What a pass does after it has stored the next phase, or not. -/
def tell (config : Config) (r : Registrar) (start : Nat) (outcome : Outcome) (persisted : Bool) :
    Operation (Except Error Action) :=
  (observeAll (observations r r.phase outcome)).bind fun _ =>
    Operation.clock.bind fun stop =>
      (Operation.observe (.reconciled r.name (secondsBetween start stop))).bind fun _ =>
        say config r outcome
          (decide (nextPhase r.phase outcome.occurrence = .ready ∧ r.phase ≠ .ready) && persisted)

theorem conclude_eq {start : Nat} :
    conclude config r start outcome =
      (if nextPhase r.phase outcome.occurrence ≠ r.phase then
          persist r (nextPhase r.phase outcome.occurrence)
        else .done false).bind (tell config r start outcome) := rfl

theorem observeAll_times {chosen : Environment.Op → Bool} (observes : ∀ o, chosen (.observe o) = false)
    (os : List Observation) : (observeAll os).Times (I := environment) chosen 0 := by
  induction os with
  | nil => exact .done _
  | cons o rest ih => exact .passed (observes o) fun _ => ih

theorem tell_times {chosen : Environment.Op → Bool} {n start : Nat} {persisted : Bool}
    (observes : ∀ o, chosen (.observe o) = false) (clock : chosen .clock = false)
    (later : (say config r outcome (decide (nextPhase r.phase outcome.occurrence = .ready ∧ r.phase ≠ .ready)
      && persisted)).Times (I := environment) chosen n) :
    (tell config r start outcome persisted).Times (I := environment) chosen n := by
  rw [← Nat.zero_add n]
  apply (observeAll_times observes _).bind
  intro observed
  exact .passed clock fun _ => .passed (observes _) fun _ => later

theorem say_never_writes {became : Bool} :
    (say config r outcome became).Times (I := environment) Environment.Op.writes 0 := by
  unfold say
  split
  · apply Times.passed rfl
    intro told
    dsimp only
    split
    · exact .passed rfl fun _ => .done _
    · exact .done _
  · unfold afterSuccess
    split
    · exact .passed rfl fun _ => .done _
    · exact .done _

theorem say_announces (config : Config) (r : Registrar) (outcome : Outcome) (became : Bool) :
    (say config r outcome became).Times (I := environment) Environment.Op.announces
      (if outcome.error.isNone ∧ became then 1 else 0) := by
  unfold say
  cases outcome.error with
  | some e =>
    simp only [Option.isNone_some, Bool.false_eq_true, false_and, ite_false]
    apply Times.passed (by simp [Environment.Op.announces])
    intro told
    dsimp only [done_bind]
    split
    · exact .passed rfl fun _ => .done _
    · exact .done _
  | none =>
    cases became with
    | false => exact .done _
    | true => exact .counted rfl fun _ => .done _

/-- Neither a status is written nor a registration told of. -/
def Quiet (trace : Trace environment) : Prop :=
  ∀ x ∈ trace, x.op.writes = false ∧ x.op.announces = false

theorem handle_quiet {phase : Phase} {rest : Operation Outcome}
    (reached : (handle config phase r).Reaches trace rest) : Quiet trace := by
  intro x member
  exact ⟨(handle_times config r (fun _ => rfl) rfl (fun _ _ => rfl) phase).none reached x member,
    (handle_times config r (fun _ => rfl) rfl (fun _ _ => rfl) phase).none reached x member⟩

theorem begun_quiet {phase : Phase} (start : Nat) {rest : Operation Outcome}
    (reached : (handle config phase r).Reaches trace rest) : Quiet (⟨.clock, start⟩ :: trace) := by
  intro x member
  rcases List.mem_cons.mp member with rfl | member
  · exact ⟨rfl, rfl⟩
  · exact handle_quiet reached x member

/-- A pass is on its way to an outcome, or has one and goes on from there. -/
theorem reconcile_reaches {rest : Operation (Except Error Action)}
    (reached : (reconcile config r).Reaches trace rest) :
    (Quiet trace ∧ ∀ value, rest ≠ .done value) ∨
      ∃ start handled outcome concluded, trace = ⟨.clock, start⟩ :: (handled ++ concluded) ∧
        (handle config r.phase r).Completes handled outcome ∧
        (conclude config r start outcome).Reaches concluded rest := by
  rcases reaches_ask.mp reached with ⟨rfl, rfl⟩ | ⟨start, later, rfl, begun⟩
  · exact .inl ⟨by simp [Quiet], fun value => by simp⟩
  · rw [done_bind] at begun
    rcases reaches_bind.mp begun with
      ⟨q, inside, rfl⟩ | ⟨handled, concluded, outcome, rfl, completes, after⟩
    · cases q with
      | done outcome =>
        exact .inr ⟨start, later, outcome, [], by simp, inside, .start _⟩
      | ask op next =>
        exact .inl ⟨begun_quiet start inside, fun value => by simp⟩
    · exact .inr ⟨start, handled, outcome, concluded, rfl, completes, after⟩

/-- An outcome that leaves the phase is followed by a write, any other by none. -/
theorem conclude_reaches {start : Nat} {rest : Operation (Except Error Action)}
    (reached : (conclude config r start outcome).Reaches trace rest) :
    nextPhase r.phase outcome.occurrence = r.phase ∧ (tell config r start outcome false).Reaches trace rest ∨
      nextPhase r.phase outcome.occurrence ≠ r.phase ∧
        (trace = [] ∧ (∀ value, rest ≠ .done value) ∨
          ∃ (answer : Except Cluster.Failure Unit) (told : Trace environment),
            trace = ⟨.writeStatus r.name (.observed (nextPhase r.phase outcome.occurrence) r), answer⟩ :: told ∧
              (tell config r start outcome answer.isOk).Reaches told rest) := by
  rw [conclude_eq] at reached
  split at reached
  next moved =>
    refine .inr ⟨moved, ?_⟩
    rcases reaches_ask.mp reached with ⟨rfl, rfl⟩ | ⟨answer, told, rfl, after⟩
    · exact .inl ⟨rfl, fun value => by simp⟩
    · exact .inr ⟨answer, told, rfl, after⟩
  next stayed => exact .inl ⟨Decidable.of_not_not stayed, reached⟩

end Course

section Writes

theorem tell_quiet_of_stayed {start : Nat} {rest : Operation (Except Error Action)}
    (reached : (tell config r start outcome false).Reaches trace rest) : Quiet trace := by
  have never : (tell config r start outcome false).Times (I := environment) Environment.Op.announces 0 := by
    refine tell_times (fun _ => rfl) rfl ?_
    simpa using say_announces config r outcome false
  intro x member
  exact ⟨(tell_times (fun _ => rfl) rfl say_never_writes).none reached x member, never.none reached x member⟩

/-- A status that a pass writes is that of the phase its outcome leads to, and it is written once. -/
theorem reconcile_writes {rest : Operation (Except Error Action)} {x : Exchange environment}
    (reached : (reconcile config r).Reaches trace rest) (member : x ∈ trace) (writes : x.op.writes = true) :
    ∃ start handled outcome answer told, (handle config r.phase r).Completes handled outcome ∧
      nextPhase r.phase outcome.occurrence ≠ r.phase ∧
      x = ⟨.writeStatus r.name (.observed (nextPhase r.phase outcome.occurrence) r), answer⟩ ∧
      trace = ⟨.clock, start⟩ :: (handled ++ x :: told) := by
  rcases reconcile_reaches reached with
    ⟨quiet, _⟩ | ⟨start, handled, outcome, concluded, rfl, completes, after⟩
  · exact absurd writes (by simp [(quiet x member).1])
  · rw [← List.cons_append] at member
    have inside : x ∈ concluded := by
      apply (List.mem_append.mp member).resolve_left
      intro early
      exact absurd writes (by simp [(begun_quiet start completes x early).1])
    rcases conclude_reaches after with ⟨_, told⟩ | ⟨moved, ⟨rfl, _⟩ | ⟨answer, told, rfl, last⟩⟩
    · exact absurd writes (by simp [(tell_quiet_of_stayed told x inside).1])
    · cases inside
    · rcases List.mem_cons.mp inside with rfl | late
      · exact ⟨start, handled, outcome, answer, told, completes, moved, rfl, rfl⟩
      · have never := (tell_times (n := 0) (fun _ => rfl) rfl say_never_writes).none last x late
        exact absurd writes (by simp [never])

theorem reconcile_writes_once {rest : Operation (Except Error Action)}
    (reached : (reconcile config r).Reaches trace rest) : asked Environment.Op.writes trace ≤ 1 := by
  have none {trace : Trace environment} (quiet : Quiet trace) : asked Environment.Op.writes trace = 0 := by
    rw [asked, List.countP_eq_zero]
    intro x member
    simp [(quiet x member).1]
  rcases reconcile_reaches reached with
    ⟨quiet, _⟩ | ⟨start, handled, outcome, concluded, rfl, completes, after⟩
  · simp [none quiet]
  · have early := none (begun_quiet start completes)
    rw [← List.cons_append, asked_append, early, Nat.zero_add]
    rcases conclude_reaches after with ⟨_, told⟩ | ⟨moved, ⟨rfl, _⟩ | ⟨answer, told, rfl, last⟩⟩
    · simp [none (tell_quiet_of_stayed told)]
    · simp [asked]
    · have late := (tell_times (n := 0) (fun _ => rfl) rfl say_never_writes).asked_le last
      exact Nat.le_trans asked_cons_le (by omega)

/-- A pass over a ready registrar whose specification has changed sends it back to the pending
phase before anything else. -/
theorem reconcile_spec_changed {value : Except Error Action} (ready : r.phase = .ready)
    (changed : r.specChanged = true) (completes : (reconcile config r).Completes trace value) :
    ∃ start answer told,
      trace = ⟨.clock, start⟩ :: ⟨.writeStatus r.name (.observed .pending r), answer⟩ :: told := by
  rcases reconcile_reaches completes with
    ⟨_, unfinished⟩ | ⟨start, handled, outcome, concluded, rfl, handles, after⟩
  · exact absurd rfl (unfinished value)
  · have handling : handle config r.phase r = .done (.advance .specChanged []) := by
      rw [ready, handle, handleReady, changed]
      rfl
    rw [handling] at handles
    obtain ⟨rfl, rfl⟩ := completes_done.mp handles
    have next : nextPhase r.phase (Outcome.advance .specChanged []).occurrence = .pending := by
      rw [ready]
      rfl
    rcases conclude_reaches after with ⟨stayed, _⟩ | ⟨_, ⟨rfl, unfinished⟩ | ⟨answer, told, rfl, _⟩⟩
    · rw [next, ready] at stayed
      cases stayed
    · exact absurd rfl (unfinished value)
    · exact ⟨start, answer, told, by rw [next, List.nil_append]⟩

end Writes

section Announcements

theorem Quiet.asked_announces (quiet : Quiet trace) : asked Environment.Op.announces trace = 0 := by
  rw [asked, List.countP_eq_zero]
  intro x member
  simp [(quiet x member).2]

theorem Quiet.stores_ready (quiet : Quiet trace) : trace.countP Exchange.storesReady = 0 := by
  rw [List.countP_eq_zero]
  intro x member stored
  exact absurd (x.writes_of_storesReady stored) (by simp [(quiet x member).1])

theorem Quiet.announces_append (quiet : Quiet trace) (later : Trace environment) :
    asked Environment.Op.announces (trace ++ later) = asked Environment.Op.announces later := by
  rw [asked_append, quiet.asked_announces, Nat.zero_add]

theorem Quiet.stores_append (quiet : Quiet trace) (later : Trace environment) :
    (trace ++ later).countP Exchange.storesReady = later.countP Exchange.storesReady := by
  rw [List.countP_append, quiet.stores_ready, Nat.zero_add]

private theorem tell_stores_ready {start : Nat} {persisted : Bool} {rest : Operation (Except Error Action)}
    (reached : (tell config r start outcome persisted).Reaches trace rest) :
    trace.countP Exchange.storesReady = 0 := by
  rw [List.countP_eq_zero]
  intro x member stored
  have silent := (tell_times (n := 0) (fun _ => rfl) rfl say_never_writes).none reached x member
  exact absurd (x.writes_of_storesReady stored) (by simp [silent])

theorem handle_ready (completes : (handle config r.phase r).Completes trace outcome)
    (moved : nextPhase r.phase outcome.occurrence ≠ r.phase)
    (became : nextPhase r.phase outcome.occurrence = .ready) :
    r.phase = .registering ∧ ∃ reports, outcome = .advance .backendsSynced reports ∧
      Registered config r reports trace := by
  rw [became] at moved
  cases occurred : outcome.occurrence with
  | none =>
    rw [occurred] at became
    exact absurd became.symm moved
  | some o =>
    rw [occurred] at became
    obtain ⟨phase, rfl⟩ := Lifecycle.next_eq_ready became moved.symm
    refine ⟨phase, ?_⟩
    rw [phase] at completes
    rcases handleRegistering_completes completes with
      ⟨o, context, e, rfl | rfl, rfl⟩ | ⟨reports, rfl, registered⟩
    · cases occurred
    · cases occurred
    · exact ⟨reports, rfl, registered⟩

theorem handle_registering (completes : (handle config r.phase r).Completes trace outcome)
    (moved : nextPhase r.phase outcome.occurrence ≠ r.phase)
    (became : nextPhase r.phase outcome.occurrence = .registering) :
    r.phase = .pending ∧ outcome = .advance .providerVerified [] ∧ Verified config r trace := by
  rw [became] at moved
  cases occurred : outcome.occurrence with
  | none =>
    rw [occurred] at became
    exact absurd became.symm moved
  | some o =>
    rw [occurred] at became
    obtain ⟨phase, rfl⟩ := Lifecycle.next_eq_registering became moved.symm
    rw [phase] at completes
    rcases handlePending_completes completes with ⟨context, e, rfl⟩ | ⟨rfl, verified⟩
    · cases occurred
    · exact ⟨phase, rfl, verified⟩

private theorem tell_announces (start : Nat) (answer : Except Cluster.Failure Unit)
    (completes : (handle config r.phase r).Completes trace outcome)
    (moved : nextPhase r.phase outcome.occurrence ≠ r.phase) :
    (tell config r start outcome answer.isOk).Times (I := environment) Environment.Op.announces
      (if nextPhase r.phase outcome.occurrence = .ready ∧ answer.isOk then 1 else 0) := by
  refine tell_times (fun _ => rfl) rfl ?_
  have told := say_announces config r outcome
    (decide (nextPhase r.phase outcome.occurrence = .ready ∧ r.phase ≠ .ready) && answer.isOk)
  by_cases became : nextPhase r.phase outcome.occurrence = .ready
  · obtain ⟨phase, reports, rfl, _⟩ := handle_ready completes moved became
    simpa [became, phase, Outcome.advance] using told
  · simpa [became] using told

/-- A pass tells of a registration for no other reason than that it stored the ready phase, and
each time that it did by the time it is done. -/
theorem reconcile_announces {rest : Operation (Except Error Action)}
    (reached : (reconcile config r).Reaches trace rest) :
    asked Environment.Op.announces trace ≤ trace.countP Exchange.storesReady ∧
      ∀ value, rest = .done value →
        asked Environment.Op.announces trace = trace.countP Exchange.storesReady := by
  rcases reconcile_reaches reached with
    ⟨quiet, unfinished⟩ | ⟨start, handled, outcome, concluded, rfl, completes, after⟩
  · exact ⟨by simp [quiet.asked_announces], fun value ended => absurd ended (unfinished value)⟩
  · rw [← List.cons_append, (begun_quiet start completes).announces_append, (begun_quiet start completes).stores_append]
    rcases conclude_reaches after with ⟨_, told⟩ | ⟨moved, ⟨rfl, unfinished⟩ | ⟨answer, told, rfl, last⟩⟩
    · have quiet := tell_quiet_of_stayed told
      rw [quiet.asked_announces, quiet.stores_ready]
      exact ⟨Nat.le_refl _, fun _ _ => rfl⟩
    · exact ⟨Nat.le_refl _, fun value ended => absurd ended (unfinished value)⟩
    · have announces := tell_announces start answer completes moved
      have counted : List.countP Exchange.storesReady (⟨.writeStatus r.name
          (.observed (nextPhase r.phase outcome.occurrence) r), answer⟩ :: told) =
          if nextPhase r.phase outcome.occurrence = .ready ∧ answer.isOk then 1 else 0 := by
        rw [List.countP_cons, tell_stores_ready last, Nat.zero_add]
        by_cases became : nextPhase r.phase outcome.occurrence = .ready
        all_goals cases answer <;>
          simp [Exchange.storesReady, PhaseUpdate.observed, Except.isOk, Except.toBool, became]
      rw [counted, asked_cons_of_not rfl]
      constructor
      · exact announces.asked_le last
      · rintro value rfl
        exact announces.completes last

end Announcements

end Pass

end BackendRegistrar
