import BackendRegistrar.Proofs.Effects
import BackendRegistrar.Proofs.Outcomes
import BackendRegistrar.Proofs.Patching

/-! Passes one after another, each over the document that is stored by then. When nothing else changes and
nothing fails, they lead to the ready phase by one registration, and then leave everything alone. -/

namespace BackendRegistrar
open Program

/-- A cluster that stays as it is, what comes of building a client, a load balancer service with a state of its own, a
clock, and a store with one registrar. To look at a set leaves the service as it is. -/
structure Surroundings (σ : Type) where
  name : String
  content : Registration.Content
  building : Except String Unit
  service : Connection → (op : Cloud.Op) → σ → op.Answer × σ
  still : ∀ connection id backendSet b, (service connection (.request (.getSet id backendSet)) b).2 = b
  time : Nat → Nat
  version : Json → String

/-- What can change: the document of the registrar, the service, and how often the clock was read. -/
structure Held (σ : Type) where
  document : Json
  service : σ
  readings : Nat

namespace Surroundings

variable {σ : Type} {w : Surroundings σ} {config : Config} {r : Registrar} {s t : Held σ}

/-- A write is refused if it is for another registrar, or for a version that is not the stored one. -/
def write (w : Surroundings σ) (name : String) (u : PhaseUpdate) (document : Json) :
    Except Cluster.Failure Unit × Json :=
  if name ≠ w.name then (.error (.refused 404 "NotFound" name), document)
  else if ∀ version ∈ u.resourceVersion,
      ((document.get? "metadata").bind (·.get? "resourceVersion")) = some (.string version) then
    (.ok (), u.stored (w.version document) document)
  else (.error (.refused 409 "Conflict" "the object has been modified"), document)

def answer (w : Surroundings σ) : (op : Environment.Op) → Held σ → op.Answer × Held σ
  | .read r, s => (w.content r, s)
  | .buildClient, s => (w.building, s)
  | .cloud connection op, s =>
    let answered := w.service connection op s.service
    (answered.1, { s with service := answered.2 })
  | .writeStatus name u, s =>
    let written := w.write name u s.document
    (written.1, { s with document := written.2 })
  | .publish _ _, s => ((), s)
  | .observe _, s => ((), s)
  | .clock, s => (w.time s.readings, { s with readings := s.readings + 1 })

/-- What can be relied on to come through: the specification has no fault, the service is reached and knows
the set, and the registration succeeds. -/
structure Serviceable (config : Config) (w : Surroundings σ) (r : Registrar) (connection : Connection)
    (s : Held σ) : Prop where
  sound : r.spec.fault? = none
  connects : ((connect config r).run.run w.answer s).1 = .ok connection
  probes : ∃ backends, ((probe r connection).run w.answer s).1 = .ok backends
  registers : ∃ reports, ((registerAt config r connection).run.run w.answer s).1 = .ok reports

/-- Passes over what is stored, one after another, with the phases that they leave behind. Each of them asks
to be repeated after the usual time. -/
inductive Walk (config : Config) (w : Surroundings σ) : Held σ → List Phase → Trace environment → Held σ → Prop
  | stay (s : Held σ) : Walk config w s [] [] s
  | pass {s t u : Held σ} {r left : Registrar} {phases : List Phase} {later : Trace environment}
      (stored : Registrar.decode s.document = .ok r)
      (ran : (Simulation.passAndPolicy config r).run w.answer s = (.ok (.requeue config.resyncInterval), t))
      (leaves : Registrar.decode t.document = .ok left) (rest : Walk config w t phases later u) :
      Walk config w s (left.phase :: phases) ((Simulation.passAndPolicy config r).played w.answer s ++ later) u

/-- Nothing but what is stored decides over the passes. -/
theorem Walk.unique {phases others : List Phase} {trace other : Trace environment} {u : Held σ}
    (walk : Walk config w s phases trace t) (again : Walk config w s others other u)
    (length : phases.length = others.length) : phases = others ∧ trace = other ∧ t = u := by
  induction walk generalizing others other with
  | stay s =>
    cases again with
    | stay => exact ⟨rfl, rfl, rfl⟩
    | pass => cases length
  | pass stored ran leaves rest ih =>
    cases again with
    | stay => cases length
    | pass stored' ran' leaves' rest' =>
      -- the same document is decoded to the same registrar, and its pass runs in the same surroundings
      obtain rfl := Except.ok.inj (stored.symm.trans stored')
      obtain rfl := (Prod.mk.inj (ran.symm.trans ran')).2
      obtain rfl := Except.ok.inj (leaves.symm.trans leaves')
      obtain ⟨rfl, rfl, rfl⟩ := ih rest' (Nat.succ.inj length)
      exact ⟨rfl, rfl, rfl⟩

section Parts

/-- A part of what can change is left alone if all questions leave it alone. -/
theorem run_keeps {chosen : Environment.Op → Bool} {β : Type} (part : Held σ → β)
    (keeps : ∀ op s, chosen op = false → part (w.answer op s).2 = part s) {p : Operation α}
    (never : p.Times (I := environment) chosen 0) (s : Held σ) : part (p.run w.answer s).2 = part s := by
  induction p generalizing s with
  | done value => rfl
  | ask op next ih =>
    cases never with
    | passed other later => exact (ih _ (later _) _).trans (keeps op s other)

theorem answer_keeps_service {op : Environment.Op} (apart : op.asksCloud = false) :
    (w.answer op s).2.service = s.service := by
  cases op with
  | cloud => cases apart
  | _ => rfl

theorem answer_keeps_document {op : Environment.Op} (apart : op.writes = false) :
    (w.answer op s).2.document = s.document := by
  cases op with
  | writeStatus => cases apart
  | _ => rfl

/-- The questions that change the document or look at the clock. -/
def unsteady : Environment.Op → Bool
  | .writeStatus _ _ | .clock => true
  | _ => false

/-- What neither writes a status nor looks at the clock does the same beside any document at any time, and leaves
both alone. -/
theorem run_beside {p : Operation α} (never : p.Times (I := environment) unsteady 0)
    (service : t.service = s.service) :
    p.run w.answer t = ((p.run w.answer s).1, { t with service := (p.run w.answer s).2.service }) ∧
      p.played w.answer t = p.played w.answer s := by
  induction p generalizing s t with
  | done value =>
    refine ⟨?_, rfl⟩
    rw [run, run, ← service]
  | ask op next ih =>
    cases never with
    | passed other later =>
      have same : w.answer op t = ((w.answer op s).1, { t with service := (w.answer op s).2.service }) := by
        cases op with
        | writeStatus | clock => cases other
        | _ => simp [answer, ← service]
      obtain ⟨runs, plays⟩ := ih (w.answer op s).1 (later _) (s := (w.answer op s).2)
        (t := { t with service := (w.answer op s).2.service }) rfl
      constructor
      · rw [run, same]
        exact runs
      · rw [played, same, played]
        exact congrArg _ plays

theorem probe_eq (connection : Connection) :
    probe r connection =
      .ask (I := environment) (.cloud connection (.request (.getSet r.spec.loadBalancerId r.spec.backendSetName)))
        fun (current : Except CloudError Cloud.BackendSet) => .done (current.map Cloud.BackendSet.targets) := by
  change Program.ask (I := environment) _ _ = _
  congr 1
  funext current
  cases current <;> rfl

theorem run_probe (connection : Connection) (s : Held σ) : ((probe r connection).run w.answer s).2 = s := by
  rw [probe_eq]
  exact congrArg (Held.mk s.document · s.readings) (w.still _ _ _ s.service)

theorem run_connect (s : Held σ) : ((connect config r).run.run w.answer s).2 = s := by
  have service := run_keeps (w := w) Held.service (fun _ _ => answer_keeps_service)
    (connect_times config r (fun _ => rfl) rfl) s
  rw [(run_beside (connect_times config r (fun _ => rfl) rfl) rfl).1]
  exact congrArg (fun service => { s with service := service }) service

/-- What connects, probes and registers follows the specification alone. -/
theorem connect_congr {other : Registrar} (same : other.spec = r.spec) : connect config other = connect config r := by
  unfold connect Registrar.secretNamespace
  rw [same]

theorem probe_congr {other : Registrar} (same : other.spec = r.spec) (connection : Connection) :
    probe other connection = probe r connection := by
  unfold probe
  rw [same]

theorem registerAt_congr {other : Registrar} (same : other.spec = r.spec) (connection : Connection) :
    registerAt config other connection = registerAt config r connection := by
  unfold registerAt
  rw [same]

end Parts

section Handlers

variable {connection : Connection}

theorem Serviceable.congr {other : Registrar} (serviceable : Serviceable config w r connection s)
    (same : other.spec = r.spec) (service : t.service = s.service) : Serviceable config w other connection t := by
  obtain ⟨sound, connects, ⟨backends, probes⟩, reports, registers⟩ := serviceable
  refine ⟨same ▸ sound, ?_, ⟨backends, ?_⟩, reports, ?_⟩
  · rw [connect_congr same, (run_beside (connect_times config r (fun _ => rfl) rfl) service).1]
    exact connects
  · rw [probe_congr same, (run_beside (probe_times r (fun _ _ => rfl) connection) service).1]
    exact probes
  · rw [registerAt_congr same,
      (run_beside (registerAt_times config r (fun _ => rfl) (fun _ _ => rfl) connection) service).1]
    exact registers

theorem played_connect (config : Config) (w : Surroundings σ) (r : Registrar) (s : Held σ) :
    gathered Environment.Op.updated? ((connect config r).run.played w.answer s) = [] := by
  have never : (connect config r).run.Times (I := environment) (fun op => op.updated?.isSome) 0 :=
    connect_times config r (fun _ => rfl) rfl
  exact never.gathers _ _ (completes_played _ _ _)

theorem handlePending_run (serviceable : Serviceable config w r connection s) :
    (Pass.handlePending config r).run w.answer s = (.advance .providerVerified [], s) ∧
      gathered Environment.Op.updated? ((Pass.handlePending config r).played w.answer s) = [] := by
  obtain ⟨backends, probes⟩ := serviceable.probes
  rw [Pass.handlePending, Pass.withConnection, serviceable.sound]
  dsimp only
  constructor
  · rw [run_bind, serviceable.connects, run_connect]
    dsimp only
    rw [run_bind, probes, run_probe]
    rfl
  · rw [played_bind, gathered_append, played_connect, serviceable.connects, run_connect]
    dsimp only
    rw [played_bind, gathered_append, probes, probe_eq]
    rfl

/-- A pass in the registering phase registers once. -/
theorem handleRegistering_run (serviceable : Serviceable config w r connection s) :
    ∃ reports, (Pass.handleRegistering config r).run w.answer s =
        (.advance .backendsSynced reports, ((registerAt config r connection).run.run w.answer s).2) ∧
      gathered Environment.Op.updated? ((Pass.handleRegistering config r).played w.answer s) =
        gathered Environment.Op.updated? ((registerAt config r connection).run.played w.answer s) := by
  obtain ⟨reports, registers⟩ := serviceable.registers
  refine ⟨reports, ?_, ?_⟩
  · rw [Pass.handleRegistering, Pass.withConnection, serviceable.sound]
    dsimp only
    rw [run_bind, serviceable.connects, run_connect]
    dsimp only
    rw [run_bind, registers]
    rfl
  · rw [Pass.handleRegistering, Pass.withConnection, serviceable.sound]
    dsimp only
    rw [played_bind, gathered_append, played_connect, serviceable.connects, run_connect]
    dsimp only
    rw [played_bind, gathered_append, registers]
    simp [played, gathered]

end Handlers

section Passes

/-- The document shows the registrar as it was to begin with, but for its version and its status. The next
update of the status keeps this generation, if the registrar has none of its own. -/
structure Stands (r : Registrar) (generation : Option Int64) (document : Json) (now : Registrar) : Prop where
  decoded : ∃ ms : Json.Members, document = .object ms ∧ Registrar.decode (.object ms) = .ok now ∧
    r.metadata.generation.or ((Status.kept (ms.get? "status") now.status).bind Status.observedGeneration) =
      r.metadata.generation.or generation
  spec : now.spec = r.spec
  metadata : now.metadata = { r.metadata with resourceVersion := now.metadata.resourceVersion }

variable {generation : Option Int64} {now : Registrar} {outcome : Outcome}

theorem Stands.own (stands : Stands r generation s.document now) :
    now.metadata.generation = r.metadata.generation := by
  rw [stands.metadata]

theorem Stands.name (stands : Stands r generation s.document now) : now.name = r.name := by
  unfold Registrar.name Cluster.Metadata.nameAny
  rw [stands.metadata]

/-- A write for the registrar as it is stored is accepted. -/
theorem write_accepted (phase : Phase) (stands : Stands r generation s.document now) (named : now.name = w.name) :
    w.write now.name (.observed phase now) s.document =
      (.ok (), (PhaseUpdate.observed phase now).stored (w.version s.document) s.document) := by
  obtain ⟨ms, same, decoded, _⟩ := stands.decoded
  obtain ⟨inner, found, described⟩ := (Registrar.decode_ok.mp decoded).metadata
  have current : ∀ version ∈ (PhaseUpdate.observed phase now).resourceVersion,
      ((s.document.get? "metadata").bind (·.get? "resourceVersion")) = some (.string version) := by
    intro version given
    have shown : s.document.get? "metadata" = some (.object inner) := by
      rw [same]
      exact found
    rw [shown]
    exact Cluster.Metadata.get?_version_of_decode described given
  rw [write, if_neg (not_not_intro named), if_pos current]

/-- Once the phase is stored, the registrar stands as before in the phase. -/
theorem Stands.stored (stands : Stands r generation s.document now) (phase : Phase) (version : String) :
    ∃ left, Stands r generation ((PhaseUpdate.observed phase now).stored version s.document) left ∧
      left.status = some ⟨phase, r.metadata.generation.or generation⟩ := by
  obtain ⟨ms, same, decoded, keeps⟩ := stands.decoded
  obtain ⟨changed, patched, redecoded, inner, found⟩ :=
    (PhaseUpdate.observed phase now).decode_stored version decoded
  have status : (PhaseUpdate.observed phase now).apply (Status.kept (ms.get? "status") now.status) =
      ⟨phase, r.metadata.generation.or generation⟩ := by
    rw [← keeps, ← stands.own]
    rfl
  rw [status] at redecoded
  refine ⟨_, ⟨⟨changed, same ▸ patched, redecoded, ?_⟩, stands.spec, ?_⟩, rfl⟩
  · rw [found]
    simp [Status.kept, ← Option.or_assoc]
  · dsimp only
    rw [stands.metadata]

theorem run_settle (config : Config) (start : Nat) (well : outcome.error = none) :
    ((Pass.settle config r start outcome).run w.answer s).1 = .ok (.requeue config.resyncInterval) ∧
      ((Pass.settle config r start outcome).run w.answer s).2.service = s.service ∧
      ((Pass.settle config r start outcome).run w.answer s).2.document =
        if Pass.nextPhase r.phase outcome.occurrence ≠ r.phase then
          (w.write r.name (.observed (Pass.nextPhase r.phase outcome.occurrence) r) s.document).2
        else s.document := by
  refine ⟨?_, ?_, ?_⟩
  · have ends := Pass.settle_ends _ _ (completes_played w.answer (Pass.settle config r start outcome) s)
    rw [well] at ends
    exact ends
  · rw [Pass.settle_eq, run_bind, run_keeps Held.service (fun _ _ => answer_keeps_service)
      (Pass.report_times (fun _ => rfl) rfl fun _ _ => rfl)]
    split <;> rfl
  · rw [Pass.settle_eq, run_bind, run_keeps Held.document (fun _ _ => answer_keeps_document)
      (Pass.report_times (fun _ => rfl) rfl fun _ _ => rfl)]
    split <;> rfl

theorem played_settle {start : Nat} :
    gathered Environment.Op.updated? ((Pass.settle config r start outcome).played w.answer s) = [] := by
  have gathers := Pass.settle_gathers (r := r) Environment.Op.updated? [] (fun _ _ => rfl) rfl (fun _ => rfl)
    (fun _ => rfl) _ _ (completes_played w.answer (Pass.settle config r start outcome) s)
  rw [gathers]
  simp [Environment.Op.updated?]

/-- A pass looks at the clock, handles the phase, and goes on from the outcome. Only its handler pushes. -/
theorem run_pass {handled : Held σ}
    (handles : (Pass.handle config now.phase now).run w.answer s = (outcome, handled)) :
    (Simulation.passAndPolicy config now).run w.answer s =
        (Pass.settle config now (w.time s.readings) outcome).run w.answer
          ⟨s.document, handled.service, s.readings + 1⟩ ∧
      gathered Environment.Op.updated? ((Simulation.passAndPolicy config now).played w.answer s) =
        gathered Environment.Op.updated? ((Pass.handle config now.phase now).played w.answer s) := by
  have never : (Pass.handle config now.phase now).Times (I := environment) unsteady 0 :=
    Pass.handle_times config now (fun _ => rfl) rfl (fun _ _ => rfl) now.phase
  -- the handler runs one look at the clock later than it was assumed to
  obtain ⟨runs, plays⟩ :=
    run_beside (w := w) never (s := s) (t := { s with readings := s.readings + 1 }) rfl
  rw [handles] at runs
  rw [Pass.passAndPolicy_eq]
  constructor
  · change (Program.bind (Pass.handle config now.phase now) _).run w.answer { s with readings := s.readings + 1 } = _
    rw [run_bind, runs]
    rfl
  · change gathered _ (_ :: (Program.bind (Pass.handle config now.phase now) _).played w.answer
      { s with readings := s.readings + 1 }) = _
    rw [gathered_cons, played_bind, gathered_append, plays, played_settle, List.append_nil]
    rfl

/-- A pass whose handler comes through stores the next phase, and pushes what the handler does. -/
theorem pass_moves {handled : Held σ} (stands : Stands r generation s.document now) (named : r.name = w.name)
    (handles : (Pass.handle config now.phase now).run w.answer s = (outcome, handled)) (well : outcome.error = none)
    (moved : Pass.nextPhase now.phase outcome.occurrence ≠ now.phase) :
    ∃ t left, (Simulation.passAndPolicy config now).run w.answer s = (.ok (.requeue config.resyncInterval), t) ∧
      Stands r generation t.document left ∧
      left.status = some ⟨Pass.nextPhase now.phase outcome.occurrence, r.metadata.generation.or generation⟩ ∧
      t.service = handled.service ∧
      gathered Environment.Op.updated? ((Simulation.passAndPolicy config now).played w.answer s) =
        gathered Environment.Op.updated? ((Pass.handle config now.phase now).played w.answer s) := by
  obtain ⟨left, standing, status⟩ :=
    stands.stored (Pass.nextPhase now.phase outcome.occurrence) (w.version s.document)
  have accepted := write_accepted (Pass.nextPhase now.phase outcome.occurrence) stands (stands.name.trans named)
  obtain ⟨passes, pushes⟩ := run_pass handles
  obtain ⟨ends, service, document⟩ := run_settle (r := now) (w := w) config (w.time s.readings)
    (s := ⟨s.document, handled.service, s.readings + 1⟩) well
  rw [if_pos moved, accepted] at document
  exact ⟨_, left, passes.trans (Prod.ext ends rfl), document ▸ standing, status, service, pushes⟩

end Passes

section Walks

variable {generation : Option Int64} {now : Registrar} {outcome : Outcome} {connection : Connection}
  {phases : List Phase} {trace : Trace environment}

/-- What a registration with this service does from here. -/
def registration (config : Config) (w : Surroundings σ) (r : Registrar) (connection : Connection) (s : Held σ) :
    List (Connection × Cloud.Request) × σ :=
  (gathered Environment.Op.updated? ((registerAt config r connection).run.played w.answer s),
    ((registerAt config r connection).run.run w.answer s).2.service)

theorem registration_congr {other : Registrar} (same : other.spec = r.spec) (service : t.service = s.service) :
    registration config w other connection t = registration config w r connection s := by
  have never : (registerAt config r connection).run.Times (I := environment) unsteady 0 :=
    registerAt_times config r (fun _ => rfl) (fun _ _ => rfl) connection
  obtain ⟨runs, plays⟩ := run_beside (w := w) never service
  rw [registration, registerAt_congr same, runs, plays]
  rfl

/-- Passes that lead to the ready phase by one registration. -/
structure Arrives (config : Config) (w : Surroundings σ) (r : Registrar) (generation : Option Int64)
    (connection : Connection) (s : Held σ) (phases : List Phase) (trace : Trace environment) (t : Held σ) : Prop where
  walk : Walk config w s phases trace t
  stands : ∃ left, Stands r generation t.document left ∧
    left.status = some ⟨.ready, r.metadata.generation.or generation⟩
  registers : (gathered Environment.Op.updated? trace, t.service) = registration config w r connection s

theorem phase_of_status {status : Status} (found : r.status = some status) : r.phase = status.phase := by
  rw [Registrar.phase, found]
  rfl

theorem arrives_of_registering (stands : Stands r generation s.document now) (named : r.name = w.name)
    (serviceable : Serviceable config w r connection s) (phase : now.phase = .registering) :
    ∃ trace t, Arrives config w r generation connection s [.ready] trace t := by
  obtain ⟨reports, handles, pushes⟩ := handleRegistering_run (serviceable.congr stands.spec rfl)
  have handling : Pass.handle config now.phase now = Pass.handleRegistering config now := by rw [phase, Pass.handle]
  rw [← handling] at handles pushes
  have next : Pass.nextPhase now.phase (some .backendsSynced) = .ready := by rw [phase]; rfl
  have moved : Pass.nextPhase now.phase (some .backendsSynced) ≠ now.phase := by
    rw [next, phase]
    decide
  obtain ⟨t, left, ran, standing, status, service, same⟩ := pass_moves stands named handles rfl moved
  have ready : left.phase = .ready := (phase_of_status status).trans next
  obtain ⟨ms, document, decoded, _⟩ := standing.decoded
  obtain ⟨_, before, started, _⟩ := stands.decoded
  have walk := Walk.pass (before ▸ started) ran (document ▸ decoded) (.stay t)
  rw [ready] at walk
  refine ⟨_, t, walk, ⟨left, standing, ?_⟩, ?_⟩
  · rw [status]
    exact congrArg (fun phase => some (Status.mk phase _)) next
  · rw [List.append_nil, same, pushes, service]
    exact registration_congr stands.spec rfl

/-- Passes arrive after one more if this leaves the service alone. -/
theorem arrives_after (stands : Stands r generation s.document now) (named : r.name = w.name)
    (handles : (Pass.handle config now.phase now).run w.answer s = (outcome, s)) (well : outcome.error = none)
    (quiet : gathered Environment.Op.updated? ((Pass.handle config now.phase now).played w.answer s) = [])
    (moved : Pass.nextPhase now.phase outcome.occurrence ≠ now.phase)
    (rest : ∀ t left, Stands r generation t.document left →
      left.phase = Pass.nextPhase now.phase outcome.occurrence → t.service = s.service →
        ∃ later u, Arrives config w r generation connection t phases later u) :
    ∃ trace u, Arrives config w r generation connection s
      (Pass.nextPhase now.phase outcome.occurrence :: phases) trace u := by
  obtain ⟨t, left, ran, standing, status, service, same⟩ := pass_moves stands named handles well moved
  have phase := phase_of_status status
  obtain ⟨later, u, arrives⟩ := rest t left standing phase service
  obtain ⟨ms, document, decoded, _⟩ := standing.decoded
  obtain ⟨_, before, started, _⟩ := stands.decoded
  have walk := Walk.pass (before ▸ started) ran (document ▸ decoded) arrives.walk
  rw [phase] at walk
  refine ⟨_, u, walk, arrives.stands, ?_⟩
  rw [gathered_append, same, quiet, List.nil_append, arrives.registers]
  exact registration_congr rfl service

theorem arrives_of_pending (stands : Stands r generation s.document now) (named : r.name = w.name)
    (serviceable : Serviceable config w r connection s) (phase : now.phase = .pending) :
    ∃ trace t, Arrives config w r generation connection s [.registering, .ready] trace t := by
  obtain ⟨handles, quiet⟩ := handlePending_run (serviceable.congr stands.spec rfl)
  have handling : Pass.handle config now.phase now = Pass.handlePending config now := by rw [phase, Pass.handle]
  rw [← handling] at handles quiet
  have next : Pass.nextPhase now.phase (some .providerVerified) = .registering := by rw [phase]; rfl
  have moved : Pass.nextPhase now.phase (some .providerVerified) ≠ now.phase := by
    rw [next, phase]
    decide
  rw [← next]
  refine arrives_after stands named handles rfl quiet moved ?_
  intro t left standing reached service
  exact arrives_of_registering standing named (serviceable.congr rfl service) (reached.trans next)

/-- A handler that asks for nothing sends the registrar to the pending phase. -/
theorem arrives_of_done {o : Occurrence} (stands : Stands r generation s.document now) (named : r.name = w.name)
    (serviceable : Serviceable config w r connection s)
    (handling : Pass.handle config now.phase now = .done (.advance o []))
    (next : Pass.nextPhase now.phase (some o) = .pending) (phase : now.phase ≠ .pending) :
    ∃ trace t, Arrives config w r generation connection s [.pending, .registering, .ready] trace t := by
  have handles : (Pass.handle config now.phase now).run w.answer s = (.advance o [], s) := by rw [handling]; rfl
  have quiet : gathered Environment.Op.updated? ((Pass.handle config now.phase now).played w.answer s) = [] := by
    rw [handling]
    rfl
  have moved : Pass.nextPhase now.phase (some o) ≠ now.phase := by
    rw [next]
    exact phase.symm
  rw [← next]
  refine arrives_after stands named handles rfl quiet moved ?_
  intro t left standing reached service
  exact arrives_of_pending standing named (serviceable.congr rfl service) (reached.trans next)

end Walks

section Law

variable {connection : Connection}

/-- The phases on the way to the ready one. -/
def path (r : Registrar) : List Phase :=
  match r.phase with
  | .new => [.pending, .registering, .ready]
  | .pending => [.registering, .ready]
  | .registering => [.ready]
  | .ready => if r.specChanged then [.pending, .registering, .ready] else []

/-- A registrar that is ready and has not changed is only looked at. -/
theorem idle_pass (config : Config) (ready : r.phase = .ready) (same : r.specChanged = false) :
    Simulation.passAndPolicy config r =
      .ask (I := environment) .clock fun start => .ask (I := environment) .clock fun stop =>
        .ask (I := environment) (.observe (.reconciled r.name (Pass.secondsBetween start stop))) fun _ =>
          .done (.ok (.requeue config.resyncInterval)) := by
  have handling : Pass.handle config r.phase r = .done .idle := by
    rw [ready, Pass.handle, Pass.handleReady, same]
    rfl
  rw [Pass.passAndPolicy_eq, handling]
  simp only [Program.done_bind, Pass.settle_eq, Outcome.idle, Pass.nextPhase, ne_eq, not_true_eq_false, ite_false,
    Pass.report, Pass.observations, ready]
  rfl

/-- Whatever the number of further passes, they only measure, and leave the document and the service as they are. -/
def Rests (config : Config) (w : Surroundings σ) (s : Held σ) : Prop :=
  ∀ n, ∃ trace t, Walk config w s (List.replicate n .ready) trace t ∧ t.document = s.document ∧
    t.service = s.service ∧ ∀ x ∈ trace, x.op.silent = true

theorem rests (stored : Registrar.decode s.document = .ok r) (ready : r.phase = .ready)
    (same : r.specChanged = false) : Rests config w s := by
  intro n
  induction n generalizing s with
  | zero => exact ⟨[], s, .stay s, rfl, rfl, List.forall_mem_nil _⟩
  | succ n ih =>
    -- an idle pass looks at the clock twice, so only the time differs for the next one
    have idle := idle_pass config ready same
    have ran : (Simulation.passAndPolicy config r).run w.answer s =
        (.ok (.requeue config.resyncInterval), { s with readings := s.readings + 1 + 1 }) := by
      rw [idle]
      rfl
    obtain ⟨trace, t, walk, document, service, silent⟩ := ih (s := { s with readings := s.readings + 1 + 1 }) stored
    have more := Walk.pass stored ran stored walk
    rw [ready] at more
    refine ⟨_, t, more, document, service, ?_⟩
    intro x member
    rcases List.mem_append.mp member with first | later
    · rw [idle] at first
      rcases List.mem_cons.mp first with rfl | first
      · rfl
      rcases List.mem_cons.mp first with rfl | first
      · rfl
      obtain rfl := List.mem_singleton.mp first
      rfl
    · exact silent x later

/-- No generation is behind one that was taken over. -/
theorem specChanged_of_status {status : Status} (found : r.status = some status) {generation : Option Int64}
    (observed : status.observedGeneration = r.metadata.generation.or generation) : r.specChanged = false := by
  unfold Registrar.specChanged Registrar.observedGeneration
  rw [found, Option.bind_some, observed]
  cases r.metadata.generation with
  | none => cases generation <;> rfl
  | some own => simp

variable {ms : Json.Members}

/-- The generation that a status keeps if its registrar has none. -/
def keptGeneration (ms : Json.Members) (r : Registrar) : Option Int64 :=
  (Status.kept (ms.get? "status") r.status).bind Status.observedGeneration

theorem path_eq_nil : path r = [] ↔ r.phase = .ready ∧ r.specChanged = false := by
  unfold path
  cases r.phase <;> simp

theorem arrives_of_path (document : s.document = .object ms) (decoded : Registrar.decode (.object ms) = .ok r)
    (named : r.name = w.name) (serviceable : Serviceable config w r connection s) (moves : path r ≠ []) :
    ∃ trace t, Arrives config w r (keptGeneration ms r) connection s (path r) trace t := by
  have start : Stands r (keptGeneration ms r) s.document r := ⟨⟨ms, document, decoded, rfl⟩, rfl, rfl⟩
  cases phase : r.phase with
  | new =>
    have handling : Pass.handle config r.phase r = .done (.advance .accepted []) := by rw [phase]; rfl
    have leads : path r = [.pending, .registering, .ready] := by rw [path, phase]
    rw [leads]
    exact arrives_of_done start named serviceable handling (by rw [phase]; rfl) (by rw [phase]; decide)
  | pending =>
    have leads : path r = [.registering, .ready] := by rw [path, phase]
    rw [leads]
    exact arrives_of_pending start named serviceable phase
  | registering =>
    have leads : path r = [.ready] := by rw [path, phase]
    rw [leads]
    exact arrives_of_registering start named serviceable phase
  | ready =>
    have changed : r.specChanged = true := by
      rw [ne_eq, path_eq_nil, not_and, Bool.not_eq_false] at moves
      exact moves phase
    have handling : Pass.handle config r.phase r = .done (.advance .specChanged []) := by
      rw [phase, Pass.handle, Pass.handleReady, if_pos changed]
    have leads : path r = [.pending, .registering, .ready] := by rw [path, phase, if_pos changed]
    rw [leads]
    exact arrives_of_done start named serviceable handling (by rw [phase]; rfl) (by rw [phase]; decide)

/-- What is reached, with all that was asked on the way. -/
structure Reached (config : Config) (w : Surroundings σ) (ms : Json.Members) (r : Registrar)
    (connection : Connection) (s : Held σ) (trace : Trace environment) (t : Held σ) : Prop where
  walk : Walk config w s (path r) trace t
  shows : ∃ left, Registrar.decode t.document = .ok left ∧ left.phase = .ready ∧ left.spec = r.spec ∧
    left.metadata = { r.metadata with resourceVersion := left.metadata.resourceVersion } ∧
    (path r ≠ [] → left.observedGeneration = r.metadata.generation.or (keptGeneration ms r))
  registers : path r ≠ [] →
    (gathered Environment.Op.updated? trace, t.service) = registration config w r connection s
  stays : path r = [] → t = s
  rests : Rests config w t

/-- If nothing else changes and all that is asked for comes through, the passes lead to the ready phase in as many
steps as there are phases on the way. By then one registration was made, and all further passes are idle. -/
theorem passes_reach (document : s.document = .object ms) (decoded : Registrar.decode (.object ms) = .ok r)
    (named : r.name = w.name) (serviceable : Serviceable config w r connection s) :
    ∃ trace t, Reached config w ms r connection s trace t := by
  by_cases moves : path r = []
  · obtain ⟨ready, same⟩ := path_eq_nil.mp moves
    have stored : Registrar.decode s.document = .ok r := document ▸ decoded
    refine ⟨[], s, ?_, ⟨r, stored, ready, rfl, rfl, (absurd moves ·)⟩, (absurd moves ·), fun _ => rfl,
      rests stored ready same⟩
    rw [moves]
    exact .stay s
  · obtain ⟨trace, t, walk, ⟨left, stands, status⟩, registers⟩ :=
      arrives_of_path document decoded named serviceable moves
    obtain ⟨members, reached, shown, _⟩ := stands.decoded
    have stored : Registrar.decode t.document = .ok left := reached ▸ shown
    have ready : left.phase = .ready := phase_of_status status
    have observed : left.observedGeneration = r.metadata.generation.or (keptGeneration ms r) := by
      rw [Registrar.observedGeneration, status]
      rfl
    have same : left.specChanged = false := specChanged_of_status status (by rw [stands.own])
    exact ⟨trace, t, walk, ⟨left, stored, ready, stands.spec, stands.metadata, fun _ => observed⟩,
      fun _ => registers, (absurd · moves), rests stored ready same⟩

end Law

section Trial

/-! A load balancer that serves all requests, and registrars of a node port. -/

def trial : Surroundings Cloud.Balancer where
  name := "lb"
  content := Registration.shopCluster
  building := .ok ()
  service connection op :=
    Environment.serve Registration.shopCluster Operator.trialSpec.loadBalancerId (fun _ => false) (.cloud connection op)
  still _ _ _ _ := rfl
  time := id
  version _ := "2"

def trialMembers (metadata status : Json.Members) : Json.Members :=
  [("metadata", .object (("name", .string "lb") :: metadata)), ("spec", Operator.trialSpec.encode),
    ("status", .object status)]

def trialHeld (metadata status : Json.Members) : Held Cloud.Balancer :=
  ⟨.object (trialMembers metadata status), Registration.shopSets, 0⟩

/-- Whether the service is reached, knows the set and takes the registration. -/
def serves (config : Config) (w : Surroundings σ) (r : Registrar) (s : Held σ) : Bool :=
  match ((connect config r).run.run w.answer s).1 with
  | .ok connection =>
    ((probe r connection).run w.answer s).1.isOk && ((registerAt config r connection).run.run w.answer s).1.isOk
  | .error _ => false

private theorem serviceable_of_serves (sound : r.spec.fault? = none) (served : serves config w r s = true) :
    ∃ connection, Serviceable config w r connection s := by
  unfold serves at served
  split at served
  next connection connects =>
    obtain ⟨probed, registered⟩ := (Bool.and_eq_true _ _).mp served
    refine ⟨connection, sound, connects, ?_, ?_⟩
    · cases probes : ((probe r connection).run w.answer s).1 with
      | ok backends => exact ⟨backends, rfl⟩
      | error e =>
        rw [probes] at probed
        cases probed
    · cases registers : ((registerAt config r connection).run.run w.answer s).1 with
      | ok reports => exact ⟨reports, rfl⟩
      | error e =>
        rw [registers] at registered
        cases registered
  next => cases served

private theorem trial_serviceable (metadata status : Json.Members) (same : r.spec = Operator.trialSpec) :
    ∃ connection, Serviceable .standard trial r connection (trialHeld metadata status) := by
  have served : serves .standard trial (Operator.trial none) (trialHeld [] []) = true := by decide +kernel
  obtain ⟨connection, serviceable⟩ := serviceable_of_serves (by decide +kernel) served
  exact ⟨connection, serviceable.congr same rfl⟩

/-- A phase that is not known is the new one. -/
def unknownPhase : Json.Members := [("phase", .string "DRAINING")]

theorem trial_reached :
    ∃ connection trace t,
      (trialHeld [("generation", .int 1)] unknownPhase).document =
        .object (trialMembers [("generation", .int 1)] unknownPhase) ∧
      Registrar.decode (.object (trialMembers [("generation", .int 1)] unknownPhase)) =
        .ok (Operator.trial (some ⟨.new, none⟩)) ∧
      (Operator.trial (some ⟨.new, none⟩)).name = trial.name ∧
      Serviceable .standard trial (Operator.trial (some ⟨.new, none⟩)) connection
        (trialHeld [("generation", .int 1)] unknownPhase) ∧
      Reached .standard trial (trialMembers [("generation", .int 1)] unknownPhase)
        (Operator.trial (some ⟨.new, none⟩)) connection (trialHeld [("generation", .int 1)] unknownPhase) trace t := by
  obtain ⟨connection, serviceable⟩ := trial_serviceable (r := Operator.trial (some ⟨.new, none⟩))
    [("generation", .int 1)] unknownPhase rfl
  obtain ⟨trace, t, reached⟩ := passes_reach rfl (by rfl) rfl serviceable
  exact ⟨connection, trace, t, rfl, rfl, rfl, serviceable, reached⟩

/-- A registrar without a generation of its own. -/
def ungenerated : Registrar :=
  ⟨{ Cluster.Metadata.empty with name := some "lb" }, Operator.trialSpec, some ⟨.new, some 5⟩⟩

/-- That the ready phase is reached does not tell that the generation of the registrar was taken over: without one,
an old one stays. -/
theorem not_observed_of_reached :
    ¬ ∀ (config : Config) (w : Surroundings Cloud.Balancer) (r : Registrar) (connection : Connection)
      (s : Held Cloud.Balancer) (ms : Json.Members), s.document = .object ms →
        Registrar.decode (.object ms) = .ok r → r.name = w.name → Serviceable config w r connection s →
        ∃ trace t left, Walk config w s (path r) trace t ∧ Registrar.decode t.document = .ok left ∧
          left.observedGeneration = left.metadata.generation := by
  intro claim
  have decoded : Registrar.decode (.object (trialMembers [] [("observedGeneration", .int 5)])) = .ok ungenerated := rfl
  obtain ⟨connection, serviceable⟩ := trial_serviceable (r := ungenerated) [] [("observedGeneration", .int 5)] rfl
  obtain ⟨trace, t, left, walk, shown, observed⟩ := claim _ _ _ _ _ _ rfl decoded rfl serviceable
  obtain ⟨other, u, again, ⟨stored, stands, status⟩, _⟩ :=
    arrives_of_path rfl decoded rfl serviceable (by decide)
  obtain ⟨-, -, rfl⟩ := walk.unique again rfl
  obtain ⟨members, same, redecoded, _⟩ := stands.decoded
  rw [same, redecoded] at shown
  obtain rfl := Except.ok.inj shown
  rw [Registrar.observedGeneration, status, stands.own] at observed
  cases observed

end Trial

end Surroundings

end BackendRegistrar
