import BackendRegistrar.Proofs.Outcomes
import BackendRegistrar.Proofs.Overrides

/-! The ports that are registered. No push is for port zero, and it is clear from where its port is: the
specification, or the node port of a service that was read before the push. A specification without faults
always has a port, so that to register it is never refused, and what this fails with is not of the
configuration. -/

namespace BackendRegistrar

namespace Registration
open Program Cluster

variable {s : Spec} {kind : Cloud.Kind} {r : ServiceReference} {trace : Trace interface}
variable {targets : List Target} {port resolved : Int32} {pushed : Nat}

/-- After so many pushes the reference was read to have this node port, and nothing was pushed since. -/
def Resolved (r : ServiceReference) (pushed : Nat) (trace : Trace interface) (port : Int32) : Prop :=
  ∃ (earlier readings : Trace interface) (service : Service),
    trace = earlier ++ ⟨.read (.service r.ns r.name), .ok service⟩ :: readings ∧
      asked Op.pushes earlier = pushed ∧ asked Op.pushes readings = 0 ∧ service.nodePort r.port = .ok port

/-- From where a push has its port. The port of the specification goes before that of a service, but on a
classic load balancer not before that of a service of the list. -/
structure Origin (s : Spec) (kind : Cloud.Kind) (trace : Trace interface) (port : Int32) : Prop where
  listed : s.services ≠ [] → ∃ before r after resolved, s.services = before ++ r :: after ∧
    Resolved r before.length trace resolved ∧ port = if kind = .network ∧ s.port ≠ 0 then s.port else resolved
  single : ∀ r, s.services = [] → s.service = some r → ∃ resolved,
    Resolved r 0 trace resolved ∧ port = if s.port ≠ 0 then s.port else resolved
  plain : s.services = [] → s.service = none → port = if s.port ≠ 0 then s.port else s.nodePort

section Rules

theorem portFor_ne_zero (found : resolved ≠ 0) : s.portFor kind resolved ≠ 0 := by
  cases kind with
  | classic => exact found
  | network => exact determinePort_ne_zero found

theorem portFor_eq : s.portFor kind resolved = if kind = .network ∧ s.port ≠ 0 then s.port else resolved := by
  cases kind <;> simp [Spec.portFor, determinePort]

end Rules

section Readings

theorem Resolved.ne_zero (read : Resolved r pushed trace resolved) : resolved ≠ 0 := by
  obtain ⟨_, _, service, _, _, _, found⟩ := read
  exact Service.nodePort_ne_zero found

theorem Resolved.after {earlier : Trace interface} (read : Resolved r pushed trace resolved) :
    Resolved r (asked Op.pushes earlier + pushed) (earlier ++ trace) resolved := by
  obtain ⟨first, readings, service, rfl, rfl, quiet, found⟩ := read
  exact ⟨earlier ++ first, readings, service, (List.append_assoc _ _ _).symm, asked_append, quiet, found⟩

theorem Resolved.before {later : Trace interface} (read : Resolved r pushed trace resolved)
    (quiet : asked Op.pushes later = 0) : Resolved r pushed (trace ++ later) resolved := by
  obtain ⟨first, readings, service, rfl, same, none, found⟩ := read
  refine ⟨first, readings ++ later, service, by simp, same, ?_, found⟩
  rw [asked_append, none, quiet]

theorem targetsFor_port (completes : (targetsFor s kind r).run.Completes trace (.ok targets)) :
    ∃ resolved, Resolved r 0 trace resolved ∧ ∀ t ∈ targets, t.port = s.portFor kind resolved := by
  have quiet := targetsFor_asked completes
  obtain ⟨service, resolved, readings, nodes, rfl, found, _, rfl⟩ := targetsFor_succeeds.mp completes
  rw [asked_cons_of_not rfl] at quiet
  exact ⟨resolved, ⟨[], readings, service, rfl, rfl, quiet, found⟩, fun t member => (Node.mem_targets member).1⟩

theorem singlePort_resolved (single : s.service = some r)
    (completes : (singlePort s).run.Completes trace (.ok resolved)) : Resolved r 0 trace resolved := by
  simp only [singlePort, single] at completes
  obtain ⟨short, inside, rfl⟩ := survey_succeeds.mp completes
  obtain ⟨service, rfl, found⟩ := Inventory.resolveNodePort_succeeds.mp inside
  exact ⟨[], [], service, rfl, rfl, rfl, found⟩

theorem singlePort_given (alone : s.service = none)
    (completes : (singlePort s).run.Completes trace (.ok resolved)) : resolved = s.nodePort := by
  simp only [singlePort, alone] at completes
  obtain ⟨_, same⟩ := completes_done.mp completes
  cases same
  rfl

/-- The targets without a list all have the port that was found first, unless the specification has one. -/
theorem singleTargets_port (completes : (singleTargets s).run.Completes trace (.ok targets)) :
    ∃ first second resolved, trace = first ++ second ∧ (singlePort s).run.Completes first (.ok resolved) ∧
      determinePort s.port resolved ≠ 0 ∧ asked Op.pushes second = 0 ∧
      ∀ t ∈ targets, t.port = determinePort s.port resolved := by
  obtain ⟨first, second, resolved, nodes, rfl, found, set, listed, rfl, _⟩ := singleTargets_succeeds.mp completes
  have never : (singleNodes s).run.Times (I := interface) Op.pushes 0 := singleNodes_times fun _ _ => rfl
  exact ⟨first, second, resolved, rfl, found, set, never.completes listed, fun t member => (Node.mem_targets member).1⟩

end Readings

section Pushes

variable {backendSet : String}

theorem registerAll_origin (listed : s.services ≠ [])
    (asks : (registerAll s kind s.services).run.Asks trace (.push backendSet targets)) :
    ∃ port, port ≠ 0 ∧ (∀ t ∈ targets, t.port = port) ∧ Origin s kind trace port := by
  obtain ⟨before, r, after, earlier, now, reports, same, rfl, registered, asking⟩ := registerAll_asks.mp asks
  obtain ⟨reading, _, _⟩ := registerReference_asks_push.mp asking
  obtain ⟨resolved, read, ports⟩ := targetsFor_port reading
  have placed : Resolved r before.length (earlier ++ now) resolved := by
    rw [← registerAll_asked registered]
    exact read.after
  refine ⟨_, portFor_ne_zero read.ne_zero, ports, ?_, ?_, ?_⟩
  · exact fun _ => ⟨before, r, after, resolved, same, placed, portFor_eq⟩
  · exact fun _ unlisted => absurd unlisted listed
  · exact fun unlisted => absurd unlisted listed

theorem registerSingle_origin (unlisted : s.services = [])
    (asks : (registerSingle s).run.Asks trace (.push backendSet targets)) :
    ∃ port, port ≠ 0 ∧ (∀ t ∈ targets, t.port = port) ∧ Origin s kind trace port := by
  obtain ⟨reading, _⟩ := registerSingle_asks_push.mp asks
  obtain ⟨first, second, resolved, rfl, found, set, quiet, ports⟩ := singleTargets_port reading
  refine ⟨_, set, ports, ?_, ?_, ?_⟩
  · exact fun listed => absurd unlisted listed
  · exact fun r _ single => ⟨resolved, (singlePort_resolved single found).before quiet, rfl⟩
  · intro _ alone
    rw [singlePort_given alone found]
    rfl

/-- No push is for port zero, whatever the specification. -/
theorem register_origin (asks : (register s kind).run.Asks trace (.push backendSet targets)) :
    ∃ port, port ≠ 0 ∧ (∀ t ∈ targets, t.port = port) ∧ Origin s kind trace port := by
  unfold register at asks
  split at asks
  next uses => exact registerAll_origin (by simpa [Spec.usesServiceList] using uses) asks
  next single =>
    have unlisted : s.services = [] := by simpa [Spec.usesServiceList] using single
    rcases asks_attempt_bind.mp asks with asks | ⟨_, _, _, _, _, impossible⟩
    · exact registerSingle_origin unlisted asks
    · exact absurd impossible asks_done

end Pushes

end Registration

namespace Pass
open Program Registration

variable {config : Config} {r : Registrar} {phase : Phase} {outcome : Outcome} {context : String} {e : Error}

/-- No error is that the specification is refused, and while registering an error is of the registration just
if the registration is what failed. -/
structure Blames (phase : Phase) (outcome : Outcome) : Prop where
  accepted : ∀ e, outcome.error = some e → ∀ detail, e ≠ .validation detail
  registering : ∀ e, phase = .registering → outcome.error = some e →
    (e.errorClass = .registration ↔ outcome.occurrence = some .syncFailed)

theorem blames_of_well (well : outcome.error = none) : Blames phase outcome := by
  refine ⟨?_, ?_⟩
  · intro e failed
    rw [well] at failed
    cases failed
  · intro e _ failed
    rw [well] at failed
    cases failed

theorem blames_of_keyless (keyless : Keyless e) : Blames phase (.failed .providerFailed context e) := by
  refine ⟨?_, ?_⟩
  · rintro _ ⟨⟩ detail rfl
    cases keyless
  · rintro _ _ ⟨⟩
    simp [keyless.errorClass, Outcome.failed]

theorem blames_of_reported (reported : Reported e) : Blames phase (.failed .syncFailed context e) := by
  refine ⟨?_, ?_⟩
  · rintro _ ⟨⟩
    exact reported.ne_validation
  · rintro _ _ ⟨⟩
    simp [reported.errorClass, Outcome.failed]

theorem handle_blames (sound : r.spec.fault? = none) (phase : Phase) :
    (handle config phase r).Ends (Blames phase) := by
  have unfaulty : ∀ fault, r.spec.fault? = some fault →
      Blames phase (.failed .providerFailed "invalid registrar spec" (.validation fault.message)) := by
    intro fault faulty
    cases sound.symm.trans faulty
  cases phase with
  | new => exact ends_done (blames_of_well rfl)
  | ready =>
    refine ends_done (blames_of_well ?_)
    unfold handleReady
    split <;> rfl
  | pending =>
    refine withConnection_ends unfaulty (fun _ _ => blames_of_keyless) fun _ connection => ?_
    refine (ends_any (probe r connection)).bind fun answer _ => ?_
    cases answer with
    | error e =>
      refine ends_done ⟨?_, nofun⟩
      rintro _ ⟨⟩ detail impossible
      cases impossible
    | ok backends => exact ends_done (blames_of_well rfl)
  | registering =>
    refine withConnection_ends unfaulty (fun _ _ => blames_of_keyless) fun _ connection trace outcome completes => ?_
    obtain ⟨_, _, answer, rfl, registering, rest⟩ := completes_bind.mp completes
    cases answer with
    | error e => exact ends_done (blames_of_reported (registerAt_fails sound _ _ registering)) _ _ rest
    | ok reports => exact ends_done (blames_of_well rfl) _ _ rest

end Pass

namespace Registration
open Program Cluster

/-- For a specification without faults nothing is ever registered at port zero, and it is clear from where a
port is. There is always a port, so that a registration fails only with errors of the registration, by itself
and as a part of a pass. -/
theorem register_sound (s : Spec) (kind : Cloud.Kind) (sound : s.fault? = none) :
    (∀ trace backendSet targets, (register s kind).run.Asks trace (.push backendSet targets) →
        ∃ port, port ≠ 0 ∧ (∀ t ∈ targets, t.port = port) ∧ Origin s kind trace port) ∧
      (∀ trace resolved, s.services = [] → (singlePort s).run.Completes trace (.ok resolved) →
        determinePort s.port resolved ≠ 0) ∧
      (∀ trace e, (register s kind).run.Completes trace (.error e) →
        (∀ detail, e ≠ .validation detail) ∧ e.errorClass = .registration) ∧
      ∀ config r, r.spec = s →
        (∀ connection trace e, (registerAt config r connection).run.Completes trace (.error e) →
          (∀ detail, e ≠ .validation detail) ∧ e.errorClass = .registration) ∧
        ∀ phase trace outcome, (Pass.handle config phase r).Completes trace outcome → Pass.Blames phase outcome := by
  refine ⟨?_, ?_, ?_, ?_⟩
  · exact fun _ _ _ asks => register_origin asks
  · exact fun _ _ unlisted found => singlePort_ne_zero sound unlisted found
  · intro trace e completes
    have reported := register_fails sound _ _ completes
    exact ⟨reported.ne_validation, reported.errorClass⟩
  · rintro config r rfl
    refine ⟨?_, ?_⟩
    · intro connection trace e completes
      have reported := registerAt_fails sound _ _ completes
      exact ⟨reported.ne_validation, reported.errorClass⟩
    · exact fun phase trace outcome completes => Pass.handle_blames sound phase trace outcome completes

section Override

/-! A service with a node port of its own and a specification with a port, on both load balancers. -/

def overridingSpec : Spec := { listSpec with port := 8443 }

private theorem overridingSpec_pushed (kind : Cloud.Kind) :
    ∃ trace, (register overridingSpec kind).run.Asks trace
      (.push "tls" [⟨"10.0.0.1", overridingSpec.portFor kind 30080, 7⟩]) := by
  refine listed_pushed (s := overridingSpec) shopCluster rfl ?_ (List.cons_ne_nil _ _)
  cases kind <;> rfl

theorem overridingSpec_sound :
    overridingSpec.fault? = none ∧
      (∃ trace, (register overridingSpec .network).run.Asks trace (.push "tls" [⟨"10.0.0.1", 8443, 7⟩]) ∧
        Origin overridingSpec .network trace 8443) ∧
      (∃ trace, (register overridingSpec .classic).run.Asks trace (.push "tls" [⟨"10.0.0.1", 30080, 7⟩]) ∧
        Origin overridingSpec .classic trace 30080) ∧
      ∃ trace e, (register overridingSpec .classic).run.Completes trace (.error e) ∧ e.errorClass = .registration := by
  have accepted : overridingSpec.fault? = none := by decide
  obtain ⟨onNetwork, _⟩ := register_sound overridingSpec .network accepted
  obtain ⟨onClassic, _, fails, _⟩ := register_sound overridingSpec .classic accepted
  refine ⟨accepted, ?_, ?_, ?_⟩
  · obtain ⟨trace, pushed⟩ := overridingSpec_pushed .network
    obtain ⟨port, _, ports, origin⟩ := onNetwork _ _ _ pushed
    obtain rfl := ports _ (List.mem_singleton.mpr rfl)
    exact ⟨trace, pushed, origin⟩
  · obtain ⟨trace, pushed⟩ := overridingSpec_pushed .classic
    obtain ⟨port, _, ports, origin⟩ := onClassic _ _ _ pushed
    obtain rfl := ports _ (List.mem_singleton.mpr rfl)
    exact ⟨trace, pushed, origin⟩
  · have failed := completes_transcript (answers fun _ => .error (.refused 404 "NotFound" "gone"))
      (register overridingSpec .classic).run
    exact ⟨_, _, failed, (fails _ _ failed).2⟩

end Override

end Registration

end BackendRegistrar
