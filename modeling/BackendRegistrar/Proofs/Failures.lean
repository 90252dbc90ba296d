import BackendRegistrar.Pass.Connect
import BackendRegistrar.Proofs.Registration

/-! What attempts fail with. To connect fails with an error of the key, which is one of the configuration. A
registration of a specification without faults fails with what the inventory or the load balancer has to say. -/

namespace BackendRegistrar
open Program

/-- The key cannot be read, or there is no client to sign with it. -/
def Keyless : Error → Prop
  | .secret _ | .credentials _ => True
  | _ => False

theorem Keyless.errorClass {e : Error} (keyless : Keyless e) : e.errorClass = .configuration := by
  cases e with
  | secret | credentials => rfl
  | _ => cases keyless

theorem connect_fails (config : Config) (r : Registrar) : FailsAs Keyless (connect config r) := by
  unfold connect
  refine FailsAs.bind (failsAs_mapError fun e => ?_) ?_
  · trivial
  intro _ pem _
  refine FailsAs.bind (failsAs_done ?_) fun _ _ _ => ?_
  · intro e failed
    cases signed : Cloud.Signer.ofPem r.spec.apiKey.keyId pem with
    | ok signer =>
      rw [signed] at failed
      cases failed
    | error cause =>
      rw [signed] at failed
      cases failed
      trivial
  · exact FailsAs.bind (failsAs_mapError fun _ => trivial) fun _ _ _ => failsAs_pure _

namespace Registration
open Cluster

/-- The inventory or the load balancer said so. -/
def Reported : Error → Prop
  | .inventory _ | .cloud _ => True
  | _ => False

theorem Reported.errorClass {e : Error} (reported : Reported e) : e.errorClass = .registration := by
  cases e with
  | inventory | cloud => rfl
  | _ => cases reported

theorem Reported.ne_validation {e : Error} (reported : Reported e) (detail : String) : e ≠ .validation detail := by
  rintro rfl
  cases reported

variable {s : Spec} {r : ServiceReference}

theorem survey_fails (p : Inventory.Survey α) : FailsAs Reported (survey p) :=
  failsAs_mapError fun _ => trivial

theorem push_fails {backendSet : String} {targets : List Target} : FailsAs Reported (push backendSet targets) :=
  failsAs_mapError fun _ => trivial

theorem pushReported_fails {backendSet : String} {targets : List Target} :
    FailsAs Reported (pushReported backendSet targets) :=
  push_fails.bind fun _ _ _ => failsAs_pure _

theorem nodesFor_fails : FailsAs Reported (nodesFor r) := by
  unfold nodesFor
  split <;> exact survey_fails _

theorem registerReference_fails {kind : Cloud.Kind} : FailsAs Reported (registerReference s kind r) := by
  unfold registerReference
  refine (survey_fails _).bind fun _ resolved _ => nodesFor_fails.bind fun _ nodes _ => ?_
  dsimp only
  split
  · exact failsAs_throw trivial
  · exact pushReported_fails

theorem registerAll_fails {kind : Cloud.Kind} (rs : List ServiceReference) :
    FailsAs Reported (registerAll s kind rs) := by
  induction rs with
  | nil => exact failsAs_pure _
  | cons first rest ih =>
    exact registerReference_fails.bind fun _ _ _ => ih.bind fun _ _ _ => failsAs_pure _

theorem determinePort_ne_zero {port resolved : Int32} (found : resolved ≠ 0) : determinePort port resolved ≠ 0 := by
  unfold determinePort
  split
  next set => exact set
  next => exact found

/-- A specification without faults gives a port of its own where it has no service. -/
theorem determinePort_ne_zero_of_sound (sound : s.fault? = none) (alone : s.service = none) (unlisted : s.services = []) :
    determinePort s.port s.nodePort ≠ 0 := by
  have ports : s.portFault? = none := (Option.or_eq_none_iff.mp (Option.or_eq_none_iff.mp sound).1).2
  intro zero
  unfold Spec.portFault? at ports
  unfold determinePort at zero
  split at ports
  · cases ports
  · split at zero
    next set => exact set zero
    next unset =>
      have given : s.port = 0 := Decidable.of_not_not unset
      simp [zero, given, alone, unlisted] at ports

theorem singlePort_fails : FailsAs Reported (singlePort s) := by
  unfold singlePort
  split
  · exact survey_fails _
  · exact failsAs_pure _

/-- A service has no node port that is zero, so without faults there is always a port to register. -/
theorem singlePort_ne_zero {trace : Trace interface} {resolved : Int32} (sound : s.fault? = none)
    (unlisted : s.services = []) (completes : (singlePort s).run.Completes trace (.ok resolved)) :
    determinePort s.port resolved ≠ 0 := by
  unfold singlePort at completes
  split at completes
  next r _ =>
    obtain ⟨short, inside, _⟩ := survey_succeeds.mp completes
    obtain ⟨service, _, found⟩ := Inventory.resolveNodePort_succeeds.mp inside
    exact determinePort_ne_zero (Service.nodePort_ne_zero found)
  next alone =>
    obtain ⟨_, same⟩ := completes_done.mp completes
    cases same
    exact determinePort_ne_zero_of_sound sound alone unlisted

theorem nothingToRegister_reported : Reported (nothingToRegister s) := by
  unfold nothingToRegister
  split
  · split <;> trivial
  · trivial

theorem singleNodes_fails : FailsAs Reported (singleNodes s) := by
  unfold singleNodes
  split
  · exact nodesFor_fails
  · exact survey_fails _

theorem registerSingle_fails (sound : s.fault? = none) (unlisted : s.services = []) :
    FailsAs Reported (registerSingle s) := by
  unfold registerSingle
  refine singlePort_fails.bind fun trace resolved found => ?_
  dsimp only
  rw [if_neg (singlePort_ne_zero sound unlisted found)]
  refine singleNodes_fails.bind fun _ nodes _ => ?_
  split
  · exact failsAs_throw nothingToRegister_reported
  · exact pushReported_fails

theorem register_fails {kind : Cloud.Kind} (sound : s.fault? = none) : FailsAs Reported (register s kind) := by
  unfold register
  split
  next => exact registerAll_fails _
  next single =>
    have unlisted : s.services = [] := by simpa [Spec.usesServiceList] using single
    exact (registerSingle_fails sound unlisted).bind fun _ _ _ => failsAs_pure _

end Registration

theorem registerAt_fails {config : Config} {r : Registrar} {connection : Connection} (sound : r.spec.fault? = none) :
    FailsAs Registration.Reported (registerAt config r connection) :=
  (Registration.register_fails sound).translate

end BackendRegistrar
