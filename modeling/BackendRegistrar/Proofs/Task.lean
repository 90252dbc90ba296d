import BackendRegistrar.Proofs.Trigger

/-! The tasks of the operator, and what is common to them: a status that a task writes is the phase
after an occurrence that the task raised, for a registrar as the task read it and for that version. -/

namespace BackendRegistrar
open Program

/-- What the operator has to do: a pass over a registrar, or the resets that a change of the nodes
or of endpoints calls for, in each case of registrars as they were read. -/
inductive Task
  | pass (r : Registrar)
  | nodesChanged (seen : List Registrar)
  | endpointsChanged (seen : List Registrar) (ns name : String)

namespace Task

def program (config : Config) : Task → Operation Unit
  | pass r => (Pass.reconcile config r).bind fun _ => .done ()
  | nodesChanged seen => (Trigger.refreshToPending seen).bind fun _ => .done ()
  | endpointsChanged seen ns name => (Trigger.refreshForEndpoints seen ns name).bind fun _ => .done ()

def copies : Task → List Registrar
  | pass r => [r]
  | nodesChanged seen | endpointsChanged seen _ _ => seen

def passes (name : String) : Task → Bool
  | pass r => r.name = name
  | nodesChanged _ | endpointsChanged _ _ _ => false

def update : Task → Phase → Registrar → PhaseUpdate
  | pass _ => .observed
  | nodesChanged _ | endpointsChanged _ _ _ => .reset

/-- The task raised the occurrence for a registrar that it had read: a pass by handling it, a reset
by the change that it answers. -/
inductive Raises (config : Config) : Task → Trace environment → Registrar → Occurrence → Prop
  | handled {r : Registrar} {start : Nat} {handled later : Trace environment} {outcome : Outcome} {o : Occurrence}
      (completes : (Pass.handle config r.phase r).Completes handled outcome)
      (occurred : outcome.occurrence = some o) :
      Raises config (.pass r) (⟨.clock, start⟩ :: (handled ++ later)) r o
  | nodes {seen : List Registrar} {r : Registrar} {trace : Trace environment} (member : r ∈ seen)
      (needed : r.phase.needsReset = true) : Raises config (.nodesChanged seen) trace r .nodeTopologyChanged
  | endpoints {seen : List Registrar} {ns name : String} {r : Registrar} {trace : Trace environment}
      (member : r ∈ seen) (follows : r.spec.filtersOnEndpointsOf ns name = true)
      (needed : r.phase.needsReset = true) : Raises config (.endpointsChanged seen ns name) trace r .endpointsChanged

variable {config : Config} {task : Task} {r : Registrar} {o : Occurrence} {trace : Trace environment}

theorem Raises.copy (raises : Raises config task trace r o) : r ∈ task.copies := by
  cases raises with
  | handled => exact List.mem_singleton.mpr rfl
  | nodes member | endpoints member => exact member

theorem reaches_ignored {p : Operation α} {rest : Operation Unit}
    (reached : (p.bind fun _ => .done ()).Reaches trace rest) :
    ∃ inner, p.Reaches trace inner ∧ rest = inner.bind fun _ => .done () := by
  rcases reaches_bind.mp reached with found | ⟨first, second, value, rfl, completes, after⟩
  · exact found
  · obtain ⟨rfl, rfl⟩ := reaches_done.mp after
    exact ⟨.done value, by rwa [List.append_nil], rfl⟩

theorem writes {rest : Operation Unit} {x : Exchange environment}
    (reached : (task.program config).Reaches trace rest) (member : x ∈ trace) (writes : x.op.writes = true) :
    ∃ r o, Raises config task trace r o ∧ Lifecycle.next r.phase o ≠ r.phase ∧
      x.op = .writeStatus r.name (task.update (Lifecycle.next r.phase o) r) := by
  cases task with
  | pass r =>
    obtain ⟨inner, reached, _⟩ := reaches_ignored reached
    obtain ⟨start, handled, outcome, answer, told, completes, moved, rfl, rfl⟩ :=
      Pass.reconcile_writes reached member writes
    cases occurred : outcome.occurrence with
    | none =>
      rw [occurred] at moved
      exact absurd rfl moved
    | some o =>
      rw [occurred] at moved
      exact ⟨r, o, .handled completes occurred, moved, rfl⟩
  | nodesChanged seen =>
    obtain ⟨inner, reached, _⟩ := reaches_ignored reached
    obtain ⟨r, among, needed, same⟩ := Trigger.resetCounted_writes reached member writes
    refine ⟨r, _, .nodes among needed, ?_, same⟩
    rw [Trigger.next_of_needsReset needed (.inl rfl)]
    rintro pending
    rw [← pending] at needed
    cases needed
  | endpointsChanged seen ns name =>
    obtain ⟨inner, reached, _⟩ := reaches_ignored reached
    obtain ⟨r, among, needed, same⟩ := Trigger.resetCounted_writes reached member writes
    obtain ⟨among, follows⟩ := List.mem_filter.mp among
    refine ⟨r, _, .endpoints among follows needed, ?_, same⟩
    rw [Trigger.next_of_needsReset needed (.inr rfl)]
    rintro pending
    rw [← pending] at needed
    cases needed

theorem update_phase {phase : Phase} : (task.update phase r).phase = phase := by cases task <;> rfl

theorem update_resourceVersion {phase : Phase} :
    (task.update phase r).resourceVersion = r.metadata.resourceVersion := by cases task <;> rfl

theorem Raises.ready (raises : Raises config task trace r o) (moved : Lifecycle.next r.phase o ≠ r.phase)
    (became : Lifecycle.next r.phase o = .ready) :
    task = .pass r ∧ r.phase = .registering ∧ ∃ start handled later reports,
      trace = ⟨.clock, start⟩ :: (handled ++ later) ∧
        (Pass.handle config r.phase r).Completes handled (.advance .backendsSynced reports) ∧
        Pass.Registered config r reports handled := by
  cases raises with
  | @handled _ start handled later outcome _ completes occurred =>
    have leads : Pass.nextPhase r.phase outcome.occurrence = Lifecycle.next r.phase o := by
      rw [occurred]
      rfl
    obtain ⟨phase, reports, rfl, registered⟩ := Pass.handle_ready completes (leads ▸ moved) (leads ▸ became)
    exact ⟨rfl, phase, start, handled, later, reports, rfl, completes, registered⟩
  | nodes member needed =>
    rw [Trigger.next_of_needsReset needed (.inl rfl)] at became
    cases became
  | endpoints member follows needed =>
    rw [Trigger.next_of_needsReset needed (.inr rfl)] at became
    cases became

theorem Raises.registering (raises : Raises config task trace r o) (moved : Lifecycle.next r.phase o ≠ r.phase)
    (became : Lifecycle.next r.phase o = .registering) :
    task = .pass r ∧ r.phase = .pending ∧ ∃ start handled later,
      trace = ⟨.clock, start⟩ :: (handled ++ later) ∧ Pass.Verified config r handled := by
  cases raises with
  | @handled _ start handled later outcome _ completes occurred =>
    have leads : Pass.nextPhase r.phase outcome.occurrence = Lifecycle.next r.phase o := by
      rw [occurred]
      rfl
    obtain ⟨phase, _, verified⟩ := Pass.handle_registering completes (leads ▸ moved) (leads ▸ became)
    exact ⟨rfl, phase, start, handled, later, rfl, verified⟩
  | nodes member needed =>
    rw [Trigger.next_of_needsReset needed (.inl rfl)] at became
    cases became
  | endpoints member follows needed =>
    rw [Trigger.next_of_needsReset needed (.inr rfl)] at became
    cases became

section Announcements

private theorem not_ready {rest : Operation Unit} (reached : (task.program config).Reaches trace rest)
    (reset : ∀ r, task ≠ .pass r) : trace.countP Exchange.storesReady = 0 := by
  rw [List.countP_eq_zero]
  intro x member stored
  obtain ⟨r, o, raises, moved, same⟩ := writes reached member (x.writes_of_storesReady stored)
  have ready := x.phase_of_storesReady stored same
  rw [update_phase] at ready
  exact reset r (raises.ready moved ready).1

theorem stores_ready_once {rest : Operation Unit} (reached : (task.program config).Reaches trace rest) :
    trace.countP Exchange.storesReady ≤ 1 := by
  cases task with
  | pass r =>
    obtain ⟨inner, inside, _⟩ := reaches_ignored reached
    apply Nat.le_trans ?_ (Pass.reconcile_writes_once inside)
    apply List.countP_mono_left
    intro x _ stored
    exact x.writes_of_storesReady stored
  | nodesChanged | endpointsChanged =>
    rw [not_ready reached fun _ same => by cases same]
    exact Nat.zero_le 1

/-- A task tells of a registration for no other reason than that it stored the ready phase, and each
time that it did by the time it is done. -/
theorem announces {rest : Operation Unit} (reached : (task.program config).Reaches trace rest) :
    asked Environment.Op.announces trace ≤ trace.countP Exchange.storesReady ∧
      (∀ value, rest = .done value →
        asked Environment.Op.announces trace = trace.countP Exchange.storesReady) := by
  cases task with
  | pass r =>
    obtain ⟨inner, inside, rfl⟩ := reaches_ignored reached
    obtain ⟨most, all⟩ := Pass.reconcile_announces inside
    refine ⟨most, ?_⟩
    intro _ ended
    cases inner with
    | done value => exact all value rfl
    | ask op next => cases ended
  | nodesChanged seen =>
    obtain ⟨inner, inside, _⟩ := reaches_ignored reached
    have silent := (Trigger.resetCounted_never_announces (by decide)).asked_le inside
    have none := not_ready reached fun _ same => by cases same
    exact ⟨by omega, fun _ _ => by omega⟩
  | endpointsChanged seen ns name =>
    obtain ⟨inner, inside, _⟩ := reaches_ignored reached
    have silent := (Trigger.resetCounted_never_announces (by simp)).asked_le inside
    have none := not_ready reached fun _ same => by cases same
    exact ⟨by omega, fun _ _ => by omega⟩

end Announcements

end Task

end BackendRegistrar
