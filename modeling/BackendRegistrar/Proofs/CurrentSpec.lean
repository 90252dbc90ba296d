import BackendRegistrar.Proofs.Rules

/-! A registrar that is ready for its present generation is registered by its present specification.
Passes that start from older copies may register again what was registered before, but nothing
else, and an edit of the specification shows in the generation. -/

namespace BackendRegistrar.Operator
open Program

variable {rules : Rules} {config : Config} {s t : State} {name : String} {i k : Nat} {r : Registrar}

/-- A pass over a copy of the registrar had registered all of it at this time. -/
structure RegisteredAt (config : Config) (s : State) (name : String) (i time : Nat) (r : Registrar) : Prop where
  named : r.name = name
  phase : r.phase = .registering
  done : ∃ w first later start handled reports, s.workers[i]? = some w ∧ w.task = .pass r ∧
    w.past = first ++ later ∧ first.map Timed.exchange = ⟨.clock, start⟩ :: handled ∧
    (Pass.handle config r.phase r).Completes handled (.advance .backendsSynced reports) ∧
    first.getLast?.map Timed.time = some time

theorem RegisteredAt.worker {time : Nat} (registered : RegisteredAt config s name i time r) :
    ∃ w, s.workers[i]? = some w ∧ w.task = .pass r ∧ w.task.passes name = true ∧ ∃ x ∈ w.past, x.time = time := by
  obtain ⟨w, first, later, _, _, _, working, task, past, _, _, last⟩ := registered.done
  obtain ⟨x, found, same⟩ := Option.map_eq_some_iff.mp last
  refine ⟨w, working, task, ?_, x, ?_, same⟩
  · simp [task, Task.passes, registered.named]
  · rw [past]
    exact List.mem_append_left _ (List.mem_of_getLast? found)

private theorem Wrote.registered {w : Worker} {o : Occurrence} {a b : Version} (sound : Sound config s)
    (stored : (s.stored name)[k]? = some a) (working : s.workers[i]? = some w)
    (wrote : Wrote config s name k a b w o) (ready : b.registrar.phase = .ready) :
    w.task = .pass a.registrar ∧ ∃ time, RegisteredAt config s name i time a.registrar := by
  obtain ⟨task, phase, start, handled, later, reports, trace, completes, _⟩ :=
    wrote.raised.ready wrote.moved (wrote.phase.symm.trans ready)
  refine ⟨task, ?_⟩
  rw [← List.cons_append] at trace
  obtain ⟨first, rest, past, same, _⟩ := List.map_eq_append_iff.mp trace
  cases last : first.getLast? with
  | none =>
    rw [List.getLast?_eq_none_iff.mp last] at same
    cases same
  | some x =>
    exact ⟨x.time, sound.versioned.named (List.mem_of_getElem? stored), phase, w, first, rest, start, handled, reports,
      working, task, past, same, completes, by rw [last]; rfl⟩

structure Unstarted (s : State) : Prop where
  first : ∀ {name : String} {v : Version}, (s.stored name)[0]? = some v → v.registrar.status = none

theorem Unstarted.change (change : Change rules config s.tick t) (unstarted : Unstarted s) : Unstarted t :=
  ⟨fun found => unstarted.first (change.first found)⟩

theorem Unstarted.start {registrars : List (Registrar × String)}
    (given : ∀ r ∈ registrars, r.1.status = none) (nodes : List Cluster.Node) :
    Unstarted (start registrars nodes) := by
  constructor
  intro name v found
  obtain ⟨_, r, version, member, _, rfl⟩ := stored_start found
  exact given _ member

/-- What can be said of a registrar in the ready phase, for its present generation and for an older
one. -/
structure Current (config : Config) (s : State) : Prop where
  registered : ∀ {name : String} {r : Registrar}, s.current? name = some r → r.phase = .ready →
    r.observedGeneration = r.metadata.generation → ∃ i time copy, RegisteredAt config s name i time copy ∧
      copy.spec = r.spec ∧ ∀ {j later : Nat} {other : Registrar}, RegisteredAt config s name j later other →
        time ≤ later → other.spec = r.spec
  outdated : ∀ {name : String} {r : Registrar} {old present : Int64}, s.current? name = some r → r.phase = .ready →
    r.observedGeneration = some old → r.metadata.generation = some present → old < present →
      ∀ {trace : Trace environment} {value : Except Error Action}, (Pass.reconcile config r).Completes trace value →
        ∃ start answer told,
          trace = ⟨.clock, start⟩ :: ⟨.writeStatus name (.observed .pending r), answer⟩ :: told
  followed : ∀ {name : String} {k i : Nat} {a b : Version}, (s.stored name)[k]? = some a →
    (s.stored name)[k + 1]? = some b → b.writer = some i → a.registrar.phase = .ready →
      b.registrar.phase = .pending

private structure Orderly (config : Config) (s : State) : Prop where
  sound : Sound config s
  serial : Serial s
  forward : Forward s
  raised : Raised s
  unstarted : Unstarted s

section Registered

variable {a b : Version} {w : Worker} {o : Occurrence}

/-- A pass that wrote for the present generation had read the present specification. -/
private theorem Wrote.spec (wrote : Wrote config s name k a b w o) (task : w.task = .pass a.registrar)
    (raised : Raised s) (stored : (s.stored name)[k]? = some a) {last : Version} {m : Nat}
    (found : (s.stored name)[m]? = some last) (later : k ≤ m)
    (observed : b.registrar.observedGeneration = last.registrar.metadata.generation) :
    a.registrar.spec = last.registrar.spec := by
  obtain ⟨g, h, given, present, _, same⟩ := raised.up stored found later
  apply same
  obtain ⟨version, written⟩ := wrote.same
  have noted : b.registrar.observedGeneration = some g := by
    rw [written, task]
    simp [Registrar.observedGeneration, Registrar.written, PhaseUpdate.apply, Task.update, PhaseUpdate.observed, given]
  have both : some g = some h := noted.symm.trans (observed.trans present)
  exact Option.some.inj both

/-- Whoever registers after a pass that began from a version had read this one or a later one; the
pass itself had read this one. -/
private theorem RegisteredAt.read_later (sound : Sound config s) (serial : Serial s) (forward : Forward s)
    {time : Nat} (working : s.workers[i]? = some w) (registered : RegisteredAt config s name i time r)
    (read : w.held name = k) {j later : Nat} {other : Registrar}
    (again : RegisteredAt config s name j later other) (after : time ≤ later) :
    other = r ∨ ∃ m u, k ≤ m ∧ (s.stored name)[m]? = some u ∧ u.registrar = other := by
  obtain ⟨v, found, repeats, also, x, member, rfl⟩ := again.worker
  obtain ⟨_, same, task, passes, y, recorded, rfl⟩ := registered.worker
  rw [working] at same
  cases same
  rcases Nat.lt_trichotomy j i with earlier | rfl | beyond
  · -- A pass that was over before this one began registered nothing after it.
    have before := (serial.ended found working earlier also passes).2 x member
    have began := ((sound.working working).since y recorded).1
    omega
  · left
    rw [working] at found
    cases found
    rw [task] at repeats
    cases repeats
    rfl
  · right
    have copy : other ∈ v.task.copies := by
      rw [repeats]
      exact List.mem_singleton.mpr rfl
    obtain ⟨u, stored, copied⟩ := (sound.working found).copies other copy
    rw [again.named] at stored
    have ahead := forward.ordered working found (Nat.le_of_lt beyond) name
    exact ⟨v.held name, u, read ▸ ahead, stored, copied⟩

private theorem registered_spec (sound : Sound config s) (serial : Serial s) (forward : Forward s)
    (raised : Raised s) (unstarted : Unstarted s) (current : s.current? name = some r) (ready : r.phase = .ready)
    (observed : r.observedGeneration = r.metadata.generation) :
    ∃ i time copy, RegisteredAt config s name i time copy ∧ copy.spec = r.spec ∧
      ∀ {j later : Nat} {other : Registrar}, RegisteredAt config s name j later other →
        time ≤ later → other.spec = r.spec := by
  obtain ⟨k, b, stored, origin, settled⟩ := sound.settled current
  obtain ⟨last, found, rfl⟩ := State.mem_stored_of_current current
  have became : b.registrar.phase = .ready := (settled.phase (Nat.le_refl _) stored).trans ready
  cases k with
  | zero =>
    rw [Registrar.phase, unstarted.first stored] at became
    cases became
  | succ k =>
    obtain ⟨i, writer⟩ := Option.isSome_iff_exists.mp (origin.resolve_left (Nat.succ_ne_zero k))
    obtain ⟨a, previous⟩ := State.stored_before stored
    obtain ⟨w, o, working, wrote⟩ := sound.wrote previous stored writer
    obtain ⟨task, time, registered⟩ := wrote.registered sound previous working became
    obtain ⟨bound, _⟩ := List.getElem?_eq_some_iff.mp stored
    have spec : a.registrar.spec = last.registrar.spec := by
      apply wrote.spec task raised previous found (by omega)
      rw [Registrar.observedGeneration, (settled _ b (Nat.le_refl _) stored).1]
      exact observed
    refine ⟨i, time, _, registered, spec, ?_⟩
    intro j later other again after
    rcases registered.read_later sound serial forward working wrote.held again after with rfl | ⟨m, u, ahead, read, rfl⟩
    · exact spec
    · rcases Nat.eq_or_lt_of_le ahead with rfl | more
      · rw [previous] at read
        cases read
        exact spec
      · -- From the write on the phase has been ready, and a ready registrar is not registered.
        have phase := again.phase
        rw [settled.phase more read, ready] at phase
        cases phase

end Registered

private theorem outdated_pending (sound : Sound config s) {old present : Int64} (current : s.current? name = some r)
    (ready : r.phase = .ready) (observed : r.observedGeneration = some old)
    (generation : r.metadata.generation = some present) (older : old < present) {trace : Trace environment}
    {value : Except Error Action} (completes : (Pass.reconcile config r).Completes trace value) :
    ∃ start answer told,
      trace = ⟨.clock, start⟩ :: ⟨.writeStatus name (.observed .pending r), answer⟩ :: told := by
  have changed : r.specChanged = true := by
    have differ : old ≠ present := fun same => Int64.lt_irrefl (same ▸ older)
    simp [Registrar.specChanged, observed, generation, differ]
  rw [← sound.versioned.current current]
  exact Pass.reconcile_spec_changed ready changed completes

/-- When passes over a registrar follow one another, the cache never goes back and generations go up
with the specification, then a registrar that is ready for its generation was last registered by
its specification; and one that is ready for an older generation goes back to the pending phase. -/
theorem run_current {rules : Rules} (serialized : rules.serialized = true) (forward : rules.forward = true)
    (raising : rules.raising = true) (config : Config) {registrars : List (Registrar × String)}
    (given : ∀ r ∈ registrars, r.1.metadata.generation.isSome = true ∧ r.1.status = none)
    (nodes : List Cluster.Node) (events : List Event) :
    Current config (run rules config (start registrars nodes) events) := by
  have kept : Orderly config (run rules config (start registrars nodes) events) := run_keeps
    (fun _ _ change kept => ⟨kept.sound.change change, kept.serial.change change serialized kept.sound,
      kept.forward.change change forward, kept.raised.change change raising, kept.unstarted.change change⟩) events
    ⟨.start registrars nodes, .start registrars nodes, .start registrars nodes,
      .start (fun r member => (given r member).1) nodes, .start (fun r member => (given r member).2) nodes⟩
  obtain ⟨sound, serial, ahead, raised, unstarted⟩ := kept
  refine ⟨registered_spec sound serial ahead raised unstarted, outdated_pending sound, ?_⟩
  intro name k i a b first second writer ready
  obtain ⟨w, o, _, wrote⟩ := sound.wrote first second writer
  have moved := wrote.moved
  rw [wrote.phase, ready]
  rw [ready] at moved
  exact Lifecycle.next_of_ready moved

/-- A new registrar becomes ready in three passes, and is then registered by its specification. -/
def trialPasses : List Event :=
  .beginPass "lb" :: oblige 0 5 "2" ++ .deliver "lb" 1 :: .beginPass "lb" :: oblige 1 9 "3" ++
    .deliver "lb" 2 :: .beginPass "lb" :: oblige 2 13 "4"

def trialState : State :=
  run ⟨true, true, true, true⟩ .standard (start [(trial none, "1")] [trialNode "a" "10.0.0.1"]) trialPasses

theorem trial_current :
    Current .standard trialState ∧
      (trialState.current? "lb").map (fun r => (r.phase, r.observedGeneration, r.metadata.generation)) =
        some (.ready, some 1, some 1) := by
  constructor
  · refine run_current rfl rfl rfl .standard ?_ _ _
    intro r member
    rw [List.mem_singleton.mp member]
    exact ⟨rfl, rfl⟩
  · decide +kernel

end BackendRegistrar.Operator
