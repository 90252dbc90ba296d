import BackendRegistrar.Proofs.History

/-! The stored phase of a registrar only ever makes moves of the lifecycle, and each move is earned:
by the change of the cluster that a reset answers, or by what a pass over the stored registrar has
just done. This holds however stale the copies are that workers start from. -/

namespace BackendRegistrar.Operator
open Program

variable {rules : Rules} {config : Config} {s : State} {name : String} {j k i : Nat} {a b : Version}

/-- The worker raised an occurrence that makes a move from the one phase to the other. -/
def Moves (config : Config) (s : State) (i : Nat) (a b : Version) : Prop :=
  ∃ w o, s.workers[i]? = some w ∧ w.task.Raises config w.trace a.registrar o ∧
    ∃ m ∈ Lifecycle.moves, m.source = a.registrar.phase ∧ m.target = b.registrar.phase ∧ m.occurrence = o

/-- The worker is in a pass over this registrar, and handled it before anything else. -/
def PassOver (s : State) (i : Nat) (r : Registrar) (handled : Trace environment) : Prop :=
  ∃ w start later, s.workers[i]? = some w ∧ w.task = .pass r ∧ w.trace = ⟨.clock, start⟩ :: (handled ++ later)

/-- What can be said of the versions of registrars, each next to the one before it, and of the
workers that wrote them. -/
structure Earned (config : Config) (s : State) : Prop where
  moves : ∀ {name : String} {k : Nat} {a b : Version}, (s.stored name)[k]? = some a →
    (s.stored name)[k + 1]? = some b → (b.writer = none ∧ b.registrar.phase = a.registrar.phase) ∨
      ∃ i, b.writer = some i ∧ Moves config s i a b
  verified : ∀ {name : String} {k i : Nat} {a b : Version}, (s.stored name)[k]? = some a →
    (s.stored name)[k + 1]? = some b → b.writer = some i → a.registrar.phase = .pending →
    b.registrar.phase = .registering →
      ∃ handled, PassOver s i a.registrar handled ∧ Pass.Verified config a.registrar handled
  registered : ∀ {name : String} {k i : Nat} {a b : Version}, (s.stored name)[k]? = some a →
    (s.stored name)[k + 1]? = some b → b.writer = some i → b.registrar.phase = .ready →
      a.registrar.phase = .registering ∧ ∃ handled reports, PassOver s i a.registrar handled ∧
        Pass.Registered config a.registrar reports handled
  left : ∀ {name : String} {j k : Nat} {a b : Version}, (s.stored name)[j]? = some a →
    (s.stored name)[k]? = some b → j ≤ k → a.registrar.phase ≠ .new → b.registrar.phase ≠ .new
  landed : ∀ {i time : Nat} {name : String} {update : PhaseUpdate}, Accepted s i time name update →
    ∃ k b, (s.stored name)[k + 1]? = some b ∧ b.time = time ∧ b.writer = some i ∧ b.registrar.phase = update.phase
  told : ∀ {name : String} {k i : Nat} {b : Version} {w : Worker}, (s.stored name)[k + 1]? = some b →
    b.writer = some i → b.registrar.phase = .ready → s.workers[i]? = some w → w.finished = true →
      asked Environment.Op.announces w.trace = 1
  nothing : ∀ {i : Nat} {w : Worker}, s.workers[i]? = some w → asked Environment.Op.announces w.trace ≠ 0 →
    asked Environment.Op.announces w.trace = 1 ∧
      ∃ name k b, (s.stored name)[k + 1]? = some b ∧ b.writer = some i ∧ b.registrar.phase = .ready

private theorem Sound.moves (sound : Sound config s) (first : (s.stored name)[k]? = some a)
    (second : (s.stored name)[k + 1]? = some b) :
    (b.writer = none ∧ b.registrar.phase = a.registrar.phase) ∨ ∃ i, b.writer = some i ∧ Moves config s i a b := by
  cases writer : b.writer with
  | none =>
    refine .inl ⟨rfl, ?_⟩
    rw [Registrar.phase, sound.edited first second writer]
    rfl
  | some i =>
    obtain ⟨w, o, working, wrote⟩ := sound.wrote first second writer
    refine .inr ⟨i, rfl, w, o, working, wrote.raised, ?_⟩
    rw [wrote.phase]
    exact Lifecycle.move_of_next_ne wrote.moved

private theorem Sound.verified (sound : Sound config s) (first : (s.stored name)[k]? = some a)
    (second : (s.stored name)[k + 1]? = some b) (writer : b.writer = some i)
    (became : b.registrar.phase = .registering) :
    ∃ handled, PassOver s i a.registrar handled ∧ Pass.Verified config a.registrar handled := by
  obtain ⟨w, o, working, wrote⟩ := sound.wrote first second writer
  obtain ⟨task, _, start, handled, later, trace, verified⟩ :=
    wrote.raised.registering wrote.moved (wrote.phase.symm.trans became)
  exact ⟨handled, ⟨w, start, later, working, task, trace⟩, verified⟩

private theorem Sound.registered (sound : Sound config s) (first : (s.stored name)[k]? = some a)
    (second : (s.stored name)[k + 1]? = some b) (writer : b.writer = some i)
    (became : b.registrar.phase = .ready) :
    a.registrar.phase = .registering ∧ ∃ handled reports, PassOver s i a.registrar handled ∧
      Pass.Registered config a.registrar reports handled := by
  obtain ⟨w, o, working, wrote⟩ := sound.wrote first second writer
  obtain ⟨task, before, start, handled, later, reports, trace, _, registered⟩ :=
    wrote.raised.ready wrote.moved (wrote.phase.symm.trans became)
  exact ⟨before, handled, reports, ⟨w, start, later, working, task, trace⟩, registered⟩

private theorem Sound.left (sound : Sound config s) (first : (s.stored name)[j]? = some a)
    (second : (s.stored name)[k]? = some b) (before : j ≤ k) (gone : a.registrar.phase ≠ .new) :
    b.registrar.phase ≠ .new := by
  obtain ⟨n, rfl⟩ := Nat.exists_eq_add_of_le before
  -- The versions in between are gone through one by one; none of them brings the phase back.
  induction n generalizing b with
  | zero =>
    rw [Nat.add_zero, first] at second
    cases second
    exact gone
  | succ n ih =>
    obtain ⟨middle, between⟩ := State.stored_before second
    have kept := ih between (Nat.le_add_right _ _)
    rcases sound.moves between second with ⟨_, same⟩ | ⟨i, writer, _⟩
    · rw [same]
      exact kept
    · obtain ⟨w, o, _, wrote⟩ := sound.wrote between second writer
      rw [wrote.phase]
      exact Lifecycle.next_ne_new kept

private theorem Sound.stores_ready (sound : Sound config s) {w : Worker} (working : s.workers[i]? = some w) :
    w.trace.countP Exchange.storesReady ≠ 0 ↔
      ∃ name k b, (s.stored name)[k + 1]? = some b ∧ b.writer = some i ∧ b.registrar.phase = .ready := by
  rw [← Nat.pos_iff_ne_zero, List.countP_pos_iff]
  constructor
  · rintro ⟨x, member, stores⟩
    obtain ⟨⟨time, x⟩, recorded, rfl⟩ := List.mem_map.mp member
    obtain ⟨name, update, rfl, ready⟩ := Exchange.of_storesReady stores
    obtain ⟨k, b, found, _, writer, same⟩ := sound.landed ⟨w, working, recorded⟩
    exact ⟨name, k, b, found, writer, same.trans ready⟩
  · rintro ⟨name, k, b, found, writer, ready⟩
    obtain ⟨a, before⟩ := State.stored_before found
    obtain ⟨other, o, same, wrote⟩ := sound.wrote before found writer
    rw [working] at same
    cases same
    refine ⟨_, List.mem_map_of_mem (f := Timed.exchange) wrote.accepted, ?_⟩
    rw [wrote.phase] at ready
    simp [Exchange.storesReady, Task.update_phase, ready]

/-- In every run, by whatever rules, phases only make moves that were earned. -/
theorem run_earned (rules : Rules) (config : Config) (registrars : List (Registrar × String))
    (nodes : List Cluster.Node) (events : List Event) :
    Earned config (run rules config (start registrars nodes) events) := by
  have sound := run_sound rules config registrars nodes events
  refine ⟨sound.moves, ?_, sound.registered, sound.left, sound.landed, ?_, ?_⟩
  · exact fun first second writer _ became => sound.verified first second writer became
  · intro name k i b w found writer ready working finished
    have most := Task.stores_ready_once (sound.working working).reached
    have some := (sound.stores_ready working).mpr ⟨name, k, b, found, writer, ready⟩
    have told := (Task.announces (sound.working working).reached).2
    cases ended : w.rest with
    | done value =>
      have := told value ended
      omega
    | ask op next =>
      rw [Worker.finished, ended] at finished
      cases finished
  · intro i w working announced
    have most := Task.stores_ready_once (sound.working working).reached
    have told := (Task.announces (sound.working working).reached).1
    exact ⟨by omega, (sound.stores_ready working).mp (by omega)⟩

end BackendRegistrar.Operator
