import BackendRegistrar.Proofs.Rules

/-! What a change of the nodes comes to. Once the resets that it calls for are done, a registrar
that is ready was registered with the nodes as listed after the change; or else its reset was
refused because of a version that came after the copy, and the status stayed what it was. -/

namespace BackendRegistrar.Operator
open Program

variable {rules : Rules} {config : Config} {s t : State} {name : String} {c i p : Nat} {a : Version}

/-- Whoever resets all registrars has a copy of each. -/
structure Covering (s : State) : Prop where
  names : ∀ {name : String}, 0 < (s.stored name).length → name ∈ s.names
  held : ∀ {name : String}, 0 < (s.stored name).length → s.held name < (s.stored name).length
  seen : ∀ {i : Nat} {w : Worker} {seen : List Registrar}, s.workers[i]? = some w → w.task = .nodesChanged seen →
    ∀ {name : String}, 0 < (s.stored name).length →
      ∃ v, (s.stored name)[w.held name]? = some v ∧ v.registrar ∈ seen

private theorem Change.names (change : Change rules config s t) : t.names = s.names := by
  cases change <;> rfl

private theorem Change.inhabited (change : Change rules config s t) (present : 0 < (t.stored name).length) :
    0 < (s.stored name).length := by
  obtain ⟨bound, _⟩ := List.getElem?_eq_some_iff.mp (change.first (List.getElem?_eq_getElem present))
  exact bound

private theorem Change.held_bound (change : Change rules config s t)
    (bound : s.held name < (s.stored name).length) : t.held name < (t.stored name).length := by
  have longer : (s.stored name).length ≤ (t.stored name).length := (change.grows.stored name).length_le
  cases change with
  | delivered stored =>
    dsimp only
    split
    next same =>
      subst same
      exact stored
    next => exact bound
  | idle | edited | nodesChanged | begun | answered | wrote => exact Nat.lt_of_lt_of_le bound longer

theorem Covering.change (change : Change rules config s.tick t) (covering : Covering s) : Covering t where
  names present := by
    rw [change.names]
    exact covering.names (change.inhabited present)
  held present := change.held_bound (covering.held (change.inhabited present))
  seen {i w seen} found task {name} present := by
    have inhabited : 0 < (s.stored name).length := change.inhabited present
    have growth : Grows s t := s.grows_tick.trans change.grows
    have kept {before : Worker} (old : s.workers[i]? = some before) (task : before.task = .nodesChanged seen) :
        ∃ v, (t.stored name)[before.held name]? = some v ∧ v.registrar ∈ seen := by
      obtain ⟨v, stored, member⟩ := covering.seen old task inhabited
      exact ⟨v, growth.version stored, member⟩
    rcases change.worker found with old | ⟨began, _, rfl, _, all⟩ | ⟨before, op, next, given, old, _, rfl⟩
    · exact kept old task
    · have stored := List.getElem?_eq_getElem (covering.held inhabited)
      have copy : s.tick.cached? name = some _ := congrArg (Option.map Version.registrar) stored
      exact ⟨_, growth.version stored, all seen task name (covering.names inhabited) _ copy⟩
    · have copied := kept old task
      exact copied

theorem Covering.start (registrars : List (Registrar × String)) (nodes : List Cluster.Node) :
    Covering (start registrars nodes) where
  names present := by
    obtain ⟨_, r, version, member, rfl, _⟩ := stored_start (List.getElem?_eq_getElem present)
    exact List.mem_map.mpr ⟨(r, version), member, rfl⟩
  held present := present
  seen found := by cases found

/-- The version that stored the present status: the first, or one that a worker wrote; only edits
have followed. -/
def Origin (s : State) (name : String) (a : Version) : Prop :=
  ∃ k, (s.stored name)[k]? = some a ∧ (k = 0 ∨ a.writer.isSome = true) ∧
    ∀ m v, k < m → (s.stored name)[m]? = some v → v.writer = none

/-- The version was written by a pass that had registered the registrar, and that had listed the
nodes after some time and never before; or it had found no node to look for. -/
def ListedAfter (config : Config) (s : State) (c : Nat) (a : Version) : Prop :=
  ∃ i w r start handled later reports, a.writer = some i ∧ s.workers[i]? = some w ∧ w.task = .pass r ∧
    r.phase = .registering ∧ w.trace = ⟨.clock, start⟩ :: (handled ++ later) ∧
    Pass.Registered config r reports handled ∧
    (∀ x ∈ w.past, x.exchange.op.listsNodes = true → c < x.time) ∧
    ((∃ x ∈ w.past, ∃ nodes, x.exchange = ⟨.read .nodes, .ok nodes⟩) ∨ Pass.AllIdle r handled)

/-- The version was there to begin with, or the worker that wrote it had listed the nodes by then. -/
def Outdated (s : State) (c : Nat) (a : Version) : Prop :=
  a.writer = none ∨ ∃ i w, a.writer = some i ∧ s.workers[i]? = some w ∧
    ∃ x ∈ w.past, x.exchange.op.listsNodes = true ∧ x.time ≤ c

/-- The worker had a write refused after some time. -/
def Refused (s : State) (p : Nat) (name : String) (time : Nat) : Prop :=
  ∃ w, s.workers[p]? = some w ∧ ∃ x ∈ w.past, time < x.time ∧
    ∃ update f, x.exchange = ⟨.writeStatus name update, .error f⟩

/-- The nodes changed, all the resets that this calls for are done, and the registrar is ready. -/
structure Refreshed (s : State) (p c : Nat) (name : String) (a : Version) : Prop where
  change : c ∈ s.changes
  resets : ∃ w seen, s.workers[p]? = some w ∧ w.task = .nodesChanged seen ∧ w.finished = true ∧ c < w.begun
  ready : ∃ r, s.current? name = some r ∧ r.phase = .ready
  origin : Origin s name a

section Origins

private theorem Origin.settled (sound : Sound config s) {r : Registrar} (origin : Origin s name a)
    (current : s.current? name = some r) :
    ∃ k, (s.stored name)[k]? = some a ∧ (k = 0 ∨ a.writer.isSome = true) ∧ Settled s name k r.status := by
  obtain ⟨k, stored, first, edits⟩ := origin
  obtain ⟨j, b, written, other, settled⟩ := sound.settled current
  have same : j = k := by
    rcases Nat.lt_trichotomy j k with earlier | same | later
    · have none := (settled k a (Nat.le_of_lt earlier) stored).2 earlier
      rcases first with rfl | some
      · exact absurd earlier (Nat.not_lt_zero _)
      · rw [none] at some
        cases some
    · exact same
    · have none := edits j b later written
      rcases other with rfl | some
      · exact absurd later (Nat.not_lt_zero _)
      · rw [none] at some
        cases some
  subst same
  exact ⟨j, stored, first, settled⟩

private theorem registered_pass (sound : Sound config s) {k : Nat} (stored : (s.stored name)[k]? = some a)
    (ready : a.registrar.phase = .ready) (writer : a.writer = some i) :
    ∃ j b w o, k = j + 1 ∧ (s.stored name)[j]? = some b ∧ s.workers[i]? = some w ∧ Wrote config s name j b a w o ∧
      b.registrar.phase = .registering := by
  have later : k ≠ 0 := by
    rintro rfl
    rw [sound.first stored] at writer
    cases writer
  obtain ⟨j, rfl⟩ := Nat.exists_eq_succ_of_ne_zero later
  obtain ⟨b, previous⟩ := State.stored_before stored
  obtain ⟨w, o, working, wrote⟩ := sound.wrote previous stored writer
  have registering := (wrote.raised.ready wrote.moved (wrote.phase.symm.trans ready)).2.1
  exact ⟨j, b, w, o, rfl, previous, working, wrote, registering⟩

private theorem listedAfter_iff (sound : Sound config s) {k : Nat} (stored : (s.stored name)[k]? = some a)
    (ready : a.registrar.phase = .ready) : ListedAfter config s c a ↔ ¬ Outdated s c a := by
  constructor
  · rintro ⟨i, w, r, start, handled, later, reports, writer, working, _, _, _, _, after, _⟩
    rintro (none | ⟨j, v, other, same, x, member, lists, before⟩)
    · rw [writer] at none
      cases none
    · rw [writer] at other
      cases other
      rw [working] at same
      cases same
      exact absurd (after x member lists) (Nat.not_lt.mpr before)
  · intro fresh
    cases writer : a.writer with
    | none => exact absurd (.inl writer) fresh
    | some i =>
      obtain ⟨j, b, w, o, rfl, previous, working, wrote, _⟩ := registered_pass sound stored ready writer
      obtain ⟨task, registering, start, handled, later, reports, trace, _, registered⟩ :=
        wrote.raised.ready wrote.moved (wrote.phase.symm.trans ready)
      refine ⟨i, w, _, start, handled, later, reports, writer, working, task, registering, trace, registered, ?_, ?_⟩
      · intro x member lists
        refine Nat.lt_of_not_le fun before => fresh (.inr ⟨i, w, writer, working, x, member, lists, before⟩)
      · rcases registered.listed with ⟨nodes, member⟩ | idle
        · have inside : (⟨.read .nodes, .ok nodes⟩ : Exchange environment) ∈ w.trace := by
            rw [trace]
            exact List.mem_cons_of_mem _ (List.mem_append_left _ member)
          obtain ⟨x, recorded, same⟩ := List.mem_map.mp inside
          exact .inl ⟨x, recorded, nodes, same⟩
        · exact .inr idle

end Origins

section Resets

/-- A copy made since the ready phase was stored, or in the version before, calls for a reset. -/
private theorem copy_needsReset (sound : Sound config s) {k h : Nat} {v : Version} {r : Registrar}
    (stored : (s.stored name)[k]? = some a) (origin : k = 0 ∨ a.writer.isSome = true) (ready : r.phase = .ready)
    (settled : Settled s name k r.status) (copy : (s.stored name)[h]? = some v) (near : k ≤ h + 1) :
    v.registrar.phase.needsReset = true := by
  by_cases after : k ≤ h
  · rw [settled.phase after copy, ready]
    rfl
  · have next : k = h + 1 := by omega
    subst next
    obtain ⟨i, writer⟩ := Option.isSome_iff_exists.mp (origin.resolve_left (Nat.succ_ne_zero h))
    have became : a.registrar.phase = .ready := (settled.phase (Nat.le_refl _) stored).trans ready
    obtain ⟨j, b, w, o, same, previous, _, _, registering⟩ := registered_pass sound stored became writer
    cases same
    rw [copy] at previous
    cases previous
    rw [registering]
    rfl

private theorem reset_asked {w : Worker} {seen : List Registrar} {r : Registrar} (working : Working config s w)
    (task : w.task = .nodesChanged seen) (finished : w.finished = true) (member : r ∈ seen)
    (needed : r.phase.needsReset = true) :
    ∃ x ∈ w.past, x.exchange.op = Trigger.resetWrite .nodeTopologyChanged r := by
  have reached := working.reached
  rw [task] at reached
  obtain ⟨inner, inside, ended⟩ := Task.reaches_ignored reached
  cases inner with
  | ask op next =>
    rw [Worker.finished, ended] at finished
    cases finished
  | done count =>
    obtain ⟨x, asked, same⟩ := Trigger.resetCounted_completes inside member needed
    obtain ⟨y, recorded, rfl⟩ := List.mem_map.mp asked
    exact ⟨y, recorded, same⟩

/-- Either the pass that stored the ready phase began after the resets, or the resets went by a
copy no older than the one that the pass had read. -/
private theorem fresh_or_near (sound : Sound config s) (forward : Forward s) {k : Nat} {w : Worker}
    (stored : (s.stored name)[k]? = some a) (origin : k = 0 ∨ a.writer.isSome = true)
    (ready : a.registrar.phase = .ready) (working : s.workers[p]? = some w) (began : c < w.begun) :
    ¬ Outdated s c a ∨ k ≤ w.held name + 1 := by
  cases writer : a.writer with
  | none =>
    right
    have zero : k = 0 := origin.resolve_right (by simp [writer])
    omega
  | some i =>
    obtain ⟨j, b, u, o, rfl, previous, passing, wrote, _⟩ := registered_pass sound stored ready writer
    rcases Nat.le_total i p with earlier | later
    · right
      have ahead := forward.ordered passing working earlier name
      rw [wrote.held] at ahead
      exact Nat.succ_le_succ ahead
    · left
      rintro (none | ⟨_, _, other, same, x, inside, _, before⟩)
      · rw [writer] at none
        cases none
      · rw [writer] at other
        cases other
        rw [passing] at same
        cases same
        have since := ((sound.working passing).since x inside).1
        have began := sound.begun working passing later
        omega

/-- A reset that went by such a copy was not accepted: the pending phase would have come after. -/
private theorem not_accepted (sound : Sound config s) {k time : Nat} {w : Worker} {status : Option Status}
    {update : PhaseUpdate} (stored : (s.stored name)[k]? = some a) (ready : a.registrar.phase = .ready)
    (settled : Settled s name k status) (working : s.workers[p]? = some w) (near : k ≤ w.held name + 1)
    (pending : update.phase = .pending) : ¬ Accepted s p time name update := by
  intro accepted
  obtain ⟨j, b, landed, _, writer, phase⟩ := sound.landed accepted
  obtain ⟨_, before⟩ := State.stored_before landed
  obtain ⟨other, o, same, wrote⟩ := sound.wrote before landed writer
  rw [working] at same
  cases same
  have held := wrote.held
  by_cases later : k < j + 1
  · rw [(settled (j + 1) b (Nat.le_of_lt later) landed).2 later] at writer
    cases writer
  · have same : j + 1 = k := by omega
    rw [same, stored] at landed
    cases landed
    rw [ready, pending] at phase
    cases phase

/-- A reset that is done either had its write refused, or was overtaken by no pass. -/
private theorem refused_or_fresh (sound : Sound config s) (forward : Forward s) (overtaken : Overtaken s)
    (covering : Covering s) (refreshed : Refreshed s p c name a) :
    Refused s p name a.time ∨ ¬ Outdated s c a := by
  obtain ⟨_, ⟨w, seen, working, task, finished, began⟩, ⟨r, current, ready⟩, origin⟩ := refreshed
  obtain ⟨k, stored, first, settled⟩ := origin.settled sound current
  have became : a.registrar.phase = .ready := (settled.phase (Nat.le_refl _) stored).trans ready
  rcases fresh_or_near sound forward stored first became working began with fresh | near
  · exact .inr fresh
  · left
    obtain ⟨bound, _⟩ := List.getElem?_eq_some_iff.mp stored
    obtain ⟨v, copy, member⟩ := covering.seen working task (Nat.zero_lt_of_lt bound)
    have needed := copy_needsReset sound stored first ready settled copy near
    obtain ⟨⟨time, ⟨op, answer⟩⟩, inside, asked⟩ := reset_asked (sound.working working) task finished member needed
    have named := sound.versioned.named (List.mem_of_getElem? copy)
    dsimp only [Trigger.resetWrite] at asked
    rw [named, Trigger.next_of_needsReset needed (.inl rfl)] at asked
    subst asked
    cases answer with
    | ok done => exact absurd ⟨w, working, inside⟩ (not_accepted sound stored became settled working near rfl)
    | error f =>
      obtain ⟨u, next, earlier⟩ := overtaken.refused working inside
      have before : a.time ≤ u.time := by
        rcases Nat.eq_or_lt_of_le near with same | less
        · rw [← same, stored] at next
          cases next
          exact Nat.le_refl _
        · exact Nat.le_of_lt (sound.versioned.ordered stored next less)
      exact ⟨w, working, _, inside, Nat.lt_of_le_of_lt before earlier, _, f, rfl⟩

end Resets

private structure Kept (config : Config) (s : State) : Prop where
  sound : Sound config s
  forward : Forward s
  overtaken : Overtaken s
  covering : Covering s

/-- When the cache never goes back and writes are only refused for their version, a registrar that is
ready after the resets for a change of the nodes was registered with the nodes as listed after it,
unless its reset was refused with the ready phase already stored, by a pass that had listed the
nodes before. -/
theorem run_listedAfter_iff {rules : Rules} (forward : rules.forward = true) (willing : rules.willing = true)
    {config : Config} {registrars : List (Registrar × String)} {nodes : List Cluster.Node} {events : List Event}
    {p c : Nat} {name : String} {a : Version}
    (refreshed : Refreshed (run rules config (start registrars nodes) events) p c name a) :
    ListedAfter config (run rules config (start registrars nodes) events) c a ↔
      ¬ (Refused (run rules config (start registrars nodes) events) p name a.time ∧
        Outdated (run rules config (start registrars nodes) events) c a) := by
  have kept : Kept config (run rules config (start registrars nodes) events) := run_keeps
    (fun _ _ change kept => ⟨kept.sound.change change, kept.forward.change change forward,
      kept.overtaken.change change willing kept.sound, kept.covering.change change⟩) events
    ⟨.start registrars nodes, .start registrars nodes, .start registrars nodes, .start registrars nodes⟩
  obtain ⟨sound, ahead, overtaken, covering⟩ := kept
  obtain ⟨r, current, ready⟩ := refreshed.ready
  obtain ⟨k, stored, _, settled⟩ := refreshed.origin.settled sound current
  have became : a.registrar.phase = .ready := (settled.phase (Nat.le_refl _) stored).trans ready
  rw [listedAfter_iff sound stored became]
  have either := refused_or_fresh sound ahead overtaken covering refreshed
  constructor
  · exact fun fresh both => fresh both.2
  · exact fun no old => either.elim (fun refused => no ⟨refused, old⟩) fun fresh => fresh old

section Race

/-! A pass has listed the nodes, then a node is added, and the pass stores the ready phase. The cache
does not know yet, so the resets for the new node go by the copy that the pass went by. -/

def raced : List Event :=
  .beginPass "lb" :: oblige 0 4 "" ++ .changeNodes [trialNode "a" "10.0.0.1", trialNode "b" "10.0.0.2"] ::
    oblige 0 3 "2" ++ .beginNodes ["lb"] :: oblige 1 2 ""

def racedState : State :=
  run ⟨true, true, true, true⟩ .standard
    (start [(trial (some ⟨.registering, some 1⟩), "1")] [trialNode "a" "10.0.0.1"]) raced

private theorem raced_outcome :
    (racedState.stored "lb").map (fun v => (v.writer, v.registrar.phase)) =
        [(none, .registering), (some 0, .ready)] ∧
      racedState.changes = [6] ∧
      racedState.workers.map (fun w => (w.begun, w.finished, w.task matches .nodesChanged _)) =
        [(1, false, false), (10, true, true)] ∧
      (racedState.workers.map fun w => (w.past.filter fun x => x.exchange.op.listsNodes).map Timed.time) =
        [[5], []] := by
  decide +kernel

private theorem raced_refreshed :
    ∃ a, a.writer = some 0 ∧ Refreshed racedState 1 6 "lb" a := by
  obtain ⟨versions, changes, workers, _⟩ := raced_outcome
  obtain ⟨v, rest, stored, _, tail⟩ := List.map_eq_cons_iff.mp versions
  obtain ⟨a, nothing, rfl, last, empty⟩ := List.map_eq_cons_iff.mp tail
  obtain rfl := List.map_eq_nil_iff.mp empty
  obtain ⟨w, others, working, _, tail⟩ := List.map_eq_cons_iff.mp workers
  obtain ⟨p, nobody, rfl, resets, _⟩ := List.map_eq_cons_iff.mp tail
  obtain ⟨writer, ready⟩ := Prod.mk.inj last
  obtain ⟨begun, finished, kind⟩ : p.begun = 10 ∧ p.finished = true ∧ (p.task matches .nodesChanged _) = true := by
    simpa using resets
  refine ⟨a, writer, ⟨by simp [changes], ?_, ?_, ?_⟩⟩
  · split at kind
    next seen task => exact ⟨p, seen, by simp [working], task, finished, by omega⟩
    next => cases kind
  · exact ⟨a.registrar, by simp [State.current?, stored], ready⟩
  · refine ⟨1, by simp [stored], .inr (by simp [writer]), ?_⟩
    intro m u after found
    obtain ⟨bound, _⟩ := List.getElem?_eq_some_iff.mp found
    rw [stored] at bound
    simp only [List.length_cons, List.length_nil] at bound
    omega

theorem raced_listedAfter_iff :
    ∃ a, Refreshed racedState 1 6 "lb" a ∧
      (ListedAfter .standard racedState 6 a ↔ ¬ (Refused racedState 1 "lb" a.time ∧ Outdated racedState 6 a)) := by
  obtain ⟨a, _, refreshed⟩ := raced_refreshed
  exact ⟨a, refreshed, run_listedAfter_iff rfl rfl refreshed⟩

/-- A registrar may be ready although the nodes changed after they had last been listed for it, with
all resets done that the change called for. -/
theorem not_listedAfter_of_refreshed :
    ¬ ∀ (rules : Rules) (config : Config) (registrars : List (Registrar × String)) (nodes : List Cluster.Node)
        (events : List Event) (p c : Nat) (name : String) (a : Version),
      rules.serialized = true → rules.forward = true → rules.willing = true →
        Refreshed (run rules config (start registrars nodes) events) p c name a →
          ListedAfter config (run rules config (start registrars nodes) events) c a := by
  intro claim
  obtain ⟨a, writer, refreshed⟩ := raced_refreshed
  obtain ⟨i, w, _, _, _, _, _, same, working, _, _, _, _, after, _⟩ :=
    claim ⟨true, true, true, true⟩ .standard _ _ raced 1 6 "lb" a rfl rfl rfl refreshed
  rw [writer] at same
  cases same
  change racedState.workers[0]? = some w at working
  obtain ⟨_, others, workers, listings, _⟩ := List.map_eq_cons_iff.mp raced_outcome.2.2.2
  rw [workers] at working
  cases working
  have listed : 5 ∈ (w.past.filter fun x => x.exchange.op.listsNodes).map Timed.time := by
    rw [listings]
    exact List.mem_singleton.mpr rfl
  obtain ⟨x, among, time⟩ := List.mem_map.mp listed
  obtain ⟨member, lists⟩ := List.mem_filter.mp among
  have := after x member lists
  omega

end Race

end BackendRegistrar.Operator
