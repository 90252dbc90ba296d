import BackendRegistrar.Proofs.Change

/-! What holds at every time. Every version of a registrar but the first comes from the one before
it, by an edit or by the write of a worker that was meant for that very version; and whatever a
worker has had accepted is among the versions. -/

namespace BackendRegistrar.Operator
open Program

variable {rules : Rules} {config : Config} {s t : State} {name : String}

def Version.mark (v : Version) : Option String := v.registrar.metadata.resourceVersion

/-- Each registrar is stored under its name, in versions that differ and come one after another. -/
structure Versioned (s : State) : Prop where
  named : ∀ {name : String} {v : Version}, v ∈ s.stored name → v.registrar.name = name
  marked : ∀ {name : String} {v : Version}, v ∈ s.stored name → v.mark.isSome = true
  distinct : ∀ {name : String} {j k : Nat} {v w : Version}, (s.stored name)[j]? = some v →
    (s.stored name)[k]? = some w → v.mark = w.mark → j = k
  ordered : ∀ {name : String} {j k : Nat} {v w : Version}, (s.stored name)[j]? = some v →
    (s.stored name)[k]? = some w → j < k → v.time < w.time
  past : ∀ {name : String} {v : Version}, v ∈ s.stored name → v.time ≤ s.time

theorem Versioned.current {r : Registrar} (versioned : Versioned s) (stored : s.current? name = some r) :
    r.name = name := by
  obtain ⟨v, found, rfl⟩ := State.mem_stored_of_current stored
  exact versioned.named (List.mem_of_getElem? found)

private theorem Change.stored (change : Change rules config s t) :
    t.stored = s.stored ∨ ∃ name version r v, s.current? name = some r ∧ t.stored = (s.add name v).stored ∧
      (r.name = name → v.registrar.name = name) ∧ v.mark = some version ∧ s.unused name version = true ∧
      v.time = s.time := by
  cases change with
  | idle | delivered | nodesChanged | begun | answered => exact .inl rfl
  | edited stored named unused => exact .inr ⟨_, _, _, _, stored, rfl, fun _ => named, rfl, unused, rfl⟩
  | wrote _ _ stored _ unused => exact .inr ⟨_, _, _, _, stored, rfl, fun named => named, rfl, unused, rfl⟩

private theorem unmarked {version : String} {v : Version} (unused : s.unused name version = true)
    (member : v ∈ s.stored name) : v.mark ≠ some version := by
  simpa [Version.mark] using List.all_eq_true.mp unused v member

private theorem Versioned.keep (versioned : Versioned s) (same : t.stored = s.stored) (later : s.time ≤ t.time) :
    Versioned t := by
  constructor
  all_goals rw [same]
  · exact versioned.named
  · exact versioned.marked
  · exact versioned.distinct
  · exact versioned.ordered
  · intro name v member
    exact Nat.le_trans (versioned.past member) later

private theorem Versioned.add {version : String} {v : Version} (versioned : Versioned s)
    (same : t.stored = (s.add name v).stored) (named : v.registrar.name = name) (marked : v.mark = some version)
    (unused : s.unused name version = true) (later : s.time < v.time) (past : v.time ≤ t.time) : Versioned t := by
  constructor
  all_goals rw [same]
  · intro other w member
    rcases State.mem_stored_add member with before | ⟨rfl, rfl⟩
    · exact versioned.named before
    · exact named
  · intro other w member
    rcases State.mem_stored_add member with before | ⟨rfl, rfl⟩
    · exact versioned.marked before
    · rw [marked]
      rfl
  · intro other j k w x first second alike
    rcases State.stored_add first with early | ⟨rfl, rfl, rfl⟩ <;>
      rcases State.stored_add second with late | ⟨called, rfl, rfl⟩
    · exact versioned.distinct early late alike
    · subst called
      exact absurd (alike.trans marked) (unmarked unused (List.mem_of_getElem? early))
    · exact absurd (alike.symm.trans marked) (unmarked unused (List.mem_of_getElem? late))
    · rfl
  · intro other j k w x first second before
    rcases State.stored_add first with early | ⟨rfl, rfl, rfl⟩ <;>
      rcases State.stored_add second with late | ⟨called, rfl, rfl⟩
    · exact versioned.ordered early late before
    · exact Nat.lt_of_le_of_lt (versioned.past (List.mem_of_getElem? early)) later
    · obtain ⟨bound, _⟩ := List.getElem?_eq_some_iff.mp late
      omega
    · exact absurd before (Nat.lt_irrefl _)
  · intro other w member
    rcases State.mem_stored_add member with before | ⟨rfl, rfl⟩
    · have earlier := versioned.past before
      omega
    · exact past

theorem Versioned.change (change : Change rules config s.tick t) (versioned : Versioned s) : Versioned t := by
  have later : s.time + 1 ≤ t.time := change.grows.time
  rcases change.stored with same | ⟨name, version, r, v, current, same, named, marked, unused, time⟩
  · exact versioned.keep same (Nat.le_of_succ_le later)
  · have stamped : v.time = s.time + 1 := time
    apply versioned.add same (named (versioned.current current)) marked unused
    · omega
    · omega

/-- The worker had this write accepted at this time. -/
def Accepted (s : State) (i time : Nat) (name : String) (update : PhaseUpdate) : Prop :=
  ∃ w, s.workers[i]? = some w ∧ ⟨time, ⟨.writeStatus name update, .ok ()⟩⟩ ∈ w.past

theorem Accepted.grow {i time : Nat} {update : PhaseUpdate} (accepted : Accepted s i time name update)
    (growth : Grows s t) : Accepted t i time name update := by
  obtain ⟨w, working, member⟩ := accepted
  obtain ⟨later, working, continues⟩ := growth.workers working
  exact ⟨later, working, continues.past.subset member⟩

private theorem accepted_proceed {i : Nat} {w : Worker} {update : PhaseUpdate} {rest : Operation Unit}
    (working : s.workers[i]? = some w) :
    Accepted (s.proceed i w ⟨.writeStatus name update, .ok ()⟩ rest) i s.time name update := by
  obtain ⟨bound, _⟩ := List.getElem?_eq_some_iff.mp working
  exact ⟨_, List.getElem?_set_self bound, List.mem_append_right _ (List.mem_singleton.mpr rfl)⟩

/-- How one version came from the one before it. -/
inductive Linked (s : State) (name : String) (a b : Version) : Prop
  | edited (user : b.writer = none) (kept : b.registrar.status = a.registrar.status)
  | written {i : Nat} {update : PhaseUpdate} {version : String} (worker : b.writer = some i)
      (accepted : Accepted s i b.time name update)
      (meant : update.resourceVersion.isSome = true → update.resourceVersion = a.mark)
      (same : b.registrar = a.registrar.written update version)

theorem Linked.grow {a b : Version} (linked : Linked s name a b) (growth : Grows s t) : Linked t name a b := by
  cases linked with
  | edited user kept => exact .edited user kept
  | written worker accepted meant same => exact .written worker (accepted.grow growth) meant same

/-- A worker has come to where it is in its program, from copies of what was stored. -/
structure Working (config : Config) (s : State) (w : Worker) : Prop where
  reached : (w.task.program config).Reaches w.trace w.rest
  copies : ∀ r ∈ w.task.copies, ∃ v, (s.stored r.name)[w.held r.name]? = some v ∧ v.registrar = r
  begun : w.begun ≤ s.time
  since : ∀ x ∈ w.past, w.begun < x.time ∧ x.time ≤ s.time

theorem Working.grow {w : Worker} (working : Working config s w) (growth : Grows s t) : Working config t w where
  reached := working.reached
  copies r member := by
    obtain ⟨v, found, same⟩ := working.copies r member
    exact ⟨v, growth.version found, same⟩
  begun := Nat.le_trans working.begun growth.time
  since x member := ⟨(working.since x member).1, Nat.le_trans (working.since x member).2 growth.time⟩

structure Sound (config : Config) (s : State) : Prop where
  versioned : Versioned s
  first : ∀ {name : String} {v : Version}, (s.stored name)[0]? = some v → v.writer = none
  linked : ∀ {name : String} {k : Nat} {a b : Version}, (s.stored name)[k]? = some a →
    (s.stored name)[k + 1]? = some b → Linked s name a b
  working : ∀ {i : Nat} {w : Worker}, s.workers[i]? = some w → Working config s w
  begun : ∀ {i j : Nat} {v w : Worker}, s.workers[i]? = some v → s.workers[j]? = some w → i ≤ j → v.begun ≤ w.begun
  landed : ∀ {i time : Nat} {name : String} {update : PhaseUpdate}, Accepted s i time name update →
    ∃ k b, (s.stored name)[k + 1]? = some b ∧ b.time = time ∧ b.writer = some i ∧ b.registrar.phase = update.phase

section Preservation

private theorem neighbours {k : Nat} {r : Registrar} {v a b : Version} {other : String}
    (current : s.current? name = some r)
    (first : ((s.add name v).stored other)[k]? = some a) (second : ((s.add name v).stored other)[k + 1]? = some b) :
    (s.stored other)[k]? = some a ∧ (s.stored other)[k + 1]? = some b ∨
      other = name ∧ a.registrar = r ∧ b = v := by
  rcases State.stored_add second with late | ⟨rfl, last, rfl⟩
  · obtain ⟨bound, _⟩ := List.getElem?_eq_some_iff.mp late
    rcases State.stored_add first with early | ⟨rfl, beyond, _⟩
    · exact .inl ⟨early, late⟩
    · omega
  · obtain ⟨before, found, rfl⟩ := State.mem_stored_of_current current
    rcases State.stored_add first with early | ⟨_, beyond, _⟩
    · rw [show (s.stored other).length - 1 = k by omega, early] at found
      cases found
      exact .inr ⟨rfl, rfl, rfl⟩
    · omega

private theorem Sound.change_linked (change : Change rules config s.tick t) (sound : Sound config s) {k : Nat}
    {a b : Version} (first : (t.stored name)[k]? = some a) (second : (t.stored name)[k + 1]? = some b) :
    Linked t name a b := by
  have growth : Grows s t := s.grows_tick.trans change.grows
  have old (first : (s.stored name)[k]? = some a) (second : (s.stored name)[k + 1]? = some b) : Linked t name a b :=
    (sound.linked first second).grow growth
  cases change with
  | idle | delivered | nodesChanged | begun | answered => exact old first second
  | edited stored =>
    rcases neighbours stored first second with ⟨first, second⟩ | ⟨rfl, same, rfl⟩
    · exact old first second
    · exact .edited rfl (by rw [← same]; rfl)
  | @wrote i w _ version update r next working asks stored meant =>
    rcases neighbours stored first second with ⟨first, second⟩ | ⟨rfl, same, rfl⟩
    · exact old first second
    · refine .written rfl (accepted_proceed (s := s.tick.add _ _) working) ?_
        (congrArg (·.written update version) same.symm)
      rw [Version.mark, same]
      exact meant

private theorem Sound.change_working (change : Change rules config s.tick t) (sound : Sound config s) {i : Nat}
    {w : Worker} (found : t.workers[i]? = some w) : Working config t w := by
  have growth : Grows s t := s.grows_tick.trans change.grows
  rcases change.worker found with
    old | ⟨task, _, rfl, cached, _⟩ | ⟨before, op, next, given, old, asks, rfl⟩
  · exact (sound.working old).grow growth
  · refine ⟨.start _, ?_, change.grows.time, by simp⟩
    intro r member
    obtain ⟨name, held⟩ := cached r member
    obtain ⟨v, found, rfl⟩ := Option.map_eq_some_iff.mp held
    obtain rfl := sound.versioned.named (List.mem_of_getElem? found)
    exact ⟨v, growth.version found, rfl⟩
  · have working := (sound.working old).grow growth
    refine ⟨?_, working.copies, working.begun, ?_⟩
    · have reached := working.reached
      rw [asks] at reached
      simpa [Worker.trace] using reached.answer given
    · intro x member
      rcases List.mem_append.mp member with earlier | last
      · exact working.since x earlier
      · obtain rfl := List.mem_singleton.mp last
        exact ⟨Nat.lt_succ_of_le (sound.working old).begun, change.grows.time⟩

private theorem Sound.change_begun (change : Change rules config s.tick t) (sound : Sound config s) {i j : Nat}
    {v w : Worker} (first : t.workers[i]? = some v) (second : t.workers[j]? = some w) (before : i ≤ j) :
    v.begun ≤ w.begun := by
  rcases change.before first with ⟨old, early, continues⟩ | ⟨last, begun, _⟩ <;>
    rcases change.before second with ⟨other, late, goesOn⟩ | ⟨end_, now, _⟩
  · rw [continues.begun, goesOn.begun]
    exact sound.begun early late before
  · rw [continues.begun, now]
    exact Nat.le_succ_of_le (sound.working early).begun
  · obtain ⟨bound, _⟩ := List.getElem?_eq_some_iff.mp late
    omega
  · exact Nat.le_of_eq (begun.trans now.symm)

private theorem accepted_before {i j time : Nat} {w : Worker} {x : Exchange environment} {rest : Operation Unit}
    {update : PhaseUpdate} (working : s.workers[i]? = some w)
    (accepted : Accepted (s.proceed i w x rest) j time name update) :
    Accepted s j time name update ∨ j = i ∧ time = s.time ∧ x = ⟨.writeStatus name update, .ok ()⟩ := by
  obtain ⟨later, found, member⟩ := accepted
  rcases State.proceed_past working found member with ⟨before, old, _, earlier⟩ | ⟨same, last⟩
  · exact .inl ⟨before, old, earlier⟩
  · cases last
    exact .inr ⟨same, rfl, rfl⟩

private theorem Sound.change_landed (change : Change rules config s.tick t) (sound : Sound config s) {i time : Nat}
    {update : PhaseUpdate} (accepted : Accepted t i time name update) :
    ∃ k b, (t.stored name)[k + 1]? = some b ∧ b.time = time ∧ b.writer = some i ∧
      b.registrar.phase = update.phase := by
  have growth : Grows s t := s.grows_tick.trans change.grows
  have old (accepted : Accepted s i time name update) :
      ∃ k b, (t.stored name)[k + 1]? = some b ∧ b.time = time ∧ b.writer = some i ∧
      b.registrar.phase = update.phase := by
    obtain ⟨k, b, found, same⟩ := sound.landed accepted
    exact ⟨k, b, growth.version found, same⟩
  cases change with
  | idle | delivered | nodesChanged | edited => exact old accepted
  | begun =>
    obtain ⟨w, found, member⟩ := accepted
    rcases State.begin_worker found with before | ⟨_, rfl⟩
    · exact old ⟨w, before, member⟩
    · cases member
  | answered working asks nothing =>
    rcases accepted_before working accepted with before | ⟨_, _, same⟩
    · exact old before
    · rw [same] at nothing
      cases nothing
  | @wrote j w other version _ r next working asks stored =>
    rcases accepted_before (s := s.tick.add _ _) working accepted with before | ⟨rfl, rfl, same⟩
    · exact old before
    · cases same
      obtain ⟨last, found, _⟩ := State.mem_stored_of_current stored
      obtain ⟨bound, _⟩ := List.getElem?_eq_some_iff.mp found
      refine ⟨(s.tick.stored name).length - 1, ⟨r.written update version, s.tick.time, some i⟩, ?_, rfl, rfl, rfl⟩
      rw [Nat.sub_add_cancel (Nat.one_le_of_lt bound)]
      exact State.add_last (s := s.tick)

theorem Sound.change (change : Change rules config s.tick t) (sound : Sound config s) : Sound config t where
  versioned := sound.versioned.change change
  first found := sound.first (change.first found)
  linked := sound.change_linked change
  working := sound.change_working change
  begun := sound.change_begun change
  landed := sound.change_landed change

end Preservation

theorem Sound.start (registrars : List (Registrar × String)) (nodes : List Cluster.Node) :
    Sound config (start registrars nodes) := by
  have only {name : String} {v : Version} (member : v ∈ (Operator.start registrars nodes).stored name) :
      v.registrar.name = name ∧ v.mark.isSome = true ∧ v.time = 0 := by
    obtain ⟨k, found⟩ := List.mem_iff_getElem?.mp member
    obtain ⟨_, r, version, _, named, rfl⟩ := stored_start found
    exact ⟨named, rfl, rfl⟩
  refine ⟨⟨?_, ?_, ?_, ?_, ?_⟩, ?_, ?_, ?_, ?_, ?_⟩
  · exact fun member => (only member).1
  · exact fun member => (only member).2.1
  · intro name j k v w first second _
    rw [(stored_start first).1, (stored_start second).1]
  · intro name j k v w first second before
    rw [(stored_start first).1, (stored_start second).1] at before
    cases before
  · exact fun member => Nat.le_of_eq (only member).2.2
  · intro name v found
    obtain ⟨_, r, version, _, _, rfl⟩ := stored_start found
    rfl
  · intro name k a b _ second
    cases (stored_start second).1
  · intro i w found
    cases found
  · intro i j v w found
    cases found
  · rintro i time name update ⟨w, found, _⟩
    cases found

/-- All this holds in the course of every run. -/
theorem run_sound (rules : Rules) (config : Config) (registrars : List (Registrar × String))
    (nodes : List Cluster.Node) (events : List Event) :
    Sound config (run rules config (start registrars nodes) events) :=
  run_keeps (fun _ _ change sound => sound.change change) events (.start registrars nodes)

section Writes

variable {k i : Nat} {a b : Version}

/-- A version that a worker wrote, over the one that the worker had read. -/
structure Wrote (config : Config) (s : State) (name : String) (k : Nat) (a b : Version) (w : Worker)
    (o : Occurrence) : Prop where
  held : w.held name = k
  raised : Task.Raises config w.task w.trace a.registrar o
  moved : Lifecycle.next a.registrar.phase o ≠ a.registrar.phase
  accepted : ⟨b.time, ⟨.writeStatus name (w.task.update (Lifecycle.next a.registrar.phase o) a.registrar), .ok ()⟩⟩ ∈ w.past
  same : ∃ version, b.registrar =
    a.registrar.written (w.task.update (Lifecycle.next a.registrar.phase o) a.registrar) version

/-- A worker's write takes what is stored to where an occurrence leads that the worker raised for
it: since the write was meant for the stored version, that is the one the worker had read. -/
theorem Sound.wrote (sound : Sound config s) (first : (s.stored name)[k]? = some a)
    (second : (s.stored name)[k + 1]? = some b) (worker : b.writer = some i) :
    ∃ w o, s.workers[i]? = some w ∧ Wrote config s name k a b w o := by
  cases sound.linked first second with
  | edited user =>
    rw [worker] at user
    cases user
  | written writer accepted meant same =>
    rw [worker] at writer
    cases writer
    obtain ⟨w, found, member⟩ := accepted
    have working := sound.working found
    obtain ⟨r, o, raises, moved, asked⟩ :=
      Task.writes working.reached (List.mem_map_of_mem (f := Timed.exchange) member) rfl
    cases asked
    obtain ⟨v, read, rfl⟩ := working.copies r raises.copy
    have marked := sound.versioned.marked (List.mem_of_getElem? read)
    rw [Task.update_resourceVersion] at meant
    obtain rfl := sound.versioned.distinct read first (meant marked)
    rw [read] at first
    cases first
    exact ⟨w, o, found, rfl, raises, moved, member, _, same⟩

theorem Wrote.phase {w : Worker} {o : Occurrence} (wrote : Wrote config s name k a b w o) :
    b.registrar.phase = Lifecycle.next a.registrar.phase o := by
  obtain ⟨version, same⟩ := wrote.same
  rw [same]
  exact Task.update_phase

theorem Sound.edited (sound : Sound config s) (first : (s.stored name)[k]? = some a)
    (second : (s.stored name)[k + 1]? = some b) (user : b.writer = none) :
    b.registrar.status = a.registrar.status := by
  cases sound.linked first second with
  | edited _ kept => exact kept
  | written worker =>
    rw [user] at worker
    cases worker

/-- From a version on the status has been the same, and no worker has written it. -/
def Settled (s : State) (name : String) (k : Nat) (status : Option Status) : Prop :=
  ∀ m v, k ≤ m → (s.stored name)[m]? = some v → v.registrar.status = status ∧ (k < m → v.writer = none)

theorem Settled.phase {r : Registrar} {m : Nat} {v : Version} (settled : Settled s name k r.status) (later : k ≤ m)
    (stored : (s.stored name)[m]? = some v) : v.registrar.phase = r.phase := by
  have status := (settled m v later stored).1
  rw [Registrar.phase, status]
  rfl

private theorem Sound.last_write (sound : Sound config s) {last : Nat} (found : (s.stored name)[last]? = some b) :
    ∃ k a, (s.stored name)[k]? = some a ∧ (k = 0 ∨ a.writer.isSome = true) ∧
      ∀ m v, k ≤ m → m ≤ last → (s.stored name)[m]? = some v →
        v.registrar.status = b.registrar.status ∧ (k < m → v.writer = none) := by
  -- From one version back to the one before it, until there is a writer.
  induction last generalizing b with
  | zero =>
    refine ⟨0, b, found, .inl rfl, ?_⟩
    intro m v _ below first
    rw [Nat.le_zero.mp below, found] at first
    cases first
    exact ⟨rfl, by omega⟩
  | succ last ih =>
    cases writer : b.writer with
    | some i =>
      refine ⟨last + 1, b, found, .inr (by rw [writer]; rfl), ?_⟩
      intro m v above below same
      rw [Nat.le_antisymm below above, found] at same
      cases same
      exact ⟨rfl, by omega⟩
    | none =>
      obtain ⟨before, previous⟩ := State.stored_before found
      have kept := sound.edited previous found writer
      obtain ⟨k, a, first, origin, since⟩ := ih previous
      refine ⟨k, a, first, origin, ?_⟩
      intro m v above below same
      by_cases earlier : m ≤ last
      · obtain ⟨status, none⟩ := since m v above earlier same
        exact ⟨status.trans kept.symm, none⟩
      · rw [show m = last + 1 by omega, found] at same
        cases same
        exact ⟨rfl, fun _ => writer⟩

/-- The version that stored the present status was the first, or one that a worker wrote. -/
theorem Sound.settled {r : Registrar} (sound : Sound config s) (current : s.current? name = some r) :
    ∃ k a, (s.stored name)[k]? = some a ∧ (k = 0 ∨ a.writer.isSome = true) ∧ Settled s name k r.status := by
  obtain ⟨last, found, rfl⟩ := State.mem_stored_of_current current
  obtain ⟨k, a, stored, origin, since⟩ := sound.last_write found
  refine ⟨k, a, stored, origin, ?_⟩
  intro m v above inside
  obtain ⟨bound, _⟩ := List.getElem?_eq_some_iff.mp inside
  exact since m v above (by omega) inside

end Writes

end BackendRegistrar.Operator
