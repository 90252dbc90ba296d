import BackendRegistrar.Proofs.History

/-! What each rule keeps throughout a run: passes over one registrar follow one another, later
workers start from later copies, generations go up with the specification, and whoever has a write
refused was overtaken. -/

namespace BackendRegistrar.Operator
open Program

variable {rules : Rules} {config : Config} {s t : State} {name : String} {i j k : Nat} {v w : Worker}

section Serialized

/-- Of two passes over a registrar the first was over before the second began. -/
structure Serial (s : State) : Prop where
  ended : ∀ {name : String} {i j : Nat} {v w : Worker}, s.workers[i]? = some v → s.workers[j]? = some w → i < j →
    v.task.passes name = true → w.task.passes name = true → v.finished = true ∧ ∀ x ∈ v.past, x.time ≤ w.begun

private theorem Serial.proceed {x : Exchange environment} {rest : Operation Unit} (serial : Serial s)
    (working : s.workers[k]? = some w) (unfinished : w.finished = false) : Serial (s.proceed k w x rest) := by
  constructor
  intro name i j u v first second before one other
  rcases State.proceed_worker working first with ⟨rfl, rfl⟩ | ⟨_, early⟩ <;>
    rcases State.proceed_worker working second with ⟨rfl, rfl⟩ | ⟨_, late⟩
  · exact absurd before (Nat.lt_irrefl _)
  · rw [(serial.ended working late before one other).1] at unfinished
    cases unfinished
  · have finished := serial.ended early working before one other
    exact finished
  · exact serial.ended early late before one other

private theorem asks_unfinished {op : Environment.Op} {next : op.Answer → Operation Unit}
    (asks : w.rest = .ask op next) : w.finished = false := by
  rw [Worker.finished, asks]

theorem Serial.change (change : Change rules config s.tick t) (serialized : rules.serialized = true)
    (sound : Sound config s) (serial : Serial s) : Serial t := by
  have old : Serial s.tick := ⟨serial.ended⟩
  cases change with
  | idle | delivered | nodesChanged | edited => exact ⟨old.ended⟩
  | @begun task cached alone =>
    constructor
    intro name i j v w first second before one other
    rcases State.begin_worker second with late | ⟨rfl, rfl⟩
    · rcases State.begin_worker first with early | ⟨rfl, rfl⟩
      · exact serial.ended early late before one other
      · obtain ⟨bound, _⟩ := List.getElem?_eq_some_iff.mp late
        omega
    · rcases State.begin_worker first with early | ⟨rfl, rfl⟩
      · cases task with
        | pass r =>
          obtain ⟨called, held, free⟩ := alone r rfl
          obtain ⟨version, found, rfl⟩ := Option.map_eq_some_iff.mp held
          have named := sound.versioned.named (List.mem_of_getElem? found)
          have same : version.registrar.name = name := by simpa [Task.passes] using other
          constructor
          · apply free serialized v (List.mem_of_getElem? early)
            rw [← named, same]
            exact one
          · intro x member
            exact Nat.le_succ_of_le ((sound.working early).since x member).2
        | nodesChanged | endpointsChanged => cases other
      · exact absurd before (Nat.lt_irrefl _)
  | answered working asks => exact old.proceed working (asks_unfinished asks)
  | wrote working asks => exact Serial.proceed (s := s.tick.add _ _) ⟨old.ended⟩ working (asks_unfinished asks)

theorem Serial.start (registrars : List (Registrar × String)) (nodes : List Cluster.Node) :
    Serial (start registrars nodes) := by
  constructor
  intro name i j v w found
  cases found

end Serialized

section Forward

/-- The cache held no later version when a worker began than it holds now, nor than it held when
another worker began later. -/
structure Forward (s : State) : Prop where
  cached : ∀ {i : Nat} {w : Worker}, s.workers[i]? = some w → ∀ name, w.held name ≤ s.held name
  ordered : ∀ {i j : Nat} {v w : Worker}, s.workers[i]? = some v → s.workers[j]? = some w → i ≤ j →
    ∀ name, v.held name ≤ w.held name

private theorem Change.held (change : Change rules config s t) (forward : rules.forward = true) (name : String) :
    s.held name ≤ t.held name := by
  cases change with
  | delivered _ later =>
    dsimp only
    split
    next same =>
      subst same
      exact later forward
    next => exact Nat.le_refl _
  | idle | edited | nodesChanged | begun | answered | wrote => exact Nat.le_refl _

theorem Forward.change (change : Change rules config s.tick t) (allowed : rules.forward = true)
    (forward : Forward s) : Forward t := by
  have later (name : String) : s.held name ≤ t.held name := change.held allowed name
  constructor
  · intro i w found name
    rcases change.before found with ⟨before, old, continues⟩ | ⟨_, _, held, _⟩
    · rw [continues.held]
      exact Nat.le_trans (forward.cached old name) (later name)
    · rw [held]
      exact later name
  · intro i j v w first second before name
    rcases change.before first with ⟨early, old, continues⟩ | ⟨rfl, _, held, _⟩ <;>
      rcases change.before second with ⟨late, other, goesOn⟩ | ⟨last, _, now, _⟩
    · rw [continues.held, goesOn.held]
      exact forward.ordered old other before name
    · rw [continues.held, now]
      exact forward.cached old name
    · obtain ⟨bound, _⟩ := List.getElem?_eq_some_iff.mp other
      exact absurd bound (Nat.not_lt.mpr before)
    · exact Nat.le_of_eq (congrFun (held.trans now.symm) name)

theorem Forward.start (registrars : List (Registrar × String)) (nodes : List Cluster.Node) :
    Forward (start registrars nodes) := by
  constructor
  · intro i w found
    cases found
  · intro i j v w found
    cases found

end Forward

section Willing

/-- Whoever had a write refused had read a version that was no longer the last. -/
structure Overtaken (s : State) : Prop where
  refused : ∀ {i time : Nat} {w : Worker} {name : String} {update : PhaseUpdate} {f : Cluster.Failure},
    s.workers[i]? = some w → ⟨time, ⟨.writeStatus name update, .error f⟩⟩ ∈ w.past →
      ∃ v, (s.stored name)[w.held name + 1]? = some v ∧ v.time < time

/-- A worker that is refused a write for its version asked for the one that it had read, which is not
the last. -/
private theorem refused_read {name : String} {update : PhaseUpdate} {f : Cluster.Failure} {x : Exchange environment}
    (working : Working config s w) (asks : x ∈ w.trace) (refused : x = ⟨.writeStatus name update, .error f⟩)
    (conflict : ∀ r, s.current? name = some r → update.resourceVersion ≠ r.metadata.resourceVersion) :
    ∃ v, (s.stored name)[w.held name + 1]? = some v := by
  obtain ⟨r, o, raises, _, asked⟩ := Task.writes working.reached asks (by rw [refused]; rfl)
  rw [refused] at asked
  obtain ⟨rfl, same⟩ := Environment.Op.writeStatus.inj asked
  obtain ⟨v, read, rfl⟩ := working.copies r raises.copy
  obtain ⟨bound, _⟩ := List.getElem?_eq_some_iff.mp read
  by_cases last : w.held v.registrar.name + 1 = (s.stored v.registrar.name).length
  · have current : s.current? v.registrar.name = some v.registrar := by
      rw [State.current?, List.getLast?_eq_getElem?, ← last, Nat.add_sub_cancel, read]
      rfl
    have stale := conflict v.registrar current
    rw [same, Task.update_resourceVersion] at stale
    exact absurd rfl stale
  · have later : w.held v.registrar.name + 1 < (s.stored v.registrar.name).length := by omega
    exact ⟨_, List.getElem?_eq_getElem later⟩

theorem Overtaken.change (change : Change rules config s.tick t) (willing : rules.willing = true)
    (sound : Sound config s) (overtaken : Overtaken s) : Overtaken t := by
  constructor
  intro i time w name update f found member
  have growth : Grows s t := s.grows_tick.trans change.grows
  have kept {before : Worker} (old : s.workers[i]? = some before) (continues : before.Continues w)
      (member : ⟨time, ⟨.writeStatus name update, .error f⟩⟩ ∈ before.past) :
      ∃ v, (t.stored name)[w.held name + 1]? = some v ∧ v.time < time := by
    obtain ⟨v, stored, earlier⟩ := overtaken.refused old member
    rw [continues.held]
    exact ⟨v, growth.version stored, earlier⟩
  have grown := sound.change change
  cases change with
  | idle | delivered | nodesChanged | edited => exact kept found (.refl w) member
  | begun =>
    rcases State.begin_worker found with old | ⟨_, rfl⟩
    · exact kept old (.refl w) member
    · cases member
  | answered working asks nothing conflict =>
    rcases State.proceed_past working found member with ⟨before, old, continues, earlier⟩ | ⟨_, last⟩
    · exact kept old continues earlier
    · cases last
      have recorded := List.mem_map_of_mem (f := Timed.exchange) member
      obtain ⟨v, stored⟩ := refused_read (grown.working found) recorded rfl (conflict willing name update rfl)
      have before : v.time ≤ s.time := sound.versioned.past (List.mem_of_getElem? stored)
      exact ⟨v, stored, Nat.lt_succ_of_le before⟩
  | wrote working =>
    rcases State.proceed_past (s := s.tick.add _ _) working found member with ⟨before, old, continues, earlier⟩ | ⟨_, last⟩
    · exact kept old continues earlier
    · cases last

theorem Overtaken.start (registrars : List (Registrar × String)) (nodes : List Cluster.Node) :
    Overtaken (start registrars nodes) := by
  constructor
  intro i time w name update f found
  cases found

end Willing

section Raising

/-- The generation goes up from one version to a later one, unless both have the same specification. -/
structure Raised (s : State) : Prop where
  up : ∀ {name : String} {j k : Nat} {a b : Version}, (s.stored name)[j]? = some a → (s.stored name)[k]? = some b →
    j ≤ k → ∃ g h, a.registrar.metadata.generation = some g ∧ b.registrar.metadata.generation = some h ∧
      g ≤ h ∧ (g = h → a.registrar.spec = b.registrar.spec)

private theorem raises_le {r : Registrar} {metadata : Cluster.Metadata} {spec : Spec}
    (raises : Rules.raises r metadata spec = true) :
    ∃ g h, r.metadata.generation = some g ∧ metadata.generation = some h ∧ g ≤ h ∧ (g = h → r.spec = spec) := by
  unfold Rules.raises at raises
  split at raises
  next g h before after =>
    refine ⟨g, h, before, after, ?_⟩
    split at raises
    next same => exact ⟨by simpa using raises, fun _ => same.symm⟩
    next =>
      have less : g < h := by simpa using raises
      exact ⟨Int64.le_of_lt less, fun same => absurd (same ▸ less) Int64.lt_irrefl⟩
  next => cases raises

private theorem Raised.add {r : Registrar} {v : Version} (raised : Raised s) (current : s.current? name = some r)
    (next : ∀ g, r.metadata.generation = some g → ∃ h, v.registrar.metadata.generation = some h ∧ g ≤ h ∧
      (g = h → r.spec = v.registrar.spec)) : Raised (s.add name v) := by
  constructor
  intro other j k a b first second before
  obtain ⟨last, stored, rfl⟩ := State.mem_stored_of_current current
  obtain ⟨bound, _⟩ := List.getElem?_eq_some_iff.mp stored
  rcases State.stored_add second with late | ⟨rfl, rfl, rfl⟩
  · rcases State.stored_add first with early | ⟨rfl, rfl, _⟩
    · exact raised.up early late before
    · obtain ⟨under, _⟩ := List.getElem?_eq_some_iff.mp late
      omega
  · rcases State.stored_add first with early | ⟨_, _, rfl⟩
    · obtain ⟨inside, _⟩ := List.getElem?_eq_some_iff.mp early
      obtain ⟨g, h, one, two, le, same⟩ := raised.up early stored (by omega)
      obtain ⟨top, three, up, kept⟩ := next h two
      refine ⟨g, top, one, three, Int64.le_trans le up, ?_⟩
      intro level
      subst level
      have still := Int64.le_antisymm up le
      rw [same still.symm, kept still]
    · obtain ⟨g, _, one, _⟩ := raised.up stored stored (Nat.le_refl _)
      obtain ⟨top, three, _⟩ := next g one
      exact ⟨top, top, three, three, Int64.le_refl _, fun _ => rfl⟩

theorem Raised.change (change : Change rules config s.tick t) (raising : rules.raising = true)
    (raised : Raised s) : Raised t := by
  have old : Raised s.tick := ⟨raised.up⟩
  cases change with
  | idle | delivered | nodesChanged | begun | answered => exact ⟨old.up⟩
  | edited stored _ _ raises =>
    apply old.add stored
    intro g given
    obtain ⟨before, after, one, two, le, same⟩ := raises_le (raises raising)
    rw [given] at one
    cases one
    exact ⟨after, two, le, same⟩
  | @wrote i _ name version update r _ _ _ stored =>
    have added := old.add (v := ⟨r.written update version, s.tick.time, some i⟩) stored
      fun g given => ⟨g, given, Int64.le_refl _, fun _ => rfl⟩
    exact ⟨added.up⟩

theorem Raised.start {registrars : List (Registrar × String)}
    (given : ∀ r ∈ registrars, r.1.metadata.generation.isSome = true) (nodes : List Cluster.Node) :
    Raised (start registrars nodes) := by
  constructor
  intro name j k a b first second _
  rw [(stored_start second).1] at second
  obtain ⟨rfl, r, version, member, _, rfl⟩ := stored_start first
  rw [first] at second
  cases second
  obtain ⟨g, same⟩ := Option.isSome_iff_exists.mp (given _ member)
  exact ⟨g, g, same, same, Int64.le_refl _, fun _ => rfl⟩

end Raising

end BackendRegistrar.Operator
