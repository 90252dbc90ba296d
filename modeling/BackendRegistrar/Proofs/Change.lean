import BackendRegistrar.Proofs.Operator

/-! What may happen in one step, case by case. Nothing that was stored or exchanged is ever lost. -/

namespace BackendRegistrar
open Program

/-- A write that was accepted. -/
def Exchange.stores : Exchange environment → Bool
  | ⟨.writeStatus _ _, .ok ()⟩ => true
  | _ => false

namespace Operator

variable {rules : Rules} {config : Config} {s t : State}

namespace State

def tick (s : State) : State := { s with time := s.time + 1 }

theorem mem_stored_of_current {name : String} {r : Registrar} (stored : s.current? name = some r) :
    ∃ v, (s.stored name)[(s.stored name).length - 1]? = some v ∧ v.registrar = r := by
  unfold current? at stored
  rw [List.getLast?_eq_getElem?] at stored
  exact Option.map_eq_some_iff.mp stored

theorem stored_before {name : String} {k : Nat} {b : Version} (found : (s.stored name)[k + 1]? = some b) :
    ∃ a, (s.stored name)[k]? = some a := by
  obtain ⟨bound, _⟩ := List.getElem?_eq_some_iff.mp found
  exact ⟨_, List.getElem?_eq_getElem (Nat.lt_of_succ_lt bound)⟩

theorem stored_add {name other : String} {v a : Version} {k : Nat}
    (found : ((s.add name v).stored other)[k]? = some a) :
    (s.stored other)[k]? = some a ∨ other = name ∧ k = (s.stored name).length ∧ a = v := by
  unfold add at found
  dsimp only at found
  split at found
  next same =>
    rw [List.getElem?_append] at found
    split at found
    · exact .inl found
    next after =>
      rw [List.getElem?_singleton] at found
      split at found
      · cases found
        subst same
        exact .inr ⟨rfl, by omega, rfl⟩
      · cases found
  next => exact .inl found

theorem mem_stored_add {name other : String} {v a : Version} (member : a ∈ (s.add name v).stored other) :
    a ∈ s.stored other ∨ other = name ∧ a = v := by
  obtain ⟨k, found⟩ := List.mem_iff_getElem?.mp member
  rcases stored_add found with before | ⟨rfl, _, rfl⟩
  · exact .inl (List.mem_of_getElem? before)
  · exact .inr ⟨rfl, rfl⟩

theorem add_prefix {name other : String} {v : Version} : s.stored other <+: (s.add name v).stored other := by
  unfold add
  dsimp only
  split
  · exact List.prefix_append _ _
  · exact List.prefix_refl _

theorem add_last {name : String} {v : Version} :
    ((s.add name v).stored name)[(s.stored name).length]? = some v := by
  simp [add]

end State

theorem stored_start {registrars : List (Registrar × String)} {nodes : List Cluster.Node} {name : String} {k : Nat}
    {v : Version} (found : ((start registrars nodes).stored name)[k]? = some v) :
    k = 0 ∧ ∃ r version, (r, version) ∈ registrars ∧ r.name = name ∧
      v = ⟨r.edited r.metadata r.spec version, 0, none⟩ := by
  unfold start at found
  dsimp only at found
  split at found
  · cases found
  next r version given =>
    rw [List.getElem?_singleton] at found
    split at found <;> cases found
    have named : r.name = name := by simpa using List.find?_some given
    exact ⟨‹_›, r, version, List.mem_of_find?_eq_some given, named, rfl⟩

/-- What may happen at a time. -/
inductive Change (rules : Rules) (config : Config) (s : State) : State → Prop
  | idle : Change rules config s s
  | edited {name version : String} {r : Registrar} {metadata : Cluster.Metadata} {spec : Spec}
      (stored : s.current? name = some r) (named : metadata.nameAny = name)
      (unused : s.unused name version = true)
      (raised : rules.raising = true → Rules.raises r metadata spec = true) :
      Change rules config s (s.add name ⟨r.edited metadata spec version, s.time, none⟩)
  | delivered {name : String} {number : Nat} (stored : number < (s.stored name).length)
      (forward : rules.forward = true → s.held name ≤ number) :
      Change rules config s { s with held := fun other => if other = name then number else s.held other }
  | nodesChanged (nodes : List Cluster.Node) :
      Change rules config s { s with nodes := nodes, changes := s.time :: s.changes }
  | begun {task : Task} (cached : ∀ r ∈ task.copies, ∃ name, s.cached? name = some r)
      (alone : ∀ r, task = .pass r → ∃ name, s.cached? name = some r ∧
        (rules.serialized = true → ∀ w ∈ s.workers, w.task.passes name = true → w.finished = true))
      (all : ∀ seen, task = .nodesChanged seen → ∀ name ∈ s.names, ∀ r, s.cached? name = some r → r ∈ seen) :
      Change rules config s (s.begin config task)
  | answered {i : Nat} {w : Worker} {op : Environment.Op} {next : op.Answer → Operation Unit}
      {given : op.Answer} (working : s.workers[i]? = some w) (asks : w.rest = .ask op next)
      (nothing : Exchange.stores ⟨op, given⟩ = false)
      (conflict : rules.willing = true → ∀ name update, op = .writeStatus name update →
        ∀ r, s.current? name = some r → update.resourceVersion ≠ r.metadata.resourceVersion) :
      Change rules config s (s.proceed i w ⟨op, given⟩ (next given))
  | wrote {i : Nat} {w : Worker} {name version : String} {update : PhaseUpdate} {r : Registrar}
      {next : Except Cluster.Failure Unit → Operation Unit} (working : s.workers[i]? = some w)
      (asks : w.rest = .ask (I := environment) (.writeStatus name update) next)
      (stored : s.current? name = some r)
      (same : update.resourceVersion.isSome = true → update.resourceVersion = r.metadata.resourceVersion)
      (unused : s.unused name version = true) :
      Change rules config s
        ((s.add name ⟨r.written update version, s.time, some i⟩).proceed i w
          ⟨.writeStatus name update, .ok ()⟩ (next (.ok ())))

private theorem write_change {i : Nat} {w : Worker} {version name : String} {update : PhaseUpdate}
    {next : Except Cluster.Failure Unit → Operation Unit} {given : Except Cluster.Failure Unit}
    (working : s.workers[i]? = some w) (asks : w.rest = .ask (I := environment) (.writeStatus name update) next)
    (written : s.write i version name update = some (given, t)) :
    Change rules config s (t.proceed i w ⟨.writeStatus name update, given⟩ (next given)) := by
  unfold State.write at written
  cases stored : s.current? name with
  | none =>
    rw [stored] at written
    cases written
    refine @Change.answered rules config s i w (.writeStatus name update) next _ working asks rfl ?_
    rintro _ _ _ ⟨⟩ r found
    rw [stored] at found
    cases found
  | some r =>
    simp only [stored] at written
    split at written
    next stale =>
      cases written
      refine @Change.answered rules config s i w (.writeStatus name update) next _ working asks rfl ?_
      rintro _ _ _ ⟨⟩ other found
      rw [stored] at found
      cases found
      exact stale.2
    next current =>
      split at written
      next unused =>
        cases written
        apply Change.wrote working asks stored ?_ unused
        intro versioned
        exact Decidable.of_not_not fun other => current ⟨versioned, other⟩
      next => cases written

private theorem answer_change {i : Nat} {reply : (op : Environment.Op) → op.Answer} {version : String}
    (allowed : rules.allow s (.answer i reply version) = true) :
    Change rules config s (s.answer i reply version) := by
  unfold State.answer
  split
  · exact .idle
  next w working =>
    split
    · exact .idle
    next op next asks =>
      split
      · exact .idle
      next given t responded =>
        have other (nothing : Exchange.stores ⟨op, given⟩ = false) (same : t = s)
            (no : ∀ name update, op ≠ .writeStatus name update) :
            Change rules config s (t.proceed i w ⟨op, given⟩ (next given)) := by
          subst same
          exact .answered working asks nothing fun _ name update write => absurd write (no name update)
        cases op with
        | writeStatus name update =>
          cases replied : reply (.writeStatus name update) with
          | ok _ =>
            rw [replied] at responded
            exact write_change working asks responded
          | error f =>
            rw [replied] at responded
            cases responded
            apply Change.answered working asks rfl
            intro willing
            simp only [Rules.allow, willing, working, Option.bind_some, Worker.asks?, asks, replied] at allowed
            cases allowed
        | read r =>
          cases r
          all_goals
            cases responded
            exact other rfl rfl fun _ _ write => by cases write
        | buildClient | cloud | publish | observe | clock =>
          cases responded
          exact other rfl rfl fun _ _ write => by cases write

private theorem cached_of_mem {order : List String} {r : Registrar} (member : r ∈ order.filterMap s.cached?) :
    ∃ name, s.cached? name = some r := by
  obtain ⟨name, _, cached⟩ := List.mem_filterMap.mp member
  exact ⟨name, cached⟩

/-- Each event that is allowed brings about one of the changes. -/
theorem step_change {e : Event} (allowed : rules.allow s e = true) :
    Change rules config s.tick (s.step config e) := by
  change Change rules config s.tick (s.tick.happen config e)
  cases e with
  | edit name metadata spec version =>
    simp only [State.happen]
    split
    · exact .idle
    next r stored =>
      split
      next possible =>
        apply Change.edited stored possible.1 possible.2
        intro raising
        have stored : s.current? name = some r := stored
        simpa [Rules.allow, raising, stored] using allowed
      next => exact .idle
  | deliver name number =>
    simp only [State.happen]
    split
    next stored =>
      apply Change.delivered stored
      intro forward
      change s.held name ≤ number
      simpa [Rules.allow, forward] using allowed
    next => exact .idle
  | changeNodes nodes => exact .nodesChanged nodes
  | beginPass name =>
    simp only [State.happen]
    split
    · exact .idle
    next r cached =>
      apply Change.begun
      · intro copy member
        rw [List.mem_singleton.mp member]
        exact ⟨name, cached⟩
      · intro copy same
        cases same
        refine ⟨name, cached, ?_⟩
        intro serialized w member passes
        have free : ∀ w ∈ s.workers, w.task.passes name = false ∨ w.finished = true := by
          simpa [Rules.allow, serialized] using allowed
        exact (free w member).resolve_left (by simp [passes])
      · intro seen same
        cases same
  | beginNodes order =>
    simp only [State.happen]
    split
    next covers =>
      apply Change.begun
      · exact fun _ member => cached_of_mem member
      · intro r same
        cases same
      · intro seen same name member r cached
        cases same
        exact List.mem_filterMap.mpr ⟨name, covers member, cached⟩
    next => exact .idle
  | beginEndpoints order ns name =>
    apply Change.begun
    · exact fun _ member => cached_of_mem member
    · intro r same
      cases same
    · intro seen same
      cases same
  | answer i reply version => exact answer_change allowed

/-- What every change keeps holds to the end of a run. -/
theorem run_keeps {P : State → Prop} (keeps : ∀ s t, Change rules config s.tick t → P s → P t)
    (events : List Event) (first : P s) : P (run rules config s events) := by
  induction events generalizing s with
  | nil => exact first
  | cons e later ih =>
    unfold run
    split
    next allowed => exact ih (keeps s _ (step_change allowed) first)
    next => exact ih first

theorem Change.first {name : String} {v : Version} (change : Change rules config s t)
    (found : (t.stored name)[0]? = some v) : (s.stored name)[0]? = some v := by
  have added {other : String} {r : Registrar} {w : Version} (current : s.current? other = some r)
      (found : ((s.add other w).stored name)[0]? = some v) : (s.stored name)[0]? = some v := by
    rcases State.stored_add found with old | ⟨rfl, empty, _⟩
    · exact old
    · obtain ⟨last, stored, _⟩ := State.mem_stored_of_current current
      obtain ⟨bound, _⟩ := List.getElem?_eq_some_iff.mp stored
      omega
  cases change with
  | idle | delivered | nodesChanged | begun | answered => exact found
  | edited stored => exact added stored found
  | wrote _ _ stored => exact added stored found

section Growth

/-- The same work, further on. -/
structure Worker.Continues (w later : Worker) : Prop where
  task : later.task = w.task
  begun : later.begun = w.begun
  held : later.held = w.held
  past : w.past <+: later.past

theorem Worker.Continues.refl (w : Worker) : w.Continues w := ⟨rfl, rfl, rfl, List.prefix_refl _⟩

/-- Nothing that was stored or exchanged is lost. -/
structure Grows (s t : State) : Prop where
  time : s.time ≤ t.time
  stored : ∀ name, s.stored name <+: t.stored name
  workers : ∀ {i : Nat} {w : Worker}, s.workers[i]? = some w → ∃ later, t.workers[i]? = some later ∧ w.Continues later

theorem Worker.Continues.trans {first middle last : Worker} (a : first.Continues middle)
    (b : middle.Continues last) : first.Continues last :=
  ⟨b.task.trans a.task, b.begun.trans a.begun, b.held.trans a.held, a.past.trans b.past⟩

theorem Grows.trans {first middle last : State} (a : Grows first middle) (b : Grows middle last) :
    Grows first last := by
  refine ⟨Nat.le_trans a.time b.time, fun name => (a.stored name).trans (b.stored name), ?_⟩
  intro i w found
  obtain ⟨middle, found, before⟩ := a.workers found
  obtain ⟨later, found, after⟩ := b.workers found
  exact ⟨later, found, before.trans after⟩

private theorem State.grows_add {name : String} {v : Version} : Grows s (s.add name v) :=
  ⟨Nat.le_refl _, fun _ => State.add_prefix, fun found => ⟨_, found, .refl _⟩⟩

private theorem State.grows_begin {task : Task} : Grows s (s.begin config task) where
  time := Nat.le_refl _
  stored _ := List.prefix_refl _
  workers {i w} found := by
    refine ⟨w, ?_, .refl w⟩
    obtain ⟨bound, _⟩ := List.getElem?_eq_some_iff.mp found
    rw [State.begin, List.getElem?_append_left bound, found]

private theorem State.grows_proceed {i : Nat} {w : Worker} {x : Exchange environment} {rest : Operation Unit}
    (working : s.workers[i]? = some w) : Grows s (s.proceed i w x rest) where
  time := Nat.le_refl _
  stored _ := List.prefix_refl _
  workers {j other} found := by
    by_cases same : i = j
    · subst same
      rw [working] at found
      cases found
      obtain ⟨bound, _⟩ := List.getElem?_eq_some_iff.mp working
      exact ⟨_, List.getElem?_set_self bound, rfl, rfl, rfl, List.prefix_append _ _⟩
    · exact ⟨other, (List.getElem?_set_ne same).trans found, .refl other⟩

theorem State.grows_tick (s : State) : Grows s s.tick :=
  ⟨Nat.le_succ _, fun _ => List.prefix_refl _, fun found => ⟨_, found, .refl _⟩⟩

theorem Change.grows (change : Change rules config s t) : Grows s t := by
  cases change with
  | idle | delivered | nodesChanged => exact ⟨Nat.le_refl _, fun _ => List.prefix_refl _, fun found => ⟨_, found, .refl _⟩⟩
  | edited => exact State.grows_add
  | begun => exact State.grows_begin
  | answered working => exact State.grows_proceed working
  | wrote working => exact State.grows_add.trans (State.grows_proceed working)

theorem Grows.version {name : String} {k : Nat} {v : Version} (growth : Grows s t)
    (found : (s.stored name)[k]? = some v) : (t.stored name)[k]? = some v := by
  obtain ⟨later, same⟩ := growth.stored name
  obtain ⟨bound, _⟩ := List.getElem?_eq_some_iff.mp found
  rw [← same, List.getElem?_append_left bound, found]

theorem State.proceed_worker {i j : Nat} {w v : Worker} {x : Exchange environment} {rest : Operation Unit}
    (working : s.workers[i]? = some w) (found : (s.proceed i w x rest).workers[j]? = some v) :
    j = i ∧ v = { w with past := w.past ++ [⟨s.time, x⟩], rest := rest } ∨ j ≠ i ∧ s.workers[j]? = some v := by
  obtain ⟨bound, _⟩ := List.getElem?_eq_some_iff.mp working
  by_cases same : i = j
  · subst same
    rw [State.proceed, List.getElem?_set_self bound] at found
    cases found
    exact .inl ⟨rfl, rfl⟩
  · rw [State.proceed, List.getElem?_set_ne same] at found
    exact .inr ⟨fun other => same other.symm, found⟩

/-- What a worker has exchanged after an answer, it had exchanged before, or the answer ends it. -/
theorem State.proceed_past {i j : Nat} {w later : Worker} {x : Exchange environment} {rest : Operation Unit}
    {y : Timed} (working : s.workers[i]? = some w) (found : (s.proceed i w x rest).workers[j]? = some later)
    (member : y ∈ later.past) :
    (∃ before, s.workers[j]? = some before ∧ before.Continues later ∧ y ∈ before.past) ∨ j = i ∧ y = ⟨s.time, x⟩ := by
  rcases State.proceed_worker working found with ⟨rfl, rfl⟩ | ⟨_, old⟩
  · rcases List.mem_append.mp member with earlier | last
    · exact .inl ⟨w, working, ⟨rfl, rfl, rfl, List.prefix_append _ _⟩, earlier⟩
    · exact .inr ⟨rfl, List.mem_singleton.mp last⟩
  · exact .inl ⟨later, old, .refl later, member⟩

theorem State.begin_worker {j : Nat} {v : Worker} {task : Task}
    (found : (s.begin config task).workers[j]? = some v) :
    s.workers[j]? = some v ∨ j = s.workers.length ∧ v = ⟨task, s.time, s.held, [], task.program config⟩ := by
  rw [State.begin, List.getElem?_append] at found
  split at found
  · exact .inl found
  next after =>
    rw [List.getElem?_singleton] at found
    split at found <;> cases found
    exact .inr ⟨by omega, rfl⟩

/-- Whoever is at work after a change was at work before, has just begun or has just had an answer. -/
theorem Change.worker {i : Nat} {w : Worker} (change : Change rules config s t) (found : t.workers[i]? = some w) :
    s.workers[i]? = some w ∨
      (∃ task, i = s.workers.length ∧ w = ⟨task, s.time, s.held, [], task.program config⟩ ∧
        (∀ r ∈ task.copies, ∃ name, s.cached? name = some r) ∧
        ∀ seen, task = .nodesChanged seen → ∀ name ∈ s.names, ∀ r, s.cached? name = some r → r ∈ seen) ∨
      ∃ (before : Worker) (op : Environment.Op) (next : op.Answer → Operation Unit) (given : op.Answer),
        s.workers[i]? = some before ∧ before.rest = .ask op next ∧
          w = { before with past := before.past ++ [⟨s.time, ⟨op, given⟩⟩], rest := next given } := by
  cases change with
  | idle | delivered | nodesChanged | edited => exact .inl found
  | begun cached _ all =>
    rcases State.begin_worker found with old | ⟨last, rfl⟩
    · exact .inl old
    · exact .inr (.inl ⟨_, last, rfl, cached, all⟩)
  | answered working asks =>
    rcases State.proceed_worker working found with ⟨rfl, rfl⟩ | ⟨_, old⟩
    · exact .inr (.inr ⟨_, _, _, _, working, asks, rfl⟩)
    · exact .inl old
  | wrote working asks =>
    rcases State.proceed_worker (s := s.add _ _) working found with ⟨rfl, rfl⟩ | ⟨_, old⟩
    · exact .inr (.inr ⟨_, _, _, _, working, asks, rfl⟩)
    · exact .inl old

theorem Change.before {i : Nat} {w : Worker} (change : Change rules config s t) (found : t.workers[i]? = some w) :
    (∃ before, s.workers[i]? = some before ∧ before.Continues w) ∨
      i = s.workers.length ∧ w.begun = s.time ∧ w.held = s.held ∧ w.past = [] := by
  rcases change.worker found with old | ⟨task, last, rfl, _, _⟩ | ⟨before, op, next, given, old, _, rfl⟩
  · exact .inl ⟨w, old, .refl w⟩
  · exact .inr ⟨last, rfl, rfl, rfl⟩
  · exact .inl ⟨before, old, rfl, rfl, rfl, List.prefix_append _ _⟩

end Growth

end Operator

end BackendRegistrar
