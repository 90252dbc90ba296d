import BackendRegistrar.Proofs.Draining

/-! How a list of references is registered from the content of a cluster. The content decides what
each reference aims at; the references are pushed in order, each once with what it aims at, and the
first that has no aim or whose push fails is the last that is tried. -/

namespace BackendRegistrar.Registration
open Program Cluster

variable {content : Content} {s : Spec} {kind : Cloud.Kind} {r : ServiceReference} {trace : Trace interface}

/-- The targets for a reference, unless there are none and should be some. -/
def aimFor (s : Spec) (kind : Cloud.Kind) (r : ServiceReference) : Step (List Target) := do
  let targets ← targetsFor s kind r
  if targets.isEmpty && !r.filterByEndpoints then throw (.cloud (.noBackends (s.backendSetFor r)))
  else return targets

theorem registerReference_aims :
    registerReference s kind r = aimFor s kind r >>= pushReported (s.backendSetFor r) := by
  rw [registerReference_eq, aimFor, LawfulMonad.bind_assoc]
  congr 1
  funext targets
  unfold pushFor
  split
  · rfl
  · rw [LawfulMonad.pure_bind]

theorem aimFor_times {chosen : Op → Bool} (others : ∀ asked ∈ r.reads, chosen (.read asked) = false) :
    (aimFor s kind r).run.Times (I := interface) chosen 0 := by
  unfold aimFor
  apply Times.attempt_never (targetsFor_times others)
  intro targets
  split <;> exact .done _

/-- The content answers every reading. -/
def answers (content : Content) : (op : Op) → op.Answer
  | .read r => content r
  | .push _ _ => .ok ()

/-- What a reference aims at, by the content of the cluster. -/
def aim (content : Content) (s : Spec) (kind : Cloud.Kind) (r : ServiceReference) : Except Error (List Target) :=
  (aimFor s kind r).run.outcome (answers content)

/-- What is read to find the aim of a reference. -/
def readings (content : Content) (s : Spec) (kind : Cloud.Kind) (r : ServiceReference) : Trace interface :=
  (aimFor s kind r).run.transcript (answers content)

theorem readings_complete : (aimFor s kind r).run.Completes (readings content s kind r) (aim content s kind r) :=
  completes_transcript _ _

theorem readings_read : ∀ x ∈ readings content s kind r, x.op.pushes = false :=
  Times.none (aimFor_times fun _ _ => rfl) readings_complete

theorem aimFor_completes {result : Except Error (List Target)} (reflects : Reflects content trace)
    (completes : (aimFor s kind r).run.Completes trace result) :
    trace = readings content s kind r ∧ result = aim content s kind r := by
  apply eq_transcript completes
  have never : (aimFor s kind r).run.Times (I := interface) Op.pushes 0 := aimFor_times fun _ _ => rfl
  intro ⟨op, answer⟩ member
  cases op with
  | read asked => exact reflects _ member asked answer rfl
  | push backendSet targets => cases never.none completes _ member

theorem pushReported_completes {backendSet : String} {targets : List Target} {result : Except Error Report} :
    (pushReported backendSet targets).run.Completes trace result ↔
      ∃ answer : Except CloudError Unit, trace = [⟨.push backendSet targets, answer⟩] ∧
        result = (answer.mapError Error.cloud).map fun _ => ⟨backendSet, targets.length⟩ := by
  have asks : (pushReported backendSet targets).run = ask (I := interface) (.push backendSet targets)
      fun answer => .done ((answer.mapError Error.cloud).map fun _ => ⟨backendSet, targets.length⟩) := by
    change Program.ask _ _ = _
    congr 1
    funext answer
    cases answer <;> rfl
  rw [asks, completes_ask]
  constructor
  · rintro ⟨answer, later, rfl, ending⟩
    obtain ⟨rfl, rfl⟩ := completes_done.mp ending
    exact ⟨answer, rfl, rfl⟩
  · rintro ⟨answer, rfl, rfl⟩
    exact ⟨answer, [], rfl, .start _⟩

/-- How the registration of a reference fails: it has no aim, or it is refused what it aims at. -/
inductive Stopped (content : Content) (s : Spec) (kind : Cloud.Kind) (r : ServiceReference) :
    Trace interface → Error → Prop
  | aimless {e : Error} (failed : aim content s kind r = .error e) :
      Stopped content s kind r (readings content s kind r) e
  | refused {targets : List Target} (aimed : aim content s kind r = .ok targets) (e : CloudError) :
      Stopped content s kind r (readings content s kind r ++ [⟨.push (s.backendSetFor r) targets, .error e⟩]) (.cloud e)

/-- The targets that a reference aims at, if it has an aim. -/
def aimed (content : Content) (s : Spec) (kind : Cloud.Kind) (r : ServiceReference) : List Target :=
  (aim content s kind r).toOption.getD []

/-- What is asked for a reference that is registered. -/
def registered (content : Content) (s : Spec) (kind : Cloud.Kind) (r : ServiceReference) : Trace interface :=
  readings content s kind r ++ [⟨.push (s.backendSetFor r) (aimed content s kind r), .ok ()⟩]

def report (content : Content) (s : Spec) (kind : Cloud.Kind) (r : ServiceReference) : Report :=
  ⟨s.backendSetFor r, (aimed content s kind r).length⟩

theorem registerReference_completes {result : Except Error Report} (reflects : Reflects content trace)
    (completes : (registerReference s kind r).run.Completes trace result) :
    (∃ e, result = .error e ∧ Stopped content s kind r trace e) ∨
      trace = registered content s kind r ∧ result = .ok (report content s kind r) ∧
        aim content s kind r = .ok (aimed content s kind r) := by
  rw [registerReference_aims] at completes
  rcases completes_attempt_bind.mp completes with ⟨e, failed, rfl⟩ | ⟨first, second, targets, rfl, aiming, later⟩
  · obtain ⟨rfl, same⟩ := aimFor_completes reflects failed
    exact .inl ⟨e, rfl, .aimless same.symm⟩
  · obtain ⟨rfl, same⟩ := aimFor_completes reflects.append.1 aiming
    obtain ⟨answer, rfl, rfl⟩ := pushReported_completes.mp later
    cases answer with
    | error e => exact .inl ⟨.cloud e, rfl, .refused same.symm e⟩
    | ok _ =>
      have found : aimed content s kind r = targets := by
        rw [aimed, ← same]
        rfl
      right
      rw [registered, report, found]
      exact ⟨rfl, rfl, same.symm⟩

/-- How far a list was registered: all references of `done`, and then the list was at its end, or the
next reference failed. -/
structure Progress (content : Content) (s : Spec) (kind : Cloud.Kind) (rs : List ServiceReference)
    (trace : Trace interface) (result : Except Error (List Report)) (done rest : List ServiceReference)
    (last : Trace interface) : Prop where
  whole : rs = done ++ rest
  asked : trace = done.flatMap (registered content s kind) ++ last
  aims : ∀ r ∈ done, aim content s kind r = .ok (aimed content s kind r)
  ends : rest = [] ∧ last = [] ∧ result = .ok (done.map (report content s kind)) ∨
    ∃ r after e, rest = r :: after ∧ result = .error e ∧ Stopped content s kind r last e

theorem registerAll_completes {rs : List ServiceReference} {result : Except Error (List Report)}
    (reflects : Reflects content trace) (completes : (registerAll s kind rs).run.Completes trace result) :
    ∃ done rest last, Progress content s kind rs trace result done rest last := by
  induction rs generalizing trace result with
  | nil =>
    obtain ⟨rfl, rfl⟩ := completes_done.mp completes
    exact ⟨[], [], [], rfl, rfl, nofun, .inl ⟨rfl, rfl, rfl⟩⟩
  | cons r rs ih =>
    rcases completes_attempt_bind.mp completes with ⟨e, failed, rfl⟩ | ⟨one, others, first, rfl, succeeds, later⟩
    · rcases registerReference_completes reflects failed with ⟨_, same, stopped⟩ | ⟨_, impossible, _⟩
      · cases same
        exact ⟨[], r :: rs, trace, rfl, rfl, nofun, .inr ⟨r, rs, e, rfl, rfl, stopped⟩⟩
      · cases impossible
    · rcases registerReference_completes reflects.append.1 succeeds with ⟨_, impossible, _⟩ | ⟨rfl, same, aims⟩
      · cases impossible
      · cases same
        have continued : ∃ inner, (registerAll s kind rs).run.Completes others inner ∧
            result = inner.map (report content s kind r :: ·) := by
          rcases completes_attempt_bind.mp later with
            ⟨e, inside, rfl⟩ | ⟨middle, ending, reports, rfl, inside, finished⟩
          · exact ⟨.error e, inside, rfl⟩
          · obtain ⟨rfl, rfl⟩ := completes_done.mp finished
            exact ⟨.ok reports, by simpa using inside, rfl⟩
        obtain ⟨inner, inside, rfl⟩ := continued
        obtain ⟨done, rest, last, progress⟩ := ih reflects.append.2 inside
        refine ⟨r :: done, rest, last, ?_, ?_, ?_, ?_⟩
        · rw [progress.whole, List.cons_append]
        · rw [progress.asked, List.flatMap_cons, List.append_assoc]
        · intro other member
          rcases List.mem_cons.mp member with rfl | member
          · exact aims
          · exact progress.aims other member
        · rcases progress.ends with ⟨none, nothing, rfl⟩ | ⟨next, after, e, more, rfl, stopped⟩
          · exact .inl ⟨none, nothing, rfl⟩
          · exact .inr ⟨next, after, e, more, rfl, stopped⟩

/-- The pushes that succeeded, in order. -/
def pushed (trace : Trace interface) : List (String × List Target) :=
  trace.filterMap fun
    | ⟨.push backendSet targets, .ok ()⟩ => some (backendSet, targets)
    | _ => none

theorem pushed_eq_nil {trace : Trace interface} (reads : ∀ x ∈ trace, x.op.pushes = false) : pushed trace = [] := by
  apply List.filterMap_eq_nil_iff.mpr
  intro ⟨op, answer⟩ member
  cases op with
  | read asked => rfl
  | push backendSet targets => cases reads _ member

theorem pushed_registered : pushed (registered content s kind r) = [(s.backendSetFor r, aimed content s kind r)] := by
  have none : pushed (readings content s kind r) = [] := pushed_eq_nil readings_read
  unfold pushed at none
  rw [registered, pushed, List.filterMap_append, none]
  rfl

theorem Stopped.pushed {e : Error} (stopped : Stopped content s kind r trace e) : pushed trace = [] := by
  have none : Registration.pushed (readings content s kind r) = [] := pushed_eq_nil readings_read
  cases stopped with
  | aimless failed => exact none
  | refused aimed e =>
    unfold Registration.pushed at none ⊢
    rw [List.filterMap_append, none]
    rfl

/-- The pushes that succeeded are those of the references that were registered. -/
theorem Progress.pushed {rs done rest : List ServiceReference} {last : Trace interface}
    {result : Except Error (List Report)} (progress : Progress content s kind rs trace result done rest last) :
    pushed trace = done.map fun r => (s.backendSetFor r, aimed content s kind r) := by
  have ending : Registration.pushed last = [] := by
    rcases progress.ends with ⟨_, rfl, _⟩ | ⟨_, _, _, _, _, stopped⟩
    · rfl
    · exact stopped.pushed
  have beginning : Registration.pushed (done.flatMap (registered content s kind)) =
      done.map fun r => (s.backendSetFor r, aimed content s kind r) := by
    clear progress
    induction done with
    | nil => rfl
    | cons r done ih =>
      have first : Registration.pushed (registered content s kind r) = _ := pushed_registered
      unfold Registration.pushed at first ih ⊢
      rw [List.flatMap_cons, List.filterMap_append, first, ih]
      rfl
  rw [progress.asked]
  unfold Registration.pushed at beginning ending ⊢
  rw [List.filterMap_append, beginning, ending, List.append_nil]

end BackendRegistrar.Registration
