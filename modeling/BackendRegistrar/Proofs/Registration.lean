import BackendRegistrar.Proofs.Inventory
import BackendRegistrar.Registration

/-! What registration asks. References are taken one by one: the targets of a reference are read
from the cluster, then pushed, and nothing follows a failure. So a registration that succeeds has
only pushes that succeeded. -/

namespace BackendRegistrar
open Program Cluster

/-- What is read of the cluster to register the reference. -/
def ServiceReference.reads (r : ServiceReference) : List Read :=
  .service r.ns r.name :: .nodes :: if r.filterByEndpoints then [.endpoints r.ns r.name, .pods r.ns] else []

/-- All that can be read to register what is asked for, with a list of services or without. -/
def Spec.reads (s : Spec) : List Read := .nodes :: s.references.flatMap ServiceReference.reads

theorem Spec.mem_reads {s : Spec} {r : ServiceReference} {asked : Read} (among : r ∈ s.references)
    (member : asked ∈ r.reads) : asked ∈ s.reads :=
  List.mem_cons_of_mem _ (List.mem_flatMap.mpr ⟨r, among, member⟩)

namespace Registration

def Op.pushes : Op → Bool
  | push _ _ => true
  | read _ => false

def ofReading (x : Exchange reading) : Exchange interface := ⟨.read x.op, x.answer⟩

variable {s : Spec} {kind : Cloud.Kind} {r : ServiceReference} {trace : Trace interface}

private theorem spelled_readings {short : Trace reading} :
    Spelled (J := interface) (fun r => .perform (I := interface) (.read r)) short trace ↔
      trace = short.map ofReading := by
  constructor
  · intro spelled
    induction spelled with
    | nil => rfl
    | @cons op answer rest first second run later ih =>
      obtain rfl := completes_perform.mp run
      rw [ih]
      rfl
  · rintro rfl
    induction short with
    | nil => exact .nil
    | cons x rest ih =>
      have one : (perform (I := interface) (.read x.op)).Completes [ofReading x] x.answer :=
        completes_perform.mpr rfl
      exact .cons one ih

theorem survey_succeeds {p : Inventory.Survey α} {value : α} :
    (survey p).run.Completes trace (.ok value) ↔
      ∃ short, p.run.Completes short (.ok value) ∧ trace = short.map ofReading := by
  change (Program.bind _ _).Completes trace _ ↔ _
  rw [completes_bind]
  constructor
  · rintro ⟨first, second, answer, rfl, completes, later⟩
    obtain ⟨rfl, same⟩ := completes_done.mp later
    obtain ⟨short, inside, spelled⟩ := completes_translate.mp completes
    cases answer with
    | error e => cases same
    | ok found =>
      cases same
      exact ⟨short, inside, by simpa using spelled_readings.mp spelled⟩
  · rintro ⟨short, inside, rfl⟩
    exact ⟨_, [], .ok value, (List.append_nil _).symm,
      completes_translate.mpr ⟨short, inside, spelled_readings.mpr rfl⟩, .start _⟩

theorem survey_times {chosen : Op → Bool} {p : Inventory.Survey α}
    (never : p.run.Times (I := reading) (fun asked => chosen (.read asked)) 0) :
    (survey p).run.Times (I := interface) chosen 0 := by
  apply Times.bind_never
  · exact never.translate_never fun asked other => .passed other fun _ => .done _
  · exact fun answer => .done _

section Pushes

variable {backendSet : String} {targets : List Target}

theorem push_succeeds :
    (push backendSet targets).run.Completes trace (.ok ()) ↔ trace = [⟨.push backendSet targets, .ok ()⟩] := by
  change (Program.bind _ _).Completes trace _ ↔ _
  rw [completes_bind]
  constructor
  · rintro ⟨first, second, answer, rfl, pushed, later⟩
    obtain ⟨rfl, given⟩ := completes_done.mp later
    cases answer with
    | error e => cases given
    | ok _ => simpa using completes_perform.mp pushed
  · rintro rfl
    exact ⟨_, [], .ok (), (List.append_nil _).symm, completes_perform.mpr rfl, .start _⟩

theorem push_asks {op : Op} :
    (push backendSet targets).run.Asks trace op ↔ trace = [] ∧ op = .push backendSet targets := by
  change (Program.bind _ _).Asks trace op ↔ _
  rw [asks_bind, asks_perform]
  refine or_iff_left ?_
  rintro ⟨_, _, _, _, _, impossible⟩
  exact asks_done impossible

theorem pushReported_asks {op : Op} :
    (pushReported backendSet targets).run.Asks trace op ↔ trace = [] ∧ op = .push backendSet targets := by
  rw [pushReported, asks_attempt_bind, push_asks]
  refine or_iff_left ?_
  rintro ⟨_, _, _, _, _, impossible⟩
  exact asks_done impossible

theorem pushReported_succeeds {report : Report} :
    (pushReported backendSet targets).run.Completes trace (.ok report) ↔
      trace = [⟨.push backendSet targets, .ok ()⟩] ∧ report = ⟨backendSet, targets.length⟩ := by
  rw [pushReported, succeeds_bind]
  constructor
  · rintro ⟨first, second, _, rfl, pushed, reported⟩
    obtain rfl := push_succeeds.mp pushed
    obtain ⟨rfl, same⟩ := completes_done.mp reported
    cases same
    exact ⟨rfl, rfl⟩
  · rintro ⟨rfl, rfl⟩
    exact ⟨_, [], (), rfl, push_succeeds.mpr rfl, .start _⟩

end Pushes

section References

def targetsFor (s : Spec) (kind : Cloud.Kind) (r : ServiceReference) : Step (List Target) := do
  let resolved ← survey (Inventory.resolveNodePort r)
  let nodes ← nodesFor r
  return Node.targets nodes (s.portFor kind resolved) (s.weightFor r)

/-- Pushes what was read for a reference; a refusal when there is nothing and should be something. -/
def pushFor (s : Spec) (r : ServiceReference) (targets : List Target) : Step Report :=
  if targets.isEmpty && !r.filterByEndpoints then throw (.cloud (.noBackends (s.backendSetFor r)))
  else pushReported (s.backendSetFor r) targets

theorem registerReference_eq : registerReference s kind r = targetsFor s kind r >>= pushFor s r := by
  simp only [registerReference, targetsFor, LawfulMonad.bind_assoc, LawfulMonad.pure_bind]
  rfl

theorem nodesFor_succeeds {nodes : List Node} :
    (nodesFor r).run.Completes trace (.ok nodes) ↔
      ∃ short, trace = short.map ofReading ∧
        (r.filterByEndpoints = true ∧ (Inventory.nodesForService r).run.Completes short (.ok nodes) ∨
          r.filterByEndpoints = false ∧ Inventory.allNodes.run.Completes short (.ok nodes)) := by
  unfold nodesFor
  cases r.filterByEndpoints
  all_goals
    simp only [Bool.false_eq_true, ite_true, ite_false, survey_succeeds, false_and, true_and, false_or, or_false,
      reduceCtorEq]
    exact exists_congr fun _ => And.comm

theorem targetsFor_succeeds {targets : List Target} :
    (targetsFor s kind r).run.Completes trace (.ok targets) ↔
      ∃ (service : Service) (resolved : Int32) (readings : Trace interface) (nodes : List Node),
        trace = ⟨.read (.service r.ns r.name), .ok service⟩ :: readings ∧
          service.nodePort r.port = .ok resolved ∧ (nodesFor r).run.Completes readings (.ok nodes) ∧
          targets = Node.targets nodes (s.portFor kind resolved) (s.weightFor r) := by
  unfold targetsFor
  rw [succeeds_bind]
  constructor
  · rintro ⟨first, second, resolved, rfl, found, later⟩
    obtain ⟨_, inside, rfl⟩ := survey_succeeds.mp found
    obtain ⟨service, rfl, same⟩ := Inventory.resolveNodePort_succeeds.mp inside
    obtain ⟨readings, last, nodes, rfl, listed, ending⟩ := succeeds_bind.mp later
    obtain ⟨rfl, targets⟩ := completes_done.mp ending
    cases targets
    exact ⟨service, resolved, readings, nodes, by simp [ofReading], same, listed, rfl⟩
  · rintro ⟨service, resolved, readings, nodes, rfl, same, listed, rfl⟩
    refine ⟨[⟨.read (.service r.ns r.name), .ok service⟩], readings, resolved, rfl, ?_, ?_⟩
    · exact survey_succeeds.mpr ⟨_, Inventory.resolveNodePort_succeeds.mpr ⟨service, rfl, same⟩, rfl⟩
    · exact succeeds_bind.mpr ⟨readings, [], nodes, (List.append_nil _).symm, listed, .start _⟩

theorem nodesFor_times {chosen : Op → Bool} (others : ∀ asked ∈ r.reads, chosen (.read asked) = false) :
    (nodesFor r).run.Times (I := interface) chosen 0 := by
  unfold nodesFor
  split
  next filters =>
    simp only [ServiceReference.reads, filters, ite_true] at others
    apply survey_times
    exact Inventory.nodesForService_times (others _ (by simp)) (others _ (by simp)) (others _ (by simp))
  next => exact survey_times (Inventory.allNodes_times (others _ (by simp [ServiceReference.reads])))

theorem targetsFor_times {chosen : Op → Bool} (others : ∀ asked ∈ r.reads, chosen (.read asked) = false) :
    (targetsFor s kind r).run.Times (I := interface) chosen 0 := by
  apply Times.attempt_never
  · exact survey_times (Inventory.resolveNodePort_times (others _ (by simp [ServiceReference.reads])))
  · exact fun resolved => (nodesFor_times others).attempt_never fun nodes => .done _

theorem pushFor_asks {op : Op} {targets : List Target} :
    (pushFor s r targets).run.Asks trace op ↔
      (targets = [] → r.filterByEndpoints = true) ∧ trace = [] ∧ op = .push (s.backendSetFor r) targets := by
  unfold pushFor
  split
  next refused =>
    simp only [Bool.and_eq_true, List.isEmpty_iff, Bool.not_eq_true'] at refused
    constructor
    · exact fun impossible => absurd impossible asks_done
    · rintro ⟨follows, _⟩
      rw [follows refused.1] at refused
      cases refused.2
  next allowed =>
    rw [pushReported_asks]
    constructor
    · intro asked
      refine ⟨?_, asked⟩
      intro empty
      simpa [empty] using allowed
    · exact fun asked => asked.2

theorem pushFor_succeeds {targets : List Target} {report : Report} :
    (pushFor s r targets).run.Completes trace (.ok report) ↔
      (targets = [] → r.filterByEndpoints = true) ∧
        trace = [⟨.push (s.backendSetFor r) targets, .ok ()⟩] ∧
        report = ⟨s.backendSetFor r, targets.length⟩ := by
  unfold pushFor
  split
  next refused =>
    simp only [Bool.and_eq_true, List.isEmpty_iff, Bool.not_eq_true'] at refused
    constructor
    · intro impossible
      obtain ⟨_, impossible⟩ := completes_done.mp impossible
      cases impossible
    · rintro ⟨follows, _⟩
      rw [follows refused.1] at refused
      cases refused.2
  next allowed =>
    rw [pushReported_succeeds]
    constructor
    · intro pushed
      refine ⟨?_, pushed⟩
      intro empty
      simpa [empty] using allowed
    · exact fun pushed => pushed.2

/-- The one push of a reference comes after its readings. -/
theorem registerReference_asks_push {backendSet : String} {targets : List Target} :
    (registerReference s kind r).run.Asks trace (.push backendSet targets) ↔
      (targetsFor s kind r).run.Completes trace (.ok targets) ∧ backendSet = s.backendSetFor r ∧
        (targets = [] → r.filterByEndpoints = true) := by
  rw [registerReference_eq, asks_attempt_bind]
  constructor
  · rintro (reading | ⟨first, second, found, rfl, completes, later⟩)
    · have never : (targetsFor s kind r).run.Times (I := interface) Op.pushes 0 := targetsFor_times fun _ _ => rfl
      cases never.not_asks reading
    · obtain ⟨follows, rfl, same⟩ := pushFor_asks.mp later
      cases same
      exact ⟨by simpa using completes, rfl, follows⟩
  · rintro ⟨completes, rfl, follows⟩
    exact .inr ⟨trace, [], targets, by simp, completes, pushFor_asks.mpr ⟨follows, rfl, rfl⟩⟩

theorem registerReference_succeeds {report : Report} :
    (registerReference s kind r).run.Completes trace (.ok report) ↔
      ∃ readings targets, trace = readings ++ [⟨.push (s.backendSetFor r) targets, .ok ()⟩] ∧
        (targetsFor s kind r).run.Completes readings (.ok targets) ∧
        (targets = [] → r.filterByEndpoints = true) ∧ report = ⟨s.backendSetFor r, targets.length⟩ := by
  rw [registerReference_eq, succeeds_bind]
  constructor
  · rintro ⟨readings, pushing, targets, rfl, completes, later⟩
    obtain ⟨follows, rfl, same⟩ := pushFor_succeeds.mp later
    exact ⟨readings, targets, rfl, completes, follows, same⟩
  · rintro ⟨readings, targets, rfl, completes, follows, same⟩
    exact ⟨readings, _, targets, rfl, completes, pushFor_succeeds.mpr ⟨follows, rfl, same⟩⟩

/-- Whatever is asked, it is asked for a reference of which all before have been registered. -/
theorem registerAll_asks {rs : List ServiceReference} {op : Op} :
    (registerAll s kind rs).run.Asks trace op ↔
      ∃ before r after earlier now reports, rs = before ++ r :: after ∧ trace = earlier ++ now ∧
        (registerAll s kind before).run.Completes earlier (.ok reports) ∧
        (registerReference s kind r).run.Asks now op := by
  induction rs generalizing trace with
  | nil =>
    constructor
    · exact fun impossible => absurd impossible asks_done
    · rintro ⟨before, r, after, _, _, _, impossible, _⟩
      simp at impossible
  | cons first rest ih =>
    rw [registerAll, asks_attempt_bind]
    constructor
    · rintro (asks | ⟨earlier, later, report, rfl, registered, asks⟩)
      · exact ⟨[], first, rest, [], trace, [], rfl, rfl, .start _, asks⟩
      · rcases asks_attempt_bind.mp asks with asks | ⟨_, _, _, _, _, impossible⟩
        · obtain ⟨before, r, after, middle, now, reports, rfl, rfl, completes, asks⟩ := ih.mp asks
          refine ⟨first :: before, r, after, earlier ++ middle, now, report :: reports, rfl, by simp, ?_, asks⟩
          exact succeeds_bind.mpr ⟨earlier, middle, report, rfl, registered,
            succeeds_bind.mpr ⟨middle, [], reports, by simp, completes, .start _⟩⟩
        · exact absurd impossible asks_done
    · rintro ⟨before, r, after, earlier, now, reports, same, rfl, completes, asks⟩
      cases before with
      | nil =>
        obtain ⟨rfl, rfl⟩ := List.cons.inj same
        obtain ⟨rfl, _⟩ := completes_done.mp completes
        exact .inl asks
      | cons _ before =>
        obtain ⟨rfl, rfl⟩ := List.cons.inj same
        obtain ⟨one, others, report, rfl, registered, remaining⟩ := succeeds_bind.mp completes
        obtain ⟨middle, last, reports, rfl, inside, ending⟩ := succeeds_bind.mp remaining
        obtain ⟨rfl, _⟩ := completes_done.mp ending
        refine .inr ⟨one, middle ++ now, report, by simp, registered, asks_attempt_bind.mpr (.inl ?_)⟩
        exact ih.mpr ⟨before, r, after, middle, now, reports, rfl, rfl, inside, asks⟩

end References

section Single

def singleTargets (s : Spec) : Step (List Target) := do
  let resolved ← singlePort s
  let port := determinePort s.port resolved
  if port = 0 then throw (.validation "no port configured: set nodePort, port or service")
  else
    let nodes ← singleNodes s
    let targets := Node.targets nodes port s.weight
    if targets.isEmpty then throw (nothingToRegister s) else return targets

theorem registerSingle_eq : registerSingle s = singleTargets s >>= pushReported s.backendSetName := by
  simp only [registerSingle, singleTargets, LawfulMonad.bind_assoc]
  congr 1
  funext resolved
  by_cases zero : determinePort s.port resolved = 0
  · simp only [zero, ite_true]
    rfl
  · simp only [zero, ite_false, LawfulMonad.bind_assoc]
    congr 1
    funext nodes
    split
    · rfl
    · rw [LawfulMonad.pure_bind]

theorem singlePort_times {chosen : Op → Bool} (others : ∀ asked ∈ s.reads, chosen (.read asked) = false) :
    (singlePort s).run.Times (I := interface) chosen 0 := by
  unfold singlePort
  split
  next r single =>
    have among : r ∈ s.references := by simp [Spec.references, single]
    have readFirst : Read.service r.ns r.name ∈ s.reads :=
      Spec.mem_reads among (by simp [ServiceReference.reads])
    exact survey_times (Inventory.resolveNodePort_times (others _ readFirst))
  next => exact .done _

theorem singleNodes_times {chosen : Op → Bool} (others : ∀ asked ∈ s.reads, chosen (.read asked) = false) :
    (singleNodes s).run.Times (I := interface) chosen 0 := by
  unfold singleNodes
  split
  next r single =>
    have among : r ∈ s.references := by simp [Spec.references, single]
    exact nodesFor_times fun asked member => others asked (Spec.mem_reads among member)
  next => exact survey_times (Inventory.allNodes_times (others _ List.mem_cons_self))

theorem singleTargets_times {chosen : Op → Bool} (others : ∀ asked ∈ s.reads, chosen (.read asked) = false) :
    (singleTargets s).run.Times (I := interface) chosen 0 := by
  unfold singleTargets
  apply Times.attempt_never (singlePort_times others)
  intro resolved
  dsimp only
  split
  · exact .done _
  · apply Times.attempt_never (singleNodes_times others)
    intro nodes
    split <;> exact .done _

theorem singleTargets_succeeds {targets : List Target} :
    (singleTargets s).run.Completes trace (.ok targets) ↔
      ∃ (first second : Trace interface) (resolved : Int32) (nodes : List Node), trace = first ++ second ∧
        (singlePort s).run.Completes first (.ok resolved) ∧ determinePort s.port resolved ≠ 0 ∧
        (singleNodes s).run.Completes second (.ok nodes) ∧
        targets = Node.targets nodes (determinePort s.port resolved) s.weight ∧ targets ≠ [] := by
  unfold singleTargets
  rw [succeeds_bind]
  constructor
  · rintro ⟨first, second, resolved, rfl, found, later⟩
    dsimp only at later
    split at later
    next =>
      obtain ⟨_, impossible⟩ := completes_done.mp later
      cases impossible
    next set =>
      obtain ⟨listing, last, nodes, rfl, listed, ending⟩ := succeeds_bind.mp later
      split at ending
      next =>
        obtain ⟨_, impossible⟩ := completes_done.mp ending
        cases impossible
      next some =>
        obtain ⟨rfl, same⟩ := completes_done.mp ending
        cases same
        exact ⟨first, listing, resolved, nodes, by simp, found, set, listed, rfl, by simpa using some⟩
  · rintro ⟨first, second, resolved, nodes, rfl, found, set, listed, rfl, some⟩
    refine ⟨first, second, resolved, rfl, found, ?_⟩
    dsimp only
    rw [if_neg set]
    refine succeeds_bind.mpr ⟨second, [], nodes, (List.append_nil _).symm, listed, ?_⟩
    rw [if_neg (by simpa using some)]
    exact .start _

/-- Without a list of services nothing is ever not registered without a failure. -/
theorem singleTargets_ne_nil {targets : List Target}
    (completes : (singleTargets s).run.Completes trace (.ok targets)) : targets ≠ [] := by
  obtain ⟨_, _, _, _, _, _, _, _, _, some⟩ := singleTargets_succeeds.mp completes
  exact some

theorem registerSingle_asks_push {backendSet : String} {targets : List Target} :
    (registerSingle s).run.Asks trace (.push backendSet targets) ↔
      (singleTargets s).run.Completes trace (.ok targets) ∧ backendSet = s.backendSetName := by
  rw [registerSingle_eq, asks_attempt_bind]
  constructor
  · rintro (reading | ⟨first, second, found, rfl, completes, later⟩)
    · have never : (singleTargets s).run.Times (I := interface) Op.pushes 0 := singleTargets_times fun _ _ => rfl
      cases never.not_asks reading
    · obtain ⟨rfl, same⟩ := pushReported_asks.mp later
      cases same
      exact ⟨by simpa using completes, rfl⟩
  · rintro ⟨completes, rfl⟩
    exact .inr ⟨trace, [], targets, by simp, completes, pushReported_asks.mpr ⟨rfl, rfl⟩⟩

end Single

section Whole

def FailedPush (x : Exchange interface) : Prop := ∃ backendSet targets e, x = ⟨.push backendSet targets, .error e⟩

private theorem readings_not_failed {p : Step α} (never : p.run.Times (I := interface) Op.pushes 0)
    {answer : Except Error α} (completes : p.run.Completes trace answer) : ∀ x ∈ trace, ¬ FailedPush x := by
  rintro x member ⟨backendSet, targets, e, rfl⟩
  have := never.none completes _ member
  cases this

private theorem append_push_not_failed {backendSet : String} {targets : List Target}
    (readings : ∀ x ∈ trace, ¬ FailedPush x) :
    ∀ x ∈ trace ++ [(⟨.push backendSet targets, .ok ()⟩ : Exchange interface)], ¬ FailedPush x := by
  intro x member
  rcases List.mem_append.mp member with earlier | last
  · exact readings x earlier
  · obtain rfl := List.mem_singleton.mp last
    rintro ⟨_, _, e, same⟩
    cases same

theorem registerReference_pushed {report : Report}
    (completes : (registerReference s kind r).run.Completes trace (.ok report)) :
    ∀ x ∈ trace, ¬ FailedPush x := by
  obtain ⟨readings, targets, rfl, reading, _, _⟩ := registerReference_succeeds.mp completes
  exact append_push_not_failed (readings_not_failed (targetsFor_times fun _ _ => rfl) reading)

theorem registerAll_pushed {rs : List ServiceReference} {reports : List Report}
    (completes : (registerAll s kind rs).run.Completes trace (.ok reports)) :
    ∀ x ∈ trace, ¬ FailedPush x := by
  induction rs generalizing trace reports with
  | nil =>
    obtain ⟨rfl, _⟩ := completes_done.mp completes
    simp
  | cons first rest ih =>
    obtain ⟨one, others, report, rfl, registered, remaining⟩ := succeeds_bind.mp completes
    obtain ⟨middle, last, more, rfl, inside, ending⟩ := succeeds_bind.mp remaining
    obtain ⟨rfl, _⟩ := completes_done.mp ending
    intro x member
    rcases List.mem_append.mp member with early | late
    · exact registerReference_pushed registered x early
    · exact ih inside x (by simpa using late)

theorem registerSingle_pushed {report : Report}
    (completes : (registerSingle s).run.Completes trace (.ok report)) : ∀ x ∈ trace, ¬ FailedPush x := by
  rw [registerSingle_eq] at completes
  obtain ⟨readings, pushing, targets, rfl, reading, pushed⟩ := succeeds_bind.mp completes
  obtain ⟨rfl, _⟩ := pushReported_succeeds.mp pushed
  exact append_push_not_failed (readings_not_failed (singleTargets_times fun _ _ => rfl) reading)

theorem register_pushed {reports : List Report}
    (completes : (register s kind).run.Completes trace (.ok reports)) : ∀ x ∈ trace, ¬ FailedPush x := by
  unfold register at completes
  split at completes
  · exact registerAll_pushed completes
  · obtain ⟨first, second, report, rfl, registered, ending⟩ := succeeds_bind.mp completes
    obtain ⟨rfl, _⟩ := completes_done.mp ending
    simpa using registerSingle_pushed registered

end Whole

section Listings

def Listed (trace : Trace interface) : Prop := ∃ nodes, (⟨.read .nodes, .ok nodes⟩ : Exchange interface) ∈ trace

/-- The reference follows its endpoints, and they were read to have no ready address. -/
def ReadIdle (r : ServiceReference) (trace : Trace interface) : Prop :=
  r.filterByEndpoints = true ∧ ∃ endpoints : Endpoints, endpoints.readyIPs = [] ∧
    (⟨.read (.endpoints r.ns r.name), .ok endpoints⟩ : Exchange interface) ∈ trace

theorem nodesFor_listed {nodes : List Node} (completes : (nodesFor r).run.Completes trace (.ok nodes)) :
    Listed trace ∨ nodes = [] ∧ ReadIdle r trace := by
  obtain ⟨short, rfl, ⟨follows, found⟩ | ⟨_, found⟩⟩ := nodesFor_succeeds.mp completes
  · obtain ⟨endpoints, ⟨idle, rfl, rfl⟩ | ⟨_, pods, all, _, rfl⟩⟩ := Inventory.nodesForService_succeeds.mp found
    · exact .inr ⟨rfl, follows, endpoints, idle, List.mem_singleton.mpr rfl⟩
    · exact .inl ⟨all, by simp [ofReading]⟩
  · obtain rfl := Inventory.allNodes_succeeds.mp found
    exact .inl ⟨nodes, List.mem_singleton.mpr rfl⟩

theorem registerReference_listed {report : Report}
    (completes : (registerReference s kind r).run.Completes trace (.ok report)) :
    Listed trace ∨ ReadIdle r trace := by
  obtain ⟨readings, targets, rfl, reading, _⟩ := registerReference_succeeds.mp completes
  obtain ⟨service, resolved, listing, nodes, rfl, _, listed, _⟩ := targetsFor_succeeds.mp reading
  rcases nodesFor_listed listed with ⟨all, member⟩ | ⟨_, follows, endpoints, idle, member⟩
  · exact .inl ⟨all, by simp [member]⟩
  · exact .inr ⟨follows, endpoints, idle, by simp [member]⟩

theorem registerAll_listed {rs : List ServiceReference} {reports : List Report}
    (completes : (registerAll s kind rs).run.Completes trace (.ok reports)) :
    Listed trace ∨ ∀ r ∈ rs, ReadIdle r trace := by
  induction rs generalizing trace reports with
  | nil => exact .inr (by simp)
  | cons first rest ih =>
    obtain ⟨one, others, report, rfl, registered, remaining⟩ := succeeds_bind.mp completes
    obtain ⟨middle, last, more, rfl, inside, ending⟩ := succeeds_bind.mp remaining
    obtain ⟨rfl, _⟩ := completes_done.mp ending
    rcases registerReference_listed registered with ⟨all, member⟩ | ⟨follows, endpoints, idle, member⟩
    · exact .inl ⟨all, by simp [member]⟩
    · rcases ih inside with ⟨all, member⟩ | each
      · exact .inl ⟨all, by simp [member]⟩
      · right
        intro r among
        rcases List.mem_cons.mp among with rfl | among
        · exact ⟨follows, endpoints, idle, by simp [member]⟩
        · obtain ⟨follows, endpoints, idle, member⟩ := each r among
          exact ⟨follows, endpoints, idle, by simp [member]⟩

theorem singleNodes_listed {nodes : List Node} (completes : (singleNodes s).run.Completes trace (.ok nodes))
    (found : nodes ≠ []) : Listed trace := by
  unfold singleNodes at completes
  split at completes
  · refine (nodesFor_listed completes).resolve_right ?_
    rintro ⟨none, _⟩
    exact found none
  · obtain ⟨short, inside, rfl⟩ := survey_succeeds.mp completes
    obtain rfl := Inventory.allNodes_succeeds.mp inside
    exact ⟨nodes, List.mem_singleton.mpr rfl⟩

theorem singleTargets_listed {targets : List Target}
    (completes : (singleTargets s).run.Completes trace (.ok targets)) : Listed trace := by
  obtain ⟨first, second, resolved, nodes, rfl, _, _, listed, rfl, some⟩ := singleTargets_succeeds.mp completes
  have found : nodes ≠ [] := by
    rintro rfl
    exact some rfl
  obtain ⟨all, member⟩ := singleNodes_listed listed found
  exact ⟨all, List.mem_append_right _ member⟩

/-- A registration that succeeds has listed the nodes, unless there was no node to look for: all
references follow endpoints without a ready address. -/
theorem register_listed {reports : List Report}
    (completes : (register s kind).run.Completes trace (.ok reports)) :
    Listed trace ∨ s.usesServiceList = true ∧ ∀ r ∈ s.services, ReadIdle r trace := by
  unfold register at completes
  split at completes
  next uses =>
    rcases registerAll_listed completes with listed | idle
    · exact .inl listed
    · exact .inr ⟨uses, idle⟩
  next =>
    obtain ⟨first, second, report, rfl, registered, ending⟩ := succeeds_bind.mp completes
    obtain ⟨rfl, _⟩ := completes_done.mp ending
    rw [registerSingle_eq] at registered
    obtain ⟨readings, pushing, targets, rfl, reading, pushed⟩ := succeeds_bind.mp registered
    obtain ⟨all, member⟩ := singleTargets_listed reading
    exact .inl ⟨all, by simp [member]⟩

end Listings

end Registration

end BackendRegistrar
