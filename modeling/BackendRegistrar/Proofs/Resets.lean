import BackendRegistrar.Proofs.Measurements
import BackendRegistrar.Proofs.Operator
import Mathlib.Data.List.Nodup

/-! What resets do to what is stored. A registrar is reset exactly if it was seen registering or ready and is still
stored as it was seen; that depends on no other registrar, so the order does not matter, and what was reset once is not
stored any more as it was seen. -/

namespace BackendRegistrar
open Program

namespace Environment.Op

def published? : Op → Option (String × Event)
  | publish registrar event => some (registrar, event)
  | _ => none

def observes : Op → Bool
  | observe _ => true
  | _ => false

end Environment.Op

theorem Health.Metrics.after_of_unobserved {m : Health.Metrics} {trace : Trace environment}
    (none : ∀ x ∈ trace, x.op.observes = false) : m.after trace = m := by
  induction trace with
  | nil => rfl
  | cons x rest ih =>
    have first : x.op.measure m = m := by
      have quiet := none x List.mem_cons_self
      cases op : x.op with
      | observe o =>
        rw [op] at quiet
        cases quiet
      | read | buildClient | cloud | writeStatus | publish | clock => rfl
    have step : m.after (x :: rest) = (x.op.measure m).after rest := rfl
    rw [step, first]
    exact ih fun y member => none y (List.mem_cons_of_mem _ member)

namespace Registrar

/-- Only the phase goes back; the generation that was observed is kept, and so is all else but the version. -/
def resetTo (r : Registrar) (version : String) : Registrar :=
  { r with
    metadata := { r.metadata with resourceVersion := some version }
    status := some ⟨.pending, r.observedGeneration⟩ }

def unversioned (r : Registrar) : Registrar := { r with metadata := { r.metadata with resourceVersion := none } }

end Registrar

namespace Trigger

/-- A change of the cluster that resets registrars. -/
inductive Cause
  | nodes
  | endpoints (ns name : String)

namespace Cause

def refresh : Cause → List Registrar → Operation Nat
  | nodes, seen => refreshToPending seen
  | endpoints ns name, seen => refreshForEndpoints seen ns name

def concerns : Cause → Registrar → Bool
  | nodes, _ => true
  | endpoints ns name, r => r.spec.filtersOnEndpointsOf ns name

def occurrence : Cause → Occurrence
  | nodes => .nodeTopologyChanged
  | endpoints _ _ => .endpointsChanged

def label : Cause → String
  | nodes => "node"
  | endpoints _ _ => "endpoints"

def event : Cause → Event
  | nodes => ⟨.normal, "PhaseChange", "Reset", some "PENDING"⟩
  | endpoints ns name =>
    ⟨.normal, "EndpointsChanged", "Reset",
      some ("Service " ++ ns ++ "/" ++ name ++ " endpoints changed, triggering reconciliation")⟩

end Cause

/-- What is stored under each name. -/
abbrev Shelf := String → Option Registrar

/-- A write that names a version other than the stored one is out of date. -/
def Outdated (update : PhaseUpdate) (r : Registrar) : Prop :=
  update.resourceVersion.isSome ∧ update.resourceVersion ≠ r.metadata.resourceVersion

instance (update : PhaseUpdate) (r : Registrar) : Decidable (Outdated update r) := inferInstanceAs (Decidable (_ ∧ _))

/-- What an exchange does to what is stored. The writes of some names are refused whatever they say; all others land,
with another version than before, unless there is nothing to write to or they are out of date. -/
inductive Stores (refused : String → Bool) : Shelf → Exchange environment → Shelf → Prop
  | landed {s : Shelf} {name : String} {update : PhaseUpdate} {r : Registrar} {version : String}
      (accepted : refused name = false) (stored : s name = some r) (current : ¬ Outdated update r)
      (fresh : r.metadata.resourceVersion ≠ some version) :
      Stores refused s ⟨.writeStatus name update, .ok ()⟩ (Function.update s name (some (r.written update version)))
  | failed {s : Shelf} {name : String} {update : PhaseUpdate} (f : Cluster.Failure)
      (cause : refused name = true ∨ ∀ r, s name = some r → Outdated update r) :
      Stores refused s ⟨.writeStatus name update, .error f⟩ s
  | apart {s : Shelf} {x : Exchange environment} (other : x.op.writes = false) : Stores refused s x s

/-- The registrar was seen in a phase to reset and as it is stored, and its writes are not refused. -/
def due (refused : String → Bool) (s : Shelf) (r : Registrar) : Bool :=
  r.phase.needsReset && !refused r.name &&
    (s r.name).any fun stored => stored.metadata.resourceVersion = r.metadata.resourceVersion

variable {refused : String → Bool} {s t : Shelf} {r : Registrar} {o : Occurrence} {event : Event}
variable {trace : Trace environment}

theorem due_iff : due refused s r = true ↔ r.phase.needsReset = true ∧ refused r.name = false ∧
    ∃ stored, s r.name = some stored ∧ stored.metadata.resourceVersion = r.metadata.resourceVersion := by
  simp [due, Option.any_eq_true, and_assoc]

theorem due_congr (same : s r.name = t r.name) : due refused s r = due refused t r := by
  rw [due, due, same]

/-- What becomes of one registrar: it is reset if it is due. All others are kept. -/
inductive Fate (refused : String → Bool) (s : Shelf) (r : Registrar) : Bool → Shelf → Prop
  | reset {stored : Registrar} {version : String} (is : due refused s r = true) (found : s r.name = some stored)
      (fresh : stored.metadata.resourceVersion ≠ some version) :
      Fate refused s r true (Function.update s r.name (some (stored.resetTo version)))
  | left (isNot : due refused s r = false) : Fate refused s r false s

theorem Fate.due {reset : Bool} (fate : Fate refused s r reset t) : due refused s r = reset := by
  cases fate with
  | reset is => exact is
  | left isNot => exact isNot

theorem Fate.elsewhere {reset : Bool} {name : String} (fate : Fate refused s r reset t) (other : name ≠ r.name) :
    t name = s name := by
  cases fate with
  | reset => exact Function.update_of_ne other _ _
  | left => rfl

/-- A write in the version that was seen lands exactly if that is the stored version. -/
theorem Stores.fate {answer : Except Cluster.Failure Unit} (versioned : r.metadata.resourceVersion.isSome)
    (seen : r.phase.needsReset = true)
    (stores : Stores refused s ⟨.writeStatus r.name (.reset .pending r), answer⟩ t) :
    Fate refused s r answer.isOk t := by
  cases stores with
  | @landed _ _ stored version accepted found current fresh =>
    have same : stored.metadata.resourceVersion = r.metadata.resourceVersion := by
      by_contra differs
      exact current ⟨versioned, Ne.symm differs⟩
    exact .reset (due_iff.mpr ⟨seen, accepted, stored, found, same⟩) found fresh
  | failed f cause =>
    refine .left ?_
    rw [← Bool.not_eq_true, due_iff]
    rintro ⟨_, accepted, stored, found, same⟩
    rcases cause with refusal | outdated
    · rw [accepted] at refusal
      cases refusal
    · exact (outdated stored found).2 same.symm
  | apart other => cases other

theorem resetOne_fate {reset : Bool} (change : o = .nodeTopologyChanged ∨ o = .endpointsChanged)
    (versioned : r.metadata.resourceVersion.isSome) (completes : (resetOne r o).Completes trace reset)
    (carries : Carries (Stores refused) s trace t) : Fate refused s r reset t := by
  unfold resetOne at completes
  split at completes
  next seen =>
    obtain ⟨_, _, answer, rfl, written, later⟩ := completes_bind.mp completes
    obtain rfl := completes_perform.mp written
    obtain ⟨rfl, rfl⟩ := completes_done.mp later
    rw [next_of_needsReset seen change] at carries
    exact (carries_single.mp carries).fate versioned seen
  next unseen =>
    obtain ⟨rfl, rfl⟩ := completes_done.mp completes
    obtain rfl := carries_nil.mp carries
    exact .left (by simp [due, unseen])

theorem resetOne_publishes_none : Gathers Environment.Op.published? [] (resetOne r o) := by
  unfold resetOne
  split
  · exact gathers_passed rfl fun answer => gathers_done _
  · exact gathers_done _

theorem publish_carries {is : Bool} {done : Unit}
    (completes : (if is then Operation.publish r.ownName event else .done () : Operation Unit).Completes trace done)
    (carries : Carries (Stores refused) s trace t) :
    t = s ∧ gathered Environment.Op.published? trace = if is then [(r.ownName, event)] else [] := by
  cases is with
  | false =>
    obtain ⟨rfl, _⟩ := completes_done.mp completes
    exact ⟨carries_nil.mp carries, rfl⟩
  | true =>
    obtain rfl := completes_perform.mp completes
    cases carries_single.mp carries with
    | apart other => exact ⟨rfl, rfl⟩

/-- What resets come to: which registrars are reset and all that is kept, how many are counted, and the events. -/
structure Exact (refused : String → Bool) (event : Event) (rs : List Registrar) (s : Shelf)
    (trace : Trace environment) (count : Nat) (t : Shelf) : Prop where
  reset : ∀ r ∈ rs, due refused s r = true → ∃ stored version, s r.name = some stored ∧
    stored.metadata.resourceVersion ≠ some version ∧ t r.name = some (stored.resetTo version)
  kept : ∀ name, (∀ r ∈ rs, due refused s r = true → r.name ≠ name) → t name = s name
  counted : count = (rs.filter (due refused s)).length
  published : gathered Environment.Op.published? trace = (rs.filter (due refused s)).map fun r => (r.ownName, event)

theorem Exact.nil : Exact refused event [] s [] 0 s :=
  ⟨fun _ member => absurd member List.not_mem_nil, fun _ _ => rfl, rfl, rfl⟩

/-- What becomes of the first is nothing to the others, as these are stored under other names. -/
theorem Exact.cons {first : Registrar} {rest : List Registrar} {reset : Bool} {after : Shelf} {count : Nat}
    {now later : Trace environment} (apart : ∀ r ∈ rest, r.name ≠ first.name) (fate : Fate refused s first reset after)
    (told : gathered Environment.Op.published? now = if reset then [(first.ownName, event)] else [])
    (follows : Exact refused event rest after later count t) :
    Exact refused event (first :: rest) s (now ++ later) (if reset then count + 1 else count) t := by
  have elsewhere (r : Registrar) (member : r ∈ rest) : after r.name = s r.name := fate.elsewhere (apart r member)
  have dues : rest.filter (due refused after) = rest.filter (due refused s) :=
    List.filter_congr fun r member => due_congr (elsewhere r member)
  refine ⟨?_, ?_, ?_, ?_⟩
  · intro r member is
    rcases List.mem_cons.mp member with rfl | member
    · cases fate with
      | reset _ found fresh =>
        have own := follows.kept r.name fun other member _ => apart other member
        exact ⟨_, _, found, fresh, by rw [own, Function.update_self]⟩
      | left isNot =>
        rw [isNot] at is
        cases is
    · rw [← due_congr (elsewhere r member)] at is
      rw [← elsewhere r member]
      exact follows.reset r member is
  · intro name none
    have unchanged : after name = s name := by
      cases fate with
      | reset is => exact Function.update_of_ne (none first List.mem_cons_self is).symm _ _
      | left => rfl
    rw [← unchanged]
    apply follows.kept
    intro r member is
    rw [due_congr (elsewhere r member)] at is
    exact none r (List.mem_cons_of_mem _ member) is
  · rw [follows.counted, dues, List.filter_cons, fate.due]
    cases reset <;> rfl
  · rw [gathered_append, told, follows.published, dues, List.filter_cons, fate.due]
    cases reset <;> rfl

theorem resetAll_exact {rs : List Registrar} {count : Nat} (change : o = .nodeTopologyChanged ∨ o = .endpointsChanged)
    (distinct : (rs.map Registrar.name).Nodup) (versioned : ∀ r ∈ rs, r.metadata.resourceVersion.isSome)
    (completes : (resetAll o event rs).Completes trace count) (carries : Carries (Stores refused) s trace t) :
    Exact refused event rs s trace count t := by
  induction rs generalizing s trace count with
  | nil =>
    obtain ⟨rfl, rfl⟩ := completes_done.mp completes
    obtain rfl := carries_nil.mp carries
    exact .nil
  | cons first rest ih =>
    obtain ⟨apart, distinct⟩ := List.nodup_cons.mp distinct
    obtain ⟨now, _, reset, rfl, one, later⟩ := completes_bind.mp completes
    obtain ⟨told, _, _, rfl, tells, later⟩ := completes_bind.mp later
    obtain ⟨others, last, remaining, rfl, all, done⟩ := completes_bind.mp later
    obtain ⟨rfl, rfl⟩ := completes_done.mp done
    obtain ⟨_, beginning, later⟩ := carries_append.mp carries
    obtain ⟨after, middle, ending⟩ := carries_append.mp later
    obtain ⟨rfl, tale⟩ := publish_carries tells middle
    rw [List.append_nil] at ending ⊢
    rw [← List.append_assoc]
    apply Exact.cons
    · exact fun r member same => apart (List.mem_map.mpr ⟨r, member, same⟩)
    · exact resetOne_fate change (versioned first List.mem_cons_self) one beginning
    · rw [gathered_append, resetOne_publishes_none now _ one, tale, List.nil_append]
    · exact ih distinct (fun r member => versioned r (List.mem_cons_of_mem _ member)) all ending

section Laws

variable {others : String → Bool} {rs order : List Registrar} {later : Trace environment} {count more : Nat}
variable {u : Shelf} {name : String}

theorem eq_of_name {r other : Registrar} (distinct : (rs.map Registrar.name).Nodup) (member : r ∈ rs)
    (also : other ∈ rs) (same : r.name = other.name) : r = other :=
  List.inj_on_of_nodup_map distinct member also same

/-- What is stored under a name, but for its version, depends only on whether writes of that name are refused. -/
theorem Exact.agrees (exact : Exact refused event rs s trace count t)
    (other : Exact others event order s later more u) (permuted : rs.Perm order) (alike : refused name = others name) :
    (t name).map Registrar.unversioned = (u name).map Registrar.unversioned := by
  have same {r : Registrar} (named : r.name = name) : due refused s r = due others s r := by
    rw [due, due, named, alike]
  by_cases concerned : ∃ r ∈ rs, due refused s r = true ∧ r.name = name
  · obtain ⟨r, member, is, rfl⟩ := concerned
    obtain ⟨stored, _, found, _, first⟩ := exact.reset r member is
    obtain ⟨twin, _, found', _, second⟩ := other.reset r (permuted.mem_iff.mp member) (same rfl ▸ is)
    cases found.symm.trans found'
    rw [first, second]
    rfl
  · rw [exact.kept name fun r member is named => concerned ⟨r, member, is, named⟩,
      other.kept name fun r member is named =>
        concerned ⟨r, permuted.mem_iff.mpr member, (same named).trans is, named⟩]

theorem Exact.perm (exact : Exact refused event rs s trace count t) (other : Exact refused event order s later more u)
    (permuted : rs.Perm order) :
    more = count ∧ (gathered Environment.Op.published? later).Perm (gathered Environment.Op.published? trace) := by
  have resets : (order.filter (due refused s)).Perm (rs.filter (due refused s)) := permuted.symm.filter _
  constructor
  · rw [exact.counted, other.counted, resets.length_eq]
  · rw [exact.published, other.published]
    exact resets.map _

/-- What was reset is not stored any more as it was seen, so only what was refused can be reset by seeing it again. -/
theorem Exact.due_again (exact : Exact refused event rs s trace count t) (distinct : (rs.map Registrar.name).Nodup)
    (member : r ∈ rs) : due others t r = (due others s r && refused r.name) := by
  cases is : due refused s r with
  | true =>
    obtain ⟨_, accepted, found, stored, same⟩ := due_iff.mp is
    obtain ⟨now, version, present, fresh, changed⟩ := exact.reset r member is
    cases stored.symm.trans present
    rw [accepted, Bool.and_false, ← Bool.not_eq_true, due_iff]
    rintro ⟨_, _, current, held, seen⟩
    cases held.symm.trans changed
    exact fresh (same.trans seen.symm)
  | false =>
    have kept : t r.name = s r.name := by
      apply exact.kept
      rintro other also resets named
      obtain rfl := eq_of_name distinct also member named
      rw [is] at resets
      cases resets
    rw [due_congr kept]
    cases refusal : refused r.name with
    | true => rw [Bool.and_true]
    | false =>
      rw [Bool.and_false, ← Bool.not_eq_true, due_iff]
      rintro ⟨needed, _, found⟩
      rw [← Bool.not_eq_true, due_iff] at is
      exact is ⟨needed, refusal, found⟩

theorem Exact.repeated (exact : Exact refused event rs s trace count t) (distinct : (rs.map Registrar.name).Nodup)
    (other : Exact others event rs t later more u) (refusals : ∀ name, refused name = true → others name = true) :
    more = 0 ∧ u = t ∧ gathered Environment.Op.published? later = [] := by
  have none (r : Registrar) (member : r ∈ rs) : ¬ due others t r = true := by
    rw [exact.due_again distinct member, Bool.and_eq_true, due_iff]
    rintro ⟨⟨_, accepted, _⟩, refusal⟩
    rw [refusals r.name refusal] at accepted
    cases accepted
  have nothing : rs.filter (due others t) = [] := List.filter_eq_nil_iff.mpr none
  refine ⟨by rw [other.counted, nothing]; rfl, ?_, by rw [other.published, nothing]; rfl⟩
  funext name
  exact other.kept name fun r member is => absurd is (none r member)

end Laws

namespace Cause

variable {c : Cause} {seen : List Registrar}

theorem refresh_eq (c : Cause) (seen : List Registrar) :
    c.refresh seen = resetCounted c.label c.occurrence c.event (seen.filter c.concerns) := by
  cases c with
  | nodes =>
    have all : seen.filter nodes.concerns = seen := List.filter_eq_self.mpr fun _ _ => rfl
    rw [all]
    rfl
  | endpoints ns name => rfl

theorem occurrence_changes (c : Cause) : c.occurrence = .nodeTopologyChanged ∨ c.occurrence = .endpointsChanged := by
  cases c with
  | nodes => exact .inl rfl
  | endpoints => exact .inr rfl

/-- A refresh that is done, and what became of the store. -/
structure Ran (c : Cause) (refused : String → Bool) (seen : List Registrar) (s : Shelf) (trace : Trace environment)
    (count : Nat) (t : Shelf) : Prop where
  completes : (c.refresh seen).Completes trace count
  carries : Carries (Stores refused) s trace t

theorem Ran.exact {count : Nat} (ran : Ran c refused seen s trace count t) (distinct : (seen.map Registrar.name).Nodup)
    (versioned : ∀ r ∈ seen, r.metadata.resourceVersion.isSome) :
    Exact refused c.event (seen.filter c.concerns) s trace count t ∧
      ∀ m : Health.Metrics, m.after trace =
        { m with resets := m.resets.update [("trigger", c.label)] 0 (· + UInt64.ofNat count) } := by
  obtain ⟨completes, carries⟩ := ran
  rw [refresh_eq, resetCounted] at completes
  obtain ⟨all, last, _, rfl, done, later⟩ := completes_bind.mp completes
  obtain ⟨observed, _, _, rfl, observes, ends⟩ := completes_bind.mp later
  obtain rfl := completes_perform.mp observes
  obtain ⟨rfl, rfl⟩ := completes_done.mp ends
  obtain ⟨after, before, ending⟩ := carries_append.mp carries
  have unchanged : t = after := by
    cases carries_single.mp ending with
    | apart other => rfl
  have resets := resetAll_exact c.occurrence_changes (distinct.sublist (List.filter_sublist.map _))
    (fun r member => versioned r (List.mem_of_mem_filter member)) done before
  constructor
  · rw [unchanged]
    refine ⟨resets.reset, resets.kept, resets.counted, ?_⟩
    rw [gathered_append, resets.published]
    exact List.append_nil _
  · intro m
    have unobserved : ∀ x ∈ all, x.op.observes = false :=
      (resetAll_times (fun _ _ => rfl) (fun _ => rfl) _).none done
    rw [Health.Metrics.after, List.foldl_append]
    change Health.Metrics.after (m.after all) [_] = _
    rw [Health.Metrics.after_of_unobserved unobserved]
    rfl

end Cause

section Serving

/-- Every version is longer than the one before. -/
def write (refused : String → Bool) (name : String) (update : PhaseUpdate) (s : Shelf) :
    Except Cluster.Failure Unit × Shelf :=
  match s name with
  | none => (.error (.refused 404 "NotFound" name), s)
  | some r =>
    if refused name = true ∨ Outdated update r then (.error (.refused 409 "Conflict" name), s)
    else (.ok (), Function.update s name (some (r.written update (r.metadata.resourceVersion.getD "" ++ "+"))))

/-- Writes what can be written, and obliges in all else. -/
def serve (refused : String → Bool) : (op : Environment.Op) → Shelf → op.Answer × Shelf
  | .writeStatus name update, s => write refused name update s
  | .read asked, s => (Operator.obliging (.read asked), s)
  | .buildClient, s => (Operator.obliging .buildClient, s)
  | .cloud connection op, s => (Operator.obliging (.cloud connection op), s)
  | .publish _ _, s => ((), s)
  | .observe _, s => ((), s)
  | .clock, s => ((0 : Nat), s)

theorem write_stores (refused : String → Bool) (name : String) (update : PhaseUpdate) (s : Shelf) :
    Stores refused s ⟨.writeStatus name update, (write refused name update s).1⟩ (write refused name update s).2 := by
  unfold write
  cases stored : s name with
  | none =>
    refine .failed _ (.inr fun r found => ?_)
    rw [stored] at found
    cases found
  | some r =>
    dsimp only
    split
    next cause =>
      refine .failed _ (cause.imp_right fun outdated other found => ?_)
      cases stored.symm.trans found
      exact outdated
    next lands =>
      rw [not_or] at lands
      refine .landed (Bool.not_eq_true _ ▸ lands.1) stored lands.2 ?_
      cases r.metadata.resourceVersion with
      | none => simp
      | some version =>
        intro same
        have longer := congrArg String.length (Option.some.inj same)
        simp at longer

theorem serve_stores (refused : String → Bool) (op : Environment.Op) (s : Shelf) :
    Stores refused s ⟨op, (serve refused op s).1⟩ (serve refused op s).2 := by
  cases op with
  | writeStatus name update => exact write_stores refused name update s
  | read | buildClient | cloud | publish | observe | clock => exact .apart rfl

theorem Cause.exists_ran (c : Cause) (refused : String → Bool) (seen : List Registrar) (s : Shelf) :
    ∃ trace count t, c.Ran refused seen s trace count t := by
  obtain ⟨trace, completes, carries⟩ := run_carries (serve refused) (c.refresh seen) s
  refine ⟨trace, _, _, completes, carries.mono ?_⟩
  rintro before ⟨op, answer⟩ after served
  have stores := serve_stores refused op before
  rw [served] at stores
  exact stores

end Serving

/-- However the writes of a refresh fare, it is done, and exactly the registrars that are due have become pending, with
all else of them kept; they are counted, and told of in order. This depends neither on the order in which they are taken
nor, for one of them, on how the writes of the others fare. What was reset once is not reset again on the same sight. -/
theorem refresh_exact (c : Cause) (seen : List Registrar) (distinct : (seen.map Registrar.name).Nodup)
    (versioned : ∀ r ∈ seen, r.metadata.resourceVersion.isSome) :
    (∀ (s : Shelf) (refused : String → Bool), ∃ trace count t, c.Ran refused seen s trace count t) ∧
    (∀ (s t : Shelf) (refused : String → Bool) (trace : Trace environment) (count : Nat),
      c.Ran refused seen s trace count t →
        Exact refused c.event (seen.filter c.concerns) s trace count t ∧
        ∀ m : Health.Metrics, m.after trace =
          { m with resets := m.resets.update [("trigger", c.label)] 0 (· + UInt64.ofNat count) }) ∧
    (∀ (s t u : Shelf) (refused others : String → Bool) (order : List Registrar) (trace later : Trace environment)
        (count more : Nat), seen.Perm order →
      c.Ran refused seen s trace count t → c.Ran others order s later more u →
        (∀ name, refused name = others name →
          (t name).map Registrar.unversioned = (u name).map Registrar.unversioned) ∧
        (refused = others → more = count ∧
          (gathered Environment.Op.published? later).Perm (gathered Environment.Op.published? trace))) ∧
    ∀ (s t u : Shelf) (refused others : String → Bool) (trace later : Trace environment) (count more : Nat),
      c.Ran refused seen s trace count t → c.Ran others seen t later more u →
        (∀ r ∈ seen, c.concerns r = true → due others t r = (due others s r && refused r.name)) ∧
        ((∀ name, refused name = true → others name = true) →
          more = 0 ∧ u = t ∧ gathered Environment.Op.published? later = []) := by
  have among : ((seen.filter c.concerns).map Registrar.name).Nodup := distinct.sublist (List.filter_sublist.map _)
  refine ⟨fun s refused => c.exists_ran refused seen s, ?_, ?_, ?_⟩
  · intro s t refused trace count ran
    exact ran.exact distinct versioned
  · intro s t u refused others order trace later count more permuted ran reran
    have concerned := permuted.filter c.concerns
    obtain ⟨one, _⟩ := ran.exact distinct versioned
    obtain ⟨other, _⟩ := reran.exact ((permuted.map _).nodup_iff.mp distinct) fun r member =>
      versioned r (permuted.mem_iff.mpr member)
    refine ⟨fun name alike => one.agrees other concerned alike, ?_⟩
    rintro rfl
    exact one.perm other concerned
  · intro s t u refused others trace later count more ran reran
    obtain ⟨first, _⟩ := ran.exact distinct versioned
    obtain ⟨second, _⟩ := reran.exact distinct versioned
    refine ⟨fun r member concerns => ?_, first.repeated among second⟩
    exact first.due_again among (List.mem_filter.mpr ⟨member, concerns⟩)

section Sighted

/-! Five registrars as they were seen: one is as it was, one has moved on, one is gone, the writes of one are refused,
and one is pending already. -/

def sighted (name version : String) (phase : Phase) : Registrar :=
  ⟨{ Cluster.Metadata.empty with name := some name, resourceVersion := some version }, Operator.trialSpec,
    some ⟨phase, some 1⟩⟩

def sightings : List Registrar :=
  [sighted "as-it-was" "1" .ready, sighted "moved-on" "1" .registering, sighted "gone" "1" .ready,
    sighted "refused" "1" .ready, sighted "pending" "1" .pending]

def sightedShelf : Shelf
  | "as-it-was" => some (sighted "as-it-was" "1" .ready)
  | "moved-on" => some (sighted "moved-on" "2" .ready)
  | "refused" => some (sighted "refused" "1" .ready)
  | "pending" => some (sighted "pending" "1" .pending)
  | _ => none

theorem sightings_refresh_exact :
    (sightings.map Registrar.name).Nodup ∧
    (∀ r ∈ sightings, r.metadata.resourceVersion.isSome) ∧
    ∃ trace count t later more u,
      Cause.nodes.Ran (· == "refused") sightings sightedShelf trace count t ∧
      count = 1 ∧
      (∃ version, t "as-it-was" = some ((sighted "as-it-was" "1" .ready).resetTo version)) ∧
      gathered Environment.Op.published? trace = [("as-it-was", Cause.nodes.event)] ∧
      Cause.nodes.Ran (· == "refused") sightings t later more u ∧
      more = 0 ∧ u = t := by
  have distinct : (sightings.map Registrar.name).Nodup := by decide
  have versioned : ∀ r ∈ sightings, r.metadata.resourceVersion.isSome := by decide
  obtain ⟨runs, exactly, _, repeated⟩ := refresh_exact .nodes sightings distinct versioned
  obtain ⟨trace, count, t, ran⟩ := runs sightedShelf (· == "refused")
  obtain ⟨later, more, u, reran⟩ := runs t (· == "refused")
  obtain ⟨resets, _⟩ := exactly _ _ _ _ _ ran
  obtain ⟨_, none⟩ := repeated _ _ _ _ _ _ _ _ _ ran reran
  obtain ⟨nothing, same, _⟩ := none fun _ refusal => refusal
  have dues : (sightings.filter Cause.nodes.concerns).filter (due (· == "refused") sightedShelf) =
      [sighted "as-it-was" "1" .ready] := by decide
  obtain ⟨stored, version, found, _, changed⟩ := resets.reset (sighted "as-it-was" "1" .ready) (by decide) (by decide)
  cases found
  refine ⟨distinct, versioned, trace, count, t, later, more, u, ran, ?_, ⟨version, changed⟩, ?_, reran, nothing, same⟩
  · rw [resets.counted, dues]
    rfl
  · rw [resets.published, dues]
    rfl

end Sighted

end Trigger

end BackendRegistrar
