import BackendRegistrar.Proofs.Balancer
import BackendRegistrar.Proofs.Operator
import BackendRegistrar.Proofs.Pass
import BackendRegistrar.Proofs.References

/-! What a registration does to a load balancer. Each reference that is registered gives its set what
the reference aims at, and no other set is touched. -/

namespace BackendRegistrar
open Program
open Cloud (Balancer Pushed)

variable {config : Config} {id : String} {connection : Connection} {b t : Balancer} {trace : Trace environment}

namespace Environment

def Op.asksCloud : Op → Bool
  | cloud _ _ => true
  | _ => false

/-- What an exchange with the surroundings does to a load balancer: only its service changes it. -/
inductive Serves (id : String) : Balancer → Exchange environment → Balancer → Prop
  | cloud {b t : Balancer} {connection : Connection} {op : Cloud.Op} {answer : op.Answer}
      (served : Cloud.Serves connection.kind id b ⟨op, answer⟩ t) : Serves id b ⟨.cloud connection op, answer⟩ t
  | other (b : Balancer) {x : Exchange environment} (apart : x.op.asksCloud = false) : Serves id b x b

theorem Serves.served {op : Cloud.Op} {answer : op.Answer} (serves : Serves id b ⟨.cloud connection op, answer⟩ t) :
    Cloud.Serves connection.kind id b ⟨op, answer⟩ t := by
  cases serves with
  | cloud served => exact served
  | other apart => cases apart

theorem Serves.apart {x : Exchange environment} (serves : Serves id b x t) (apart : x.op.asksCloud = false) :
    t = b := by
  cases serves with
  | cloud served => cases apart
  | other => rfl

/-- Without a request to a service nothing changes. -/
theorem unchanged (carries : Carries (Serves id) b trace t) (apart : ∀ x ∈ trace, x.op.asksCloud = false) : t = b := by
  induction carries with
  | nil => rfl
  | cons one later ih =>
    obtain rfl := one.apart (apart _ List.mem_cons_self)
    exact ih fun x member => apart x (List.mem_cons_of_mem _ member)

end Environment

open Environment (Serves)

/-- All that was read is the content of one cluster. -/
def Environment.Reflects (content : Registration.Content) (trace : Trace environment) : Prop :=
  ∀ x ∈ trace, ∀ r answer, x = ⟨.read r, answer⟩ → answer = content r

theorem Environment.Reflects.append {content : Registration.Content} {first second : Trace environment}
    (reflects : Reflects content (first ++ second)) : Reflects content first ∧ Reflects content second :=
  ⟨fun x member => reflects x (List.mem_append_left _ member),
    fun x member => reflects x (List.mem_append_right _ member)⟩

section Serving

variable {content : Registration.Content} {refused : String → Bool}

/-- What answers all questions from one cluster and one load balancer. It refuses the updates of some sets,
and does what else it is asked. -/
def Environment.serve (content : Registration.Content) (id : String) (refused : String → Bool) :
    (op : Environment.Op) → Balancer → op.Answer × Balancer
  | .read r, b => (content r, b)
  | .buildClient, b => (.ok (), b)
  | .cloud connection (.request r), b => Cloud.serve connection.kind id refused r b
  | .cloud _ (.pause _), b => (false, b)
  | .writeStatus _ _, b => (.ok (), b)
  | .publish _ _, b => ((), b)
  | .observe _, b => ((), b)
  | .clock, b => (0, b)

theorem Environment.serve_serves {op : Environment.Op} {answer : op.Answer}
    (served : serve content id refused op b = (answer, t)) : Serves id b ⟨op, answer⟩ t := by
  cases op with
  | cloud connection op =>
    cases op with
    | request r => exact .cloud (Cloud.serve_serves served)
    | pause milliseconds =>
      cases served
      exact .cloud (.paused b _ _)
  | _ =>
    cases served
    exact .other b rfl

/-- What is run over such surroundings is run over one cluster and one load balancer. -/
theorem Environment.serve_run {p : Operation α} {value : α}
    (run : p.run (serve content id refused) b = (value, t)) :
    ∃ trace, p.Completes trace value ∧ Reflects content trace ∧ Carries (Serves id) b trace t := by
  obtain ⟨trace, completes, carries⟩ := run_carries (I := environment) (serve content id refused) p b
  rw [run] at completes carries
  refine ⟨trace, completes, ?_, carries.mono serve_serves⟩
  intro x member r answer same
  subst same
  obtain ⟨before, after, read⟩ := carries.mem member
  exact (congrArg Prod.fst read).symm

end Serving

theorem Environment.Reflects.short {content : Registration.Content} {short : Trace Registration.interface}
    (reflects : Reflects content trace)
    (spelled : Spelled (Registration.inEnvironment config id connection) short trace) :
    Registration.Reflects content short := by
  intro x member r answer same
  subst same
  exact reflects _ (Pass.spelled_reads spelled member) r answer rfl

theorem Operation.asking_carries {p : Program Cloud.service α} {value : α}
    (completes : (Operation.asking connection p).Completes trace value) (carries : Carries (Serves id) b trace t) :
    ∃ short, p.Completes short value ∧ Carries (Cloud.Serves connection.kind id) b short t := by
  obtain ⟨short, inside, spelled⟩ := completes_translate.mp completes
  refine ⟨short, inside, (spelled.carries carries).mono ?_⟩
  rintro s ⟨op, answer⟩ u ⟨run, asked, served⟩
  obtain rfl := completes_perform.mp asked
  exact (carries_single.mp served).served

namespace Registration

variable {content : Content} {s : Spec} {kind : Cloud.Kind} {r : ServiceReference} {short : Trace interface}

/-- What an exchange of a registration does to a load balancer. -/
inductive Does (kind : Cloud.Kind) : Balancer → Exchange interface → Balancer → Prop
  | read (b : Balancer) (asked : Cluster.Read) (answer : Except Cluster.Failure asked.Value) :
      Does kind b ⟨.read asked, answer⟩ b
  | push {b t : Balancer} {backendSet : String} {targets : List Target} {answer : Except CloudError Unit}
      (pushed : Pushed kind backendSet targets b answer t) : Does kind b ⟨.push backendSet targets, answer⟩ t

theorem does_of_spelled (spelled : Spelled (inEnvironment config id connection) short trace)
    (carries : Carries (Serves id) b trace t) : Carries (Does connection.kind) b short t := by
  apply (spelled.carries carries).mono
  rintro s ⟨op, answer⟩ u ⟨run, asked, served⟩
  cases op with
  | read asked' =>
    obtain rfl := completes_perform.mp asked
    obtain rfl := (carries_single.mp served).apart rfl
    exact .read _ _ _
  | push backendSet targets =>
    obtain ⟨steps, course, carried⟩ := Operation.asking_carries asked served
    exact .push ((Cloud.syncBackends_completes.mp course).pushed carried)

theorem does_nothing (carries : Carries (Does kind) b short t) (reads : ∀ x ∈ short, x.op.pushes = false) : t = b := by
  induction carries with
  | nil => rfl
  | cons one later ih =>
    have reading := reads _ List.mem_cons_self
    cases one with
    | read => exact ih fun x member => reads x (List.mem_cons_of_mem _ member)
    | push pushed => cases reading

/-- The push of a reference that aims at these targets. -/
def pushOf (content : Content) (s : Spec) (kind : Cloud.Kind) (r : ServiceReference) : String × List Target :=
  (s.backendSetFor r, aimed content s kind r)

theorem registered_gives (carries : Carries (Does kind) b (registered content s kind r) t) :
    t = b.give kind (s.backendSetFor r) (aimed content s kind r) ∧
      ∃ set, b.shown? kind (s.backendSetFor r) = some set := by
  obtain ⟨middle, reading, pushing⟩ := carries_append.mp carries
  obtain rfl := does_nothing reading readings_read
  cases carries_single.mp pushing with
  | push pushed =>
    cases pushed with
    | given shown => exact ⟨rfl, _, shown⟩

theorem Stopped.elsewhere {e : Error} (stopped : Stopped content s kind r short e)
    (carries : Carries (Does kind) b short t) {name : String} (other : s.backendSetFor r ≠ name) : t name = b name := by
  cases stopped with
  | aimless failed => rw [does_nothing carries readings_read]
  | refused aimed e =>
    obtain ⟨middle, reading, pushing⟩ := carries_append.mp carries
    obtain rfl := does_nothing reading readings_read
    cases carries_single.mp pushing with
    | push pushed =>
      cases pushed with
      | given shown => exact Cloud.Balancer.give_other other.symm
      | left => rfl

/-- References that are registered give their sets what they aim at, in order. -/
theorem all_registered_give {rs : List ServiceReference}
    (carries : Carries (Does kind) b (rs.flatMap (registered content s kind)) t) :
    t = b.giveAll kind (rs.map (pushOf content s kind)) ∧
      ∀ r ∈ rs, ∃ set, b.shown? kind (s.backendSetFor r) = some set := by
  induction rs generalizing b with
  | nil => exact ⟨carries_nil.mp carries, nofun⟩
  | cons r rs ih =>
    rw [List.flatMap_cons] at carries
    obtain ⟨middle, one, others⟩ := carries_append.mp carries
    obtain ⟨rfl, shown⟩ := registered_gives one
    obtain ⟨rfl, each⟩ := ih others
    refine ⟨rfl, ?_⟩
    intro other member
    rcases List.mem_cons.mp member with rfl | member
    · exact shown
    · exact Cloud.Balancer.shown?_of_give (each other member)

/-- Only sets of references that were tried are touched. -/
theorem Progress.elsewhere {rs done rest : List ServiceReference} {last : Trace interface}
    {result : Except Error (List Report)} (progress : Progress content s kind rs short result done rest last)
    (carries : Carries (Does kind) b short t) {name : String}
    (other : ∀ r ∈ done ++ rest.take 1, s.backendSetFor r ≠ name) : t name = b name := by
  rw [progress.asked] at carries
  obtain ⟨middle, before, after⟩ := carries_append.mp carries
  obtain ⟨rfl, _⟩ := all_registered_give before
  have missing : Cloud.Balancer.lastFor name (done.map (pushOf content s kind)) = none := by
    apply Cloud.Balancer.lastFor_eq_none
    intro push member
    obtain ⟨r, among, rfl⟩ := List.mem_map.mp member
    exact other r (List.mem_append_left _ among)
  have kept : b.giveAll kind (done.map (pushOf content s kind)) name = b name := by
    rw [Cloud.Balancer.giveAll_apply, missing]
  rcases progress.ends with ⟨_, rfl, _⟩ | ⟨r, later, e, rfl, _, stopped⟩
  · rw [carries_nil.mp after, kept]
  · exact (stopped.elsewhere after (other r (by simp))).trans kept

theorem register_list (listed : s.services ≠ []) : register s kind = registerAll s kind s.services := by
  have uses : s.usesServiceList = true := by
    simpa [Spec.usesServiceList] using listed
  rw [register, if_pos uses]

/-- A registration over the surroundings goes on like one of the list. -/
theorem registerAt_progress {registrar : Registrar} {result : Except Error (List Report)}
    (listed : registrar.spec.services ≠ [])
    (completes : (registerAt config registrar connection).run.Completes trace result)
    (reflects : Environment.Reflects content trace) :
    ∃ short done rest last,
      Spelled (inEnvironment config registrar.spec.loadBalancerId connection) short trace ∧
        Progress content registrar.spec connection.kind registrar.spec.services short result done rest last := by
  obtain ⟨short, inside, spelled⟩ := completes_translate.mp completes
  rw [register_list listed] at inside
  obtain ⟨done, rest, last, progress⟩ := registerAll_completes (reflects.short spelled) inside
  exact ⟨short, done, rest, last, spelled, progress⟩

/-- A registration that succeeds has registered all of the list. -/
theorem Progress.all {rs done rest : List ServiceReference} {last : Trace interface} {reports : List Report}
    (progress : Progress content s kind rs short (.ok reports) done rest last) :
    short = rs.flatMap (registered content s kind) ∧ reports = rs.map (report content s kind) ∧
      ∀ r ∈ rs, aim content s kind r = .ok (aimed content s kind r) := by
  rcases progress.ends with ⟨rfl, rfl, same⟩ | ⟨_, _, _, _, impossible, _⟩
  · cases same
    have whole : rs = done := by simpa using progress.whole
    subst whole
    exact ⟨by simpa using progress.asked, rfl, progress.aims⟩
  · cases impossible

section Shop

/-! Two services of a cluster with one node, and a load balancer with two sets. -/

def shop : ServiceReference := ⟨"shop", "web", .number 80, false, none, none⟩

def admin (backendSet : Option String) : ServiceReference := ⟨"admin", "web", .number 80, false, none, backendSet⟩

def shopRegistrar (backendSet : Option String) : Registrar :=
  { Operator.trial (some ⟨.registering, some 1⟩) with
    spec := { Operator.trialSpec with nodePort := 0, services := [shop, admin backendSet] } }

def shopCluster : Content
  | .nodes => .ok [Operator.trialNode "a" "10.0.0.1"]
  | .pods _ => .ok []
  | .service _ name =>
    .ok ⟨named name, some "NodePort", [⟨none, 80, some (if name = "shop" then 30080 else 30443)⟩]⟩
  | .endpoints _ name => .error (.refused 404 "NotFound" name)
  | .secret _ name => .ok ⟨named name, [("k", Text.octets Operator.trialKey)]⟩

def shopSets : Balancer := fun name =>
  if name = "bs" ∨ name = "tls" then
    some (.object [("policy", .string "ROUND_ROBIN"), ("healthChecker", .object [("protocol", .string "TCP")])])
  else none

end Shop

end Registration

end BackendRegistrar
