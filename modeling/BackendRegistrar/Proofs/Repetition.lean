import BackendRegistrar.Proofs.Effects
import BackendRegistrar.Proofs.Signing

/-! Registering a list once and again. A registration pushes for the references in order, up to the
first that fails, and touches no other set; and one that repeats a success over the same cluster
pushes the same and changes nothing. -/

namespace BackendRegistrar.Registration
open Program
open Cloud (Balancer)
open Environment (Serves)

variable {r : Registrar}

/-- A registration that went over one cluster, and what became of a load balancer by it. -/
structure Ran (config : Config) (r : Registrar) (connection : Connection) (content : Content) (b : Balancer)
    (trace : Trace environment) (result : Except Error (List Report)) (t : Balancer) : Prop where
  completes : (registerAt config r connection).run.Completes trace result
  reflects : Environment.Reflects content trace
  carries : Carries (Serves r.spec.loadBalancerId) b trace t

/-- Of a list of references a registration has registered all up to one that failed: it has asked for
these and for the failing one alone, in order, has pushed with success what the former aim at, and has
left all other sets as they were. A success that follows a success over the same cluster asks for the
same, tells the same and leaves all sets as they are. -/
theorem registerAt_repeated (listed : r.spec.services ≠ []) (config : Config) (connection : Connection)
    (content : Content) :
    (∀ (b t : Balancer) (trace : Trace environment) (result : Except Error (List Report)),
      Ran config r connection content b trace result t →
      ∃ short done rest last, Spelled (inEnvironment config r.spec.loadBalancerId connection) short trace ∧
        Progress content r.spec connection.kind r.spec.services short result done rest last ∧
        pushed short = done.map (pushOf content r.spec connection.kind) ∧
        ∀ name, (∀ ref ∈ done ++ rest.take 1, r.spec.backendSetFor ref ≠ name) → t name = b name) ∧
    ∀ (b t u : Balancer) (first second : Trace environment) (reports again : List Report),
      Ran config r connection content b first (.ok reports) t →
      Ran config r connection content t second (.ok again) u →
      ∃ short, Spelled (inEnvironment config r.spec.loadBalancerId connection) short first ∧
        Spelled (inEnvironment config r.spec.loadBalancerId connection) short second ∧
        pushed short = r.spec.services.map (pushOf content r.spec connection.kind) ∧ again = reports ∧ u = t := by
  constructor
  · intro b t trace result ran
    obtain ⟨short, done, rest, last, spelled, progress⟩ := registerAt_progress listed ran.completes ran.reflects
    have does := does_of_spelled spelled ran.carries
    exact ⟨short, done, rest, last, spelled, progress, progress.pushed, fun name other => progress.elsewhere does other⟩
  · intro b t u first second reports again ran reran
    obtain ⟨short, done, rest, last, spelled, progress⟩ := registerAt_progress listed ran.completes ran.reflects
    obtain ⟨same, _, _, _, respelled, following⟩ := registerAt_progress listed reran.completes reran.reflects
    obtain ⟨rfl, rfl, _⟩ := progress.all
    obtain ⟨rfl, rfl, _⟩ := following.all
    obtain ⟨rfl, _⟩ := all_registered_give (does_of_spelled spelled ran.carries)
    obtain ⟨rfl, _⟩ := all_registered_give (does_of_spelled respelled reran.carries)
    have pushes := following.pushed
    rcases following.ends with ⟨rfl, _, _⟩ | ⟨_, _, _, _, impossible, _⟩
    · have whole := following.whole
      rw [List.append_nil] at whole
      rw [← whole] at pushes
      exact ⟨_, spelled, respelled, pushes, rfl, Balancer.giveAll_again _ _⟩
    · cases impossible

section Shop

/-! The two sets of the shop are pushed to twice, or once when the second of them is refused. -/

def apartShop : Registrar := shopRegistrar (some "tls")

def shopConnection : Connection := ⟨.classic, "r", ⟨"t/u/f", Cloud.Signer.plainKey⟩⟩

def shopRun (refused : String → Bool) (b : Balancer) : Except Error (List Report) × Balancer :=
  (registerAt .standard apartShop shopConnection).run.run
    (Environment.serve shopCluster apartShop.spec.loadBalancerId refused) b

private theorem shop_ran {refused : String → Bool} {b t : Balancer} {result : Except Error (List Report)}
    (run : shopRun refused b = (result, t)) :
    ∃ trace, Ran .standard apartShop shopConnection shopCluster b trace result t := by
  obtain ⟨trace, completes, reflects, carries⟩ := Environment.serve_run run
  exact ⟨trace, completes, reflects, carries⟩

theorem shop_repeated :
    apartShop.spec.services ≠ [] ∧
      (∃ trace e t, Ran .standard apartShop shopConnection shopCluster shopSets trace (.error e) t ∧
        ∃ short done rest last,
          Spelled (inEnvironment .standard apartShop.spec.loadBalancerId shopConnection) short trace ∧
          Progress shopCluster apartShop.spec .classic apartShop.spec.services short (.error e) done rest last ∧
          pushed short = done.map (pushOf shopCluster apartShop.spec .classic) ∧
          ∀ name, (∀ ref ∈ done ++ rest.take 1, apartShop.spec.backendSetFor ref ≠ name) → t name = shopSets name) ∧
      ∃ first second reports again t u,
        Ran .standard apartShop shopConnection shopCluster shopSets first (.ok reports) t ∧
        Ran .standard apartShop shopConnection shopCluster t second (.ok again) u ∧
        ∃ short, Spelled (inEnvironment .standard apartShop.spec.loadBalancerId shopConnection) short first ∧
          Spelled (inEnvironment .standard apartShop.spec.loadBalancerId shopConnection) short second ∧
          pushed short = apartShop.spec.services.map (pushOf shopCluster apartShop.spec .classic) ∧
          again = reports ∧ u = t := by
  have listed : apartShop.spec.services ≠ [] := List.cons_ne_nil _ _
  have refused : (shopRun (· == "tls") shopSets).1 = .error (.cloud (.request "no update of this set")) := rfl
  have once : (shopRun (fun _ => false) shopSets).1 = .ok [⟨"bs", 1⟩, ⟨"tls", 1⟩] := rfl
  have twice : (shopRun (fun _ => false) (shopRun (fun _ => false) shopSets).2).1 = .ok [⟨"bs", 1⟩, ⟨"tls", 1⟩] := rfl
  obtain ⟨trace, stopped⟩ := shop_ran (Prod.ext refused rfl)
  obtain ⟨first, ran⟩ := shop_ran (Prod.ext once rfl)
  obtain ⟨second, reran⟩ := shop_ran (Prod.ext twice rfl)
  exact ⟨listed, ⟨trace, _, _, stopped, (registerAt_repeated listed _ _ _).1 _ _ _ _ stopped⟩,
    first, second, _, _, _, _, ran, reran, (registerAt_repeated listed _ _ _).2 _ _ _ _ _ _ _ ran reran⟩

end Shop

end BackendRegistrar.Registration
